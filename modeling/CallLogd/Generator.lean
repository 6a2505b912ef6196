/-
The generation of call logs from CELs: `generator.py`.
-/
import Mathlib.Data.Finset.Max
import Mathlib.Data.String.Basic
import CallLogd.Lib.Sequences
import CallLogd.Interpretor.Dispatch
import CallLogd.Participants

namespace CallLogd

open Sequences

/-! ### Grouping -/

/-- A group of correlated CELs under construction, with the channels and the
linkedids it has so far. -/
structure CorrelationGroup where
  uniqueids : Finset String
  linkedids : Finset String
  cels : List CEL
deriving DecidableEq

/-- Any channel of a sequence is in the group. -/
def CorrelationGroup.sharesChannel (g : CorrelationGroup) (uniqueids : Finset String) : Bool :=
  uniqueids ∩ g.uniqueids ≠ ∅

/-- A sequence is added to a group. -/
def CorrelationGroup.extend (g : CorrelationGroup) (uniqueids : Finset String) (linkedid : String)
    (cels : List CEL) : CorrelationGroup where
  uniqueids := g.uniqueids ∪ uniqueids
  linkedids := insert linkedid g.linkedids
  cels := g.cels ++ cels

/-- The channels of the CELs. -/
def uniqueidsOf (cels : List CEL) : Finset String := (cels.map (·.uniqueid)).toFinset

/-- One sequence of `_group_cels_by_shared_channels`: it is added to every group
with which it shares a channel, or else it is a new group. -/
def correlateSequence (groups : List CorrelationGroup) (sequence : String × List CEL) :
    List CorrelationGroup :=
  let uniqueids := uniqueidsOf sequence.2
  if groups.any (·.sharesChannel uniqueids) then
    groups.map fun g =>
      if g.sharesChannel uniqueids then g.extend uniqueids sequence.1 sequence.2 else g
  else groups ++ [⟨uniqueids, {sequence.1}, sequence.2⟩]

/-- The sequences of CELs by linkedid. -/
def linkedidSequences (cels : List CEL) : List (String × List CEL) :=
  groupby (·.linkedid) (sortedBy (·.linkedid) cels)

/-- The correlation groups, before their CELs are sorted. -/
def correlationGroups (cels : List CEL) : List CorrelationGroup :=
  (linkedidSequences cels).foldl correlateSequence []

/-- `_group_cels_by_shared_channels`. -/
def groupCelsBySharedChannels (cels : List CEL) : List (Finset String × List CEL) :=
  (correlationGroups cels).map fun g => (g.linkedids, sortedBy (·.eventtime) g.cels)

/-! ### The passes over an interpreted call -/

/-- The voicemails found so far in a batch, by request. -/
abbrev VoicemailCache := Dict VoicemailKey (Option Voicemail)

/-- `CallLogsCreation`. -/
structure CallLogsCreation where
  newCallLogs : List CallLog
  callLogsToDelete : Finset ℕ

/-- `CallLogsGenerator`: the state that its methods read. -/
structure CallLogsGenerator where
  externals : Externals
  confd : Confd
  serviceTenantUuid : Option String

namespace CallLogsGenerator

variable (gen : CallLogsGenerator)

/-- `_get_interpretor`: the first interpretor that accepts the CELs.  The last
one accepts any, so the `RuntimeError` is never raised. -/
def getInterpretor (cels : List CEL) : CELInterpretor :=
  (defaultInterpretors.find? (·.canInterpret cels)).getD .dispatch

/-- The channels to remove among those of one line: all but the last answered
one, or but the last one. -/
def duplicateChannels (call : RawCallLog) (lineChannelNames : List String) : List String :=
  let answered := lineChannelNames.filter fun name =>
    ((call.rawParticipants.get? name).bind (·.answered)) = some true
  let kept := answered.getLast?.or lineChannelNames.getLast?
  lineChannelNames.filter fun name => kept ≠ some name

/-- `_remove_duplicate_participants`. -/
def removeDuplicateParticipants (call : RawCallLog) : Except PyError RawCallLog := do
  let channelNames := sortedBy id (call.rawParticipants.map (·.1))
  let lines ← channelNames.mapM fun name => do
    return (← gen.externals.protocolInterfaceFromChannel name, name)
  let removed := (groupby Prod.fst lines).flatMap fun line =>
    duplicateChannels call (line.2.map Prod.snd)
  return { call with rawParticipants := removed.foldl Dict.pop call.rawParticipants }

/-- The tenants of the requested context, in `_ensure_tenant_uuid_is_set`. -/
def requestedContextTenants (call : RawCallLog) : Except PyError (List String) :=
  match call.requestedContext with
  | some context => if context = "" then .ok [] else gen.confd.contextTenants context
  | none => .ok []

/-- `_ensure_tenant_uuid_is_set`. -/
def ensureTenantUuidIsSet (call : RawCallLog) : Except PyError RawCallLog := do
  let tenantUuids := (call.rawParticipants.filterMap fun p => p.2.info.map (·.tenantUuid)).filter
    (· ≠ "")
  let call := (gen.externals.setOrder.visit tenantUuids).foldl RawCallLog.setTenantUuid call
  if truthy call.tenantUuid then return call
  match ← gen.requestedContextTenants call with
  | tenantUuid :: _ => return call.setTenantUuid tenantUuid
  | [] => return call.setTenantUuid (gen.serviceTenantUuid.getD "None")

/-- The extension of a source participant fills in the missing pair. -/
def fillSourceExtension (call : RawCallLog) (p : RawParticipant) : RawCallLog :=
  match p.info.bind (·.mainExtension) with
  | none => call
  | some extension =>
      if truthy call.sourceInternalExten ∧ truthy call.sourceInternalContext then call
      else
        { call with
          sourceInternalExten := some extension.exten
          sourceInternalContext := some extension.context }

/-- The extension of a destination participant fills in the missing pairs; that
of an answered one is always the destination. -/
def fillDestinationExtension (call : RawCallLog) (p : RawParticipant) : RawCallLog :=
  match p.info.bind (·.mainExtension) with
  | none => call
  | some extension =>
      let call :=
        if p.answered = some true ∨
            ¬ (truthy call.destinationInternalExten ∧ truthy call.destinationInternalContext) then
          { call with
            destinationInternalExten := some extension.exten
            destinationInternalContext := some extension.context }
        else call
      if truthy call.requestedInternalExten ∧ truthy call.requestedInternalContext then call
      else
        { call with
          requestedInternalExten := some extension.exten
          requestedInternalContext := some extension.context }

/-- `_fill_extensions_from_participants`: every participant must have a role. -/
def fillExtensionsFromParticipants (call : RawCallLog) : Except PyError RawCallLog :=
  let participants := call.rawParticipants.map (·.2)
  if participants.any fun p => p.role = none then .error (.keyError "role")
  else
    let call := (participants.filter fun p => p.role = some .source).foldl
      fillSourceExtension call
    .ok ((participants.filter fun p => p.role = some .destination).foldl
      fillDestinationExtension call)

/-- `_find_voicemail`: a failed request is not cached. -/
def findVoicemail (number context tenantUuid : Option String) (cache : VoicemailCache) :
    Except PyError (Option Voicemail) × VoicemailCache :=
  match number with
  | none => (.ok none, cache)
  | some number =>
      if number = "" then (.ok none, cache)
      else
        let key : VoicemailKey := (number, context, tenantUuid)
        match cache.get? key with
        | some voicemail => (.ok voicemail, cache)
        | none =>
            match gen.confd.voicemails key with
            | .ok voicemails => (.ok voicemails.head?, cache.set key voicemails.head?)
            | .error .httpError => (.ok none, cache)
            | .error .requestException => (.ok none, cache)
            | .error e => (.error e, cache)

/-- The voicemail supersedes the details of the destination, if it was found. -/
def supersedeDestination (call : RawCallLog) (voicemail : Option Voicemail) : RawCallLog :=
  match voicemail with
  | none => call
  | some voicemail =>
      { call with
        destinationDetails :=
          [("type", "voicemail"), ("voicemail_id", toString voicemail.id),
            ("voicemail_name", voicemail.name)] }

/-- `_resolve_voicemail_destination`. -/
def resolveVoicemailDestination (call : RawCallLog) (cache : VoicemailCache) :
    Except PyError RawCallLog × VoicemailCache :=
  if !call.reachedVoicemail ∨ call.dateAnswer ≠ none then (.ok call, cache)
  else
    let (voicemail, cache) :=
      gen.findVoicemail call.voicemailNumber call.voicemailContext call.tenantUuid cache
    (voicemail.map (supersedeDestination call), cache)

/-- `_remove_incomplete_recordings`. -/
def removeIncompleteRecordings (call : RawCallLog) : RawCallLog :=
  { call with
    recordings := call.recordings.filter fun recording =>
      recording.startTime ≠ none ∧ recording.endTime ≠ none }

/-- A call is answered if it has an answer time, or if a participant entered a bridge. -/
def callWasAnswered (call : RawCallLog) : Bool :=
  call.dateAnswer ≠ none ∨ call.rawParticipants.any fun p => p.2.answered = some true

/-- `_remove_recordings_for_unanswered_calls`. -/
def removeRecordingsForUnansweredCalls (call : RawCallLog) : RawCallLog :=
  if callWasAnswered call then call else { call with recordings := [] }

/-- One recording of `_handle_recording_pauses`: it extends the recording seen
with the same uuid, `None` included. -/
def seeRecording (seen : Dict (Option RecordingUuid) Recording) (recording : Recording) :
    Dict (Option RecordingUuid) Recording :=
  seen.upsert recording.uuid recording fun r => { r with endTime := recording.endTime }

/-- The merge of `_handle_recording_pauses`. -/
def mergePauses (recordings : List Recording) : List Recording :=
  (recordings.foldl seeRecording []).map Prod.snd

/-- `_handle_recording_pauses`. -/
def handleRecordingPauses (call : RawCallLog) : RawCallLog :=
  { call with recordings := mergePauses call.recordings }

/-! ### A batch of calls -/

/-- The linkedids of a call that have ended. -/
def terminatedLinks (cels : List CEL) : Finset String :=
  ((cels.filter fun cel => cel.eventtype = .linkedidEnd).map (·.linkedid)).toFinset

/-- The call log that is handed to the interpretor: the conversation is the
smallest linkedid. -/
def newCallLog (linkedids : Finset String) (cels : List CEL) : RawCallLog :=
  { conversationId := some (linkedids.min.untopD "")
    celIds := cels.map (·.id) }

/-- The passes of `call_logs_from_cel` that come before the voicemail lookup. -/
def interpretCall (linkedids : Finset String) (cels : List CEL) : Except PyError RawCallLog := do
  let call ← (getInterpretor cels).interpretCels gen.externals cels (newCallLog linkedids cels)
  let call ← gen.removeDuplicateParticipants call
  let call ← ParticipantsProcessor.fetchParticipants gen.externals gen.confd call
  let call ← gen.ensureTenantUuidIsSet call
  fillExtensionsFromParticipants call

/-- The passes that come after the voicemail lookup. -/
def finishCall (call : RawCallLog) : Except PyError CallLog :=
  (handleRecordingPauses <| removeRecordingsForUnansweredCalls <|
    removeIncompleteRecordings call).toCallLog

/-- The `try` block of `call_logs_from_cel` for one group. -/
def callLogOfGroup (linkedids : Finset String) (cels : List CEL) (cache : VoicemailCache) :
    Except PyError CallLog × VoicemailCache :=
  match gen.interpretCall linkedids cels with
  | .error e => (.error e, cache)
  | .ok call =>
      let (call, cache) := gen.resolveVoicemailDestination call cache
      (call.bind finishCall, cache)

/-- What the loop over the groups has built so far; `uuid4Calls` bounds the
numbers of the uuids drawn so far. -/
structure Batch where
  result : List CallLog := []
  voicemailCache : VoicemailCache := []
  uuid4Calls : ℕ := 0

/-- The draws of a call are numbered from `n` on. -/
def shiftUuid4 (n : ℕ) : RecordingUuid → RecordingUuid
  | .ofPath text => .ofPath text
  | .uuid4 k => .uuid4 (n + k)

/-- The draws of a call log are numbered from `n` on. -/
def shiftCallLog (n : ℕ) (log : CallLog) : CallLog :=
  { log with
    recordings := log.recordings.map fun recording =>
      { recording with uuid := recording.uuid.map (shiftUuid4 n) } }

/-- One group of `call_logs_from_cel`: it is skipped unless all its linkedids
have ended, its interpretation raises nothing and the call log is valid. -/
def addCall (batch : Batch) (group : Finset String × List CEL) : Batch :=
  if group.1 ≠ terminatedLinks group.2 then batch
  else
    let (log, cache) := gen.callLogOfGroup group.1 group.2 batch.voicemailCache
    { result := match log with
        | .ok log => batch.result ++ [shiftCallLog batch.uuid4Calls log]
        | .error _ => batch.result
      voicemailCache := cache
      uuid4Calls := batch.uuid4Calls + group.2.length }

/-- `call_logs_from_cel`. -/
def callLogsFromCel (cels : List CEL) : List CallLog :=
  ((groupCelsBySharedChannels cels).foldl gen.addCall {}).result

/-- `list_call_log_ids`. -/
def listCallLogIds (rows : List CELRow) : Finset ℕ :=
  ((rows.filterMap (·.callLogId)).filter (· ≠ 0)).toFinset

/-- `from_cel`. -/
def fromCel (rows : List CELRow) : CallLogsCreation where
  newCallLogs := gen.callLogsFromCel (rows.map (·.toCEL))
  callLogsToDelete := listCallLogIds rows

end CallLogsGenerator

/-! ### A small call -/

/-- A call that is hung up before anyone answers. -/
def shortCall (id : ℕ) (linkedid : String) : List CEL :=
  [{ id := id, eventtype := .chanStart, eventtime := id, cidName := "Alice", cidNum := "1001",
     exten := "1002", context := "default", channame := "PJSIP/alice-00000001",
     uniqueid := linkedid, linkedid := linkedid },
   { id := id + 1, eventtype := .linkedidEnd, eventtime := id + 1,
     channame := "PJSIP/alice-00000001", uniqueid := linkedid, linkedid := linkedid }]

/-- A generator without confd resources. -/
def CallLogsGenerator.simple : CallLogsGenerator where
  externals := .ascii
  confd := .empty
  serviceTenantUuid := some "f2d5b8d6-6a5c-4d0e-8f8b-1d9f2f1a7c10"

end CallLogd
