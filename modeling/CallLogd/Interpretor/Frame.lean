/-
What the handlers leave alone.

No handler changes the CELs or the conversation of a call, and only the handlers
of channel ends and of MIXMONITOR events change its recordings.
-/
import CallLogd.Interpretor.Parts

namespace CallLogd

open Results

/-- The part of a call log that few handlers change. -/
structure CallFrame where
  celIds : List ℕ
  conversationId : Option String
  recordings : List Recording

/-- The frame of a call log. -/
def RawCallLog.frame (call : RawCallLog) : CallFrame :=
  ⟨call.celIds, call.conversationId, call.recordings⟩

/-- The part of a call log that the events of the channels write: the dates, the tables
of the channels, and the hidden extensions. -/
structure CallMarks where
  date : Option DateTime
  dateAnswer : Option DateTime
  dateEnd : Option DateTime
  rawParticipants : Dict String RawParticipant
  callerIdByChannels : Dict String (String × String)
  extensionFilter : ExtensionFilter

/-- The marks of a call log. -/
def RawCallLog.marks (call : RawCallLog) : CallMarks :=
  ⟨call.date, call.dateAnswer, call.dateEnd, call.rawParticipants, call.callerIdByChannels,
    call.extensionFilter⟩

/-- What most handlers leave alone. -/
def RawCallLog.core (call : RawCallLog) : CallFrame × CallMarks := (call.frame, call.marks)

variable {call : RawCallLog} {x : Externals} {cel : CEL}

/-- Every result of a handler has the frame of the call. -/
abbrev Keeps (call : RawCallLog) (m : Except PyError RawCallLog) : Prop :=
  Yields m fun call' => call'.frame = call.frame

/-- Every result of a handler has the core of the call. -/
abbrev KeepsCore (call : RawCallLog) (m : Except PyError RawCallLog) : Prop :=
  Yields m fun call' => call'.core = call.core

lemma KeepsCore.frame {m : Except PyError RawCallLog} (h : KeepsCore call m) : Keeps call m :=
  h.mono fun _ hcore => congrArg Prod.fst hcore

lemma KeepsCore.marks {m : Except PyError RawCallLog} (h : KeepsCore call m) :
    Yields m fun call' => call'.marks = call.marks :=
  h.mono fun _ hcore => congrArg Prod.snd hcore

lemma core_setTenantUuid (tenantUuid : String) :
    (call.setTenantUuid tenantUuid).core = call.core :=
  part_setTenantUuid (fun _ _ => rfl) tenantUuid

lemma frame_setTenantUuid (tenantUuid : String) :
    (call.setTenantUuid tenantUuid).frame = call.frame :=
  congrArg Prod.fst (core_setTenantUuid tenantUuid)

lemma core_insertOrUpdateParticipantsInfo (info : ParticipantsInfo)
    (predicate : ParticipantsInfo → Bool) :
    (call.insertOrUpdateParticipantsInfo info predicate).core = call.core :=
  part_insertOrUpdateParticipantsInfo (fun _ _ => rfl) info predicate

lemma core_interpretVoicemailAppStart :
    (interpretVoicemailAppStart cel call).core = call.core :=
  part_interpretVoicemailAppStart fun _ _ _ _ => rfl

lemma eq_str_of_strPattern {value : Json} {text : String} (h : strPattern value = .ok text) :
    value = .str text := by
  cases value <;> cases h
  rfl

/-! ### The recordings -/

/-- A recording of the caller's side, with its random draw if it needs one. -/
def newCallerRecording (n : ℕ) (cel : CEL) (path mixmonitorId : Json) : Recording where
  uuid := match path with
    | .str filename => some (((recordingPathUuid filename).map .ofPath).getD (.uuid4 n))
    | _ => none
  startTime := some cel.eventtime
  path := path
  mixmonitorId := mixmonitorId

/-- A recording of the callee's side. -/
def newCalleeRecording (cel : CEL) (path mixmonitorId : Json) : Recording where
  uuid := match path with
    | .str filename => (recordingPathUuid filename).map .ofPath
    | _ => none
  startTime := some cel.eventtime
  path := path
  mixmonitorId := mixmonitorId

/-- What an event does to the recordings of a call: `newRecording` and
`endRecording` are those of the caller's or the callee's side. -/
def recordingStep (x : Externals) (newRecording : ℕ → CEL → Json → Json → Recording)
    (endRecording : DateTime → Recording → Recording) (recordings : List Recording) (cel : CEL) :
    List Recording :=
  match cel.eventtype with
  | .mixmonitorStart =>
      match mixmonitorStart x cel with
      | .ok (some (path, mixmonitorId)) =>
          recordings ++ [newRecording recordings.length cel path mixmonitorId]
      | _ => recordings
  | .mixmonitorStop =>
      match mixmonitorStop x cel with
      | .ok (some mixmonitorId) =>
          recordings.map (CallerCELInterpretor.stopRecording cel.eventtime mixmonitorId)
      | _ => recordings
  | .chanEnd => recordings.map (endRecording cel.eventtime)
  | _ => recordings

/-! ### Handlers of the caller -/

namespace CallerCELInterpretor

lemma core_interpretAppStart : (interpretAppStart cel call).core = call.core :=
  part_interpretAppStart fun _ _ _ _ _ _ _ => rfl

lemma keeps_interpretBridgeStartOrEnter : Keeps call (interpretBridgeStartOrEnter x cel call) :=
  .bind fun _ _ => .pure rfl

lemma keepsCore_interpretXivoIncall : KeepsCore call (interpretXivoIncall x cel call) :=
  part_interpretXivoIncall fun _ _ _ => rfl

lemma core_interpretXivoOutcall : (interpretXivoOutcall cel call).core = call.core :=
  part_interpretXivoOutcall fun _ _ _ _ _ => rfl

lemma keepsCore_interpretXivoUserFwd : KeepsCore call (interpretXivoUserFwd cel call) :=
  part_interpretXivoUserFwd fun _ _ _ _ _ _ _ => rfl

lemma keepsCore_interpretWazoConference : KeepsCore call (interpretWazoConference x cel call) :=
  part_interpretWazoConference fun _ _ => rfl

lemma keeps_interpretWazoMeetingName : Keeps call (interpretWazoMeetingName x cel call) :=
  part_interpretWazoMeetingName fun _ _ _ => rfl

lemma keepsCore_interpretWazoUserMissedCall :
    KeepsCore call (interpretWazoUserMissedCall x cel call) :=
  part_interpretWazoUserMissedCall fun _ _ _ _ _ _ _ => rfl

lemma keepsCore_interpretWazoUserBlockedCall :
    KeepsCore call (interpretWazoUserBlockedCall x cel call) :=
  part_interpretWazoUserBlockedCall fun _ _ _ _ _ _ _ => rfl

lemma keepsCore_interpretWazoCallLogDestination :
    KeepsCore call (interpretWazoCallLogDestination x cel call) :=
  part_interpretWazoCallLogDestination fun _ _ _ _ _ _ => rfl

lemma keepsCore_interpretWazoCallLogRequestedInternal :
    KeepsCore call (interpretWazoCallLogRequestedInternal x cel call) :=
  part_interpretWazoCallLogRequestedInternal fun _ _ _ => rfl

/-- A MIXMONITOR_START adds a recording, unless it is ignored. -/
lemma frame_interpretMixmonitorStart :
    Yields (interpretMixmonitorStart x cel call) fun call' => call'.frame =
      { call.frame with
        recordings := match mixmonitorStart x cel with
          | .ok (some (path, mixmonitorId)) =>
              call.recordings ++ [newCallerRecording call.recordings.length cel path mixmonitorId]
          | _ => call.recordings } := by
  rw [interpretMixmonitorStart]
  refine .bind fun start hstart => ?_
  rw [hstart]
  split
  · exact .pure rfl
  · next path mixmonitorId =>
      refine .bind fun filename hfilename => .pure ?_
      obtain rfl := eq_str_of_strPattern hfilename
      dsimp only [newCallerRecording]
      cases recordingPathUuid filename <;> rfl

lemma frame_interpretMixmonitorStop :
    Yields (interpretMixmonitorStop x cel call) fun call' => call'.frame =
      { call.frame with
        recordings := match mixmonitorStop x cel with
          | .ok (some mixmonitorId) =>
              call.recordings.map (stopRecording cel.eventtime mixmonitorId)
          | _ => call.recordings } := by
  rw [interpretMixmonitorStop]
  refine .bind fun stop hstop => ?_
  rw [hstop]
  split <;> exact .pure rfl

/-- The step of an event on the caller's channel. -/
lemma frame_interpretCel :
    Yields (interpretCel x cel call) fun call' => call'.frame =
      { call.frame with
        recordings := recordingStep x newCallerRecording endRecording call.recordings cel } := by
  rw [interpretCel, recordingStep]
  cases cel.eventtype with
  | chanStart => exact .ok rfl
  | chanEnd => exact .ok rfl
  | appStart => exact .ok (congrArg Prod.fst core_interpretAppStart)
  | answer => exact .ok rfl
  | bridgeStart => exact keeps_interpretBridgeStartOrEnter
  | bridgeEnter => exact keeps_interpretBridgeStartOrEnter
  | mixmonitorStart => exact frame_interpretMixmonitorStart
  | mixmonitorStop => exact frame_interpretMixmonitorStop
  | xivoFromS => exact .ok rfl
  | xivoIncall => exact keepsCore_interpretXivoIncall.frame
  | xivoOutcall => exact .ok (congrArg Prod.fst core_interpretXivoOutcall)
  | xivoUserFwd => exact keepsCore_interpretXivoUserFwd.frame
  | wazoMeetingName => exact keeps_interpretWazoMeetingName
  | wazoConference => exact keepsCore_interpretWazoConference.frame
  | wazoUserMissedCall => exact keepsCore_interpretWazoUserMissedCall.frame
  | wazoUserBlockedCall => exact keepsCore_interpretWazoUserBlockedCall.frame
  | wazoCallLogDestination => exact keepsCore_interpretWazoCallLogDestination.frame
  | wazoCallLogRequestedInternal => exact keepsCore_interpretWazoCallLogRequestedInternal.frame
  | _ => exact .ok rfl

end CallerCELInterpretor

/-! ### Handlers of the callee -/

namespace CalleeCELInterpretor

lemma core_interpretInternalChanStart :
    (interpretInternalChanStart cel call).core = call.core :=
  part_interpretInternalChanStart fun _ _ _ _ _ _ _ _ => rfl

/-- A callee's channel starts: it is a destination, with a caller id. -/
def startedMarks (cel : CEL) (marks : CallMarks) : CallMarks :=
  { marks with
    rawParticipants := marks.rawParticipants.upsert cel.channame {} fun p =>
      { p with role := some .destination }
    callerIdByChannels := marks.callerIdByChannels.set cel.channame (cel.cidName, cel.cidNum) }

/-- The peers of a bridge that are in the table are answered. -/
def answeredPeers (peers : List String) (d : Dict String RawParticipant) :
    Dict String RawParticipant :=
  d.map fun p => if peers.contains p.1 then (p.1, { p.2 with answered := some true }) else p

/-- A callee's channel enters a bridge: it is answered, even if it is not in the table. -/
def bridgedMarks (cel : CEL) (marks : CallMarks) : CallMarks :=
  let d := marks.rawParticipants.upsert cel.channame {} fun p => { p with answered := some true }
  { marks with
    rawParticipants :=
      if cel.peer = "" then d
      else answeredPeers ((Text.splitString "," cel.peer).filter (· ≠ "")) d }

lemma core_interpretChanStart :
    (interpretChanStart x cel call).core = (call.frame, startedMarks cel call.marks) := by
  have hparticipant : ∀ c : RawCallLog,
      (c.updateParticipant cel.channame fun p => { p with role := some .destination }).core =
        (c.core.1, { c.core.2 with
          rawParticipants := c.core.2.rawParticipants.upsert cel.channame {} fun p =>
            { p with role := some .destination } }) := fun _ => rfl
  rw [interpretChanStart]
  dsimp only
  split
  · rfl
  · rw [hparticipant, core_interpretInternalChanStart]
    rfl

lemma core_setDestinationFromCallerId (callerId : String × String) :
    (setDestinationFromCallerId callerId call).core = call.core :=
  part_setDestinationFromCallerId (fun _ _ _ _ => rfl) callerId

lemma core_setDestinationFromFirstBridge :
    (setDestinationFromFirstBridge cel call).core = call.core :=
  part_setDestinationFromFirstBridge fun _ _ _ _ => rfl

lemma core_interpretBridgeEnter : Yields (interpretBridgeEnter x cel call) fun call' =>
    call'.core = (call.frame, bridgedMarks cel call.marks) := by
  have hpeers : ∀ (peers : List String) (c : RawCallLog), (answerPeers peers c).core =
      (c.core.1, { c.core.2 with
        rawParticipants := answeredPeers peers c.core.2.rawParticipants }) := fun _ _ => rfl
  rw [interpretBridgeEnter]
  refine .bind fun _ _ => ?_
  dsimp only
  rw [bridgedMarks]
  split
  · refine .pure ?_
    rw [core_setDestinationFromFirstBridge]
    rfl
  · split
    · refine .pure ?_
      rw [hpeers, core_setDestinationFromFirstBridge]
      rfl
    · split
      · refine .pure ?_
        rw [core_setDestinationFromCallerId, hpeers, core_setDestinationFromFirstBridge]
        rfl
      · exact .error

lemma frame_interpretMixmonitorStart :
    Yields (interpretMixmonitorStart x cel call) fun call' => call'.frame =
      { call.frame with
        recordings := match mixmonitorStart x cel with
          | .ok (some (path, mixmonitorId)) =>
              call.recordings ++ [newCalleeRecording cel path mixmonitorId]
          | _ => call.recordings } := by
  rw [interpretMixmonitorStart]
  refine .bind fun start hstart => ?_
  rw [hstart]
  split
  · exact .pure rfl
  · next path mixmonitorId =>
      refine .bind fun filename hfilename => .pure ?_
      obtain rfl := eq_str_of_strPattern hfilename
      rfl

lemma keepsCore_interpretRequestedInternal :
    KeepsCore call (interpretRequestedInternal x cel call) :=
  part_interpretRequestedInternal fun _ _ _ _ => rfl

/-- The step of an event on a callee's channel. -/
lemma frame_interpretCel :
    Yields (interpretCel x cel call) fun call' => call'.frame =
      { call.frame with
        recordings :=
          recordingStep x (fun _ => newCalleeRecording) endRecording call.recordings cel } := by
  rw [interpretCel, recordingStep]
  cases cel.eventtype with
  | chanStart => exact .ok (congrArg Prod.fst core_interpretChanStart)
  | chanEnd => exact .ok rfl
  | appStart => exact .ok (congrArg Prod.fst core_interpretVoicemailAppStart)
  | bridgeEnter => exact core_interpretBridgeEnter.mono fun _ h => congrArg Prod.fst h
  | bridgeStart => exact core_interpretBridgeEnter.mono fun _ h => congrArg Prod.fst h
  | mixmonitorStart => exact frame_interpretMixmonitorStart
  | mixmonitorStop => exact CallerCELInterpretor.frame_interpretMixmonitorStop
  | wazoCallLogRequestedInternal => exact keepsCore_interpretRequestedInternal.frame
  | _ => exact .ok rfl

end CalleeCELInterpretor

/-! ### Interpretors -/

/-- The steps of the events of one side, one after the other. -/
lemma frame_interpretEach {interpret : CEL → RawCallLog → Except PyError RawCallLog}
    {step : List Recording → CEL → List Recording}
    (h : ∀ cel call, Yields (interpret cel call) fun call' =>
      call'.frame = { call.frame with recordings := step call.recordings cel })
    (cels : List CEL) (call : RawCallLog) :
    Yields (interpretEach interpret cels call) fun call' =>
      call'.frame = { call.frame with recordings := cels.foldl step call.recordings } := by
  refine .foldlM (P := fun done (call' : RawCallLog) => call'.frame =
    { call.frame with recordings := done.foldl step call.recordings }) rfl ?_ cels
  intro done c cel hc c' hc'
  have hrecordings : c.recordings = done.foldl step call.recordings :=
    congrArg CallFrame.recordings hc
  rw [h cel c c' hc', hc, hrecordings, List.foldl_append]
  rfl

/-- The recordings of a call that is split into the two sides. -/
def dispatchRecordings (x : Externals) (cels : List CEL) (recordings : List Recording) :
    List Recording :=
  let (callerCels, calleeCels) := DispatchCELInterpretor.splitCallerCalleeCels cels
  calleeCels.foldl
    (recordingStep x (fun _ => newCalleeRecording) CalleeCELInterpretor.endRecording)
    (callerCels.foldl (recordingStep x newCallerRecording CallerCELInterpretor.endRecording)
      recordings)

lemma DispatchCELInterpretor.frame_interpretCels (cels : List CEL) :
    Yields (interpretCels x cels call) fun call' => call'.frame =
      { call.frame with recordings := dispatchRecordings x cels call.recordings } := by
  rw [interpretCels]
  dsimp only
  refine .bind fun call₁ hcaller => ?_
  have hcall₁ := frame_interpretEach (fun _ _ => CallerCELInterpretor.frame_interpretCel)
    _ _ call₁ hcaller
  refine (frame_interpretEach (fun _ _ => CalleeCELInterpretor.frame_interpretCel) _ _).mono
    fun call₂ hcall₂ => ?_
  have hrecordings : call₁.recordings = _ := congrArg CallFrame.recordings hcall₁
  rw [hcall₂, hcall₁, hrecordings]
  rfl

namespace LocalOriginateCELInterpretor

/-- The recordings with which a loop ends. -/
def Flow.recordings : Flow → List Recording
  | .next recordings => recordings
  | .leave recordings => recordings

lemma core_setUserFieldAndVoicemail (cels : List CEL) (ev : StartingEvents) :
    (setUserFieldAndVoicemail cels ev call).core = call.core := by
  have hfold : ∀ (cels : List CEL) (c : RawCallLog),
      (cels.foldl (fun c cel => interpretVoicemailAppStart cel c) c).core = c.core := by
    intro cels
    induction cels with
    | nil => exact fun _ => rfl
    | cons cel cels ih => exact fun c => (ih _).trans core_interpretVoicemailAppStart
  unfold setUserFieldAndVoicemail
  dsimp only
  rw [hfold]
  split <;> rfl

lemma frame_setDestination {cels : List CEL} {ev : StartingEvents} {call' : RawCallLog}
    (h : setDestination x cels ev call = some call') : call'.frame = call.frame := by
  rw [setDestination] at h
  split at h
  · exact congrArg RawCallLog.frame (Option.some.inj h).symm
  · simp only [Option.bind_eq_bind, Option.bind_eq_some_iff, Option.some.injEq] at h
    obtain ⟨_, -, _, -, rfl⟩ := h
    rfl

lemma keeps_setOriginateAllLines (cels : List CEL) :
    Keeps call (setOriginateAllLines x cels call) := by
  rw [setOriginateAllLines]
  split
  · exact .pure rfl
  · refine .bind fun info _ => ?_
    split
    · exact .pure rfl
    · exact .pure ((congrArg Prod.fst (core_insertOrUpdateParticipantsInfo _ _)).trans
        (frame_setTenantUuid _))

/-- The recordings of an originated call. -/
def localRecordings (x : Externals) (cels : List CEL) (recordings : List Recording) :
    List Recording :=
  match startingEvents cels with
  | none => recordings
  | some ev =>
      match interpretRecordings x cels (some ev.sourceChannelEnd.eventtime) recordings with
      | .ok flow => flow.recordings
      | .error _ => recordings

lemma frame_interpretCels (cels : List CEL) :
    Yields (interpretCels x cels call) fun call' => call'.frame =
      { call.frame with recordings := localRecordings x cels call.recordings } := by
  rw [interpretCels, localRecordings]
  cases startingEvents cels with
  | none => exact .pure rfl
  | some ev =>
      dsimp only
      refine .bind fun flow hflow => ?_
      have hflow : interpretRecordings x cels (some ev.sourceChannelEnd.eventtime)
          call.recordings = .ok flow := hflow
      rw [hflow]
      cases flow with
      | leave recordings => exact .pure rfl
      | next recordings =>
          dsimp only
          cases hdestination : setDestination x cels ev (setUserFieldAndVoicemail cels ev
              { setSource x ev call with recordings := recordings }) with
          | none => exact .pure (congrArg Prod.fst (core_setUserFieldAndVoicemail cels ev))
          | some call₁ =>
              have hcall₁ := (frame_setDestination hdestination).trans
                (congrArg Prod.fst (core_setUserFieldAndVoicemail cels ev))
              exact (keeps_setOriginateAllLines cels).mono fun call₂ hcall₂ =>
                hcall₂.trans hcall₁

end LocalOriginateCELInterpretor

/-- The recordings that an interpretor leaves in a call. -/
def CELInterpretor.recordings (x : Externals) :
    CELInterpretor → List CEL → List Recording → List Recording
  | localOriginate => LocalOriginateCELInterpretor.localRecordings x
  | dispatch => dispatchRecordings x

/-- The frame of an interpreted call. -/
lemma CELInterpretor.frame_interpretCels (interpretor : CELInterpretor) (cels : List CEL) :
    Yields (interpretor.interpretCels x cels call) fun call' => call'.frame =
      { call.frame with recordings := interpretor.recordings x cels call.recordings } := by
  cases interpretor with
  | localOriginate => exact LocalOriginateCELInterpretor.frame_interpretCels cels
  | dispatch => exact DispatchCELInterpretor.frame_interpretCels cels

end CallLogd
