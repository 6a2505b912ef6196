/-
`DispatchCELInterpretor` and `LocalOriginateCELInterpretor`, and the choice
between them.
-/
import Mathlib.Data.Finset.Card
import CallLogd.Interpretor.Callee

namespace CallLogd

namespace DispatchCELInterpretor

/-- The channels of the CELs, in the order of their starts. -/
def chanStartUniqueids (cels : List CEL) : List String :=
  (cels.filter fun cel => cel.eventtype = .chanStart).map (·.uniqueid)

/-- `split_caller_callee_cels`: the first channel that starts is the caller's. -/
def splitCallerCalleeCels (cels : List CEL) : List CEL × List CEL :=
  let uniqueids := chanStartUniqueids cels
  (cels.filter fun cel => uniqueids.head? = some cel.uniqueid,
    cels.filter fun cel => uniqueids.tail.contains cel.uniqueid)

/-- `interpret_cels`. -/
def interpretCels (x : Externals) (cels : List CEL) (call : RawCallLog) :
    Except PyError RawCallLog := do
  let (callerCels, calleeCels) := splitCallerCalleeCels cels
  let call ← CallerCELInterpretor.interpretCels x callerCels call
  CalleeCELInterpretor.interpretCels x calleeCels call

end DispatchCELInterpretor

namespace LocalOriginateCELInterpretor

/-! ### Selection -/

/-- `three_channels_minimum`. -/
def threeChannelsMinimum (cels : List CEL) : Bool :=
  3 ≤ (cels.map (·.uniqueid)).toFinset.card

/-- `name.lower().startswith('local/')`. -/
def isLocalChannel (channame : String) : Bool :=
  "local/".toList.isPrefixOf (Text.lower channame.toList)

/-- `first_two_channels_are_local`. -/
def firstTwoChannelsAreLocal (cels : List CEL) : Bool :=
  match (cels.filter fun cel => cel.eventtype = .chanStart).map (·.channame) with
  | name₁ :: name₂ :: _ => isLocalChannel name₁ && isLocalChannel name₂
  | _ => false

/-- `first_channel_is_answered_before_any_other_operation`. -/
def firstChannelIsAnsweredBeforeAnyOtherOperation (cels : List CEL) : Bool :=
  match cels with
  | [] => false
  | first :: _ =>
      match cels.filter fun cel => cel.uniqueid = first.uniqueid with
      | cel₁ :: cel₂ :: _ => cel₁.eventtype = .chanStart && cel₂.eventtype = .answer
      | _ => false

/-- `can_interpret`. -/
def canInterpret (cels : List CEL) : Bool :=
  threeChannelsMinimum cels && firstTwoChannelsAreLocal cels &&
    firstChannelIsAnsweredBeforeAnyOtherOperation cels

/-! ### Interpretation -/

/-- The first event of a type on a channel. -/
def firstOf (cels : List CEL) (uniqueid : String) (eventtype : CELEventType) : Option CEL :=
  cels.find? fun cel => cel.uniqueid = uniqueid ∧ cel.eventtype = eventtype

/-- The three first channels and the four events without which the CELs are not
interpreted. -/
structure StartingEvents where
  localChannel1 : String
  localChannel2 : String
  sourceChannel : String
  localChannel1Start : CEL
  sourceChannelAnswer : CEL
  sourceChannelEnd : CEL
  localChannel2Answer : CEL

/-- The events that `interpret_cels` looks for first; `none` if one is missing. -/
def startingEvents (cels : List CEL) : Option StartingEvents :=
  match DispatchCELInterpretor.chanStartUniqueids cels with
  | localChannel1 :: localChannel2 :: sourceChannel :: _ => do
      let localChannel1Start ← firstOf cels localChannel1 .chanStart
      let sourceChannelAnswer ← firstOf cels sourceChannel .answer
      let sourceChannelEnd ← firstOf cels sourceChannel .chanEnd
      let localChannel2Answer ← firstOf cels localChannel2 .answer
      some { localChannel1, localChannel2, sourceChannel, localChannel1Start,
             sourceChannelAnswer, sourceChannelEnd, localChannel2Answer }
  | _ => none

/-- The dates, the source and the first destination of the call. -/
def setSource (x : Externals) (ev : StartingEvents) (call : RawCallLog) : RawCallLog :=
  { call.updateParticipant ev.sourceChannelAnswer.channame
      fun p => { p with role := some .source } with
    date := some ev.localChannel1Start.eventtime
    dateEnd := some ev.sourceChannelEnd.eventtime
    sourceName := some ev.sourceChannelAnswer.cidName
    sourceExten := some ev.sourceChannelAnswer.cidNum
    sourceLineIdentity := some (x.identityFromChannel ev.sourceChannelAnswer.channame)
    destinationExten := some ev.localChannel2Answer.cidNum }

/-- How a loop over the CELs ends: it goes on, or `interpret_cels` returns. -/
inductive Flow where
  | next (recordings : List Recording)
  | leave (recordings : List Recording)

/-- The loop that adds all recordings; an ignored event leaves the function. -/
def addRecordings (x : Externals) : List CEL → List Recording → Except PyError Flow
  | [], recordings => .ok (.next recordings)
  | cel :: cels, recordings =>
      if cel.eventtype = .mixmonitorStart then do
        match ← mixmonitorStart x cel with
        | none => return .leave recordings
        | some (filename, mixmonitorId) =>
            addRecordings x cels (recordings ++
              [{ startTime := some cel.eventtime, path := filename,
                 mixmonitorId := mixmonitorId }])
      else addRecordings x cels recordings

/-- The loop over the recordings stopped manually; an ignored event leaves the
function. -/
def stopRecordings (x : Externals) : List CEL → List Recording → Except PyError Flow
  | [], recordings => .ok (.next recordings)
  | cel :: cels, recordings =>
      if cel.eventtype = .mixmonitorStop then do
        match ← mixmonitorStop x cel with
        | none => return .leave recordings
        | some mixmonitorId =>
            stopRecordings x cels
              (recordings.map (CallerCELInterpretor.stopRecording cel.eventtime mixmonitorId))
      else stopRecordings x cels recordings

/-- The recordings that were not stopped manually end with the call. -/
def endRecordings (dateEnd : Option DateTime) (recordings : List Recording) : List Recording :=
  recordings.map fun recording =>
    if recording.endTime = none then { recording with endTime := dateEnd } else recording

/-- The recordings of the call. -/
def interpretRecordings (x : Externals) (cels : List CEL) (dateEnd : Option DateTime)
    (recordings : List Recording) : Except PyError Flow := do
  match ← addRecordings x cels recordings with
  | .leave recordings => return .leave recordings
  | .next recordings =>
      match ← stopRecordings x cels recordings with
      | .leave recordings => return .leave recordings
      | .next recordings => return .next (endRecordings dateEnd recordings)

/-- The user field, and the voicemail that one of the channels may run. -/
def setUserFieldAndVoicemail (cels : List CEL) (ev : StartingEvents) (call : RawCallLog) :
    RawCallLog :=
  let call := match firstOf cels ev.localChannel1 .appStart with
    | some appStart => { call with userField := some appStart.userfield }
    | none => call
  (cels.filter fun cel => cel.eventtype = .appStart).foldl
    (fun call cel => interpretVoicemailAppStart cel call) call

/-- The channel that is the destination of the call: the last one that enters a
bridge, apart from the starting and the local channels. -/
def destinationChannel (cels : List CEL) (ev : StartingEvents) : Option String :=
  let startingChannels := [ev.localChannel1, ev.localChannel2, ev.sourceChannel]
  let nonLocalOtherChannels :=
    (cels.filter fun cel =>
      !startingChannels.contains cel.uniqueid && cel.eventtype = .chanStart &&
        !isLocalChannel cel.channame).map (·.uniqueid)
  (((cels.filter fun cel =>
    nonLocalOtherChannels.contains cel.uniqueid && cel.eventtype = .bridgeEnter).getLast?).map
    (·.uniqueid)).filter (· ≠ "")

/-- The destination of the call; `none` if its channel was not answered, in
which case `interpret_cels` returns. -/
def setDestination (x : Externals) (cels : List CEL) (ev : StartingEvents) (call : RawCallLog) :
    Option RawCallLog :=
  match destinationChannel cels ev with
  | none => some call
  | some uniqueid => do
      let answer ← firstOf cels uniqueid .answer
      let bridgeEnter ← (cels.filter fun cel =>
        cel.uniqueid = uniqueid ∧ cel.eventtype = .bridgeEnter).getLast?
      some { call.updateParticipant answer.channame
          fun p => { p with role := some .destination } with
        destinationName := .str answer.cidName
        destinationExten := some answer.cidNum
        destinationLineIdentity := some (x.identityFromChannel answer.channame)
        dateAnswer := some bridgeEnter.eventtime }

/-- The direction of the call. -/
def setDirection (cels : List CEL) (call : RawCallLog) : RawCallLog :=
  let isIncall := cels.any fun cel => cel.eventtype = .xivoIncall
  let isOutcall := cels.any fun cel => cel.eventtype = .xivoOutcall
  { call with
    direction :=
      if isOutcall then .outbound else if isIncall then .inbound else call.direction }

/-- The tenant and the user of a WAZO_ORIGINATE_ALL_LINES event. -/
def setOriginateAllLines (x : Externals) (cels : List CEL) (call : RawCallLog) :
    Except PyError RawCallLog := do
  match cels.find? fun cel => cel.eventtype = .wazoOriginateAllLines with
  | none => return call
  | some cel =>
      match ← parseWazoOriginateAllLinesExtra x cel.extra with
      | none => return call
      | some info =>
          let call := (call.setTenantUuid info.tenantUuid).updateParticipant cel.channame
            fun p => { p with role := some .source, requested := some false }
          let call := call.insertOrUpdateParticipantsInfo
            { userUuid := info.userUuid, role := some .source,
              requested := some (!truthy call.requestedType) }
            (CallerCELInterpretor.isUserWithRole info.userUuid .source)
          return { call with requestedType := some "all_lines" }

/-- `interpret_cels`. -/
def interpretCels (x : Externals) (cels : List CEL) (call : RawCallLog) :
    Except PyError RawCallLog := do
  match startingEvents cels with
  | none => return call
  | some ev =>
      let call := setSource x ev call
      match ← interpretRecordings x cels call.dateEnd call.recordings with
      | .leave recordings => return { call with recordings := recordings }
      | .next recordings =>
          let call := setUserFieldAndVoicemail cels ev { call with recordings := recordings }
          match setDestination x cels ev call with
          | none => return call
          | some call => setOriginateAllLines x cels (setDirection cels call)

end LocalOriginateCELInterpretor

/-- The interpretors of `default_interpretors`. -/
inductive CELInterpretor where
  | localOriginate
  | dispatch
deriving DecidableEq, Repr

/-- `default_interpretors`. -/
def defaultInterpretors : List CELInterpretor := [.localOriginate, .dispatch]

namespace CELInterpretor

/-- `can_interpret`. -/
def canInterpret : CELInterpretor → List CEL → Bool
  | localOriginate, cels => LocalOriginateCELInterpretor.canInterpret cels
  | dispatch, _ => true

/-- `interpret_cels`. -/
def interpretCels (x : Externals) :
    CELInterpretor → List CEL → RawCallLog → Except PyError RawCallLog
  | localOriginate => LocalOriginateCELInterpretor.interpretCels x
  | dispatch => DispatchCELInterpretor.interpretCels x

end CELInterpretor

end CallLogd
