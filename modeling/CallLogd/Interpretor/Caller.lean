/-
`CallerCELInterpretor`: the events of the channel that started the call.
-/
import CallLogd.Interpretor.Payload

namespace CallLogd

namespace CallerCELInterpretor

/-- `interpret_chan_start`. -/
def interpretChanStart (x : Externals) (cel : CEL) (call : RawCallLog) : RawCallLog :=
  { call with
    date := some cel.eventtime
    sourceName := some cel.cidName
    sourceInternalName := some cel.cidName
    sourceExten := call.extensionFilter.filter cel.cidNum
    requestedExten := call.extensionFilter.filter cel.exten
    requestedContext := some cel.context
    destinationExten := call.extensionFilter.filter cel.exten
    sourceLineIdentity := some (x.identityFromChannel cel.channame)
    rawParticipants := call.rawParticipants.upsert cel.channame {} fun p =>
      { p with role := some .source } }

/-- The end that a channel end gives to a recording that has none. -/
def endRecording (t : DateTime) (recording : Recording) : Recording :=
  if recording.endTime = none then { recording with endTime := some t } else recording

/-- `interpret_chan_end`. -/
def interpretChanEnd (cel : CEL) (call : RawCallLog) : RawCallLog :=
  { call with
    dateEnd := some cel.eventtime
    recordings := call.recordings.map (endRecording cel.eventtime) }.filterExtensions

/-- `interpret_app_start`. -/
def interpretAppStart (cel : CEL) (call : RawCallLog) : RawCallLog :=
  let call := interpretVoicemailAppStart cel { call with userField := some cel.userfield }
  if call.wasForwarded then call
  else
    { call with
      sourceName := if cel.cidName ≠ "" then some cel.cidName else call.sourceName
      sourceExten :=
        if cel.cidNum ≠ "" then call.extensionFilter.filter cel.cidNum else call.sourceExten }

/-- `interpret_answer`. -/
def interpretAnswer (cel : CEL) (call : RawCallLog) : RawCallLog :=
  { call with
    destinationExten := if truthy call.destinationExten then call.destinationExten else cel.cidNum
    requestedExten :=
      if truthy call.requestedExten then call.requestedExten
      else call.extensionFilter.filter cel.cidNum }

/-- `interpret_bridge_start_or_enter`. -/
def interpretBridgeStartOrEnter (x : Externals) (cel : CEL) (call : RawCallLog) :
    Except PyError RawCallLog := do
  let bridge ← celBridge x cel
  -- a call put on a holding bridge is not answered yet
  let answers := bridge.all fun b => !b.technology.pyEq (.str "holding_bridge")
  return { call with
    sourceName := if truthy call.sourceName then call.sourceName else cel.cidName
    sourceExten :=
      if truthy call.sourceExten then call.sourceExten
      else call.extensionFilter.filter cel.cidNum
    dateAnswer :=
      if call.dateAnswer = none ∧ answers then some cel.eventtime else call.dateAnswer }

/-- `interpret_mixmonitor_start`: a file outside the standard path gets a random
uuid; the recordings of the call so far number the draws. -/
def interpretMixmonitorStart (x : Externals) (cel : CEL) (call : RawCallLog) :
    Except PyError RawCallLog := do
  match ← mixmonitorStart x cel with
  | none => return call
  | some (filename, mixmonitorId) =>
      let uuid := match recordingPathUuid (← strPattern filename) with
        | some text => .ofPath text
        | none => .uuid4 call.recordings.length
      return { call with
        recordings := call.recordings ++
          [{ uuid := some uuid, startTime := some cel.eventtime, path := filename,
             mixmonitorId := mixmonitorId }] }

/-- What a MIXMONITOR_STOP with identifier `mixmonitorId` does to a recording. -/
def stopRecording (t : DateTime) (mixmonitorId : Json) (recording : Recording) : Recording :=
  if recording.mixmonitorId.pyEq mixmonitorId then
    { recording with endTime := some t, endTimeIsFinal := true }
  else recording

/-- `interpret_mixmonitor_stop`. -/
def interpretMixmonitorStop (x : Externals) (cel : CEL) (call : RawCallLog) :
    Except PyError RawCallLog := do
  match ← mixmonitorStop x cel with
  | none => return call
  | some mixmonitorId =>
      return { call with
        recordings := call.recordings.map (stopRecording cel.eventtime mixmonitorId) }

/-- `interpret_xivo_from_s`. -/
def interpretXivoFromS (cel : CEL) (call : RawCallLog) : RawCallLog :=
  { call with
    requestedExten := call.extensionFilter.filter cel.exten
    requestedContext := some cel.context
    destinationExten := call.extensionFilter.filter cel.exten }

/-- `interpret_xivo_incall`. -/
def interpretXivoIncall (x : Externals) (cel : CEL) (call : RawCallLog) :
    Except PyError RawCallLog := do
  let call := { call with direction := .inbound }
  let extra ← extractCelExtra x cel.extra
  if !extra.truthy then return call
  return call.setTenantUuid ((← getItem extra "extra").pyStr x.floatStr)

/-- `interpret_xivo_outcall`. -/
def interpretXivoOutcall (cel : CEL) (call : RawCallLog) : RawCallLog :=
  if !call.wasForwarded then { call with direction := .outbound }
  else
    { call with
      destinationDetails := []
      destinationExten := call.extensionFilter.filter cel.cidNum
      destinationName := .str cel.cidName }

/-- `interpret_xivo_user_fwd`: the pattern is applied to the text of the payload. -/
def interpretXivoUserFwd (cel : CEL) (call : RawCallLog) : Except PyError RawCallLog :=
  match cel.extra with
  | none => .error .typeError
  | some text =>
      let call := { call with wasForwarded := true }
      match Regex.matchStart extraUserFwdRegex text.toList with
      | none => .ok { call with interpretCallerXivoUserFwd := false }
      | some caps =>
          let number := call.extensionFilter.filter (String.ofList (caps.get 1))
          let call := { call with destinationExten := number }
          if call.interpretCallerXivoUserFwd then
            .ok { call with
              requestedInternalExten := number
              requestedInternalContext := some (String.ofList (caps.get 2))
              requestedName := some (String.ofList (caps.get 3))
              interpretCallerXivoUserFwd := false }
          else .ok call

/-- `interpret_wazo_conference`. -/
def interpretWazoConference (x : Externals) (cel : CEL) (call : RawCallLog) :
    Except PyError RawCallLog := do
  let extra ← extractCelExtra x cel.extra
  if !extra.truthy then return call
  match Text.splitOnce "NAME: ".toList (← strMethod (← getItem extra "extra")).toList with
  | some (_, name) => return { call with destinationName := .str (String.ofList name) }
  | none => throw .valueError

/-- `interpret_wazo_meeting_name`: the extension of a meeting is hidden from now on. -/
def interpretWazoMeetingName (x : Externals) (cel : CEL) (call : RawCallLog) :
    Except PyError RawCallLog := do
  let extra ← extractCelExtra x cel.extra
  if !extra.truthy then return call
  let call := { call with destinationName := ← getItem extra "extra" }
  match call.destinationExten with
  | none => throw .typeError
  | some exten =>
      if (Regex.matchStart meetingExtensionRegex exten.toList).isSome then
        return { call with extensionFilter := call.extensionFilter.addExten exten }
      else return call

/-- The entries of `participants_info` for a user on one side of the call. -/
def isUserWithRole (userUuid : String) (role : Role) (p : ParticipantsInfo) : Bool :=
  p.userUuid = some userUuid ∧ p.role = some role

/-- `interpret_wazo_user_missed_call`. -/
def interpretWazoUserMissedCall (x : Externals) (cel : CEL) (call : RawCallLog) :
    Except PyError RawCallLog := do
  let extra ← extractCelExtra x cel.extra
  if !extra.truthy then return call
  let v ← extractUserMissedCallVariables x extra
  let call :=
    if v.sourceUserUuid ≠ "" then
      call.insertOrUpdateParticipantsInfo
        { userUuid := v.sourceUserUuid, answered := some false, name := v.sourceName,
          role := some .source }
        (isUserWithRole v.sourceUserUuid .source)
    else call
  let call :=
    if v.destinationUserUuid ≠ "" then
      call.insertOrUpdateParticipantsInfo
        { userUuid := v.destinationUserUuid, answered := some false, name := v.destinationName,
          role := some .destination }
        (isUserWithRole v.destinationUserUuid .destination)
    else call
  return { call.setTenantUuid v.wazoTenantUuid with
    destinationName := .str v.destinationName
    sourceName := some v.sourceName
    sourceExten := some cel.cidNum
    sourceLineIdentity := some (x.identityFromChannel cel.channame) }

/-- `interpret_wazo_user_blocked_call`: the handler unpacks the caller's name
into its number and the number into the name. -/
def interpretWazoUserBlockedCall (x : Externals) (cel : CEL) (call : RawCallLog) :
    Except PyError RawCallLog := do
  let extra ← extractCelExtra x cel.extra
  if !extra.truthy then return call
  let v ← extractUserBlockedCallVariables x extra
  let blockedCalleridNum := v.sourceCalleridName
  let blockedCalleridName := v.sourceCalleridNum
  let call := call.insertOrUpdateParticipantsInfo
    { userUuid := v.destinationUserUuid, answered := some false, role := some .destination }
    (isUserWithRole v.destinationUserUuid .destination)
  return { call.setTenantUuid v.wazoTenantUuid with
    sourceName := some blockedCalleridName
    sourceExten := some blockedCalleridNum
    sourceLineIdentity := some (x.identityFromChannel cel.channame)
    blocked := true }

/-- The end of `interpret_wazo_call_log_destination` for a known type. -/
def setDestinationDetails (type : String) (details : List (String × String))
    (call : RawCallLog) : RawCallLog :=
  { call with
    requestedType := if truthy call.requestedType then call.requestedType else type
    destinationDetails := details
    authoritativeDestinationInfo := true }

/-- `interpret_wazo_call_log_destination`. -/
def interpretWazoCallLogDestination (x : Externals) (cel : CEL) (call : RawCallLog) :
    Except PyError RawCallLog := do
  let extra ← extractCelExtra x cel.extra
  if !extra.truthy then return call
  let extraDict ← extractKeyValuePairsAsDict x extra
  match extraDict.get? "type" with
  | none => return call
  | some "conference" =>
      let id ← dictItem extraDict "id"
      return setDestinationDetails "conference"
        [("type", "conference"), ("conference_id", id)] call
  | some "user" =>
      let uuid ← dictItem extraDict "uuid"
      let name ← dictItem extraDict "name"
      let participantInfo : ParticipantsInfo :=
        { userUuid := uuid, role := some .destination, name := name,
          requested := some (!truthy call.requestedType), tags := some [] }
      return setDestinationDetails "user"
        [("type", "user"), ("user_uuid", uuid), ("user_name", name)]
        { call with
          participantsInfo := call.participantsInfo ++ [participantInfo]
          destinationName := .str name }
  | some "meeting" =>
      let uuid ← dictItem extraDict "uuid"
      let name ← dictItem extraDict "name"
      return setDestinationDetails "meeting"
        [("type", "meeting"), ("meeting_uuid", uuid), ("meeting_name", name)] call
  | some "group" =>
      let id ← dictItem extraDict "id"
      let label ← dictItem extraDict "label"
      return setDestinationDetails "group"
        [("type", "group"), ("group_id", id), ("group_label", label)]
        { call with destinationName := .str label }
  | some _ => return call

/-- The number and the context of a WAZO_CALL_LOG_REQUESTED_INTERNAL event, which
both interpretors copy unless they are empty. -/
def setRequestedInternal (extraDict : Dict String String) (call : RawCallLog) : RawCallLog :=
  { call with
    requestedInternalExten :=
      if truthy (extraDict.get? "number") then extraDict.get? "number"
      else call.requestedInternalExten
    requestedInternalContext :=
      if truthy (extraDict.get? "context") then extraDict.get? "context"
      else call.requestedInternalContext }

/-- `interpret_wazo_call_log_requested_internal`. -/
def interpretWazoCallLogRequestedInternal (x : Externals) (cel : CEL) (call : RawCallLog) :
    Except PyError RawCallLog := do
  let extra ← extractCelExtra x cel.extra
  if !extra.truthy then return call
  return setRequestedInternal (← extractKeyValuePairsAsDict x extra) call

/-- `interpret_cel`, through the table of handlers. -/
def interpretCel (x : Externals) (cel : CEL) (call : RawCallLog) :
    Except PyError RawCallLog :=
  match cel.eventtype with
  | .chanStart => .ok (interpretChanStart x cel call)
  | .chanEnd => .ok (interpretChanEnd cel call)
  | .appStart => .ok (interpretAppStart cel call)
  | .answer => .ok (interpretAnswer cel call)
  | .bridgeStart => interpretBridgeStartOrEnter x cel call
  | .bridgeEnter => interpretBridgeStartOrEnter x cel call
  | .mixmonitorStart => interpretMixmonitorStart x cel call
  | .mixmonitorStop => interpretMixmonitorStop x cel call
  | .xivoFromS => .ok (interpretXivoFromS cel call)
  | .xivoIncall => interpretXivoIncall x cel call
  | .xivoOutcall => .ok (interpretXivoOutcall cel call)
  | .xivoUserFwd => interpretXivoUserFwd cel call
  | .wazoMeetingName => interpretWazoMeetingName x cel call
  | .wazoConference => interpretWazoConference x cel call
  | .wazoUserMissedCall => interpretWazoUserMissedCall x cel call
  | .wazoUserBlockedCall => interpretWazoUserBlockedCall x cel call
  | .wazoCallLogDestination => interpretWazoCallLogDestination x cel call
  | .wazoCallLogRequestedInternal => interpretWazoCallLogRequestedInternal x cel call
  | _ => .ok call

/-- `interpret_cels`. -/
def interpretCels (x : Externals) (cels : List CEL) (call : RawCallLog) :
    Except PyError RawCallLog :=
  interpretEach (interpretCel x) cels call

end CallerCELInterpretor

end CallLogd
