/-
`CalleeCELInterpretor`: the events of the channels that were called.
-/
import CallLogd.Interpretor.Caller

namespace CallLogd

namespace CalleeCELInterpretor

/-- The peer of a mobile that was waited for, if the channel is one:
`_is_a_pending_wait_for_mobile_cel`. -/
def pendingWaitForMobilePeer (cel : CEL) (call : RawCallLog) : Option String :=
  match Regex.matchStart matchingMobilePeerRegex cel.channame.toList with
  | none => none
  | some caps =>
      let peer := String.ofList (caps.get 1)
      if peer ∈ call.pendingWaitForMobilePeers then some peer else none

/-- The destination of a channel start, unless an authoritative one is known. -/
def setDestination (cel : CEL) (call : RawCallLog) : RawCallLog :=
  if call.authoritativeDestinationInfo then call
  else { call with destinationExten := some cel.cidNum, destinationName := .str cel.cidName }

/-- The part of `interpret_chan_start` for a call that is not outbound. -/
def interpretInternalChanStart (cel : CEL) (call : RawCallLog) : RawCallLog :=
  match Regex.matchStart waitForMobileRegex cel.channame.toList with
  | some caps =>
      { call with
        pendingWaitForMobilePeers :=
          insert (String.ofList (caps.get 1)) call.pendingWaitForMobilePeers }
  | none =>
      match pendingWaitForMobilePeer cel call with
      | some peer =>
          let call := { call with
            pendingWaitForMobilePeers := call.pendingWaitForMobilePeers.erase peer
            interpretCalleeBridgeEnter := false }
          { setDestination cel call with
            destinationInternalExten := some cel.cidNum
            destinationInternalContext := some cel.context }
      | none =>
          let call := setDestination cel call
          { call with
            requestedName :=
              if truthy call.requestedName then call.requestedName else cel.cidName }

/-- `interpret_chan_start`. -/
def interpretChanStart (x : Externals) (cel : CEL) (call : RawCallLog) : RawCallLog :=
  let call := { call with
    destinationLineIdentity := some (x.identityFromChannel cel.channame)
    callerIdByChannels := call.callerIdByChannels.set cel.channame (cel.cidName, cel.cidNum) }
  let call :=
    if call.direction = .outbound then
      { call with destinationName := .str "", requestedName := some "" }
    else interpretInternalChanStart cel call
  call.updateParticipant cel.channame fun p => { p with role := some .destination }

/-- The end that a channel end gives to a recording: a later end replaces an
earlier one, unless a MIXMONITOR_STOP has set it. -/
def endRecording (t : DateTime) (recording : Recording) : Recording :=
  if !recording.endTimeIsFinal ∧ recording.endTime.all (· < t) then
    { recording with endTime := some t }
  else recording

/-- `interpret_chan_end`. -/
def interpretChanEnd (cel : CEL) (call : RawCallLog) : RawCallLog :=
  { call with recordings := call.recordings.map (endRecording cel.eventtime) }

/-- The peers of a bridge are answered, if they are channels of the call. -/
def answerPeers (peers : List String) (call : RawCallLog) : RawCallLog :=
  { call with
    rawParticipants := call.rawParticipants.map fun p =>
      if peers.contains p.1 then (p.1, { p.2 with answered := some true }) else p }

/-- The caller id of the channel, from its start, is the destination. -/
def setDestinationFromCallerId (callerId : String × String) (call : RawCallLog) : RawCallLog :=
  let call :=
    if callerId.1 ≠ "" then { call with destinationName := .str callerId.1 } else call
  if callerId.2 ≠ "" then
    { call with
      destinationExten := some callerId.2
      destinationInternalExten := some callerId.2 }
  else call

/-- Only the first bridge is considered for the identity of the destination. -/
def setDestinationFromFirstBridge (cel : CEL) (call : RawCallLog) : RawCallLog :=
  if call.interpretCalleeBridgeEnter ∧
      (!call.authoritativeDestinationInfo ∨ call.wasForwarded) then
    { call with
      destinationExten :=
        if cel.cidNum ≠ "" ∧ cel.cidNum ≠ "s" then some cel.cidNum else call.destinationExten
      destinationName := .str cel.cidName
      interpretCalleeBridgeEnter := false }
  else call

/-- `interpret_bridge_enter`. -/
def interpretBridgeEnter (x : Externals) (cel : CEL) (call : RawCallLog) :
    Except PyError RawCallLog := do
  let _ ← celBridge x cel
  let call := setDestinationFromFirstBridge cel <|
    call.updateParticipant cel.channame fun p => { p with answered := some true }
  if cel.peer = "" then return call
  let call := answerPeers ((Text.splitString "," cel.peer).filter (· ≠ "")) call
  if call.authoritativeDestinationInfo then return call
  match call.callerIdByChannels.get? cel.channame with
  | some callerId => return setDestinationFromCallerId callerId call
  | none => throw (.keyError cel.channame)

/-- `interpret_mixmonitor_start`: a file outside the standard path gets no uuid. -/
def interpretMixmonitorStart (x : Externals) (cel : CEL) (call : RawCallLog) :
    Except PyError RawCallLog := do
  match ← mixmonitorStart x cel with
  | none => return call
  | some (filename, mixmonitorId) =>
      let uuid := (recordingPathUuid (← strPattern filename)).map .ofPath
      return { call with
        recordings := call.recordings ++
          [{ uuid := uuid, startTime := some cel.eventtime, path := filename,
             mixmonitorId := mixmonitorId }] }

/-- `interpret_mixmonitor_stop`, the same as the caller's. -/
def interpretMixmonitorStop (x : Externals) (cel : CEL) (call : RawCallLog) :
    Except PyError RawCallLog :=
  CallerCELInterpretor.interpretMixmonitorStop x cel call

/-- `interpret_requested_internal`. -/
def interpretRequestedInternal (x : Externals) (cel : CEL) (call : RawCallLog) :
    Except PyError RawCallLog := do
  let extra ← extractCelExtra x cel.extra
  if !extra.truthy then return call
  let call := CallerCELInterpretor.setRequestedInternal (← extractKeyValuePairsAsDict x extra) call
  return { call with requestedName := some cel.cidName }

/-- `interpret_cel`, through the table of handlers. -/
def interpretCel (x : Externals) (cel : CEL) (call : RawCallLog) :
    Except PyError RawCallLog :=
  match cel.eventtype with
  | .chanStart => .ok (interpretChanStart x cel call)
  | .chanEnd => .ok (interpretChanEnd cel call)
  | .appStart => .ok (interpretVoicemailAppStart cel call)
  | .bridgeEnter => interpretBridgeEnter x cel call
  | .bridgeStart => interpretBridgeEnter x cel call
  | .mixmonitorStart => interpretMixmonitorStart x cel call
  | .mixmonitorStop => interpretMixmonitorStop x cel call
  | .wazoCallLogRequestedInternal => interpretRequestedInternal x cel call
  | _ => .ok call

/-- `interpret_cels`. -/
def interpretCels (x : Externals) (cels : List CEL) (call : RawCallLog) :
    Except PyError RawCallLog :=
  interpretEach (interpretCel x) cels call

end CalleeCELInterpretor

end CallLogd
