/-
The call log under construction: `raw_call_log.py`, `extension_filter.py`, and
the parts of `database/models.py` that the interpretation fills in.
-/
import Mathlib.Data.Finset.Basic
import Mathlib.Data.Finset.Insert
import CallLogd.Cel
import CallLogd.Lib.Json

namespace CallLogd

/-! ### Extension filter -/

/-- The extensions that are hidden from a call log. -/
structure ExtensionFilter where
  extensions : Finset String := {"s"}
deriving DecidableEq

namespace ExtensionFilter

/-- `ExtensionFilter.add_exten`. -/
def addExten (f : ExtensionFilter) (exten : String) : ExtensionFilter :=
  ⟨insert exten f.extensions⟩

/-- `ExtensionFilter.filter`: a hidden extension becomes empty. -/
def filter (f : ExtensionFilter) : Option String → Option String
  | some exten => if exten ∈ f.extensions then some "" else some exten
  | none => none

end ExtensionFilter

/-! ### Recordings -/

/-- The identifier of a recording: read from the path of the file, or drawn by
the `n`-th call of `uuid4`, which returns a value that no other call returns. -/
inductive RecordingUuid where
  | ofPath (text : String)
  | uuid4 (n : ℕ)
deriving DecidableEq, Repr

/-- A recording of a call.  The path is the payload's value; `null` is `None`. -/
structure Recording where
  uuid : Option RecordingUuid := none
  startTime : Option DateTime := none
  endTime : Option DateTime := none
  path : Json := Json.null
  mixmonitorId : Json := Json.null
  endTimeIsFinal : Bool := false
deriving DecidableEq, Repr

/-! ### Participants -/

/-- The side of the call on which a participant is. -/
inductive Role where
  | source
  | destination
deriving DecidableEq, Repr

/-- The direction of a call. -/
inductive Direction where
  | internal
  | inbound
  | outbound
deriving DecidableEq, Repr

/-- An extension of a line, in confd. -/
structure Extension where
  exten : String
  context : String
deriving DecidableEq, Repr

/-- `ParticipantInfo`: what confd knows of a participant. -/
structure ParticipantInfo where
  uuid : String
  tenantUuid : String
  lineId : Option ℤ
  tags : List String
  mainExtension : Option Extension
deriving DecidableEq, Repr

/-- The attributes of a channel in `raw_participants`; an absent key is `none`.
The keys that are copied from confd come together. -/
structure RawParticipant where
  role : Option Role := none
  answered : Option Bool := none
  requested : Option Bool := none
  info : Option ParticipantInfo := none
deriving DecidableEq, Repr

/-- An entry of `participants_info`; an absent key is `none`. -/
structure ParticipantsInfo where
  userUuid : Option String := none
  answered : Option Bool := none
  name : Option String := none
  role : Option Role := none
  requested : Option Bool := none
  tags : Option (List String) := none
deriving DecidableEq, Repr

/-- `dict.update`: the keys of `q` override those of `p`. -/
def ParticipantsInfo.update (p q : ParticipantsInfo) : ParticipantsInfo where
  userUuid := q.userUuid.or p.userUuid
  answered := q.answered.or p.answered
  name := q.name.or p.name
  role := q.role.or p.role
  requested := q.requested.or p.requested
  tags := q.tags.or p.tags

/-- A participant of a call log. -/
structure CallLogParticipant where
  userUuid : String
  lineId : Option ℤ
  tags : List String
  role : Role
  answered : Option Bool := none
  requested : Option Bool := none
deriving DecidableEq, Repr

/-! ### Raw call logs -/

/-- `bool(text)`: neither `None` nor empty. -/
def truthy (s : Option String) : Bool := s.any fun t => t ≠ ""

/-- `RawCallLog`.  `destination_name` can be given any value of a payload.  The
bridges of a call are only written, so they are left out. -/
structure RawCallLog where
  date : Option DateTime := none
  dateEnd : Option DateTime := none
  sourceName : Option String := none
  sourceExten : Option String := none
  sourceInternalExten : Option String := none
  sourceInternalContext : Option String := none
  sourceInternalName : Option String := none
  requestedName : Option String := none
  requestedExten : Option String := none
  requestedContext : Option String := none
  requestedInternalExten : Option String := none
  requestedInternalContext : Option String := none
  requestedType : Option String := none
  destinationName : Json := Json.null
  destinationExten : Option String := none
  destinationInternalExten : Option String := none
  destinationInternalContext : Option String := none
  destinationLineIdentity : Option String := none
  userField : Option String := none
  dateAnswer : Option DateTime := none
  sourceLineIdentity : Option String := none
  direction : Direction := .internal
  rawParticipants : Dict String RawParticipant := []
  participantsInfo : List ParticipantsInfo := []
  participants : List CallLogParticipant := []
  recordings : List Recording := []
  celIds : List ℕ := []
  conversationId : Option String := none
  interpretCalleeBridgeEnter : Bool := true
  interpretCallerXivoUserFwd : Bool := true
  authoritativeDestinationInfo : Bool := false
  tenantUuid : Option String := none
  pendingWaitForMobilePeers : Finset String := ∅
  callerIdByChannels : Dict String (String × String) := []
  extensionFilter : ExtensionFilter := {}
  destinationDetails : List (String × String) := []
  wasForwarded : Bool := false
  blocked : Bool := false
  reachedVoicemail : Bool := false
  voicemailNumber : Option String := none
  voicemailContext : Option String := none
deriving DecidableEq

/-- `CallLog`: the columns of a call log with its child rows, and the attributes
that the generator leaves on it for the writer. -/
structure CallLog where
  tenantUuid : Option String
  date : Option DateTime
  dateAnswer : Option DateTime
  dateEnd : Option DateTime
  sourceName : Option String
  sourceExten : Option String
  sourceInternalExten : Option String
  sourceInternalContext : Option String
  sourceInternalName : Option String
  requestedExten : Option String
  requestedContext : Option String
  requestedInternalExten : Option String
  requestedInternalContext : Option String
  requestedName : Option String
  destinationName : Json
  destinationExten : Option String
  destinationInternalExten : Option String
  destinationInternalContext : Option String
  destinationLineIdentity : Option String
  userField : Option String
  sourceLineIdentity : Option String
  direction : Direction
  destinationDetails : List (String × String)
  conversationId : Option String
  blocked : Bool
  reachedVoicemail : Bool
  participants : List CallLogParticipant
  celIds : List ℕ
  recordings : List Recording
deriving DecidableEq

namespace RawCallLog

/-- `raw_participants[channame].update(...)`. -/
def updateParticipant (call : RawCallLog) (channame : String)
    (f : RawParticipant → RawParticipant) : RawCallLog :=
  { call with rawParticipants := call.rawParticipants.upsert channame {} f }

/-- `RawCallLog.set_tenant_uuid`, with the argument already converted by `str`:
only the first tenant is kept. -/
def setTenantUuid (call : RawCallLog) (tenantUuid : String) : RawCallLog :=
  match call.tenantUuid with
  | none => { call with tenantUuid := some tenantUuid }
  | some _ => call

/-- `RawCallLog.insert_or_update_participants_info`: the first entry that
satisfies the predicate is updated, or the entry is added. -/
def insertOrUpdateParticipantsInfo (call : RawCallLog) (info : ParticipantsInfo)
    (predicate : ParticipantsInfo → Bool) : RawCallLog :=
  match call.participantsInfo.findIdx? predicate with
  | some i => { call with participantsInfo := call.participantsInfo.modify i (·.update info) }
  | none => { call with participantsInfo := call.participantsInfo ++ [info] }

/-- `ExtensionFilter.filter_call`. -/
def filterExtensions (call : RawCallLog) : RawCallLog :=
  { call with
    sourceExten := call.extensionFilter.filter call.sourceExten
    sourceInternalExten := call.extensionFilter.filter call.sourceInternalExten
    requestedExten := call.extensionFilter.filter call.requestedExten
    requestedInternalExten := call.extensionFilter.filter call.requestedInternalExten
    destinationExten := call.extensionFilter.filter call.destinationExten
    destinationInternalExten := call.extensionFilter.filter call.destinationInternalExten }

/-- The call log that `to_call_log` fills in. -/
def fillCallLog (call : RawCallLog) : CallLog :=
  { tenantUuid := call.tenantUuid
    date := call.date
    dateAnswer := call.dateAnswer
    dateEnd := call.dateEnd
    sourceName := call.sourceName
    sourceExten := call.sourceExten
    sourceInternalExten := call.sourceInternalExten
    sourceInternalContext := call.sourceInternalContext
    sourceInternalName := call.sourceInternalName
    requestedExten := call.requestedExten
    requestedContext := call.requestedContext
    requestedInternalExten := call.requestedInternalExten
    requestedInternalContext := call.requestedInternalContext
    requestedName := call.requestedName
    destinationName := call.destinationName
    destinationExten := call.destinationExten
    destinationInternalExten := call.destinationInternalExten
    destinationInternalContext := call.destinationInternalContext
    destinationLineIdentity := call.destinationLineIdentity
    userField := call.userField
    sourceLineIdentity := call.sourceLineIdentity
    direction := call.direction
    destinationDetails := call.destinationDetails
    conversationId := call.conversationId
    blocked := call.blocked
    reachedVoicemail := call.reachedVoicemail
    participants := call.participants
    celIds := call.celIds
    recordings := call.recordings }

/-- `RawCallLog.to_call_log`. -/
def toCallLog (call : RawCallLog) : Except PyError CallLog :=
  if call.date = none then .error (.invalidCallLog "date not found")
  else if ¬ (truthy call.sourceName ∨ truthy call.sourceExten) then
    .error (.invalidCallLog "source name and exten not found")
  else .ok call.fillCallLog

end RawCallLog

end CallLogd
