/-
Channel events, and what the model takes from outside the repository.

`CEL` has the columns of a channel event that the service reads.  The column
`call_log_id`, which links an event to its call log, is kept apart in `CELRow`:
only the database layer and the list of call logs to delete look at it.
-/
import Mathlib.Data.List.Dedup
import CallLogd.Lib.Dict
import CallLogd.Lib.Json

namespace CallLogd

/-- A point in time, in microseconds. -/
abbrev DateTime := ℤ

/-- The event types of `cel_event_type.py`; any other text is `other`. -/
inductive CELEventType where
  | answer
  | appEnd
  | appStart
  | attendedTransfer
  | blindTransfer
  | bridgeEnd
  | bridgeStart
  | bridgeEnter
  | bridgeExit
  | chanStart
  | chanEnd
  | forward
  | hangup
  | linkedidEnd
  | mixmonitorStart
  | mixmonitorStop
  | pickup
  | transfer
  | wazoMeetingName
  | wazoConference
  | xivoFromS
  | xivoIncall
  | xivoOutcall
  | xivoUserFwd
  | wazoUserMissedCall
  | wazoUserBlockedCall
  | wazoCallLogDestination
  | wazoCallLogRequestedInternal
  | wazoOriginateAllLines
  | other (text : String)
deriving DecidableEq, Repr

/-- A channel event. -/
structure CEL where
  id : ℕ
  eventtype : CELEventType
  eventtime : DateTime
  cidName : String := ""
  cidNum : String := ""
  exten : String := ""
  context : String := ""
  channame : String := ""
  appname : String := ""
  appdata : String := ""
  uniqueid : String
  linkedid : String
  userfield : String := ""
  peer : String := ""
  extra : Option String := none
deriving DecidableEq, Repr

/-- A row of the `cel` table: an event and the call log it is associated to. -/
structure CELRow extends CEL where
  callLogId : Option ℕ := none
deriving DecidableEq, Repr

/-- The exceptions that the modelled code raises. -/
inductive PyError where
  | assertionError
  | attributeError
  | indexError
  | keyError (key : String)
  | typeError
  | valueError
  | runtimeError
  | recursionError
  /-- `InvalidCallLogException`, with its message. -/
  | invalidCallLog (message : String)
  /-- `InvalidChannelError` of the channel-name parser. -/
  | invalidChannel
  /-- `requests.exceptions.HTTPError`. -/
  | httpError
  /-- Any other `requests.exceptions.RequestException`. -/
  | requestException
deriving DecidableEq, Repr

/-- An order in which the members of a set are visited.  `visit l` lists the
members of the set that was built by inserting the elements of `l`. -/
structure SetOrder where
  visit : List String → List String
  nodup : ∀ l, (visit l).Nodup
  mem_visit : ∀ l x, x ∈ visit l ↔ x ∈ l

/-- The set order that visits the members by their last insertion. -/
def SetOrder.byInsertion : SetOrder where
  visit := List.dedup
  nodup := List.nodup_dedup
  mem_visit _ _ := List.mem_dedup

/-- What the code calls outside the repository, apart from confd. -/
structure Externals where
  /-- `str.isalnum` of one character. -/
  isAlnum : Char → Bool
  /-- `urllib.parse.unquote`. -/
  unquote : String → String
  /-- `str` of a floating-point number. -/
  floatStr : Float.Model → String
  /-- The limits under which `json.loads` decodes a payload. -/
  jsonLimits : Json.Limits
  /-- `xivo.asterisk.line_identity.identity_from_channel`. -/
  identityFromChannel : String → String
  /-- `xivo.asterisk.protocol_interface.protocol_interface_from_channel`. -/
  protocolInterfaceFromChannel : String → Except PyError (String × String)
  /-- The iteration order of sets. -/
  setOrder : SetOrder

/-- The text before the last dash. -/
def beforeLastDash (s : List Char) : List Char :=
  ((s.reverse.dropWhile (· ≠ '-')).drop 1).reverse

/-- The functions as they behave on the ASCII texts of a simple call. -/
def Externals.ascii : Externals where
  isAlnum := Char.isAlphanum
  unquote := id
  floatStr x := (Double.value x).elim "nan" fun q => toString q.num
  jsonLimits := { digits := 4300, nesting := 900 }
  identityFromChannel channame :=
    String.ofList (Text.lower (beforeLastDash channame.toList))
  protocolInterfaceFromChannel channame :=
    match Text.splitOnce ['/'] channame.toList with
    | some (protocol, interface) =>
        .ok (String.ofList protocol, String.ofList (beforeLastDash interface))
    | none => .error .invalidChannel
  setOrder := .byInsertion

end CallLogd
