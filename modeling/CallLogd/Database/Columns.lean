/-
The values that the columns of the call logs take, and what they keep of them.

A row with a value that its column does not take is refused: by the adaptation of the value
or by the database.  A value that is not a text is kept by a text column as what it is
written as; an array or an object is not taken.  What is too long for a column is taken if it
is blank where it is cut off.  Uuids are left in the notation in which they come.
-/
import CallLogd.RawCallLog

namespace CallLogd

/-! ### Types of columns -/

namespace Column

/-- `Text`: a text of the database has no NUL. -/
def text (value : String) : Bool := '\x00' ∉ value.toList

/-- `String(n)`. -/
def string (n : ℕ) (value : String) : Bool := (value.toList.drop n).all (· = ' ') && text value

/-- What is kept by `String(n)`. -/
def cut (n : ℕ) (value : String) : String := String.ofList (value.toList.take n)

/-- `Integer`. -/
def integer (value : ℤ) : Bool := -2 ^ 31 ≤ value && value < 2 ^ 31

/-- The text that a value of a payload is written as. -/
def written : Json → Option String
  | .str value => some value
  | .int n => some (toString n)
  | .bool b => some (if b then "true" else "false")
  | .float x =>
      if x.isNaN then some "NaN"
      else if x == Double.ofDecimal false 1 400 then some "Infinity"
      else if x == Double.ofDecimal true 1 400 then some "-Infinity"
      else (Double.written x).map String.ofList
  | .null | .arr _ | .obj _ => none

/-- A text column that is given a value of a payload. -/
def ofJson (takes : String → Bool) (value : Json) : Bool :=
  value = .null || (written value).any takes

/-- Hexadecimal digits, those of ASCII, which single underscores may separate. -/
def hexDigits : List Char → Bool
  | [] => false
  | [c] => (Json.hexValue c).isSome
  | c :: '_' :: s => (Json.hexValue c).isSome && hexDigits s
  | c :: s => (Json.hexValue c).isSome && hexDigits s

/-- `int(value, 16)` reads a number without a minus. -/
def hexNumber (value : List Char) : Bool :=
  let unsigned :=
    match Text.strip value with
    | '+' :: s => s
    | s => s
  match unsigned with
  | '0' :: 'x' :: '_' :: s | '0' :: 'X' :: '_' :: s | '0' :: 'x' :: s | '0' :: 'X' :: s =>
      hexDigits s
  | s => hexDigits s

/-- `UUIDType`: `uuid.UUID` reads the value. -/
def uuid (value : String) : Bool :=
  let plain := (Text.split "uuid:".toList (Text.split "urn:".toList value.toList).flatten).flatten
  let hex := (Text.stripBy (fun c => c = '{' || c = '}') plain).filter (· ≠ '-')
  hex.length = 32 && hexNumber hex

end Column

/-! ### The rows of a call log -/

/-- The keys that `call_logd_call_log_destination_details_key_check` admits. -/
def destinationDetailsKeys : List String :=
  ["type", "user_uuid", "user_name", "meeting_uuid", "meeting_name", "conference_id",
    "group_label", "group_id", "voicemail_id", "voicemail_name"]

namespace CallLog

variable (log : CallLog)

/-- The columns of type `String(255)`. -/
def strings : List String :=
  [log.sourceName, log.sourceExten, log.sourceLineIdentity, log.requestedExten,
    log.requestedContext, log.destinationExten, log.destinationLineIdentity, log.userField,
    log.conversationId].reduceOption

/-- The columns of type `Text`. -/
def texts : List String :=
  [log.sourceInternalName, log.sourceInternalExten, log.sourceInternalContext,
    log.requestedName, log.requestedInternalExten, log.requestedInternalContext,
    log.destinationInternalExten, log.destinationInternalContext].reduceOption

/-- The values of a call log and of its rows are such that their columns take them. -/
def Fits : Prop :=
  (∀ tenantUuid ∈ log.tenantUuid, Column.uuid tenantUuid) ∧
    (∀ value ∈ log.strings, Column.string 255 value) ∧
    (∀ value ∈ log.texts, Column.text value) ∧
    Column.ofJson (Column.string 255) log.destinationName ∧
    (∀ detail ∈ log.destinationDetails, Column.string 255 detail.2) ∧
    (∀ participant ∈ log.participants, Column.uuid participant.userUuid ∧
      (∀ lineId ∈ participant.lineId, Column.integer lineId) ∧
      ∀ tag ∈ participant.tags, Column.string 128 tag) ∧
    ∀ recording ∈ log.recordings, Column.ofJson Column.text recording.path

instance : Decidable log.Fits :=
  inferInstanceAs (Decidable (_ ∧ _ ∧ _ ∧ _ ∧ _ ∧ _ ∧ _))

/-- What the columns keep of a call log and of its rows. The list of its CELs is not stored. -/
def columns : CallLog :=
  { log with
    sourceName := log.sourceName.map (Column.cut 255)
    sourceExten := log.sourceExten.map (Column.cut 255)
    sourceLineIdentity := log.sourceLineIdentity.map (Column.cut 255)
    requestedExten := log.requestedExten.map (Column.cut 255)
    requestedContext := log.requestedContext.map (Column.cut 255)
    destinationName :=
      ((Column.written log.destinationName).map (Json.str ∘ Column.cut 255)).getD .null
    destinationExten := log.destinationExten.map (Column.cut 255)
    destinationLineIdentity := log.destinationLineIdentity.map (Column.cut 255)
    userField := log.userField.map (Column.cut 255)
    conversationId := log.conversationId.map (Column.cut 255)
    destinationDetails := log.destinationDetails.map (Prod.map id (Column.cut 255))
    participants := log.participants.map fun participant =>
      { participant with tags := participant.tags.map (Column.cut 128) }
    celIds := [] }

end CallLog

example : Column.uuid "6d2a33b1-4c2e-4b0a-9d3e-0f6f2b1d7c55" ∧ ¬ Column.uuid "None" ∧
    Column.string 3 "101 " ∧ ¬ Column.string 3 "1012" := by
  decide +kernel

end CallLogd
