/-
How call logs are shown: `CDRSchema` and the schemas that it nests.

An object is dumped as a dictionary, in the order of the fields of its schema.  What the
libraries make of a single value is a parameter.
-/
import CallLogd.Listing.RecordingNames
import CallLogd.Media.World

namespace CallLogd

open Sequences Calendar

/-- The texts and numbers that the libraries make of values. -/
structure SchemaFormats where
  /-- `fields.DateTime`. -/
  dateTime : DateTime → String
  recordingUuid : RecordingKey → String
  /-- `int` of a text; `none` is a `ValueError`. -/
  int : String → Option ℤ
  /-- `str` of a list, of an object or of a number that is not an integer. -/
  str : Json → String
  setOrder : SetOrder

/-- The formats of simple values. -/
def SchemaFormats.ascii : SchemaFormats where
  dateTime date := formatUtc date
  recordingUuid
    | .uuid (.ofPath text) => text
    | .uuid (.uuid4 n) => toString n
    | .drawn callLogId index => toString callLogId ++ "." ++ toString index
  int text := text.toInt?
  str _ := ""
  setOrder := .byInsertion

/-! ### Computed fields -/

namespace CallLog

variable (log : CallLog)

/-- `CallLog.source_line_id`. -/
def sourceLineId : Option ℤ := log.sourceParticipant.bind (·.lineId)

/-- `CallLog.destination_line_id`. -/
def destinationLineId : Option ℤ := log.destinationParticipant.bind (·.lineId)

/-- `CallLog.requested_user_uuid`. -/
def requestedUserUuid : Option String :=
  (log.participants.find? fun p => p.requested = some true).map (·.userUuid)

/-- `CallLog.destination_details_dict`. -/
def destinationDetailsDict : Dict String String :=
  log.destinationDetails.foldl (fun details row => Dict.set details row.1 row.2) []

/-- `marshmallow_answered`. -/
def marshmallowAnswered : Bool := log.dateAnswer.isSome

/-- `marshmallow_duration`, if both times are known. -/
def marshmallowDuration : Option ℤ := do return (← log.dateEnd) - (← log.dateAnswer)

/-- `marshmallow_call_status`: a later assignment overrides the ones before. -/
def marshmallowCallStatus : CallStatus :=
  let status := CallStatus.unknown
  let status := if log.marshmallowAnswered then .answered else status
  let status := if log.reachedVoicemail && !log.marshmallowAnswered then .voicemail else status
  if log.blocked then .blocked else status

/-- `marshmallow_tags`. -/
def marshmallowTags (order : SetOrder) : List String :=
  order.visit (log.participants.flatMap (·.tags))

/-- The duration in seconds: `fields.TimeDelta` rounds down, and `fix_negative_duration`
puts 0 for a negative one. -/
def shownDuration : Option ℤ := log.marshmallowDuration.map fun d => max (d / second) 0

end CallLog

/-- The value of a status. -/
def CallStatus.text : CallStatus → String
  | answered => "answered"
  | blocked => "blocked"
  | voicemail => "voicemail"
  | unknown => "unknown"

/-! ### Schemas -/

/-- The types of the details of a destination. -/
inductive DetailField where
  | integer
  | text
deriving DecidableEq, Repr

/-- `destination_details_schemas`: the fields of each type, besides the type itself. -/
def destinationDetailsSchemas : Dict String (Dict String DetailField) :=
  [("conference", [("conference_id", .integer)]),
    ("meeting", [("meeting_uuid", .text), ("meeting_name", .text)]),
    ("user", [("user_uuid", .text), ("user_name", .text)]),
    ("unknown", []),
    ("group", [("group_label", .text), ("group_id", .integer)]),
    ("voicemail", [("voicemail_id", .integer), ("voicemail_name", .text)])]

/-- A text, or null. -/
def textJson (text : Option String) : Json := text.elim .null .str

section Dump

variable (formats : SchemaFormats)

/-- One detail. -/
def DetailField.serialize (text : String) : DetailField → Except PyError Json
  | integer => (formats.int text).elim (.error .valueError) fun n => .ok (.int n)
  | .text => .ok (.str text)

/-- `DestinationDetailsField._serialize`: the type chooses the schema, and the details that
the schema does not have are left out. -/
def DestinationDetailsField.serialize (details : Dict String String) :
    Except PyError (Dict String Json) := do
  let type := (Dict.get? details "type").getD "unknown"
  match Dict.get? destinationDetailsSchemas type with
  | none => throw (.keyError type)
  | some fields =>
      let known := fields.filterMap fun (key, field) =>
        (Dict.get? details key).map fun text => (key, field, text)
      let shown ← known.mapM fun (key, field, text) => do
        return (key, ← field.serialize formats text)
      return ("type", .str type) :: shown

/-- A time, or null. -/
def SchemaFormats.timeJson (time : Option DateTime) : Json :=
  time.elim .null fun time => .str (formats.dateTime time)

/-- A number, or null. -/
def intJson (n : Option ℤ) : Json := n.elim .null .int

/-- `RecordingSchema.dump`, without the conversation. -/
def RecordingSchema.dump (callLogId : ℕ) (row : RecordingKey × Recording) : Dict String Json :=
  let uuid := formats.recordingUuid row.1
  let start : ZonedTime := ⟨row.2.startTime.getD 0, some 0⟩
  [("uuid", .str uuid),
    ("start_time", formats.timeJson row.2.startTime),
    ("end_time", formats.timeJson row.2.endTime),
    ("deleted", .bool row.2.deleted),
    ("filename", .str (NamedRecording.filename ⟨start, callLogId, uuid⟩))]

/-- The recordings of a call log, as the schema dumps them. -/
def StoredCallLog.shownRecordings (stored : StoredCallLog) : List (Dict String Json) :=
  (sortedBy (fun row => row.2.startTime.getD 0) stored.recordingRows).map
    (RecordingSchema.dump formats stored.id)

/-- The fields of `CDRSchema` up to the tags, with the details of the destination. -/
def StoredCallLog.shownFields (stored : StoredCallLog) (details : Dict String Json) :
    Dict String Json :=
  let log := stored.log
  [("id", .int stored.id),
    ("tenant_uuid", textJson log.tenantUuid),
    ("start", formats.timeJson log.date),
    ("end", formats.timeJson log.dateEnd),
    ("answered", .bool log.marshmallowAnswered),
    ("answer", formats.timeJson log.dateAnswer),
    ("duration", intJson log.shownDuration),
    ("call_direction", .str log.direction.text),
    ("call_status", .str log.marshmallowCallStatus.text),
    ("conversation_id", textJson log.conversationId),
    ("destination_details", .obj details),
    ("destination_extension", textJson log.destinationExten),
    ("destination_internal_context", textJson log.destinationInternalContext),
    ("destination_internal_extension", textJson log.destinationInternalExten),
    ("destination_line_id", intJson log.destinationLineId),
    ("destination_name", textJson log.destinationNameText),
    ("destination_user_uuid", textJson log.destinationUserUuid),
    ("requested_name", textJson log.requestedName),
    ("requested_context", textJson log.requestedContext),
    ("requested_extension", textJson log.requestedExten),
    ("requested_internal_context", textJson log.requestedInternalContext),
    ("requested_internal_extension", textJson log.requestedInternalExten),
    ("requested_user_uuid", textJson log.requestedUserUuid),
    ("source_extension", textJson log.sourceExten),
    ("source_internal_context", textJson log.sourceInternalContext),
    ("source_internal_name", textJson log.sourceInternalName),
    ("source_internal_extension", textJson log.sourceInternalExten),
    ("source_line_id", intJson log.sourceLineId),
    ("source_name", textJson log.sourceName),
    ("source_user_uuid", textJson log.sourceUserUuid)]

/-- `CDRSchema(exclude=exclude).dump`; only the tags are ever excluded. -/
def CDRSchema.dump (exclude : List String) (stored : StoredCallLog) :
    Except PyError (Dict String Json) := do
  let details ← DestinationDetailsField.serialize formats stored.log.destinationDetailsDict
  let tags := (stored.log.marshmallowTags formats.setOrder).map Json.str
  let recordings := (stored.shownRecordings formats).map Json.obj
  return (stored.shownFields formats details ++
    [("tags", Json.arr tags), ("recordings", Json.arr recordings)]).filter fun field =>
      field.1 ∉ exclude

/-- `CDRSchemaList(exclude=...).dump`. -/
def CDRSchemaList.dump (exclude : List String) (list : CDRList) :
    Except PyError (Dict String Json) := do
  let items ← list.items.mapM (CDRSchema.dump formats exclude)
  return [("items", Json.arr (items.map Json.obj)), ("total", Json.int list.total),
    ("filtered", Json.int list.filtered)]

end Dump

end CallLogd
