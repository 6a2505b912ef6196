/-
The recordings and the exports of the service: their rows, and their files on disk.

The methods that touch both are programs over the rows and the files.  A parameter
`refused` has the files whose removal the system refuses.
-/
import CallLogd.Lib.Purging
import CallLogd.Listing.Query

namespace CallLogd

open Transactions

/-! ### Rows -/

/-- The path of a recording, unless it is null or empty. -/
def Recording.filePath (recording : Recording) : Option String :=
  match recording.path with
  | .str path => if path = "" then none else some path
  | _ => none

/-- `Recording.deleted`. -/
def Recording.deleted (recording : Recording) : Bool := recording.path = .null

/-- The primary key of a recording: its uuid, or the one that the database has drawn
for it. -/
inductive RecordingKey where
  | uuid (uuid : RecordingUuid)
  | drawn (callLogId index : ℕ)
deriving DecidableEq, Repr

/-- The recordings of a stored call log, with their keys. -/
def StoredCallLog.recordingRows (stored : StoredCallLog) : List (RecordingKey × Recording) :=
  stored.log.recordings.zipIdx.map fun p => (p.1.uuid.elim (.drawn stored.id p.2) .uuid, p.1)

/-- The status of an export. -/
inductive ExportStatus where
  | pending
  | processing
  | finished
  | deleted
  | error
deriving DecidableEq, Repr

/-- A row of the table of exports. -/
structure Export where
  uuid : String
  tenantUuid : String
  requestedAt : DateTime
  status : ExportStatus
  path : Option String := none
deriving DecidableEq, Repr

/-- The path of an export, unless it is null or empty. -/
def Export.filePath (e : Export) : Option String := e.path.filter (· ≠ "")

/-- A row of the table of retentions. -/
structure Retention where
  tenantUuid : String
  cdrDays : Option ℤ := none
  exportDays : Option ℤ := none
  recordingDays : Option ℤ := none
deriving DecidableEq, Repr

/-- The default retentions, in the row of the configuration. -/
structure RetentionConfig where
  cdrDays : ℤ
  exportDays : ℤ
  recordingDays : ℤ
deriving DecidableEq, Repr

/-- The tables that have to do with media. -/
structure Tables where
  db : Database
  exports : List Export := []
  retentions : List Retention := []
  config : Option RetentionConfig := none

/-- The tables and the files. -/
structure World where
  tables : Tables
  files : Finset String

/-! ### Programs -/

/-- What the programs over rows and files raise. -/
inductive MediaError where
  /-- `Exception('No default config found')`. -/
  | noDefaultConfig
  /-- An error of the file system. -/
  | os (e : Files.OSError)
deriving DecidableEq, Repr

/-- A program over the rows and the files. -/
abbrev Media (α : Type) := Program World MediaError α

/-- Remove the files of some rows, of which those that are missing are passed over. -/
def removeFiles (refused : Finset String) (paths : List String) : Media Unit :=
  ExceptT.mk fun w =>
    ((Files.removeAll refused paths w.files).1.mapError .os,
      { w with files := (Files.removeAll refused paths w.files).2 })

lemma run_removeFiles {refused : Finset String} {paths : List String} {w : World} :
    run (removeFiles refused paths) w =
      ((Files.removeAll refused paths w.files).1.mapError .os,
        { w with files := (Files.removeAll refused paths w.files).2 }) := rfl

/-! ### Changes of the recordings -/

/-- A call log with other recordings. -/
def StoredCallLog.withRecordings (stored : StoredCallLog) (recordings : List Recording) :
    StoredCallLog :=
  { stored with log := { stored.log with recordings := recordings } }

section

variable (stored : StoredCallLog) (recordings : List Recording)

@[simp]
lemma StoredCallLog.id_withRecordings : (stored.withRecordings recordings).id = stored.id := rfl

@[simp]
lemma StoredCallLog.recordings_withRecordings :
    (stored.withRecordings recordings).log.recordings = recordings := rfl

end

/-- Change the recordings of the call logs. -/
def Database.mapRecordings (f : StoredCallLog → List Recording) (db : Database) : Database :=
  { db with
    callLogs := db.callLogs.map fun stored => stored.withRecordings (f stored)
    callLogs_nodup := by simpa [Function.comp_def] using db.callLogs_nodup
    callLogs_lt := by simpa using db.callLogs_lt
    callLogs_pos := by simpa using db.callLogs_pos }

/-- A recording whose path is null. -/
def Recording.delete (recording : Recording) : Recording := { recording with path := .null }

/-- The path of a recording, and of a deleted one. -/
@[simp]
lemma Recording.filePath_delete (recording : Recording) : recording.delete.filePath = none := rfl

/-- The recordings of the call logs point to a file. -/
def Database.Points (db : Database) (path : String) : Prop :=
  ∃ stored ∈ db.callLogs, ∃ recording ∈ stored.log.recordings, recording.filePath = some path

instance (db : Database) (path : String) : Decidable (db.Points path) :=
  inferInstanceAs (Decidable (∃ stored ∈ db.callLogs, ∃ recording ∈ stored.log.recordings,
    recording.filePath = some path))

end CallLogd
