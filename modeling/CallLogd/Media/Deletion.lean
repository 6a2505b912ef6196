/-
The deletion of recordings on request: `plugins/cdr` and `queries/recording.py`.

The row of a recording is committed without its path before its file is removed.
-/
import Mathlib.Logic.Relation
import CallLogd.Media.World

namespace CallLogd

open Sequences Transactions

/-! ### Rows -/

/-- A row of the table of recordings: its call log, its key and its columns. -/
structure RecordingRow where
  callLogId : ℕ
  key : RecordingKey
  recording : Recording

/-- The recordings of a call log as the relationship orders them. -/
def StoredCallLog.recordings (stored : StoredCallLog) : List RecordingRow :=
  (sortedBy (·.2.startTime.getD 0) stored.recordingRows).map fun row =>
    ⟨stored.id, row.1, row.2⟩

namespace RecordingDAO

/-- `find_by`, of a call log and a key. -/
def findBy (callLogId : ℕ) (key : RecordingKey) (db : Database) : Option RecordingRow :=
  (db.callLogs.flatMap (·.recordings)).find? fun row =>
    row.callLogId = callLogId && row.key = key

/-- `delete_media_by`, of a call log and a key. -/
def deleteMediaBy (callLogId : ℕ) (key : RecordingKey) (db : Database) : Database :=
  db.mapRecordings fun stored =>
    if stored.id = callLogId then
      stored.recordingRows.map fun row => if row.1 = key then row.2.delete else row.2
    else stored.log.recordings

end RecordingDAO

/-! ### Requests -/

/-- `os.remove`. -/
def removeFile (refused : Finset String) (path : String) : Program World Files.OSError Unit :=
  ExceptT.mk fun w =>
    match Files.remove refused path w.files with
    | .ok files => (.ok (), { w with files := files })
    | .error e => (.error e, w)

/-- `RecordingService.delete_media`. -/
def RecordingService.deleteMedia (refused : Finset String) (callLogId : ℕ) (key : RecordingKey)
    (path : Option String) : Program World Files.OSError Unit := do
  modify fun w =>
    { w with
      tables := { w.tables with db := RecordingDAO.deleteMediaBy callLogId key w.tables.db } }
  match path with
  | some path => removeFile refused path
  | none => pure ()

/-- The errors of the requests. -/
inductive DeletionError where
  | cdrNotFound (cdrId : ℤ)
  | recordingNotFound (key : RecordingKey)
  | cdrRecordingMediaFSPermission (callLogId : ℕ) (key : RecordingKey) (path : Json)
  | recordingMediaFSPermission (key : RecordingKey) (path : Json)
deriving DecidableEq

/-- `CDRService.get`, of an integer of a request. -/
def CDRService.get (rules : TextRules) (tenantUuids : List String) (cdrId : ℤ) (db : Database) :
    Option StoredCallLog :=
  match cdrId with
  | .ofNat cdrId => CallLogDAO.getById rules cdrId (some tenantUuids) [] db
  | .negSucc _ => none

section Resources

variable (rules : TextRules) (tenantUuids : List String) (refused : Finset String)

/-- The recordings of the call logs of a request, unless one of these is not found. -/
def recordingsToDelete (db : Database) : List ℤ → Except DeletionError (List RecordingRow)
  | [] => .ok []
  | cdrId :: cdrIds =>
      match CDRService.get rules tenantUuids cdrId db with
      | none => .error (.cdrNotFound cdrId)
      | some cdr => (cdr.recordings ++ ·) <$> recordingsToDelete db cdrIds

/-- `RecordingsMediaResource.delete`. -/
def RecordingsMediaResource.delete (cdrIds : List ℤ) : Program World DeletionError Unit := do
  let w ← get
  match recordingsToDelete rules tenantUuids w.tables.db cdrIds with
  | .error e => throw e
  | .ok recordings =>
      recordings.forM fun row =>
        handle (RecordingService.deleteMedia refused row.callLogId row.key row.recording.filePath)
          fun
          | .permissionError =>
              throw (.cdrRecordingMediaFSPermission row.callLogId row.key row.recording.path)
          | .fileNotFoundError => pure ()

/-- `RecordingMediaItemResource.delete`: the id of the call log is in the route. -/
def RecordingMediaItemResource.delete (cdrId : ℕ) (key : RecordingKey) :
    Program World DeletionError Unit := do
  let w ← get
  match CDRService.get rules tenantUuids cdrId w.tables.db with
  | none => throw (.cdrNotFound cdrId)
  | some _ =>
      match RecordingDAO.findBy cdrId key w.tables.db with
      | none => throw (.recordingNotFound key)
      | some row =>
          handle (RecordingService.deleteMedia refused cdrId key row.recording.filePath)
            fun
            | .permissionError => throw (.recordingMediaFSPermission key row.recording.path)
            | .fileNotFoundError => pure ()

end Resources

/-- A request to delete recordings, for the tenants of its token. -/
inductive DeletionRequest where
  | bulk (tenantUuids : List String) (cdrIds : List ℤ)
  | single (tenantUuids : List String) (cdrId : ℕ) (key : RecordingKey)

/-- What a request does. -/
def DeletionRequest.program (rules : TextRules) (refused : Finset String) :
    DeletionRequest → Program World DeletionError Unit
  | bulk tenantUuids cdrIds => RecordingsMediaResource.delete rules tenantUuids refused cdrIds
  | single tenantUuids cdrId key =>
      RecordingMediaItemResource.delete rules tenantUuids refused cdrId key

/-- The recordings whose media a request deletes. -/
def DeletionRequest.rows (rules : TextRules) (db : Database) :
    DeletionRequest → List RecordingRow
  | bulk tenantUuids cdrIds =>
      match recordingsToDelete rules tenantUuids db cdrIds with
      | .error _ => []
      | .ok recordings => recordings
  | single tenantUuids cdrId key =>
      match CDRService.get rules tenantUuids cdrId db with
      | none => []
      | some _ => (RecordingDAO.findBy cdrId key db).toList

/-! ### Files and rows -/

/-- The row of a recording points to a file. -/
def Database.HasFile (db : Database) (callLogId : ℕ) (key : RecordingKey) (path : String) : Prop :=
  ∃ stored ∈ db.callLogs, stored.id = callLogId ∧
    ∃ recording, (key, recording) ∈ stored.recordingRows ∧ recording.filePath = some path

/-- The key of a recording is a primary key. -/
def Database.DistinctRecordings (db : Database) : Prop :=
  ∀ stored ∈ db.callLogs, (stored.recordingRows.map Prod.fst).Nodup

/-- Every existing file is referenced by the path of a recording. -/
def World.Referenced (w : World) : Prop := ∀ path ∈ w.files, w.tables.db.Points path

instance (db : Database) : Decidable db.DistinctRecordings :=
  inferInstanceAs (Decidable (∀ stored ∈ db.callLogs, (stored.recordingRows.map Prod.fst).Nodup))

instance (w : World) : Decidable w.Referenced :=
  inferInstanceAs (Decidable (∀ path ∈ w.files, w.tables.db.Points path))

lemma map_snd_recordingRows {stored : StoredCallLog} :
    stored.recordingRows.map Prod.snd = stored.log.recordings := by
  rw [StoredCallLog.recordingRows, List.map_map]
  exact List.zipIdx_map_fst _ _

lemma points_iff {db : Database} {path : String} :
    db.Points path ↔ ∃ callLogId key, db.HasFile callLogId key path := by
  constructor
  · rintro ⟨stored, hmem, recording, hrecording, hpath⟩
    rw [← map_snd_recordingRows] at hrecording
    obtain ⟨⟨key, recording⟩, hrow, rfl⟩ := List.mem_map.1 hrecording
    exact ⟨stored.id, key, stored, hmem, rfl, recording, hrow, hpath⟩
  · rintro ⟨-, key, stored, hmem, rfl, recording, hrow, hpath⟩
    refine ⟨stored, hmem, recording, ?_, hpath⟩
    rw [← map_snd_recordingRows]
    exact List.mem_map_of_mem hrow

/-- A row is in the table. -/
def Database.HasRow (db : Database) (row : RecordingRow) : Prop :=
  ∃ stored ∈ db.callLogs, stored.id = row.callLogId ∧
    (row.key, row.recording) ∈ stored.recordingRows

/-- The file of a row is that of its key. -/
lemma Database.HasRow.filePath {db : Database} {row : RecordingRow} {path : String}
    (h : db.HasRow row) (hkeys : db.DistinctRecordings)
    (hfile : db.HasFile row.callLogId row.key path) : row.recording.filePath = some path := by
  obtain ⟨stored, hmem, hid, hrow⟩ := h
  obtain ⟨stored', hmem', hid', recording, hrow', hpath⟩ := hfile
  obtain rfl := List.inj_on_of_nodup_map db.callLogs_nodup hmem hmem' (hid.trans hid'.symm)
  have heq : (row.key, row.recording) = (row.key, recording) :=
    List.inj_on_of_nodup_map (hkeys stored hmem) hrow hrow' rfl
  rw [show row.recording = recording from congrArg Prod.snd heq, hpath]

/-- A change of the recordings that keeps their uuids keeps their keys. -/
lemma recordingRows_withRecordings_map {stored : StoredCallLog}
    {f : RecordingKey × Recording → Recording} (hf : ∀ row, (f row).uuid = row.2.uuid) :
    (stored.withRecordings (stored.recordingRows.map f)).recordingRows =
      stored.recordingRows.map fun row => (row.1, f row) := by
  refine List.ext_getElem (by simp [StoredCallLog.recordingRows]) fun i h h' => ?_
  simp [StoredCallLog.recordingRows, hf]

/-- A deletion as one change of all the rows. -/
lemma deleteMediaBy_eq {db : Database} {callLogId : ℕ} {key : RecordingKey} :
    RecordingDAO.deleteMediaBy callLogId key db = db.mapRecordings fun stored =>
      stored.recordingRows.map fun row =>
        if stored.id = callLogId ∧ row.1 = key then row.2.delete else row.2 := by
  refine congrArg db.mapRecordings (funext fun stored => ?_)
  by_cases hid : stored.id = callLogId
  · simp only [hid, if_true, true_and]
  · simp only [hid, if_false, false_and]
    exact map_snd_recordingRows.symm

lemma uuid_deletion {callLogId : ℕ} {key : RecordingKey} (stored : StoredCallLog)
    (row : RecordingKey × Recording) :
    (if stored.id = callLogId ∧ row.1 = key then row.2.delete else row.2).uuid = row.2.uuid := by
  split <;> rfl

lemma distinctRecordings_deleteMediaBy {db : Database} {callLogId : ℕ} {key : RecordingKey}
    (h : db.DistinctRecordings) :
    (RecordingDAO.deleteMediaBy callLogId key db).DistinctRecordings := by
  intro changed hchanged
  rw [deleteMediaBy_eq] at hchanged
  obtain ⟨stored, hmem, rfl⟩ := List.mem_map.1 hchanged
  rw [recordingRows_withRecordings_map (uuid_deletion stored), List.map_map]
  exact h stored hmem

/-- A deletion takes away the path of its row, and nothing else. -/
lemma hasFile_deleteMediaBy {db : Database} {callLogId id : ℕ} {key key' : RecordingKey}
    {path : String} :
    (RecordingDAO.deleteMediaBy callLogId key db).HasFile id key' path ↔
      db.HasFile id key' path ∧ ¬ (id = callLogId ∧ key' = key) := by
  rw [deleteMediaBy_eq]
  constructor
  · rintro ⟨_, hchanged, hid, recording, hrow, hpath⟩
    obtain ⟨stored, hmem, rfl⟩ := List.mem_map.1 hchanged
    rw [recordingRows_withRecordings_map (uuid_deletion stored)] at hrow
    obtain ⟨⟨key', recording⟩, hbefore, heq⟩ := List.mem_map.1 hrow
    obtain ⟨rfl, rfl⟩ := Prod.mk.inj heq
    by_cases hdeleted : stored.id = callLogId ∧ key' = key
    · rw [if_pos hdeleted] at hpath
      cases hpath
    · rw [if_neg hdeleted] at hpath
      refine ⟨⟨stored, hmem, hid, recording, hbefore, hpath⟩, ?_⟩
      rwa [← hid]
  · rintro ⟨⟨stored, hmem, rfl, recording, hrow, hpath⟩, hkept⟩
    refine ⟨_, List.mem_map_of_mem hmem, rfl, recording, ?_, hpath⟩
    rw [recordingRows_withRecordings_map (uuid_deletion stored), List.mem_map]
    refine ⟨(key', recording), hrow, ?_⟩
    rw [if_neg hkept]

/-! ### Requests keep files and rows in step -/

/-- The keys are distinct, and the rows reference the existing files. -/
structure World.InStep (w : World) : Prop where
  distinct : w.tables.db.DistinctRecordings
  referenced : w.Referenced

/-- The paths of the rows and the files are among those of before. -/
structure World.Within (w' w : World) : Prop where
  hasFile : ∀ callLogId key path, w'.tables.db.HasFile callLogId key path →
    w.tables.db.HasFile callLogId key path
  files : w'.files ⊆ w.files

section

variable {refused : Finset String} {callLogId : ℕ} {key : RecordingKey} {path : Option String}
  {w : World}

lemma snd_run_removeFile {path : String} :
    (run (removeFile refused path) w).2 =
      { w with files := w.files.filter fun file => path = file → file ∈ refused } := by
  have hrun : run (removeFile refused path) w =
      match Files.remove refused path w.files with
      | .ok files => (.ok (), { w with files := files })
      | .error e => (.error e, w) := rfl
  have hfilter : ∀ files : Finset String,
      (∀ file, file ∈ files ↔ file ∈ w.files ∧ (path = file → file ∈ refused)) →
      files = w.files.filter fun file => path = file → file ∈ refused := by
    intro files h
    ext file
    rw [h, Finset.mem_filter]
  rw [hrun, Files.remove]
  by_cases hrefused : path ∈ refused
  · rw [if_pos hrefused]
    refine congrArg (World.mk _) (hfilter w.files fun file => ?_)
    exact ⟨fun h => ⟨h, fun heq => heq ▸ hrefused⟩, And.left⟩
  · rw [if_neg hrefused]
    have hkept : ∀ file, (path = file → file ∈ refused) ↔ file ≠ path :=
      fun file => ⟨fun h heq => hrefused (heq ▸ h heq.symm), fun h heq => absurd heq.symm h⟩
    by_cases hexists : path ∈ w.files
    · rw [if_pos hexists]
      refine congrArg (World.mk _) (hfilter _ fun file => ?_)
      rw [Finset.mem_erase, hkept, and_comm]
    · rw [if_neg hexists]
      refine congrArg (World.mk _) (hfilter w.files fun file => ?_)
      rw [hkept]
      exact ⟨fun h => ⟨h, fun heq => hexists (heq ▸ h)⟩, And.left⟩

/-- What a deletion leaves behind, whether or not it succeeds. -/
lemma snd_run_deleteMedia :
    (run (RecordingService.deleteMedia refused callLogId key path) w).2 =
      ⟨{ w.tables with db := RecordingDAO.deleteMediaBy callLogId key w.tables.db },
        w.files.filter fun file => path = some file → file ∈ refused⟩ := by
  cases path with
  | none =>
      have hfiles : w.files = w.files.filter fun file => none = some file → file ∈ refused := by
        simp
      exact congrArg (World.mk _) hfiles
  | some path =>
      simp only [Option.some.injEq]
      exact snd_run_removeFile

variable (refused callLogId key path w) in
lemma within_deleteMedia :
    (run (RecordingService.deleteMedia refused callLogId key path) w).2.Within w := by
  rw [snd_run_deleteMedia]
  exact ⟨fun _ _ _ h => (hasFile_deleteMediaBy.1 h).1, Finset.filter_subset _ _⟩

/-- A deletion with the path of its row keeps files and rows in step, unless the removal
of an existing file is refused. -/
lemma inStep_deleteMedia (h : w.InStep)
    (hpath : ∀ file, w.tables.db.HasFile callLogId key file → path = some file)
    (hrefused : ∀ file, path = some file → file ∈ w.files → file ∉ refused) :
    (run (RecordingService.deleteMedia refused callLogId key path) w).2.InStep := by
  rw [snd_run_deleteMedia]
  refine ⟨distinctRecordings_deleteMediaBy h.distinct, fun file hexists => ?_⟩
  obtain ⟨hbefore, hkept⟩ := Finset.mem_filter.1 hexists
  obtain ⟨id, key', hfile⟩ := points_iff.1 (h.referenced file hbefore)
  refine points_iff.2 ⟨id, key', hasFile_deleteMediaBy.2 ⟨hfile, ?_⟩⟩
  -- the file of the deleted row is gone
  rintro ⟨rfl, rfl⟩
  have hsome := hpath file hfile
  exact hrefused file hsome hbefore (hkept hsome)

/-- The rows of a request can be deleted: their paths are those of the table, and no
removal of an existing file is refused. -/
def World.Permits (w : World) (refused : Finset String) (row : RecordingRow) : Prop :=
  (∀ file, w.tables.db.HasFile row.callLogId row.key file →
    row.recording.filePath = some file) ∧
  ∀ file, row.recording.filePath = some file → file ∈ w.files → file ∉ refused

lemma World.Permits.of_within {w' : World} {row : RecordingRow} (h : w.Permits refused row)
    (hwithin : w'.Within w) : w'.Permits refused row :=
  ⟨fun file hfile => h.1 file (hwithin.hasFile _ _ _ hfile),
    fun file hpath hexists => h.2 file hpath (hwithin.files hexists)⟩

/-- A handler that changes nothing. -/
lemma snd_run_handle {σ ε ε' α : Type} {m : Program σ ε α} {h : ε → Program σ ε' α} {s : σ}
    (hh : ∀ e s, (run (h e) s).2 = s) : (run (handle m h) s).2 = (run m s).2 := by
  rw [run_handle]
  cases run m s with
  | mk r s' =>
      cases r with
      | ok => rfl
      | error e => exact hh e s'

/-- The deletions of a request keep files and rows in step, wherever they stop. -/
lemma inStep_forM_deleteMedia
    {onError : RecordingRow → Files.OSError → Program World DeletionError Unit}
    (honError : ∀ row e w, (run (onError row e) w).2 = w) {rows : List RecordingRow}
    (h : w.InStep) (hrows : ∀ row ∈ rows, w.Permits refused row) :
    (run (rows.forM fun row =>
      handle (RecordingService.deleteMedia refused row.callLogId row.key row.recording.filePath)
        (onError row)) w).2.InStep := by
  induction rows generalizing w with
  | nil => exact h
  | cons row rows ih =>
      have hpermits := hrows row List.mem_cons_self
      have hstep := inStep_deleteMedia h hpermits.1 hpermits.2
      have hwithin := within_deleteMedia refused row.callLogId row.key row.recording.filePath w
      rw [run_forM_cons]
      rw [← snd_run_handle (h := onError row) (honError row)] at hstep hwithin
      cases hrun : run (handle (RecordingService.deleteMedia refused row.callLogId row.key
          row.recording.filePath) (onError row)) w with
      | mk r w' =>
          rw [hrun] at hstep hwithin
          cases r with
          | error e => exact hstep
          | ok =>
              exact ih hstep fun row' hmem =>
                (hrows row' (List.mem_cons_of_mem _ hmem)).of_within hwithin

end

lemma hasRow_of_mem_recordings {db : Database} {stored : StoredCallLog} {row : RecordingRow}
    (hmem : stored ∈ db.callLogs) (hrow : row ∈ stored.recordings) : db.HasRow row := by
  obtain ⟨⟨key, recording⟩, hsorted, rfl⟩ := List.mem_map.1 hrow
  exact ⟨stored, hmem, rfl, mem_sortedBy.1 hsorted⟩

lemma mem_of_get_eq_some {rules : TextRules} {tenantUuids : List String} {cdrId : ℤ}
    {db : Database} {stored : StoredCallLog}
    (h : CDRService.get rules tenantUuids cdrId db = some stored) : stored ∈ db.callLogs := by
  cases cdrId with
  | ofNat => exact List.mem_of_find?_eq_some h
  | negSucc => cases h

lemma hasRow_of_mem_recordingsToDelete {rules : TextRules} {tenantUuids : List String}
    {db : Database} {cdrIds : List ℤ} {rows : List RecordingRow}
    (h : recordingsToDelete rules tenantUuids db cdrIds = .ok rows) :
    ∀ row ∈ rows, db.HasRow row := by
  induction cdrIds generalizing rows with
  | nil =>
      cases h
      exact fun row hrow => absurd hrow List.not_mem_nil
  | cons cdrId cdrIds ih =>
      rw [recordingsToDelete] at h
      cases hget : CDRService.get rules tenantUuids cdrId db with
      | none =>
          rw [hget] at h
          cases h
      | some cdr =>
          rw [hget] at h
          cases hrest : recordingsToDelete rules tenantUuids db cdrIds with
          | error e =>
              rw [hrest] at h
              cases h
          | ok rest =>
              rw [hrest] at h
              obtain rfl : cdr.recordings ++ rest = rows := Except.ok.inj h
              intro row hrow
              rcases List.mem_append.1 hrow with hrow | hrow
              · exact hasRow_of_mem_recordings (mem_of_get_eq_some hget) hrow
              · exact ih hrest row hrow

lemma hasRow_of_findBy {db : Database} {callLogId : ℕ} {key : RecordingKey} {row : RecordingRow}
    (h : RecordingDAO.findBy callLogId key db = some row) :
    db.HasRow row ∧ row.callLogId = callLogId ∧ row.key = key := by
  have hkey := List.find?_some h
  simp only [Bool.and_eq_true, decide_eq_true_eq] at hkey
  obtain ⟨stored, hmem, hrow⟩ := List.mem_flatMap.1 (List.mem_of_find?_eq_some h)
  exact ⟨hasRow_of_mem_recordings hmem hrow, hkey⟩

/-- No removal of an existing file of a request is refused. -/
def DeletionRequest.Granted (rules : TextRules) (refused : Finset String) (w : World)
    (request : DeletionRequest) : Prop :=
  ∀ row ∈ request.rows rules w.tables.db, ∀ path ∈ w.files,
    row.recording.filePath = some path → path ∉ refused

section

variable {rules : TextRules} {refused : Finset String} {w : World}

lemma permits_of_hasRow {row : RecordingRow} (h : w.InStep) (hrow : w.tables.db.HasRow row)
    (hgranted : ∀ path ∈ w.files, row.recording.filePath = some path → path ∉ refused) :
    w.Permits refused row :=
  ⟨fun _ hfile => hrow.filePath h.distinct hfile,
    fun path hpath hexists => hgranted path hexists hpath⟩

/-- A request keeps files and rows in step. -/
lemma inStep_request {request : DeletionRequest} (h : w.InStep)
    (hgranted : request.Granted rules refused w) :
    (run (request.program rules refused) w).2.InStep := by
  cases request with
  | bulk tenantUuids cdrIds =>
      show (run (RecordingsMediaResource.delete rules tenantUuids refused cdrIds) w).2.InStep
      rw [RecordingsMediaResource.delete, run_bind_of_ok run_get]
      cases hrows : recordingsToDelete rules tenantUuids w.tables.db cdrIds with
      | error e => exact h
      | ok rows =>
          refine inStep_forM_deleteMedia (fun row e w => ?_) h fun row hmem => ?_
          · cases e <;> rfl
          · refine permits_of_hasRow h (hasRow_of_mem_recordingsToDelete hrows row hmem) ?_
            refine hgranted row ?_
            rw [DeletionRequest.rows, hrows]
            exact hmem
  | single tenantUuids cdrId key =>
      show (run (RecordingMediaItemResource.delete rules tenantUuids refused cdrId key) w).2.InStep
      rw [RecordingMediaItemResource.delete, run_bind_of_ok run_get]
      cases hget : CDRService.get rules tenantUuids cdrId w.tables.db with
      | none => exact h
      | some cdr =>
          cases hfind : RecordingDAO.findBy cdrId key w.tables.db with
          | none => exact h
          | some row =>
              obtain ⟨hrow, rfl, rfl⟩ := hasRow_of_findBy hfind
              have hpermits : w.Permits refused row := by
                refine permits_of_hasRow h hrow (hgranted row ?_)
                rw [DeletionRequest.rows, hget]
                dsimp only
                rw [hfind]
                exact List.mem_singleton_self row
              dsimp only
              rw [snd_run_handle fun e w => by cases e <;> rfl]
              exact inStep_deleteMedia h hpermits.1 hpermits.2

/-- A bulk request that names an unknown call log fails. -/
lemma recordingsToDelete_eq_error {tenantUuids : List String} {db : Database} {cdrIds : List ℤ}
    (h : ∃ cdrId ∈ cdrIds, CDRService.get rules tenantUuids cdrId db = none) :
    ∃ cdrId ∈ cdrIds, recordingsToDelete rules tenantUuids db cdrIds =
      .error (.cdrNotFound cdrId) := by
  induction cdrIds with
  | nil => simp at h
  | cons cdrId cdrIds ih =>
      rw [recordingsToDelete]
      cases hget : CDRService.get rules tenantUuids cdrId db with
      | none => exact ⟨cdrId, List.mem_cons_self, rfl⟩
      | some cdr =>
          obtain ⟨unknown, hmem, hnone⟩ := h
          have hne : unknown ≠ cdrId := by
            rintro rfl
            rw [hnone] at hget
            cases hget
          have hmem : unknown ∈ cdrIds := (List.mem_cons.1 hmem).resolve_left hne
          obtain ⟨cdrId', hmem', herror⟩ := ih ⟨unknown, hmem, hnone⟩
          refine ⟨cdrId', List.mem_cons_of_mem _ hmem', ?_⟩
          dsimp only
          rw [herror]
          rfl

end

/-! ### Runs -/

instance (rules : TextRules) (refused : Finset String) (w : World) (request : DeletionRequest) :
    Decidable (request.Granted rules refused w) :=
  inferInstanceAs (Decidable (∀ row ∈ request.rows rules w.tables.db, ∀ path ∈ w.files,
    row.recording.filePath = some path → path ∉ refused))

/-- A request that is granted its removals. -/
def DeletionStep (rules : TextRules) (w w' : World) : Prop :=
  ∃ (request : DeletionRequest) (refused : Finset String), request.Granted rules refused w ∧
    w' = (run (request.program rules refused) w).2

/-- Requests that are granted their removals keep every existing file referenced, in any
number and order; and a bulk request that names an unknown call log changes nothing. -/
theorem referenced_of_granted_requests (rules : TextRules) :
    (∀ w₀ w, w₀.tables.db.DistinctRecordings → w₀.Referenced →
      Relation.ReflTransGen (DeletionStep rules) w₀ w → w.Referenced) ∧
    ∀ tenantUuids cdrIds refused w,
      (∃ cdrId ∈ cdrIds, CDRService.get rules tenantUuids cdrId w.tables.db = none) →
      ∃ cdrId ∈ cdrIds,
        run ((DeletionRequest.bulk tenantUuids cdrIds).program rules refused) w =
          (.error (.cdrNotFound cdrId), w) := by
  constructor
  · intro w₀ w hdistinct hreferenced hsteps
    have hinStep : w.InStep := by
      induction hsteps with
      | refl => exact ⟨hdistinct, hreferenced⟩
      | tail _ hstep ih =>
          obtain ⟨request, refused, hgranted, rfl⟩ := hstep
          exact inStep_request ih hgranted
    exact hinStep.referenced
  · intro tenantUuids cdrIds refused w hunknown
    obtain ⟨cdrId, hmem, herror⟩ := recordingsToDelete_eq_error hunknown
    refine ⟨cdrId, hmem, ?_⟩
    show run (RecordingsMediaResource.delete rules tenantUuids refused cdrIds) w = _
    rw [RecordingsMediaResource.delete, run_bind_of_ok run_get, herror]
    rfl

/-- A call log with one recording, whose file exists. -/
def oneRecording : World where
  tables :=
    { db :=
        { Database.empty with
          tenants := {"t"}
          callLogs := [⟨1,
            { ({} : RawCallLog).fillCallLog with
              tenantUuid := some "t"
              recordings := [{ uuid := some (.ofPath "r"), path := .str "r.wav" }] }⟩]
          nextCallLogId := 2
          callLogs_nodup := by decide
          callLogs_lt := by decide
          callLogs_pos := by decide
          nextCallLogId_pos := Nat.zero_lt_two } }
  files := {"r.wav"}

/-- The request of its recording. -/
def oneDeletion : DeletionRequest := .single ["t"] 1 (.uuid (.ofPath "r"))

theorem referenced_oneRecording :
    (run (oneDeletion.program TextRules.ascii ∅) oneRecording).2.Referenced :=
  (referenced_of_granted_requests TextRules.ascii).1 oneRecording _ (by decide) (by decide)
    (.single ⟨oneDeletion, ∅, by decide +kernel, rfl⟩)

/-- If the removal is refused, the file stays without its path. -/
theorem oneRecording_not_referenced :
    oneRecording.tables.db.DistinctRecordings ∧ oneRecording.Referenced ∧
      ¬ (run (oneDeletion.program TextRules.ascii {"r.wav"}) oneRecording).2.Referenced := by
  refine ⟨by decide, by decide, by decide +kernel⟩

end CallLogd
