/-
The exports of recordings at work: requests, tasks, purges and downloads, in any order.

A request adds a row and a task.  A task does one thing at a time, so that the tasks, the
requests and the purges can come between any two things that it does.  In every state that
is reached, what is downloaded is the whole archive of the recordings that were requested
(`download_reached`).
-/
import CallLogd.Listing.Schema
import CallLogd.Media.ExportTask
import CallLogd.Media.Purge

namespace CallLogd

open Sequences

/-! ### Requests -/

/-- The recordings of a call log that have a path. -/
def StoredCallLog.recordingFiles (formats : SchemaFormats) (stored : StoredCallLog) :
    List RecordingFile :=
  (sortedBy (fun row => row.2.startTime.getD 0) stored.recordingRows).filterMap fun row =>
    row.2.filePath.map fun path =>
      { uuid := formats.recordingUuid row.1
        filename := NamedRecording.filename
          ⟨⟨row.2.startTime.getD 0, some 0⟩, stored.id, formats.recordingUuid row.1⟩
        path := path
        callLogId := stored.id }

/-- How a request for an export fails. -/
inductive ExportRequestError where
  | list (e : ListError)
  | noRecordingToExport
deriving DecidableEq, Repr

/-- `RecordingsMediaExportResource.post`, up to the recordings to download. -/
def RecordingsMediaExportResource.post (rules : TextRules) (formats : SchemaFormats)
    (params : ListParams) (db : Database) : Except ExportRequestError (List RecordingFile) := do
  let list ← (CDRService.list rules params db).mapError .list
  let recordingsToDownload := list.items.flatMap (·.recordingFiles formats)
  if recordingsToDownload = [] then throw .noRecordingToExport
  return recordingsToDownload

/-- The row of a new export. -/
def pendingRow (uuid tenantUuid : String) (requestedAt : DateTime) : Export where
  uuid := uuid
  tenantUuid := tenantUuid
  requestedAt := requestedAt
  status := .pending

/-! ### Tasks -/

/-- How far a task has come, with the row as the task has it. -/
inductive ExportTask.Stage where
  | queued
  | started (e : Export)
  | opening (e : Export)
  | writing (e : Export) (n : ℕ)
  | failing (e : Export) (error : TaskError)
  | closing (e : Export) (raised : Option TaskError)
  | finishing (e : Export)
  | mailing
  | ended (result : Except TaskError Unit)
  /-- The row to update was deleted: `StaleDataError`. -/
  | stale
deriving DecidableEq

/-- A task: its arguments, the outcomes of its calls, and how far it has come. -/
structure ExportTask where
  recordings : List RecordingFile
  tenantUuid : String
  email : Option String := none
  openingFails : Option ArchiveError := none
  writeFails : ℕ → Option ArchiveError := fun _ => none
  closingFails : Option ArchiveError := none
  mailFails : Bool := false
  stage : ExportTask.Stage := .queued

namespace ExportTask

/-- An update of a row: it must be there. -/
def update (e : Export) (next : Stage) (s : ExportState) : Stage × ExportState :=
  if s.exports.any (·.uuid = e.uuid) then
    (next, { s with exports := ExportDAO.updated e s.exports })
  else (.stale, s)

/-- The next thing that a task does. -/
def next (outputDir uuid : String) (task : ExportTask) (s : ExportState) : Stage × ExportState :=
  let archive := RecordingExportTask.fullpath uuid outputDir
  match task.stage with
  | .queued =>
      match ExportDAO.get uuid [task.tenantUuid] s.exports with
      | none => (.ended (.error (.exportNotFound uuid)), s)
      | some e => (.started (e.withStatus .processing), s)
  | .started e => update e (.opening e) s
  | .opening e =>
      match task.openingFails with
      | some error => (.ended (.error (.archive error)), s)
      | none => (.writing e 0, s.withEntries archive [])
  | .writing e n =>
      match task.recordings[n]? with
      | none => (.closing e none, s)
      | some recording =>
          match task.writeFails n with
          | none =>
              (.writing e (n + 1), { s with
                archives := Function.update s.archives archive
                  ((s.archives archive).map (· ++ [recording.entry])) })
          | some .permissionError =>
              (.failing e (.recordingMediaFSPermission recording.uuid recording.path), s)
          | some .fileNotFoundError =>
              (.failing e (.recordingMediaFSNotFound recording.uuid recording.path), s)
          | some .other => (.closing e (some (.archive .other)), s)
  | .failing e error => update (e.withStatus .error) (.closing e (some error)) s
  | .closing e raised =>
      match task.closingFails, raised with
      | some error, _ => (.ended (.error (.archive error)), s)
      | none, some error => (.ended (.error error), s)
      | none, none => (.finishing e, s)
  | .finishing e => update ((e.withPath archive).withStatus .finished) .mailing s
  | .mailing =>
      (.ended (if task.email.any (· ≠ "") ∧ task.mailFails then .error .email else .ok ()), s)
  | .ended result => (.ended result, s)
  | .stale => (.stale, s)

/-- A task that has come to another stage. -/
def withStage (task : ExportTask) (stage : Stage) : ExportTask := { task with stage := stage }

end ExportTask

/-! ### The system -/

/-- The rows, the archives and the tasks. -/
structure ExportSystem where
  state : ExportState
  tasks : String → Option ExportTask

namespace ExportSystem

/-- Nothing was exported. -/
def empty : ExportSystem := ⟨⟨[], fun _ => none⟩, fun _ => none⟩

/-- A request: the database draws a new uuid for the row, and the task is sent. -/
def request (uuid : String) (requestedAt : DateTime) (task : ExportTask) (sys : ExportSystem) :
    ExportSystem where
  state :=
    { sys.state with
      exports := sys.state.exports ++ [pendingRow uuid task.tenantUuid requestedAt] }
  tasks := Function.update sys.tasks uuid (some (task.withStage .queued))

/-- The next thing that a task does. -/
def work (outputDir uuid : String) (task : ExportTask) (sys : ExportSystem) : ExportSystem where
  state := (task.next outputDir uuid sys.state).2
  tasks := Function.update sys.tasks uuid
    (some (task.withStage (task.next outputDir uuid sys.state).1))

/-- The files that the purger of exports is to remove. -/
def oldPaths (tenantUuid : String) (maxDate : DateTime) (sys : ExportSystem) : List String :=
  (sys.state.exports.filter (·.olderThan tenantUuid maxDate)).filterMap (·.filePath)

/-- A purge that has removed some files, and that has deleted the rows if it has
completed. -/
def purge (tenantUuid : String) (maxDate : DateTime) (removed : List String) (completed : Bool)
    (sys : ExportSystem) : ExportSystem where
  state :=
    { exports :=
        if completed then sys.state.exports.filter fun e => !e.olderThan tenantUuid maxDate
        else sys.state.exports
      archives := fun path => if path ∈ removed then none else sys.state.archives path }
  tasks := sys.tasks

/-- What can happen. -/
inductive Step (outputDir : String) : ExportSystem → ExportSystem → Prop
  | request (rules : TextRules) (formats : SchemaFormats) (params : ListParams) (db : Database)
      (uuid : String) (requestedAt : DateTime) (task : ExportTask) (sys : ExportSystem)
      (hpost : RecordingsMediaExportResource.post rules formats params db = .ok task.recordings)
      (huuid : IsCanonicalUuid uuid) (hnew : sys.tasks uuid = none) :
      Step outputDir sys (sys.request uuid requestedAt task)
  | work (uuid : String) (task : ExportTask) (sys : ExportSystem)
      (htask : sys.tasks uuid = some task) : Step outputDir sys (sys.work outputDir uuid task)
  | purge (tenantUuid : String) (maxDate : DateTime) (removed : List String) (completed : Bool)
      (sys : ExportSystem) (hremoved : removed ⊆ sys.oldPaths tenantUuid maxDate) :
      Step outputDir sys (sys.purge tenantUuid maxDate removed completed)

/-- The states that are reached. -/
def Reached (outputDir : String) : ExportSystem → Prop :=
  Relation.ReflTransGen (Step outputDir) empty

end ExportSystem

/-! ### Downloads -/

/-- How a download fails. -/
inductive DownloadError where
  | exportNotFound
  | exportNotDoneYet
  | exportError
  | exportFSPermission
  | exportFSNotFound
deriving DecidableEq, Repr

/-- `ExportDownloadResource.get`: the entries of the archive that is sent.  The system may
refuse to read it. -/
def ExportDownloadResource.get (refused : Bool) (exportUuid : String) (tenantUuids : List String)
    (s : ExportState) : Except DownloadError (List ArchiveEntry) :=
  match ExportDAO.get exportUuid tenantUuids s.exports with
  | none => .error .exportNotFound
  | some e =>
      if e.status ∈ [.pending, .processing] then .error .exportNotDoneYet
      else
        match e.filePath with
        | none => .error .exportNotFound
        | some path =>
            if e.status = .error then .error .exportError
            else if refused then .error .exportFSPermission
            else
              match s.archives path with
              | none => .error .exportFSNotFound
              | some entries => .ok entries

/-! ### What the rows tell of the tasks -/

/-- A row whose task has not come to its end. -/
def Export.Unfinished (row : Export) : Prop :=
  row.path = none ∧ row.status ∈ [.pending, .processing, .error]

lemma Export.Unfinished.withStatus {row : Export} {status : ExportStatus} (h : row.Unfinished)
    (hstatus : status ∈ [ExportStatus.pending, .processing, .error]) :
    (row.withStatus status).Unfinished := ⟨h.1, hstatus⟩

/-- A row whose archive is complete, unless it was purged. -/
structure Export.Complete (archive : String) (recordings : List RecordingFile) (row : Export)
    (entries : Option (List ArchiveEntry)) : Prop where
  status : row.status = .finished
  path : row.path = some archive
  entries : entries = some (recordings.map RecordingFile.entry) ∨ entries = none

/-- The row as the task has it. -/
def ExportTask.Stage.row? : ExportTask.Stage → Option Export
  | .started e | .opening e | .writing e _ | .failing e _ | .closing e _ | .finishing e => some e
  | .queued | .mailing | .ended _ | .stale => none

/-- What the row of a task is at each stage, with the archive. -/
def ExportTask.Fits (archive : String) (task : ExportTask) (row : Export)
    (entries : Option (List ArchiveEntry)) : Prop :=
  match task.stage with
  | .queued => row.Unfinished
  | .started e => row.Unfinished ∧ e = row.withStatus .processing
  | .opening e => row.Unfinished ∧ e = row
  | .writing e n => row.Unfinished ∧ e = row ∧
      entries = some ((task.recordings.take n).map RecordingFile.entry)
  | .failing e _ => row.Unfinished ∧ e = row
  | .closing e none => row.Unfinished ∧ e = row ∧
      entries = some (task.recordings.map RecordingFile.entry)
  | .closing _ (some _) => row.Unfinished
  | .finishing e => row.Unfinished ∧ e = row ∧
      entries = some (task.recordings.map RecordingFile.entry)
  | .mailing => row.Complete archive task.recordings entries
  | .ended (.ok _) => row.Complete archive task.recordings entries
  | .ended (.error _) => row.Unfinished ∨ row.Complete archive task.recordings entries
  | .stale => False

/-- The recordings of a task are those of a request. -/
def ExportTask.Requested (task : ExportTask) : Prop :=
  ∃ rules formats params db,
    RecordingsMediaExportResource.post rules formats params db = .ok task.recordings

/-- Each row belongs to a task, whose stage it fits. -/
structure ExportSystem.Invariant (outputDir : String) (sys : ExportSystem) : Prop where
  nodup : (sys.state.exports.map (·.uuid)).Nodup
  canonical : ∀ uuid task, sys.tasks uuid = some task → IsCanonicalUuid uuid
  named : ∀ uuid task, sys.tasks uuid = some task → ∀ e ∈ task.stage.row?, e.uuid = uuid
  requested : ∀ uuid task, sys.tasks uuid = some task → task.Requested
  fits : ∀ row ∈ sys.state.exports, ∃ task, sys.tasks row.uuid = some task ∧
    row.tenantUuid = task.tenantUuid ∧
    task.Fits (RecordingExportTask.fullpath row.uuid outputDir) row
      (sys.state.archives (RecordingExportTask.fullpath row.uuid outputDir))

section Paths

variable {outputDir uuid uuid' : String}

/-- A uuid does not begin with a slash. -/
lemma IsCanonicalUuid.startsWith_eq_false (h : IsCanonicalUuid uuid) (name : String) :
    (uuid ++ name).startsWith "/" = false := by
  obtain ⟨a, b, c, d, e, ⟨ha, -⟩, hdigits, huuid⟩ := h
  rw [← Bool.not_eq_true, String.startsWith_string_iff, String.toList_append, huuid]
  cases a with
  | nil => cases ha
  | cons digit a =>
      rintro ⟨rest, hrest⟩
      obtain rfl : '/' = digit := (List.cons.inj hrest).1
      have hdigit : isLowerHexDigit '/' = true := hdigits '/' (by simp)
      exact absurd hdigit (by decide)

/-- The archives of two exports are different files. -/
lemma fullpath_inj (h : IsCanonicalUuid uuid) (h' : IsCanonicalUuid uuid')
    (hpath : RecordingExportTask.fullpath uuid outputDir =
      RecordingExportTask.fullpath uuid' outputDir) : uuid = uuid' := by
  rw [RecordingExportTask.fullpath, RecordingExportTask.fullpath, osPathJoin, osPathJoin,
    h.startsWith_eq_false, h'.startsWith_eq_false, if_neg Bool.false_ne_true,
    if_neg Bool.false_ne_true] at hpath
  have htext := congrArg String.toList hpath
  split at htext
  · simpa [String.toList_inj] using htext
  · simpa [String.toList_inj] using htext

lemma fullpath_ne_empty (outputDir uuid : String) :
    RecordingExportTask.fullpath uuid outputDir ≠ "" := by
  intro hempty
  have hzip : ".zip".toList <:+ (RecordingExportTask.fullpath uuid outputDir).toList := by
    rw [RecordingExportTask.fullpath, osPathJoin]
    split
    · rw [String.toList_append]
      exact List.suffix_append _ _
    · split <;> simp only [String.toList_append, ← List.append_assoc] <;>
        exact List.suffix_append _ _
  rw [hempty] at hzip
  exact absurd hzip (by decide)

end Paths

/-! ### What a task changes -/

namespace ExportTask

variable {outputDir uuid : String} {task : ExportTask} {s : ExportState} {row e : Export}

/-- What the next thing that a task does leaves of the other exports, and the row that the
task has then. -/
structure Touches (archive uuid : String) (s : ExportState) (p : Stage × ExportState) : Prop where
  uuids : p.2.exports.map (·.uuid) = s.exports.map (·.uuid)
  others : ∀ uuid' ≠ uuid,
    p.2.exports.filter (·.uuid = uuid') = s.exports.filter (·.uuid = uuid')
  archives : ∀ path, path ≠ archive → p.2.archives path = s.archives path
  named : ∀ e ∈ p.1.row?, e.uuid = uuid

lemma Touches.rows {archive : String} {p : Stage × ExportState} (h : Touches archive uuid s p)
    (hrow : row.uuid ≠ uuid) : row ∈ p.2.exports ↔ row ∈ s.exports := by
  have hfilter := h.others row.uuid hrow
  have hmem : ∀ rows : List Export, row ∈ rows ↔ row ∈ rows.filter (·.uuid = row.uuid) :=
    fun rows => by simp
  rw [hmem, hfilter, ← hmem]

lemma touches_self {archive : String} {stage : Stage} (h : ∀ e ∈ stage.row?, e.uuid = uuid) :
    Touches archive uuid s (stage, s) :=
  ⟨rfl, fun _ _ => rfl, fun _ _ => rfl, h⟩

lemma uuid_updated {rows : List Export} :
    (ExportDAO.updated e rows).map (·.uuid) = rows.map (·.uuid) := by
  refine (List.map_map).trans (List.map_congr_left fun row _ => ?_)
  show (if row.uuid = e.uuid then e else row).uuid = row.uuid
  split
  · next heq => exact heq.symm
  · rfl

/-- The rows of an export are updated apart from the others. -/
lemma filter_updated {rows : List Export} {uuid' : String} :
    (ExportDAO.updated e rows).filter (·.uuid = uuid') =
      ExportDAO.updated e (rows.filter (·.uuid = uuid')) := by
  rw [ExportDAO.updated, List.filter_map, ExportDAO.updated]
  refine congrArg _ (List.filter_congr fun row _ => ?_)
  show decide ((if row.uuid = e.uuid then e else row).uuid = uuid') = _
  split
  · next heq => rw [heq]
  · rfl

lemma filter_updated_of_ne {rows : List Export} {uuid' : String} (h : uuid' ≠ e.uuid) :
    (ExportDAO.updated e rows).filter (·.uuid = uuid') = rows.filter (·.uuid = uuid') := by
  rw [filter_updated, ExportDAO.updated]
  refine (List.map_congr_left fun row hrow => ?_).trans (List.map_id _)
  have huuid := of_decide_eq_true (List.mem_filter.1 hrow).2
  exact if_neg fun heq => h (huuid.symm.trans heq)

lemma touches_update {archive : String} {stage : Stage} (he : e.uuid = uuid)
    (h : ∀ e ∈ stage.row?, e.uuid = uuid) : Touches archive uuid s (update e stage s) := by
  rw [update]
  split
  · exact ⟨uuid_updated, fun uuid' hne => filter_updated_of_ne fun heq => hne (heq.trans he),
      fun _ _ => rfl, h⟩
  · exact touches_self nofun

lemma touches_archives {archive : String} {stage : Stage} {entries : Option (List ArchiveEntry)}
    (h : ∀ e ∈ stage.row?, e.uuid = uuid) : Touches archive uuid s
      (stage, { s with archives := Function.update s.archives archive entries }) :=
  ⟨rfl, fun _ _ => rfl, fun _ hpath => Function.update_of_ne hpath _ _, h⟩

lemma touches_next (h : ∀ e ∈ task.stage.row?, e.uuid = uuid) :
    Touches (RecordingExportTask.fullpath uuid outputDir) uuid s (task.next outputDir uuid s) := by
  rw [next]
  cases hstage : task.stage with
  | queued =>
      dsimp only
      cases hget : ExportDAO.get uuid [task.tenantUuid] s.exports with
      | none => exact touches_self nofun
      | some e =>
          have hfound := List.find?_some hget
          simp only [Bool.and_eq_true, decide_eq_true_eq] at hfound
          refine touches_self ?_
          rintro _ ⟨⟩
          exact hfound.2
  | started e | failing e error =>
      rw [hstage] at h
      refine touches_update (h e rfl) ?_
      rintro _ ⟨⟩
      exact h e rfl
  | finishing e =>
      rw [hstage] at h
      exact touches_update (h e rfl) nofun
  | opening e =>
      rw [hstage] at h
      dsimp only
      cases task.openingFails with
      | some error => exact touches_self nofun
      | none => exact touches_archives h
  | writing e n =>
      rw [hstage] at h
      dsimp only
      cases task.recordings[n]? with
      | none => exact touches_self h
      | some recording =>
          cases task.writeFails n with
          | none => exact touches_archives h
          | some error => cases error <;> exact touches_self h
  | closing e raised =>
      rw [hstage] at h
      dsimp only
      cases task.closingFails with
      | some error => exact touches_self nofun
      | none =>
          cases raised with
          | some error => exact touches_self nofun
          | none => exact touches_self h
  | mailing | ended result | stale => exact touches_self nofun

/-! ### A task and its row -/

/-- A row that is there is found by the task of its export. -/
lemma get_eq_some (hnodup : (s.exports.map (·.uuid)).Nodup) (hrow : row ∈ s.exports) :
    ExportDAO.get row.uuid [row.tenantUuid] s.exports = some row := by
  have hfound : ∃ e, ExportDAO.get row.uuid [row.tenantUuid] s.exports = some e := by
    rw [← Option.isSome_iff_exists, ExportDAO.get, List.find?_isSome]
    exact ⟨row, hrow, by simp⟩
  obtain ⟨e, he⟩ := hfound
  have hpred := List.find?_some he
  simp only [Bool.and_eq_true, decide_eq_true_eq] at hpred
  rw [he, List.inj_on_of_nodup_map hnodup (List.mem_of_find?_eq_some he) hrow hpred.2]

lemma update_eq {stage : Stage} (hrow : row ∈ s.exports) (he : row.uuid = e.uuid) :
    update e stage s = (stage, { s with exports := ExportDAO.updated e s.exports }) :=
  if_pos (List.any_eq_true.2 ⟨row, hrow, decide_eq_true he⟩)

/-- After the next thing that a task does, its row fits again. -/
lemma fits_next (hnodup : (s.exports.map (·.uuid)).Nodup) (hrow : row ∈ s.exports)
    (htenant : row.tenantUuid = task.tenantUuid)
    (h : task.Fits (RecordingExportTask.fullpath row.uuid outputDir) row
      (s.archives (RecordingExportTask.fullpath row.uuid outputDir))) :
    ∃ row' ∈ (task.next outputDir row.uuid s).2.exports,
      row'.uuid = row.uuid ∧ row'.tenantUuid = task.tenantUuid ∧
      (task.withStage (task.next outputDir row.uuid s).1).Fits
        (RecordingExportTask.fullpath row.uuid outputDir) row'
        ((task.next outputDir row.uuid s).2.archives
          (RecordingExportTask.fullpath row.uuid outputDir)) := by
  rw [next]
  rw [Fits] at h
  cases hstage : task.stage with
  | queued =>
      rw [hstage] at h
      have hget : ExportDAO.get row.uuid [task.tenantUuid] s.exports = some row :=
        htenant ▸ get_eq_some hnodup hrow
      dsimp only
      rw [hget]
      exact ⟨row, hrow, rfl, htenant, h, rfl⟩
  | started e =>
      rw [hstage] at h
      obtain ⟨h, rfl⟩ := h
      dsimp only
      rw [update_eq (e := row.withStatus .processing) hrow rfl]
      exact ⟨_, ExportDAO.mem_updated hrow rfl, rfl, htenant, h.withStatus (by decide), rfl⟩
  | opening e =>
      rw [hstage] at h
      obtain ⟨h, rfl⟩ := h
      dsimp only
      cases task.openingFails with
      | some error => exact ⟨_, hrow, rfl, htenant, .inl h⟩
      | none => exact ⟨_, hrow, rfl, htenant, h, rfl, Function.update_self _ _ _⟩
  | writing e n =>
      rw [hstage] at h
      obtain ⟨h, rfl, hentries⟩ := h
      dsimp only
      cases hrecording : task.recordings[n]? with
      | none =>
          rw [List.take_of_length_le (List.getElem?_eq_none_iff.1 hrecording)] at hentries
          exact ⟨_, hrow, rfl, htenant, h, rfl, hentries⟩
      | some recording =>
          dsimp only
          cases task.writeFails n with
          | none =>
              refine ⟨_, hrow, rfl, htenant, h, rfl, ?_⟩
              dsimp only
              rw [Function.update_self, hentries, Option.map_some, withStage, List.take_add_one,
                hrecording, List.map_append]
              rfl
          | some error =>
              cases error with
              | permissionError | fileNotFoundError => exact ⟨_, hrow, rfl, htenant, h, rfl⟩
              | other => exact ⟨_, hrow, rfl, htenant, h⟩
  | failing e error =>
      rw [hstage] at h
      obtain ⟨h, rfl⟩ := h
      dsimp only
      rw [update_eq (e := e.withStatus .error) hrow rfl]
      exact ⟨_, ExportDAO.mem_updated hrow rfl, rfl, htenant, h.withStatus (by decide)⟩
  | closing e raised =>
      rw [hstage] at h
      dsimp only
      cases raised with
      | some error => cases task.closingFails <;> exact ⟨_, hrow, rfl, htenant, .inl h⟩
      | none =>
          cases task.closingFails with
          | some failure => exact ⟨_, hrow, rfl, htenant, .inl h.1⟩
          | none => exact ⟨_, hrow, rfl, htenant, h⟩
  | finishing e =>
      rw [hstage] at h
      obtain ⟨h, rfl, hentries⟩ := h
      dsimp only
      rw [update_eq (e := (e.withPath _).withStatus .finished) hrow rfl]
      exact ⟨_, ExportDAO.mem_updated hrow rfl, rfl, htenant, rfl, rfl, .inl hentries⟩
  | mailing =>
      rw [hstage] at h
      dsimp only
      split
      · exact ⟨_, hrow, rfl, htenant, .inr h⟩
      · exact ⟨_, hrow, rfl, htenant, h⟩
  | ended result =>
      rw [hstage] at h
      exact ⟨_, hrow, rfl, htenant, h⟩
  | stale =>
      rw [hstage] at h
      exact h.elim

end ExportTask

/-! ### What is reached -/

namespace ExportTask

variable {archive : String} {task : ExportTask} {row : Export}
  {entries entries' : Option (List ArchiveEntry)}

/-- A row is finished only when its archive is complete. -/
lemma Fits.unfinished_or_complete (h : task.Fits archive row entries) :
    row.Unfinished ∨ row.Complete archive task.recordings entries := by
  rw [Fits] at h
  cases hstage : task.stage with
  | queued =>
      rw [hstage] at h
      exact .inl h
  | started e | opening e | writing e n | failing e error | finishing e =>
      rw [hstage] at h
      exact .inl h.1
  | closing e raised =>
      rw [hstage] at h
      cases raised with
      | none => exact .inl h.1
      | some error => exact .inl h
  | mailing =>
      rw [hstage] at h
      exact .inr h
  | ended result =>
      rw [hstage] at h
      cases result with
      | ok => exact .inr h
      | error e => exact h
  | stale =>
      rw [hstage] at h
      exact h.elim

/-- The archive of a row that has its path may be removed. -/
lemma Fits.of_removed (h : task.Fits archive row entries)
    (hcomplete : row.Complete archive task.recordings entries) :
    task.Fits archive row none := by
  have hremoved : row.Complete archive task.recordings none :=
    ⟨hcomplete.status, hcomplete.path, .inr rfl⟩
  have hfinished : ¬ row.Unfinished := fun hunfinished =>
    Option.some_ne_none _ (hcomplete.path.symm.trans hunfinished.1)
  rw [Fits] at h ⊢
  cases hstage : task.stage with
  | queued =>
      rw [hstage] at h
      exact absurd h hfinished
  | started e | opening e | writing e n | failing e error | finishing e =>
      rw [hstage] at h
      exact absurd h.1 hfinished
  | closing e raised =>
      rw [hstage] at h
      cases raised with
      | none => exact absurd h.1 hfinished
      | some error => exact absurd h hfinished
  | mailing => exact hremoved
  | ended result =>
      cases result with
      | ok => exact hremoved
      | error e => exact .inr hremoved
  | stale =>
      rw [hstage] at h
      exact h.elim

end ExportTask

namespace ExportSystem

variable {outputDir : String} {sys sys' : ExportSystem} {row : Export}

section Tasks

variable {uuid uuid' : String} {requestedAt : DateTime} {task : ExportTask}

@[simp]
lemma tasks_request_self :
    (sys.request uuid requestedAt task).tasks uuid = some (task.withStage .queued) :=
  Function.update_self _ _ _

lemma tasks_request_of_ne (h : uuid' ≠ uuid) :
    (sys.request uuid requestedAt task).tasks uuid' = sys.tasks uuid' :=
  Function.update_of_ne h _ _

@[simp]
lemma tasks_work_self : (sys.work outputDir uuid task).tasks uuid =
    some (task.withStage (task.next outputDir uuid sys.state).1) := Function.update_self _ _ _

lemma tasks_work_of_ne (h : uuid' ≠ uuid) :
    (sys.work outputDir uuid task).tasks uuid' = sys.tasks uuid' :=
  Function.update_of_ne h _ _

end Tasks

lemma Invariant.inj (h : Invariant outputDir sys) {row' : Export} (hrow : row ∈ sys.state.exports)
    (hrow' : row' ∈ sys.state.exports) (huuid : RecordingExportTask.fullpath row.uuid outputDir =
      RecordingExportTask.fullpath row'.uuid outputDir) : row = row' := by
  obtain ⟨task, htask, -⟩ := h.fits row hrow
  obtain ⟨task', htask', -⟩ := h.fits row' hrow'
  exact List.inj_on_of_nodup_map h.nodup hrow hrow'
    (fullpath_inj (h.canonical _ _ htask) (h.canonical _ _ htask') huuid)

/-- A purge leaves the archives of the rows that have no path. -/
lemma Invariant.notMem_oldPaths (h : Invariant outputDir sys) {tenantUuid : String}
    {maxDate : DateTime} (hrow : row ∈ sys.state.exports) (hpath : row.path = none) :
    RecordingExportTask.fullpath row.uuid outputDir ∉ sys.oldPaths tenantUuid maxDate := by
  intro hold
  obtain ⟨row', hrow', hfile⟩ := List.mem_filterMap.1 hold
  have hrow' := List.mem_of_mem_filter hrow'
  have hpath' : row'.path = some (RecordingExportTask.fullpath row.uuid outputDir) :=
    (Option.filter_eq_some_iff.1 hfile).1
  obtain ⟨task', -, -, hfits⟩ := h.fits row' hrow'
  rcases hfits.unfinished_or_complete with hunfinished | hcomplete
  · cases hpath'.symm.trans hunfinished.1
  · have heq := Option.some.inj (hpath'.symm.trans hcomplete.path)
    rw [h.inj hrow hrow' heq] at hpath
    cases hpath'.symm.trans hpath

lemma invariant_request {uuid : String} {requestedAt : DateTime} {task : ExportTask}
    (h : Invariant outputDir sys) (hpost : task.Requested) (huuid : IsCanonicalUuid uuid)
    (hnew : sys.tasks uuid = none) : Invariant outputDir (sys.request uuid requestedAt task) := by
  have hfresh : ∀ row ∈ sys.state.exports, row.uuid ≠ uuid := by
    rintro row hrow rfl
    obtain ⟨task', htask', -⟩ := h.fits row hrow
    cases hnew.symm.trans htask'
  constructor
  · rw [request, List.map_append, List.nodup_append]
    refine ⟨h.nodup, List.nodup_singleton _, ?_⟩
    rintro _ hmem _ hmem' rfl
    obtain ⟨row, hrow, hrowUuid⟩ := List.mem_map.1 hmem
    exact hfresh row hrow (hrowUuid.trans (List.mem_singleton.1 hmem'))
  · intro uuid' task' htask'
    by_cases heq : uuid' = uuid
    · exact heq ▸ huuid
    · exact h.canonical uuid' task' ((tasks_request_of_ne heq).symm.trans htask')
  · intro uuid' task' htask'
    by_cases heq : uuid' = uuid
    · subst heq
      rw [tasks_request_self] at htask'
      obtain rfl := Option.some.inj htask'
      exact nofun
    · exact h.named uuid' task' ((tasks_request_of_ne heq).symm.trans htask')
  · intro uuid' task' htask'
    by_cases heq : uuid' = uuid
    · subst heq
      rw [tasks_request_self] at htask'
      obtain rfl := Option.some.inj htask'
      exact hpost
    · exact h.requested uuid' task' ((tasks_request_of_ne heq).symm.trans htask')
  · intro row hrow
    rcases List.mem_append.1 hrow with hrow | hrow
    · obtain ⟨task', htask', hfits⟩ := h.fits row hrow
      exact ⟨task', (tasks_request_of_ne (hfresh row hrow)).trans htask', hfits⟩
    · obtain rfl := List.mem_singleton.1 hrow
      exact ⟨_, tasks_request_self, rfl, rfl, List.mem_cons_self⟩

lemma invariant_work {uuid : String} {task : ExportTask} (h : Invariant outputDir sys)
    (htask : sys.tasks uuid = some task) : Invariant outputDir (sys.work outputDir uuid task) := by
  have htouches : ExportTask.Touches _ uuid sys.state (task.next outputDir uuid sys.state) :=
    ExportTask.touches_next (h.named uuid task htask)
  have hnodup : ((task.next outputDir uuid sys.state).2.exports.map (·.uuid)).Nodup :=
    htouches.uuids ▸ h.nodup
  refine ⟨hnodup, fun uuid' task' htask' => ?_, fun uuid' task' htask' => ?_,
    fun uuid' task' htask' => ?_, fun row hrow => ?_⟩
  · by_cases heq : uuid' = uuid
    · exact heq ▸ h.canonical uuid task htask
    · exact h.canonical uuid' task' ((tasks_work_of_ne heq).symm.trans htask')
  · by_cases heq : uuid' = uuid
    · subst heq
      rw [tasks_work_self] at htask'
      obtain rfl := Option.some.inj htask'
      exact htouches.named
    · exact h.named uuid' task' ((tasks_work_of_ne heq).symm.trans htask')
  · by_cases heq : uuid' = uuid
    · subst heq
      rw [tasks_work_self] at htask'
      obtain rfl := Option.some.inj htask'
      exact h.requested uuid' task htask
    · exact h.requested uuid' task' ((tasks_work_of_ne heq).symm.trans htask')
  · by_cases heq : row.uuid = uuid
    · subst heq
      obtain ⟨before, hbefore, huuid⟩ : ∃ before ∈ sys.state.exports, before.uuid = row.uuid := by
        have hmem := List.mem_map_of_mem (f := (·.uuid)) hrow
        exact List.mem_map.1 (htouches.uuids ▸ hmem)
      obtain ⟨task', htask', htenant, hfits⟩ := h.fits before hbefore
      rw [huuid, htask] at htask'
      obtain rfl := Option.some.inj htask'
      obtain ⟨row', hrow', huuid', htenant', hfits'⟩ :=
        ExportTask.fits_next h.nodup hbefore htenant hfits
      rw [huuid] at hrow' huuid' hfits'
      obtain rfl : row = row' := List.inj_on_of_nodup_map hnodup hrow hrow' huuid'.symm
      exact ⟨_, tasks_work_self, htenant', hfits'⟩
    · have hrow := (htouches.rows heq).1 hrow
      obtain ⟨task', htask', htenant, hfits⟩ := h.fits row hrow
      have hpath : RecordingExportTask.fullpath row.uuid outputDir ≠
          RecordingExportTask.fullpath uuid outputDir := fun hpath =>
        heq (fullpath_inj (h.canonical _ _ htask') (h.canonical _ _ htask) hpath)
      refine ⟨task', (tasks_work_of_ne heq).trans htask', htenant, ?_⟩
      rw [work, htouches.archives _ hpath]
      exact hfits

lemma invariant_purge {tenantUuid : String} {maxDate : DateTime} {removed : List String}
    {completed : Bool} (h : Invariant outputDir sys)
    (hremoved : removed ⊆ sys.oldPaths tenantUuid maxDate) :
    Invariant outputDir (sys.purge tenantUuid maxDate removed completed) := by
  have hsub : (sys.purge tenantUuid maxDate removed completed).state.exports.Sublist
      sys.state.exports := by
    cases completed with
    | true => exact List.filter_sublist
    | false => exact List.Sublist.refl _
  refine ⟨h.nodup.sublist (hsub.map _), h.canonical, h.named, h.requested, fun row hrow => ?_⟩
  obtain ⟨task, htask, htenant, hfits⟩ := h.fits row (hsub.subset hrow)
  refine ⟨task, htask, htenant, ?_⟩
  show task.Fits _ _ (if _ then _ else _)
  split
  · next hmem =>
      rcases hfits.unfinished_or_complete with hunfinished | hcomplete
      · exact absurd (hremoved hmem) (h.notMem_oldPaths (hsub.subset hrow) hunfinished.1)
      · exact hfits.of_removed hcomplete
  · exact hfits

lemma invariant_reached (h : Reached outputDir sys) : Invariant outputDir sys := by
  induction h with
  | refl =>
      refine ⟨List.nodup_nil, fun _ _ htask => ?_, fun _ _ htask => ?_, fun _ _ htask => ?_,
        fun _ hrow => ?_⟩
      · cases htask
      · cases htask
      · cases htask
      · cases hrow
  | tail _ hstep ih =>
      cases hstep with
      | request rules formats params db uuid requestedAt task sys hpost huuid hnew =>
          exact invariant_request ih ⟨rules, formats, params, db, hpost⟩ huuid hnew
      | work uuid task sys htask => exact invariant_work ih htask
      | purge tenantUuid maxDate removed completed sys hremoved =>
          exact invariant_purge ih hremoved

/-! ### What is downloaded -/

section Download

variable {refused : Bool} {exportUuid archive : String} {tenantUuids : List String}
  {s : ExportState} {recordings : List RecordingFile} {entries : List ArchiveEntry}

/-- An export that is not finished cannot be downloaded; one in error is not found, as it has
no path. -/
lemma download_of_unfinished (hget : ExportDAO.get exportUuid tenantUuids s.exports = some row)
    (h : row.Unfinished) : ExportDownloadResource.get refused exportUuid tenantUuids s =
      .error (if row.status = .error then .exportNotFound else .exportNotDoneYet) := by
  have hpath : row.filePath = none := by
    rw [Export.filePath, h.1]
    rfl
  have hstatus := h.2
  rw [ExportDownloadResource.get, hget]
  dsimp only
  rw [hpath]
  cases hrow : row.status <;> simp_all

lemma download_of_complete (hget : ExportDAO.get exportUuid tenantUuids s.exports = some row)
    (hne : archive ≠ "") (h : row.Complete archive recordings (s.archives archive)) :
    ExportDownloadResource.get refused exportUuid tenantUuids s =
      if refused then .error .exportFSPermission
      else (s.archives archive).elim (.error .exportFSNotFound) .ok := by
  have hpath : row.filePath = some archive := by
    rw [Export.filePath, h.path]
    exact Option.filter_some_pos (decide_eq_true hne)
  rw [ExportDownloadResource.get, hget]
  dsimp only
  rw [hpath, h.status, if_neg (by decide)]
  dsimp only
  rw [if_neg (by decide)]
  cases s.archives archive <;> rfl

/-- What can be downloaded of a row, by the stage of its task. -/
lemma Invariant.download (h : Invariant outputDir sys)
    (hget : ExportDAO.get exportUuid tenantUuids sys.state.exports = some row) :
    row ∈ sys.state.exports ∧ row.uuid = exportUuid ∧ row.tenantUuid ∈ tenantUuids ∧
      ∃ task, sys.tasks exportUuid = some task ∧ row.tenantUuid = task.tenantUuid ∧
        (row.Unfinished ∨ row.Complete (RecordingExportTask.fullpath exportUuid outputDir)
          task.recordings (sys.state.archives
            (RecordingExportTask.fullpath exportUuid outputDir))) := by
  have hpred := List.find?_some hget
  simp only [Bool.and_eq_true, decide_eq_true_eq] at hpred
  obtain ⟨htenants, rfl⟩ := hpred
  have hrow := List.mem_of_find?_eq_some hget
  obtain ⟨task, htask, htenant, hfits⟩ := h.fits row hrow
  exact ⟨hrow, rfl, htenants, task, htask, htenant, hfits.unfinished_or_complete⟩

/-- What a download comes to. -/
inductive Downloads (sys : ExportSystem) (exportUuid : String)
    (tenantUuids : List String) : Except DownloadError (List ArchiveEntry) → Prop
  | notFound : Downloads sys exportUuid tenantUuids (.error .exportNotFound)
  | notDoneYet {row : Export} (hrow : row ∈ sys.state.exports) (huuid : row.uuid = exportUuid)
      (hstatus : row.status ≠ .finished) :
      Downloads sys exportUuid tenantUuids (.error .exportNotDoneYet)
  | finished {row : Export} {task : ExportTask}
      {result : Except DownloadError (List ArchiveEntry)} (hrow : row ∈ sys.state.exports)
      (huuid : row.uuid = exportUuid) (hstatus : row.status = .finished)
      (htask : sys.tasks exportUuid = some task) (htenant : task.tenantUuid ∈ tenantUuids)
      (hresult : result ∈ [.ok (task.recordings.map RecordingFile.entry),
        .error .exportFSPermission, .error .exportFSNotFound]) :
      Downloads sys exportUuid tenantUuids result

variable (refused exportUuid tenantUuids) in
lemma Invariant.downloads (h : Invariant outputDir sys) : Downloads sys exportUuid tenantUuids
    (ExportDownloadResource.get refused exportUuid tenantUuids sys.state) := by
  cases hget : ExportDAO.get exportUuid tenantUuids sys.state.exports with
  | none =>
      rw [ExportDownloadResource.get, hget]
      exact .notFound
  | some row =>
      obtain ⟨hrow, huuid, htenants, task, htask, htenant, hfits⟩ := h.download hget
      rcases hfits with hunfinished | hcomplete
      · rw [download_of_unfinished hget hunfinished]
        split
        · exact .notFound
        · refine .notDoneYet hrow huuid fun hfinished => ?_
          have hstatus := hunfinished.2
          rw [hfinished] at hstatus
          exact absurd hstatus (by decide)
      · rw [download_of_complete hget (fullpath_ne_empty _ _) hcomplete]
        refine .finished hrow huuid hcomplete.status htask (htenant ▸ htenants) ?_
        rcases hcomplete.entries with hentries | hentries <;> rw [hentries] <;>
          cases refused <;> simp

variable (outputDir) in
/-- The task of a finished row does nothing to the rows and the archives any more. -/
lemma next_of_finished (uuid : String) {task : ExportTask}
    {entries : Option (List ArchiveEntry)} (h : task.Fits archive row entries)
    (hfinished : row.status = .finished) :
    ∃ stage ≠ .stale, ∀ s, task.next outputDir uuid s = (stage, s) := by
  have hdone : ¬ row.Unfinished := fun hunfinished => by
    have hstatus := hunfinished.2
    rw [hfinished] at hstatus
    exact absurd hstatus (by decide)
  rw [ExportTask.Fits] at h
  cases hstage : task.stage with
  | queued =>
      rw [hstage] at h
      exact absurd h hdone
  | started e | opening e | writing e n | failing e error | finishing e =>
      rw [hstage] at h
      exact absurd h.1 hdone
  | closing e raised =>
      rw [hstage] at h
      cases raised with
      | none => exact absurd h.1 hdone
      | some error => exact absurd h hdone
  | mailing =>
      exact ⟨.ended (if task.email.any (· ≠ "") ∧ task.mailFails then .error .email else .ok ()),
        nofun, fun s => by rw [ExportTask.next, hstage]⟩
  | ended result => exact ⟨.ended result, nofun, fun s => by rw [ExportTask.next, hstage]⟩
  | stale =>
      rw [hstage] at h
      exact h.elim

/-- What is known of a finished export later on: its task, and that its row is as it was, if
it is still there. -/
structure StaysFinished (row : Export) (recordings : List RecordingFile) (sys : ExportSystem) :
    Prop where
  task : ∃ task, sys.tasks row.uuid = some task ∧ task.recordings = recordings
  row_eq : ∀ row' ∈ sys.state.exports, row'.uuid = row.uuid → row' = row

lemma staysFinished_step (hfinished : row.status = .finished) (hsys : Invariant outputDir sys)
    (h : StaysFinished row recordings sys) (hstep : Step outputDir sys sys') :
    StaysFinished row recordings sys' := by
  obtain ⟨task, htask, hrecordings⟩ := h.task
  cases hstep with
  | request rules formats params db uuid requestedAt task' sys hpost huuid hnew =>
      have hne : row.uuid ≠ uuid := fun heq => by
        rw [heq, hnew] at htask
        cases htask
      refine ⟨⟨task, (tasks_request_of_ne hne).trans htask, hrecordings⟩, fun row' hrow' heq => ?_⟩
      rcases List.mem_append.1 hrow' with hrow' | hrow'
      · exact h.row_eq row' hrow' heq
      · rw [List.mem_singleton.1 hrow'] at heq
        exact absurd heq.symm hne
  | work uuid task' sys htask' =>
      have htouches : ExportTask.Touches _ uuid sys.state (task'.next outputDir uuid sys.state) :=
        ExportTask.touches_next (hsys.named uuid task' htask')
      by_cases heq : row.uuid = uuid
      · subst heq
        obtain rfl := Option.some.inj (htask'.symm.trans htask)
        refine ⟨⟨_, tasks_work_self, hrecordings⟩, fun row' hrow' huuid => ?_⟩
        by_cases hmem : ∃ before ∈ sys.state.exports, before.uuid = row.uuid
        · obtain ⟨before, hbefore, hbeforeUuid⟩ := hmem
          obtain rfl := h.row_eq before hbefore hbeforeUuid
          obtain ⟨task, htask, -, hfits⟩ := hsys.fits before hbefore
          obtain rfl := Option.some.inj (htask'.symm.trans htask)
          obtain ⟨stage, -, hnext⟩ := next_of_finished outputDir before.uuid hfits hfinished
          rw [work, hnext] at hrow'
          exact h.row_eq row' hrow' huuid
        · -- a task does not bring back a row that was purged
          have hrow' : row'.uuid ∈ sys.state.exports.map (·.uuid) :=
            htouches.uuids ▸ List.mem_map_of_mem hrow'
          obtain ⟨before, hbefore, hbeforeUuid⟩ := List.mem_map.1 hrow'
          exact absurd ⟨before, hbefore, hbeforeUuid.trans huuid⟩ hmem
      · refine ⟨⟨task, (tasks_work_of_ne heq).trans htask, hrecordings⟩,
          fun row' hrow' huuid => ?_⟩
        exact h.row_eq row' ((htouches.rows (huuid ▸ heq)).1 hrow') huuid
  | purge tenantUuid maxDate removed completed sys hremoved =>
      refine ⟨⟨task, htask, hrecordings⟩, fun row' hrow' heq => h.row_eq row' ?_ heq⟩
      cases completed with
      | true => exact List.mem_of_mem_filter hrow'
      | false => exact hrow'

end Download

/-- In every state that is reached, whatever requests, tasks and purges are under way: what is
downloaded is the whole archive of the recordings of one request, for a tenant of the export;
an export in error is never told from an unknown one; and an export that was downloaded once
is the same for ever, or is gone. -/
theorem download_reached {outputDir : String} {sys : ExportSystem}
    (hreached : Reached outputDir sys) (refused : Bool) (exportUuid : String)
    (tenantUuids : List String) :
    (∀ entries,
      ExportDownloadResource.get refused exportUuid tenantUuids sys.state = .ok entries →
        ∃ task, sys.tasks exportUuid = some task ∧ task.tenantUuid ∈ tenantUuids ∧
          task.Requested ∧ entries = task.recordings.map RecordingFile.entry) ∧
    ExportDownloadResource.get refused exportUuid tenantUuids sys.state ≠
      .error .exportError ∧
    ∀ entries sys' refused', Relation.ReflTransGen (Step outputDir) sys sys' →
      ExportDownloadResource.get refused exportUuid tenantUuids sys.state = .ok entries →
        ExportDownloadResource.get refused' exportUuid tenantUuids sys'.state ∈
          [.ok entries, .error .exportNotFound, .error .exportFSPermission,
            .error .exportFSNotFound] := by
  have hsys := invariant_reached hreached
  have hdownloads := hsys.downloads refused exportUuid tenantUuids
  refine ⟨fun entries hget => ?_, fun hget => ?_, fun entries sys' refused' hlater hget => ?_⟩
  · rw [hget] at hdownloads
    cases hdownloads with
    | finished hrow huuid hstatus htask htenant hresult =>
        exact ⟨_, htask, htenant, hsys.requested _ _ htask, by simpa using hresult⟩
  · rw [hget] at hdownloads
    cases hdownloads with
    | finished hrow huuid hstatus htask htenant hresult => simp at hresult
  · rw [hget] at hdownloads
    cases hdownloads with
    | @finished row task _ hrow huuid hstatus htask htenant hresult =>
        subst huuid
        obtain rfl : entries = task.recordings.map RecordingFile.entry := by simpa using hresult
        have hstays : StaysFinished row task.recordings sys' := by
          induction hlater with
          | refl =>
              refine ⟨⟨task, htask, rfl⟩, fun row' hrow' heq => ?_⟩
              exact List.inj_on_of_nodup_map hsys.nodup hrow' hrow heq
          | tail hbefore hstep ih =>
              exact staysFinished_step hstatus (invariant_reached (hreached.trans hbefore)) ih
                hstep
        have hdownloads' := (invariant_reached (hreached.trans hlater)).downloads refused'
          row.uuid tenantUuids
        generalize ExportDownloadResource.get refused' row.uuid tenantUuids sys'.state = result'
          at hdownloads' ⊢
        cases hdownloads' with
        | notFound => simp
        | notDoneYet hrow' huuid' hstatus' =>
            obtain rfl := hstays.row_eq _ hrow' huuid'
            exact absurd hstatus hstatus'
        | finished hrow' huuid' hstatus' htask' htenant' hresult' =>
            obtain ⟨task'', htask'', hrecordings⟩ := hstays.task
            obtain rfl := Option.some.inj (htask'.symm.trans htask'')
            rw [hrecordings] at hresult'
            simp only [List.mem_cons, List.not_mem_nil, or_false] at hresult' ⊢
            exact hresult'.imp_right .inr

/-- The next thing that the task of an export does, if there is one. -/
def workOn (outputDir uuid : String) (sys : ExportSystem) : ExportSystem :=
  (sys.tasks uuid).elim sys fun task => sys.work outputDir uuid task

lemma reached_workOn {uuid : String} (h : Reached outputDir sys) :
    Reached outputDir (sys.workOn outputDir uuid) := by
  rw [workOn]
  cases htask : sys.tasks uuid with
  | none => exact h
  | some task => exact h.tail (.work uuid task sys htask)

/-- A call log with a recording. -/
def recordedCall : Database :=
  Database.empty.insertCallLog
    { ({} : RawCallLog).fillCallLog with
      date := some 0
      recordings := [{ startTime := some 0, path := .str "r.wav" }] }

/-- The task of the request for its recording. -/
def recordedTask : ExportTask where
  recordings := [⟨"1.0", "1970-01-01T00_00_00UTC-1-1.0.wav", "r.wav", 1⟩]
  tenantUuid := "t"

/-- The uuid of the export. -/
def exportUuid : String := "6fa459ea-ee8a-3ca4-894e-db77e160355e"

/-- The task has come to its end. -/
def downloadable : ExportSystem :=
  (workOn "/exports" exportUuid)^[9] (empty.request exportUuid 0 recordedTask)

lemma reached_downloadable : Reached "/exports" downloadable := by
  have hpost : RecordingsMediaExportResource.post .ascii .ascii {} recordedCall =
      .ok recordedTask.recordings := by
    decide +kernel
  have huuid : IsCanonicalUuid exportUuid :=
    ⟨"6fa459ea".toList, "ee8a".toList, "3ca4".toList, "894e".toList, "db77e160355e".toList,
      by decide, by decide, by decide⟩
  have hrequest : Reached "/exports" (empty.request exportUuid 0 recordedTask) :=
    .single (.request .ascii .ascii {} recordedCall exportUuid 0 recordedTask empty hpost huuid rfl)
  have hworks : ∀ n, Reached "/exports"
      ((workOn "/exports" exportUuid)^[n] (empty.request exportUuid 0 recordedTask)) := by
    intro n
    induction n with
    | zero => exact hrequest
    | succ n ih =>
        rw [Function.iterate_succ_apply']
        exact reached_workOn ih
  exact hworks 9

theorem download_downloadable :
    ExportDownloadResource.get false exportUuid ["t"] downloadable.state =
        .ok [⟨"1/1970-01-01T00_00_00UTC-1-1.0.wav", "r.wav"⟩] ∧
      ∃ task, downloadable.tasks exportUuid = some task ∧ task.Requested := by
  have hget : ExportDownloadResource.get false exportUuid ["t"] downloadable.state =
      .ok [⟨"1/1970-01-01T00_00_00UTC-1-1.0.wav", "r.wav"⟩] := by
    decide +kernel
  obtain ⟨task, htask, -, hrequested, -⟩ :=
    (download_reached reached_downloadable false exportUuid ["t"]).1 _ hget
  exact ⟨hget, task, htask, hrequested⟩

end ExportSystem

end CallLogd
