/-
The export of recordings: `plugins/cdr/celery_tasks.py`.

The outcomes of the calls on the archive are parameters.  The archive is on the disk from
its opening on, while the row of the export gets its path at the end only
(`settled_run_iff`).
-/
import CallLogd.Media.World

namespace CallLogd

open Transactions

/-! ### Archives -/

/-- How a call on an archive fails. -/
inductive ArchiveError where
  | permissionError
  | fileNotFoundError
  /-- Any other `OSError`. -/
  | other
deriving DecidableEq, Repr

/-- An entry of an archive, with the file whose content it has. -/
structure ArchiveEntry where
  arcname : String
  source : String
deriving DecidableEq, Repr

/-- The exports and the archives on the disk. -/
structure ExportState where
  exports : List Export
  archives : String → Option (List ArchiveEntry)

/-- The exceptions of the task. -/
inductive TaskError where
  | exportNotFound (exportUuid : String)
  | recordingMediaFSPermission (recordingUuid path : String)
  | recordingMediaFSNotFound (recordingUuid path : String)
  | archive (e : ArchiveError)
  | email
deriving DecidableEq, Repr

/-- A program of the task. -/
abbrev ExportProgram (α : Type) := Program ExportState TaskError α

/-- `os.path.join`. -/
def osPathJoin (directory name : String) : String :=
  if name.startsWith "/" then name
  else if directory = "" ∨ directory.endsWith "/" then directory ++ name
  else directory ++ "/" ++ name

namespace ZipFile

/-- `write`: the entry is appended, or the call fails. -/
def write (outcome : Option ArchiveError) (archive : String) (entry : ArchiveEntry) :
    Program ExportState ArchiveError Unit :=
  match outcome with
  | some e => throw e
  | none => modify fun s =>
      { s with
        archives := Function.update s.archives archive
          ((s.archives archive).map (· ++ [entry])) }

/-- `with ZipFile(archive, mode='w')`: the opening creates an empty archive, and the archive
is closed however the body ends. -/
def withArchive (opening closing : Option ArchiveError) (archive : String)
    (body : ExportProgram Unit) : ExportProgram Unit := do
  match opening with
  | some e => throw (.archive e)
  | none => modify fun s => { s with archives := Function.update s.archives archive (some []) }
  ExceptT.mk fun s =>
    match closing with
    | none => run body s
    | some e => (.error (.archive e), (run body s).2)

end ZipFile

/-! ### The task -/

/-- An export with another status. -/
def Export.withStatus (status : ExportStatus) (e : Export) : Export := { e with status := status }

/-- An export with a path. -/
def Export.withPath (path : String) (e : Export) : Export := { e with path := some path }

/-- What `start_recording_export` tells of a recording. -/
structure RecordingFile where
  uuid : String
  filename : String
  path : String
  callLogId : ℕ
deriving DecidableEq, Repr

/-- The entry of a recording. -/
def RecordingFile.entry (recording : RecordingFile) : ArchiveEntry where
  arcname := osPathJoin (toString recording.callLogId) recording.filename
  source := recording.path

namespace ExportDAO

/-- `get`. -/
def get (exportUuid : String) (tenantUuids : List String) (exports : List Export) : Option Export :=
  exports.find? fun e => e.tenantUuid ∈ tenantUuids && e.uuid = exportUuid

/-- The rows after an update. -/
def updated (e : Export) (exports : List Export) : List Export :=
  exports.map fun row => if row.uuid = e.uuid then e else row

/-- `update`. -/
def update (e : Export) : ExportProgram Unit :=
  modify fun s => { s with exports := updated e s.exports }

end ExportDAO

namespace RecordingExportTask

/-- The loop over the recordings, of which the first is the `n`-th one. -/
def writeRecordings (outcomes : ℕ → Option ArchiveError) (e : Export) (archive : String) :
    ℕ → List RecordingFile → ExportProgram Unit
  | _, [] => pure ()
  | n, recording :: recordings => do
      handle (ZipFile.write (outcomes n) archive recording.entry) fun
        | .permissionError => do
            ExportDAO.update (e.withStatus .error)
            throw (.recordingMediaFSPermission recording.uuid recording.path)
        | .fileNotFoundError => do
            ExportDAO.update (e.withStatus .error)
            throw (.recordingMediaFSNotFound recording.uuid recording.path)
        | .other => throw (.archive .other)
      writeRecordings outcomes e archive (n + 1) recordings

/-- `_send_email`, which may fail. -/
def sendEmail (mailFails : Bool) : ExportProgram Unit := if mailFails then throw .email else pure ()

/-- The file of the archive of a task. -/
def fullpath (taskUuid outputDir : String) : String := osPathJoin outputDir (taskUuid ++ ".zip")

/-- `_run`, with the outcomes of the opening, of each write and of the closing of the
archive. -/
def run (opening : Option ArchiveError) (outcomes : ℕ → Option ArchiveError)
    (closing : Option ArchiveError) (mailFails : Bool) (taskUuid : String)
    (recordings : List RecordingFile) (outputDir tenantUuid : String) (email : Option String) :
    ExportProgram Unit := do
  let s ← MonadState.get
  match ExportDAO.get taskUuid [tenantUuid] s.exports with
  | none => throw (.exportNotFound taskUuid)
  | some e =>
      let e := e.withStatus .processing
      ExportDAO.update e
      let archive := fullpath taskUuid outputDir
      ZipFile.withArchive opening closing archive
        (writeRecordings outcomes e archive 0 recordings)
      ExportDAO.update ((e.withPath archive).withStatus .finished)
      if email.any (· ≠ "") then sendEmail mailFails

end RecordingExportTask

/-! ### Settled exports -/

/-- An export is finished with a path to an archive of all the recordings, or in error
without an archive that its path does not name. -/
def Export.Settled (recordings : List RecordingFile) (archive : String)
    (archives : String → Option (List ArchiveEntry)) (e : Export) : Prop :=
  (e.status = .finished ∧ ∃ path entries, e.path = some path ∧ archives path = some entries ∧
    ∀ recording ∈ recordings, recording.entry ∈ entries) ∨
  (e.status = .error ∧ (archives archive ≠ none → e.path = some archive))

/-- The export of a task is settled. -/
def ExportState.Settled (s : ExportState) (taskUuid : String) (recordings : List RecordingFile)
    (outputDir : String) : Prop :=
  ∀ e ∈ s.exports, e.uuid = taskUuid →
    e.Settled recordings (RecordingExportTask.fullpath taskUuid outputDir) s.archives

/-! ### Runs of the task -/

section Update

variable {e row : Export} {exports : List Export}

lemma ExportDAO.eq_of_mem_updated (h : row ∈ ExportDAO.updated e exports)
    (huuid : row.uuid = e.uuid) : row = e := by
  obtain ⟨before, -, rfl⟩ := List.mem_map.1 h
  split at huuid
  · next hbefore => rw [if_pos hbefore]
  · next hbefore => exact absurd huuid hbefore

lemma ExportDAO.mem_updated (h : row ∈ exports) (huuid : row.uuid = e.uuid) :
    e ∈ ExportDAO.updated e exports :=
  List.mem_map.2 ⟨row, h, if_pos huuid⟩

/-- After an update, an export is settled exactly if the updated row is. -/
lemma settled_updated_iff {archives : String → Option (List ArchiveEntry)} {taskUuid : String}
    {recordings : List RecordingFile} {outputDir : String} (hmem : row ∈ exports)
    (huuid : row.uuid = e.uuid) (htask : e.uuid = taskUuid) :
    (ExportState.mk (ExportDAO.updated e exports) archives).Settled taskUuid recordings outputDir ↔
      e.Settled recordings (RecordingExportTask.fullpath taskUuid outputDir) archives := by
  constructor
  · intro h
    exact h e (ExportDAO.mem_updated hmem huuid) htask
  · intro h updated hupdated htask'
    rwa [ExportDAO.eq_of_mem_updated hupdated (htask'.trans htask.symm)]

end Update

section Loop

variable {outcomes : ℕ → Option ArchiveError} {e : Export} {archive : String} {n : ℕ}
  {recordings : List RecordingFile} {s : ExportState} {entries : List ArchiveEntry}

/-- The first failure among the writes from the `n`-th one on. -/
def firstFailure (outcomes : ℕ → Option ArchiveError) (n : ℕ) (recordings : List RecordingFile) :
    Option ArchiveError :=
  (List.range' n recordings.length).findSome? outcomes

lemma firstFailure_cons {recording : RecordingFile} :
    firstFailure outcomes n (recording :: recordings) =
      (outcomes n).or (firstFailure outcomes (n + 1) recordings) := by
  rw [firstFailure, List.length_cons, List.range'_succ, List.findSome?_cons]
  cases outcomes n <;> rfl

/-- The state with other entries in the archive. -/
def ExportState.withEntries (s : ExportState) (archive : String) (entries : List ArchiveEntry) :
    ExportState :=
  { s with archives := Function.update s.archives archive (some entries) }

variable (e archive entries s) in
/-- Without a failure, all the recordings are appended. -/
lemma run_writeRecordings_of_none (h : firstFailure outcomes n recordings = none) :
    run (RecordingExportTask.writeRecordings outcomes e archive n recordings)
        (s.withEntries archive entries) =
      (.ok (), s.withEntries archive (entries ++ recordings.map RecordingFile.entry)) := by
  induction recordings generalizing n entries with
  | nil => rw [List.map_nil, List.append_nil]; rfl
  | cons recording recordings ih =>
      rw [firstFailure_cons, Option.or_eq_none_iff] at h
      have hwrite : run (ZipFile.write (outcomes n) archive recording.entry)
          (s.withEntries archive entries) =
            (.ok (), s.withEntries archive (entries ++ [recording.entry])) := by
        rw [h.1]
        simp [ZipFile.write, ExportState.withEntries]
      rw [RecordingExportTask.writeRecordings, run_bind_of_ok (by rw [run_handle, hwrite]),
        ih _ h.2, List.append_assoc]
      rfl

variable (e archive entries s) in
/-- After a failure, the export is in error if the failure is expected, and the archive
stays. -/
lemma run_writeRecordings_of_some {failure : ArchiveError}
    (h : firstFailure outcomes n recordings = some failure) :
    ∃ error entries', run (RecordingExportTask.writeRecordings outcomes e archive n recordings)
        (s.withEntries archive entries) =
      (.error error,
        ExportState.withEntries
          { s with exports := if failure = .other then s.exports
              else ExportDAO.updated (e.withStatus .error) s.exports } archive entries') := by
  induction recordings generalizing n entries with
  | nil => cases h
  | cons recording recordings ih =>
      rw [firstFailure_cons] at h
      cases houtcome : outcomes n with
      | none =>
          rw [houtcome, Option.none_or] at h
          have hwrite : run (ZipFile.write none archive recording.entry)
              (s.withEntries archive entries) =
                (.ok (), s.withEntries archive (entries ++ [recording.entry])) := by
            simp [ZipFile.write, ExportState.withEntries]
          obtain ⟨error, entries', hrun⟩ := ih (entries ++ [recording.entry]) h
          refine ⟨error, entries', ?_⟩
          rw [RecordingExportTask.writeRecordings, houtcome,
            run_bind_of_ok (by rw [run_handle, hwrite]), hrun]
      | some failure' =>
          rw [houtcome, Option.some_or] at h
          obtain rfl := Option.some.inj h
          have hwrite : run (ZipFile.write (some failure') archive recording.entry)
              (s.withEntries archive entries) = (.error failure', s.withEntries archive entries) :=
            rfl
          rw [RecordingExportTask.writeRecordings, houtcome, run_bind, run_handle, hwrite]
          cases failure' with
          | permissionError => exact ⟨_, entries, rfl⟩
          | fileNotFoundError => exact ⟨_, entries, rfl⟩
          | other => exact ⟨_, entries, rfl⟩

end Loop

/-- Every write of an archive succeeds, and its opening and its closing too. -/
def ArchiveWritten (opening : Option ArchiveError) (outcomes : ℕ → Option ArchiveError)
    (closing : Option ArchiveError) (recordings : List RecordingFile) : Prop :=
  opening = none ∧ (∀ n < recordings.length, outcomes n = none) ∧ closing = none

/-- The first write that fails does so with an error that is expected. -/
def ExpectedFailure (opening : Option ArchiveError) (outcomes : ℕ → Option ArchiveError)
    (recordings : List RecordingFile) : Prop :=
  opening = none ∧ ∃ n < recordings.length, (∀ m < n, outcomes m = none) ∧
    (outcomes n = some .permissionError ∨ outcomes n = some .fileNotFoundError)

section Task

variable {opening closing : Option ArchiveError} {outcomes : ℕ → Option ArchiveError}
  {recordings : List RecordingFile}

lemma firstFailure_eq_none_iff : firstFailure outcomes 0 recordings = none ↔
    ∀ n < recordings.length, outcomes n = none := by
  rw [firstFailure, List.findSome?_eq_none_iff]
  simp

lemma firstFailure_eq_some_iff {failure : ArchiveError} {n : ℕ} :
    firstFailure outcomes n recordings = some failure ↔
      ∃ k < recordings.length, (∀ m < k, outcomes (n + m) = none) ∧
        outcomes (n + k) = some failure := by
  induction recordings generalizing n with
  | nil => simp [firstFailure]
  | cons recording recordings ih =>
      rw [firstFailure_cons]
      cases houtcome : outcomes n with
      | none =>
          rw [Option.none_or, ih]
          constructor
          · rintro ⟨k, hk, hbefore, hfails⟩
            refine ⟨k + 1, Nat.succ_lt_succ hk, fun m hm => ?_, ?_⟩
            · cases m with
              | zero => exact houtcome
              | succ m =>
                  rw [← Nat.add_assoc, Nat.add_right_comm]
                  exact hbefore m (Nat.lt_of_succ_lt_succ hm)
            · rw [← Nat.add_assoc, Nat.add_right_comm]
              exact hfails
          · rintro ⟨k, hk, hbefore, hfails⟩
            cases k with
            | zero =>
                rw [Nat.add_zero, houtcome] at hfails
                cases hfails
            | succ k =>
                refine ⟨k, Nat.lt_of_succ_lt_succ hk, fun m hm => ?_, ?_⟩
                · have hm := hbefore (m + 1) (Nat.succ_lt_succ hm)
                  rwa [← Nat.add_assoc, Nat.add_right_comm] at hm
                · rwa [← Nat.add_assoc, Nat.add_right_comm] at hfails
      | some failure' =>
          rw [Option.some_or]
          constructor
          · intro h
            exact ⟨0, Nat.succ_pos _, fun m hm => absurd hm (Nat.not_lt_zero m), houtcome.trans h⟩
          · rintro ⟨k, -, hbefore, hfails⟩
            cases k with
            | zero => exact houtcome.symm.trans hfails
            | succ k =>
                have hnone := hbefore 0 (Nat.succ_pos k)
                rw [Nat.add_zero, houtcome] at hnone
                cases hnone

lemma archiveWritten_iff : ArchiveWritten opening outcomes closing recordings ↔
    opening = none ∧ firstFailure outcomes 0 recordings = none ∧ closing = none := by
  rw [ArchiveWritten, firstFailure_eq_none_iff]

lemma expectedFailure_iff : ExpectedFailure opening outcomes recordings ↔
    opening = none ∧ (firstFailure outcomes 0 recordings = some .permissionError ∨
      firstFailure outcomes 0 recordings = some .fileNotFoundError) := by
  rw [ExpectedFailure, firstFailure_eq_some_iff, firstFailure_eq_some_iff]
  simp only [Nat.zero_add, ← exists_or, ← and_or_left]

/-! #### The archive of a task -/

variable {archive : String} {body : ExportProgram Unit} {s : ExportState}

lemma run_withArchive_of_some {failure : ArchiveError} :
    run (ZipFile.withArchive (some failure) closing archive body) s =
      (.error (.archive failure), s) := rfl

variable (closing) in
/-- The closing can fail after a body that succeeds. -/
lemma run_withArchive_of_ok {s' : ExportState}
    (h : run body (s.withEntries archive []) = (.ok (), s')) :
    run (ZipFile.withArchive none closing archive body) s =
      ((closing.map fun e => .error (.archive e)).getD (.ok ()), s') := by
  have hrun : run (ZipFile.withArchive none closing archive body) s =
      match closing with
      | none => run body (s.withEntries archive [])
      | some e => (.error (.archive e), (run body (s.withEntries archive [])).2) := rfl
  rw [hrun, h]
  cases closing <;> rfl

variable (closing) in
/-- A body that fails leaves its state behind. -/
lemma run_withArchive_of_error {error : TaskError} {s' : ExportState}
    (h : run body (s.withEntries archive []) = (.error error, s')) :
    ∃ error', run (ZipFile.withArchive none closing archive body) s = (.error error', s') := by
  have hrun : run (ZipFile.withArchive none closing archive body) s =
      match closing with
      | none => run body (s.withEntries archive [])
      | some e => (.error (.archive e), (run body (s.withEntries archive [])).2) := rfl
  rw [hrun, h]
  cases closing with
  | none => exact ⟨error, rfl⟩
  | some e => exact ⟨.archive e, rfl⟩

end Task

section Settled

variable {opening closing : Option ArchiveError} {outcomes : ℕ → Option ArchiveError}
  {mailFails : Bool} {taskUuid : String} {recordings : List RecordingFile}
  {outputDir tenantUuid : String} {email : Option String} {s : ExportState} {e : Export}

/-- The export is in process. -/
def ExportState.start (e : Export) (s : ExportState) : ExportState :=
  { s with exports := ExportDAO.updated (e.withStatus .processing) s.exports }

/-- The task after the export is found. -/
lemma run_task (hget : ExportDAO.get taskUuid [tenantUuid] s.exports = some e) :
    run (RecordingExportTask.run opening outcomes closing mailFails taskUuid recordings outputDir
        tenantUuid email) s =
      run (ZipFile.withArchive opening closing (RecordingExportTask.fullpath taskUuid outputDir)
          (RecordingExportTask.writeRecordings outcomes (e.withStatus .processing)
            (RecordingExportTask.fullpath taskUuid outputDir) 0 recordings) >>= fun _ => do
          ExportDAO.update (((e.withStatus .processing).withPath
            (RecordingExportTask.fullpath taskUuid outputDir)).withStatus .finished)
          if email.any (· ≠ "") then RecordingExportTask.sendEmail mailFails) (s.start e) := by
  rw [RecordingExportTask.run, run_bind_of_ok run_get, hget]
  rfl

/-- The mail changes nothing. -/
lemma snd_run_update_sendEmail {finished : Export} :
    (run (do
        ExportDAO.update finished
        if email.any (· ≠ "") then RecordingExportTask.sendEmail mailFails) s).2 =
      { s with exports := ExportDAO.updated finished s.exports } := by
  have hupdate : run (ExportDAO.update finished) s =
      (.ok (), { s with exports := ExportDAO.updated finished s.exports }) := rfl
  rw [run_bind_of_ok hupdate, RecordingExportTask.sendEmail]
  split
  · split <;> rfl
  · rfl

variable {archives : String → Option (List ArchiveEntry)}

/-- The row of a task, which the first update replaces. -/
lemma mem_start (hget : ExportDAO.get taskUuid [tenantUuid] s.exports = some e) :
    e.withStatus .processing ∈ (s.start e).exports ∧ e.uuid = taskUuid := by
  refine ⟨ExportDAO.mem_updated (List.mem_of_find?_eq_some hget) rfl, ?_⟩
  have hfound := List.find?_some hget
  simp only [Bool.and_eq_true, decide_eq_true_eq] at hfound
  exact hfound.2

/-- An export that stays in process is not settled. -/
lemma not_settled_start (hget : ExportDAO.get taskUuid [tenantUuid] s.exports = some e) :
    ¬ (ExportState.mk (s.start e).exports archives).Settled taskUuid recordings outputDir := by
  intro h
  obtain ⟨hmem, huuid⟩ := mem_start hget
  rcases h _ hmem huuid with ⟨hstatus, -⟩ | ⟨hstatus, -⟩ <;> cases hstatus

/-- An export with its path is settled, if its archive is complete. -/
lemma settled_finished (hget : ExportDAO.get taskUuid [tenantUuid] s.exports = some e)
    (harchive : archives (RecordingExportTask.fullpath taskUuid outputDir) =
      some (recordings.map RecordingFile.entry)) :
    (ExportState.mk (ExportDAO.updated (((e.withStatus .processing).withPath
        (RecordingExportTask.fullpath taskUuid outputDir)).withStatus .finished)
      (s.start e).exports) archives).Settled taskUuid recordings outputDir := by
  obtain ⟨hmem, huuid⟩ := mem_start hget
  let finished := ((e.withStatus .processing).withPath
    (RecordingExportTask.fullpath taskUuid outputDir)).withStatus .finished
  refine (settled_updated_iff (e := finished) hmem rfl huuid).2
    (.inl ⟨rfl, _, _, rfl, harchive, ?_⟩)
  exact fun recording hrecording => List.mem_map_of_mem hrecording

/-- An export in error whose archive is on the disk is settled if its row already had the
path. -/
lemma settled_failed_iff (hget : ExportDAO.get taskUuid [tenantUuid] s.exports = some e)
    (harchive : archives (RecordingExportTask.fullpath taskUuid outputDir) ≠ none) :
    (ExportState.mk (ExportDAO.updated ((e.withStatus .processing).withStatus .error)
        (s.start e).exports) archives).Settled taskUuid recordings outputDir ↔
      e.path = some (RecordingExportTask.fullpath taskUuid outputDir) := by
  obtain ⟨hmem, huuid⟩ := mem_start hget
  let failed := (e.withStatus .processing).withStatus .error
  refine (settled_updated_iff (e := failed) hmem rfl huuid).trans ?_
  constructor
  · rintro (⟨hstatus, -⟩ | ⟨-, hpath⟩)
    · cases hstatus
    · exact hpath harchive
  · exact fun hpath => .inr ⟨rfl, fun _ => hpath⟩

/-- The export is settled if and only if all the calls on the archive succeed, or a write
fails with an expected error and the row already had the path of the archive. -/
theorem settled_run_iff (hget : ExportDAO.get taskUuid [tenantUuid] s.exports = some e) :
    (run (RecordingExportTask.run opening outcomes closing mailFails taskUuid recordings outputDir
        tenantUuid email) s).2.Settled taskUuid recordings outputDir ↔
      ArchiveWritten opening outcomes closing recordings ∨
        (ExpectedFailure opening outcomes recordings ∧
          e.path = some (RecordingExportTask.fullpath taskUuid outputDir)) := by
  rw [archiveWritten_iff, expectedFailure_iff, run_task hget]
  cases opening with
  | some failure =>
      rw [run_bind_of_error run_withArchive_of_some]
      refine iff_of_false (not_settled_start hget) ?_
      rintro (⟨h, -⟩ | ⟨⟨h, -⟩, -⟩) <;> cases h
  | none =>
      cases hfailure : firstFailure outcomes 0 recordings with
      | none =>
          have hbody := run_writeRecordings_of_none (e.withStatus .processing)
            (RecordingExportTask.fullpath taskUuid outputDir) (s.start e) [] hfailure
          have harchive := run_withArchive_of_ok closing hbody
          cases closing with
          | none =>
              -- the archive is complete, and the row gets its path
              rw [run_bind_of_ok harchive, snd_run_update_sendEmail]
              refine iff_of_true ?_ (.inl ⟨rfl, rfl, rfl⟩)
              exact settled_finished hget (Function.update_self _ _ _)
          | some failure =>
              rw [run_bind_of_error harchive]
              refine iff_of_false (not_settled_start hget) ?_
              rintro (⟨-, -, h⟩ | ⟨⟨-, h | h⟩, -⟩) <;> cases h
      | some failure =>
          obtain ⟨error, entries, hbody⟩ := run_writeRecordings_of_some (e.withStatus .processing)
            (RecordingExportTask.fullpath taskUuid outputDir) (s.start e) [] hfailure
          obtain ⟨error', harchive⟩ := run_withArchive_of_error closing hbody
          rw [run_bind_of_error harchive]
          by_cases hother : failure = .other
          · subst hother
            refine iff_of_false (not_settled_start hget) ?_
            rintro (⟨-, h, -⟩ | ⟨⟨-, h | h⟩, -⟩) <;> cases h
          · -- the export is in error, and the archive is on the disk
            have hexpected : failure = .permissionError ∨ failure = .fileNotFoundError := by
              cases failure with
              | permissionError => exact .inl rfl
              | fileNotFoundError => exact .inr rfl
              | other => exact absurd rfl hother
            have hdisk : Function.update s.archives
                (RecordingExportTask.fullpath taskUuid outputDir) (some entries)
                (RecordingExportTask.fullpath taskUuid outputDir) ≠ none := by
              rw [Function.update_self]
              exact Option.some_ne_none _
            rw [if_neg hother]
            refine (settled_failed_iff hget hdisk).trans ?_
            constructor
            · exact fun hpath => .inr ⟨⟨rfl, by simpa using hexpected⟩, hpath⟩
            · rintro (⟨-, h, -⟩ | ⟨-, hpath⟩)
              · cases h
              · exact hpath

end Settled

/-- A pending export. -/
def pendingExport : ExportState where
  exports := [⟨"e", "t", 0, .pending, none⟩]
  archives _ := none

/-- A recording to export. -/
def exportedRecording : RecordingFile where
  uuid := "r"
  filename := "r.wav"
  path := "/var/lib/r.wav"
  callLogId := 1

/-- The task of this export, whose writes have some outcomes. -/
def exportRecording (outcomes : ℕ → Option ArchiveError) : ExportProgram Unit :=
  RecordingExportTask.run none outcomes none false "e" [exportedRecording] "/exports" "t" none

theorem settled_exportRecording :
    (run (exportRecording fun _ => none) pendingExport).2.Settled "e" [exportedRecording]
        "/exports" ↔
      ArchiveWritten none (fun _ => none) none [exportedRecording] ∨
        (ExpectedFailure none (fun _ => none) [exportedRecording] ∧
          (none : Option String) = some (RecordingExportTask.fullpath "e" "/exports")) := by
  have hget : ExportDAO.get "e" ["t"] pendingExport.exports =
      some ⟨"e", "t", 0, .pending, none⟩ := by
    decide
  exact settled_run_iff hget

/-- If the file of the recording is missing, its archive is left behind without a row; if the
disk is full, the export stays in process. -/
theorem exportRecording_not_settled :
    ¬ (run (exportRecording fun _ => some .fileNotFoundError) pendingExport).2.Settled "e"
        [exportedRecording] "/exports" ∧
      ¬ (run (exportRecording fun _ => some .other) pendingExport).2.Settled "e"
        [exportedRecording] "/exports" := by
  constructor
  · intro h
    rcases h ⟨"e", "t", 0, .error, none⟩ (by decide) rfl with ⟨hstatus, -⟩ | ⟨-, hpath⟩
    · cases hstatus
    · cases hpath (by decide +kernel)
  · intro h
    rcases h ⟨"e", "t", 0, .processing, none⟩ (by decide) rfl with ⟨hstatus, -⟩ | ⟨hstatus, -⟩ <;>
      cases hstatus

end CallLogd
