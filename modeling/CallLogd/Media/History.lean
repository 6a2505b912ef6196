/-
Histories of generations and deletions of recordings.

The mark of a deleted recording is in its row only.  The row never loses it, but a
generation that creates the call log anew inserts another row, whose path is the one
of the CELs (`deleted_until_created`).
-/
import CallLogd.Database.Runs
import CallLogd.Generation.Uniqueness
import CallLogd.Media.Deletion
import CallLogd.Media.PurgeSafety

namespace CallLogd

open CallLogsGenerator Sequences Transactions

/-! ### Generated recordings -/

/-- The recordings that are named after their files have the paths of these files. -/
def CallLog.Recorded (log : CallLog) : Prop :=
  ∀ recording ∈ log.recordings, ∀ uuid, recording.uuid = some (.ofPath uuid) →
    ∃ filename, recording.path = .str filename ∧ recordingPathUuid filename = some uuid

/-- A merged recording is one of those that were merged, up to its end. -/
lemma exists_of_mem_mergePauses {recordings : List Recording} {recording : Recording}
    (h : recording ∈ mergePauses recordings) :
    ∃ segment ∈ recordings, segment.uuid = recording.uuid ∧ segment.path = recording.path := by
  obtain ⟨first, hfirst, last, -, heq⟩ := exists_span_of_mem_mergePauses h
  obtain ⟨hmem, -⟩ := List.mem_filter.1 (List.mem_of_mem_head? hfirst)
  rw [heq]
  exact ⟨first, hmem, rfl, rfl⟩

section Generated

variable {gen : CallLogsGenerator} {group : Finset String × List CEL} {log : CallLog}

lemma recorded_logOfGroup (hlog : gen.logOfGroup group = some log) : log.Recorded := by
  obtain ⟨-, call, voicemail, hcall, hfinish⟩ := finishCall_of_logOfGroup hlog
  intro recording hmem uuid huuid
  rw [recordings_of_finishCall hcall hfinish] at hmem
  split at hmem
  case isFalse => cases hmem
  obtain ⟨merged, hmerged, hsame, hpath⟩ := exists_of_mem_mergePauses hmem
  obtain ⟨segment, hsegment, rfl⟩ := List.mem_map.1 (List.mem_of_mem_filter hmerged)
  obtain ⟨cel, -, filename, -, hfilename, hsegmentPath⟩ :=
    startedBy_of_mem_segments hsegment (hsame.trans huuid)
  exact ⟨filename, hpath.symm.trans hsegmentPath, hfilename⟩

lemma recorded_shiftCallLog (n : ℕ) (h : log.Recorded) : (shiftCallLog n log).Recorded := by
  intro shifted hshifted uuid huuid
  obtain ⟨recording, hmem, rfl⟩ := List.mem_map.1 hshifted
  refine h recording hmem uuid ?_
  obtain ⟨original, horiginal, hshift⟩ := Option.map_eq_some_iff.1 huuid
  cases original with
  | ofPath text => rw [horiginal, ← hshift]; rfl
  | uuid4 => cases hshift

lemma recorded_logsOfGroups {groups : List (Finset String × List CEL)} {n : ℕ}
    (h : log ∈ gen.logsOfGroups n groups) : log.Recorded := by
  induction groups generalizing n with
  | nil => cases h
  | cons group groups ih =>
      rw [logsOfGroups] at h
      rcases List.mem_append.1 h with h | h
      · obtain ⟨log, hlog, rfl⟩ := Option.map_eq_some_iff.1 (Option.mem_toList.1 h)
        exact recorded_shiftCallLog n (recorded_logOfGroup hlog)
      · exact ih h

/-- The call logs that a generation creates. -/
lemma recorded_callLogsFromCel {cels : List CEL} (h : log ∈ gen.callLogsFromCel cels) :
    log.Recorded := by
  rw [callLogsFromCel_eq] at h
  exact recorded_logsOfGroups h

end Generated

/-! ### The steps of a history -/

/-- A step of a history: an operation of the manager, of which any transaction may fail, the
arrival of CELs, or a deletion of recordings. -/
inductive HistoryStep : World → World → Prop
  | generate (gen : CallLogsGenerator) (faults : DaoStep → Bool) (fetch : CallLogsManager.Fetch)
      (w : World) :
      HistoryStep w { w with tables := { w.tables with
        db := (run (CallLogsManager.generate gen faults fetch) w.tables.db).2 } }
  | deleteAll (faults : DaoStep → Bool) (w : World) :
      HistoryStep w { w with tables := { w.tables with
        db := (run (CallLogsManager.deleteAll faults) w.tables.db).2 } }
  | deleteFromDays (faults : DaoStep → Bool) (now : DateTime) (days : ℕ) (w : World) :
      HistoryStep w { w with tables := { w.tables with
        db := (run (CallLogsManager.deleteFromDays faults now days) w.tables.db).2 } }
  | arrival (cels : List CEL) (w : World)
      (h : (w.tables.db.cels.map (·.id) ++ cels.map (·.id)).Nodup) :
      HistoryStep w { w with tables := { w.tables with db := w.tables.db.insertCels cels h } }
  | deleteMedia (refused : Finset String) (callLogId : ℕ) (key : RecordingKey)
      (path : Option String) (w : World) :
      HistoryStep w (run (RecordingService.deleteMedia refused callLogId key path) w).2
  | purge (daysToKeep : ℤ) (now : DateTime) (order : SetOrder) (refused : Finset String)
      (tenant : Option TenantKey) (w : World) :
      HistoryStep w (run (recordingsPurger.purge daysToKeep now order refused tenant) w).2

/-! ### Operations of the manager -/

/-- An operation keeps call logs as they are, or deletes them, and creates some with a
property. -/
structure Database.Kept (P : CallLog → Prop) (db db' : Database) : Prop where
  nextCallLogId : db.nextCallLogId ≤ db'.nextCallLogId
  callLogs : ∀ stored ∈ db'.callLogs,
    stored ∈ db.callLogs ∨ db.nextCallLogId ≤ stored.id ∧ P stored.log

namespace Database.Kept

variable {P : CallLog → Prop} {db db' db'' : Database}

lemma trans (h : db.Kept P db') (h' : db'.Kept P db'') : db.Kept P db'' where
  nextCallLogId := h.nextCallLogId.trans h'.nextCallLogId
  callLogs stored hstored := by
    rcases h'.callLogs stored hstored with hmem | ⟨hid, hlog⟩
    · exact h.callLogs stored hmem
    · exact .inr ⟨h.nextCallLogId.trans hid, hlog⟩

lemma of_subset (hnext : db.nextCallLogId ≤ db'.nextCallLogId)
    (hsub : db'.callLogs ⊆ db.callLogs) : db.Kept P db' :=
  ⟨hnext, fun _ hstored => .inl (hsub hstored)⟩

lemma refl : db.Kept P db := of_subset le_rfl (List.Subset.refl _)

variable (db) in
lemma filterCallLogs (p : StoredCallLog → Bool) : db.Kept P (db.filterCallLogs p) :=
  of_subset le_rfl fun _ hstored => List.mem_of_mem_filter hstored

variable (db) in
lemma mapCallLogIds (f : CELRow → Option ℕ) : db.Kept P (db.mapCallLogIds f) :=
  of_subset le_rfl (List.Subset.refl _)

lemma insertCallLogs {logs : List CallLog} (h : ∀ log ∈ logs, P log.columns) :
    db.Kept P (db.insertCallLogs logs) where
  nextCallLogId := by
    clear h
    induction logs generalizing db with
    | nil => exact le_rfl
    | cons log logs ih =>
        have hnext : db.nextCallLogId ≤ (db.insertCallLog log.columns).nextCallLogId :=
          Nat.le_succ _
        exact hnext.trans ih
  callLogs stored hstored := by
    rw [insertCallLogs_callLogs] at hstored
    rcases List.mem_append.1 hstored with hstored | hstored
    · exact .inl hstored
    · obtain ⟨created, hcreated, rfl⟩ := List.mem_map.1 hstored
      obtain ⟨hlog, hid⟩ := mem_numbered hcreated
      exact .inr ⟨hid, h created.log hlog⟩

/-- A transaction, committed or not. -/
lemma newSession {α : Type} {fault : Bool} {body : Database → Except DaoError (α × Database)}
    (h : ∀ a db', body db = .ok (a, db') → db.Kept P db') :
    db.Kept P (run (CallLogd.newSession fault body) db).2 := by
  rw [CallLogd.newSession, run_transaction]
  cases fault with
  | true => exact refl
  | false =>
      rw [if_neg Bool.false_ne_true]
      cases hbody : body db with
      | error e => exact refl
      | ok p => exact h p.1 p.2 hbody

lemma write {faults : DaoStep → Bool} {c : CallLogsCreation}
    (h : ∀ log ∈ c.newCallLogs, P log.columns) :
    db.Kept P (run (CallLogsWriter.write faults c) db).2 := by
  refine rel_run_bind (fun _ _ _ => trans) ?_ fun _ db _ => ?_
  · exact newSession fun _ _ hbody => by cases hbody; exact filterCallLogs _ _
  refine rel_run_bind (fun _ _ _ => trans) ?_ fun _ db _ => ?_
  · rw [run_unassociateAllFromCallLogIds]
    split
    · exact refl
    · exact mapCallLogIds _ _
  refine rel_run_bind (fun _ _ _ => trans) ?_ fun _ db _ => ?_
  · refine newSession fun _ _ hbody => ?_
    split at hbody
    · cases hbody
      exact of_subset le_rfl (List.Subset.refl _)
    · cases hbody
  refine rel_run_bind (fun _ _ _ => trans) ?_ fun _ db _ => ?_
  · rw [CallLogDAO.createFromList]
    split
    · exact refl
    · exact newSession fun _ _ hbody => by
        obtain ⟨-, rfl⟩ := createAll_eq_ok hbody
        exact insertCallLogs h
  · exact newSession fun _ _ hbody => by
      cases hbody
      rw [foldl_associate]
      exact mapCallLogIds _ _

lemma generate {gen : CallLogsGenerator} {faults : DaoStep → Bool}
    {fetch : CallLogsManager.Fetch} :
    db.Kept CallLog.Recorded (run (CallLogsManager.generate gen faults fetch) db).2 := by
  refine rel_run_bind (fun _ _ _ => trans) ?_ fun cels db _ => ?_
  · exact newSession fun _ _ hbody => by cases hbody; exact refl
  · refine write fun log hlog => ?_
    have hrecorded : log.Recorded := recorded_callLogsFromCel hlog
    exact hrecorded

lemma deleteAll {faults : DaoStep → Bool} :
    db.Kept P (run (CallLogsManager.deleteAll faults) db).2 := by
  refine rel_run_bind (fun _ _ _ => trans) ?_ fun _ db _ => ?_
  · exact newSession fun _ _ hbody => by cases hbody; exact filterCallLogs _ _
  · exact newSession fun _ _ hbody => by cases hbody; exact mapCallLogIds _ _

lemma deleteFromDays {faults : DaoStep → Bool} {now : DateTime} {days : ℕ} :
    db.Kept P (run (CallLogsManager.deleteFromDays faults now days) db).2 := by
  refine rel_run_bind (fun _ _ _ => trans) ?_ fun _ db _ => ?_
  · exact newSession fun _ _ hbody => by cases hbody; exact filterCallLogs _ _
  · rw [run_unassociateAllFromCallLogIds]
    split
    · exact refl
    · exact mapCallLogIds _ _

end Database.Kept

/-! ### Live and deleted recordings -/

/-- A row of a recording that is not deleted. -/
def Database.LiveRow (db : Database) (callLogId : ℕ) (row : RecordingKey × Recording) : Prop :=
  row.2.deleted = false ∧ ∃ stored ∈ db.callLogs, stored.id = callLogId ∧ row ∈ stored.recordingRows

/-- A recording that is named after its file has a row that is not deleted. -/
def World.Live (w : World) (uuid : String) : Prop :=
  ∃ callLogId recording, w.tables.db.LiveRow callLogId (.uuid (.ofPath uuid), recording)

lemma live_iff {w : World} {uuid : String} : w.Live uuid ↔
    ∃ stored ∈ w.tables.db.callLogs, ∃ row ∈ stored.recordingRows,
      row.1 = .uuid (.ofPath uuid) ∧ row.2.deleted = false := by
  constructor
  · rintro ⟨callLogId, recording, hdeleted, stored, hmem, -, hrow⟩
    exact ⟨stored, hmem, _, hrow, rfl, hdeleted⟩
  · rintro ⟨stored, hmem, ⟨key, recording⟩, hrow, rfl, hdeleted⟩
    exact ⟨stored.id, recording, hdeleted, stored, hmem, rfl, hrow⟩

instance (w : World) (uuid : String) : Decidable (w.Live uuid) :=
  decidable_of_iff _ live_iff.symm

/-- A step creates a call log with a recording that is named after its file. -/
def Creates (w w' : World) (uuid : String) : Prop :=
  ∃ stored ∈ w'.tables.db.callLogs, w.tables.db.nextCallLogId ≤ stored.id ∧
    uuid ∈ pathUuids stored.log

lemma uuid_mem_recordingRows {stored : StoredCallLog} {uuid : RecordingUuid}
    {recording : Recording} : (.uuid uuid, recording) ∈ stored.recordingRows ↔
      recording ∈ stored.log.recordings ∧ recording.uuid = some uuid := by
  rw [StoredCallLog.recordingRows, List.mem_map]
  constructor
  · rintro ⟨⟨r, i⟩, hmem, heq⟩
    obtain ⟨hkey, rfl⟩ := Prod.mk.inj heq
    refine ⟨List.fst_mem_of_mem_zipIdx hmem, ?_⟩
    cases huuid : r.uuid with
    | none =>
        rw [huuid] at hkey
        cases hkey
    | some =>
        rw [huuid] at hkey
        exact congrArg some (RecordingKey.uuid.inj hkey)
  · rintro ⟨hmem, huuid⟩
    obtain ⟨i, hi, rfl⟩ := List.getElem_of_mem hmem
    refine ⟨(stored.log.recordings[i], i), ?_, ?_⟩
    · exact List.mem_zipIdx_iff_getElem?.2 (List.getElem?_eq_getElem hi)
    · dsimp only
      rw [huuid]
      rfl

lemma mem_pathUuids_iff {log : CallLog} {uuid : String} : uuid ∈ pathUuids log ↔
    ∃ recording ∈ log.recordings, recording.uuid = some (.ofPath uuid) := by
  rw [pathUuids, List.mem_filterMap]
  refine exists_congr fun recording => and_congr_right fun _ => ?_
  cases huuid : recording.uuid with
  | none => simp
  | some u => cases u <;> simp

/-! ### What a step does -/

/-- A change of the rows of recordings of a call log that deletes some of them. -/
structure DeletesRows (f : RecordingKey × Recording → Recording) : Prop where
  uuid : ∀ row, (f row).uuid = row.2.uuid
  live : ∀ row, (f row).deleted = false → f row = row.2

lemma deletesRows_ite (p : RecordingKey × Recording → Prop) [DecidablePred p] :
    DeletesRows fun row => if p row then row.2.delete else row.2 where
  uuid row := by split <;> rfl
  live row h := by
    split at h
    · exact absurd h (by simp [Recording.delete, Recording.deleted])
    · next hp => rw [if_neg hp]

/-- A step of the history keeps call logs or creates them, or it deletes recordings. -/
lemma HistoryStep.kept_or_deletes {w w' : World} (h : HistoryStep w w') :
    w.tables.db.Kept CallLog.Recorded w'.tables.db ∨
      ∃ f : StoredCallLog → RecordingKey × Recording → Recording,
        (∀ stored, DeletesRows (f stored)) ∧ w'.tables.db =
          w.tables.db.mapRecordings fun stored => stored.recordingRows.map (f stored) := by
  cases h with
  | generate => exact .inl .generate
  | deleteAll => exact .inl .deleteAll
  | deleteFromDays => exact .inl .deleteFromDays
  | arrival => exact .inl (.of_subset le_rfl (List.Subset.refl _))
  | deleteMedia refused callLogId key path =>
      rw [snd_run_deleteMedia]
      exact .inr ⟨_, fun stored => deletesRows_ite fun row => stored.id = callLogId ∧ row.1 = key,
        deleteMediaBy_eq⟩
  | purge daysToKeep now order refused tenant =>
      by_cases hconfig : w.tables.config = none
      · rw [Purger.run_purge_of_none hconfig]
        exact .inl .refl
      · obtain ⟨treated, hdb⟩ := sound_recordingsPurger.exists_db_run_purge hconfig
        refine .inr ⟨_, fun stored => deletesRows_ite fun _ => treated stored, hdb.trans ?_⟩
        refine congrArg w.tables.db.mapRecordings (funext fun stored => ?_)
        rw [deleteRecordingsIf]
        cases treated stored with
        | true =>
            simp only [if_true]
            rw [← map_snd_recordingRows, List.map_map]
            rfl
        | false =>
            simp only [Bool.false_eq_true, if_false]
            exact map_snd_recordingRows.symm

/-- A call log keeps everything but the paths of recordings that are deleted. -/
def StoredCallLog.Fades (stored stored' : StoredCallLog) : Prop :=
  ∃ f, DeletesRows f ∧ stored' = stored.withRecordings (stored.recordingRows.map f)

namespace StoredCallLog.Fades

variable {stored stored' stored'' : StoredCallLog}

lemma refl : stored.Fades stored :=
  ⟨Prod.snd, ⟨fun _ => rfl, fun _ _ => rfl⟩, by rw [map_snd_recordingRows]; rfl⟩

lemma trans (h : stored.Fades stored') (h' : stored'.Fades stored'') :
    stored.Fades stored'' := by
  obtain ⟨f, hf, rfl⟩ := h
  obtain ⟨f', hf', rfl⟩ := h'
  refine ⟨fun row => f' (row.1, f row), ⟨fun row => ?_, fun row hlive => ?_⟩, ?_⟩
  · exact (hf'.uuid _).trans (hf.uuid row)
  · have hsame : f' (row.1, f row) = f row := hf'.live _ hlive
    rw [hsame] at hlive ⊢
    exact hf.live row hlive
  · rw [recordingRows_withRecordings_map hf.uuid, List.map_map]
    rfl

/-- A row that is not deleted was there before. -/
lemma mem_recordingRows (h : stored.Fades stored') {row : RecordingKey × Recording}
    (hlive : row.2.deleted = false) (hrow : row ∈ stored'.recordingRows) :
    row ∈ stored.recordingRows := by
  obtain ⟨f, hf, rfl⟩ := h
  rw [recordingRows_withRecordings_map hf.uuid] at hrow
  obtain ⟨before, hbefore, rfl⟩ := List.mem_map.1 hrow
  have hsame : (before.1, f before) = before := Prod.ext rfl (hf.live before hlive)
  rwa [hsame]

lemma exists_withRecordings (h : stored.Fades stored') : ∃ recordings : List Recording,
    stored' = stored.withRecordings recordings ∧
      recordings.isEmpty = stored.log.recordings.isEmpty := by
  obtain ⟨f, -, rfl⟩ := h
  refine ⟨_, rfl, ?_⟩
  rw [List.isEmpty_map, ← map_snd_recordingRows, List.isEmpty_map]

end StoredCallLog.Fades

/-- What may happen to the call logs: they are kept, but for recordings that are deleted, or
deleted themselves, and new ones have new ids. -/
structure Database.Later (db db' : Database) : Prop where
  nextCallLogId : db.nextCallLogId ≤ db'.nextCallLogId
  callLogs : ∀ stored' ∈ db'.callLogs,
    (∃ stored ∈ db.callLogs, stored.Fades stored') ∨ db.nextCallLogId ≤ stored'.id

namespace Database.Later

variable {db db' db'' : Database}

lemma of_kept {P : CallLog → Prop} (h : db.Kept P db') : db.Later db' where
  nextCallLogId := h.nextCallLogId
  callLogs stored hstored :=
    (h.callLogs stored hstored).imp (fun hold => ⟨stored, hold, .refl⟩) And.left

lemma refl : db.Later db := of_kept (.refl (P := fun _ => True))

lemma trans (h : db.Later db') (h' : db'.Later db'') : db.Later db'' where
  nextCallLogId := h.nextCallLogId.trans h'.nextCallLogId
  callLogs stored'' hstored'' := by
    rcases h'.callLogs stored'' hstored'' with ⟨stored', hstored', hfades'⟩ | hnew
    · rcases h.callLogs stored' hstored' with ⟨stored, hstored, hfades⟩ | hnew
      · exact .inl ⟨stored, hstored, hfades.trans hfades'⟩
      · obtain ⟨f, -, rfl⟩ := hfades'
        exact .inr hnew
    · exact .inr (h.nextCallLogId.trans hnew)

lemma mapRecordings {f : StoredCallLog → RecordingKey × Recording → Recording}
    (hf : ∀ stored, DeletesRows (f stored)) :
    db.Later (db.mapRecordings fun stored => stored.recordingRows.map (f stored)) where
  nextCallLogId := le_rfl
  callLogs stored' hstored' := by
    obtain ⟨stored, hstored, rfl⟩ := List.mem_map.1 hstored'
    exact .inl ⟨stored, hstored, f stored, hf stored, rfl⟩

/-- The rows that are not deleted were so before, or are new. -/
lemma liveRow (h : db.Later db') {callLogId : ℕ} {row : RecordingKey × Recording}
    (hrow : db'.LiveRow callLogId row) :
    db.LiveRow callLogId row ∨ db.nextCallLogId ≤ callLogId := by
  obtain ⟨hlive, stored', hstored', rfl, hrow⟩ := hrow
  rcases h.callLogs stored' hstored' with ⟨stored, hstored, hfades⟩ | hnew
  · have hbefore := hfades.mem_recordingRows hlive hrow
    obtain ⟨f, -, rfl⟩ := hfades
    exact .inl ⟨hlive, stored, hstored, rfl, hbefore⟩
  · exact .inr hnew

end Database.Later

lemma HistoryStep.later {w w' : World} (h : HistoryStep w w') :
    w.tables.db.Later w'.tables.db := by
  rcases h.kept_or_deletes with hkept | ⟨f, hf, hdb⟩
  · exact .of_kept hkept
  · exact hdb ▸ .mapRecordings hf

/-- A call log that is created has the recordings of its CELs, none of them deleted. -/
lemma HistoryStep.live_of_creates {w w' : World} {uuid : String} (h : HistoryStep w w')
    (hcreates : Creates w w' uuid) : w'.Live uuid := by
  obtain ⟨stored, hmem, hnew, huuid⟩ := hcreates
  rcases h.kept_or_deletes with hkept | ⟨f, hf, hdb⟩
  · rcases hkept.callLogs stored hmem with hbefore | ⟨-, hrecorded⟩
    · exact absurd (w.tables.db.callLogs_lt stored hbefore) (Nat.not_lt.2 hnew)
    · obtain ⟨recording, hrecording, hofPath⟩ := mem_pathUuids_iff.1 huuid
      obtain ⟨filename, hpath, -⟩ := hrecorded recording hrecording uuid hofPath
      refine ⟨stored.id, recording, ?_, stored, hmem, rfl,
        uuid_mem_recordingRows.2 ⟨hrecording, hofPath⟩⟩
      rw [Recording.deleted, hpath]
      rfl
  · rw [hdb] at hmem
    obtain ⟨before, hbefore, rfl⟩ := List.mem_map.1 hmem
    exact absurd (w.tables.db.callLogs_lt before hbefore) (Nat.not_lt.2 hnew)

/-! ### Histories -/

/-- A history of any number of steps. -/
def History : World → World → Prop := Relation.ReflTransGen HistoryStep

/-- A history in which no step creates a call log with some recording. -/
def HistoryWithout (uuid : String) : World → World → Prop :=
  Relation.ReflTransGen fun w w' => HistoryStep w w' ∧ ¬ Creates w w' uuid

lemma History.later {w w' : World} (h : History w w') : w.tables.db.Later w'.tables.db := by
  induction h with
  | refl => exact .refl
  | tail _ hstep ih => exact ih.trans hstep.later

/-- A row of a deleted recording never gets its path back.  The recording itself stays
deleted in a history without a generation that creates a call log with it; and each
generation that does so makes it live again. -/
theorem deleted_until_created (w w' : World) (uuid : String) :
    (History w w' → ∀ callLogId row, w'.tables.db.LiveRow callLogId row →
      callLogId < w.tables.db.nextCallLogId → w.tables.db.LiveRow callLogId row) ∧
    (HistoryWithout uuid w w' → ¬ w.Live uuid → ¬ w'.Live uuid) ∧
    (HistoryStep w w' → Creates w w' uuid → w'.Live uuid) := by
  refine ⟨fun h callLogId row hlive hid => ?_, fun h hdeleted => ?_, fun h => h.live_of_creates⟩
  · exact (h.later.liveRow hlive).resolve_right (Nat.not_le.2 hid)
  · induction h with
    | refl => exact hdeleted
    | tail _ hstep ih =>
        obtain ⟨hstep, hcreates⟩ := hstep
        rintro ⟨callLogId, recording, hlive⟩
        rcases hstep.later.liveRow hlive with hbefore | hnew
        · exact ih ⟨callLogId, recording, hbefore⟩
        · -- the row is that of a new call log
          obtain ⟨-, stored, hmem, rfl, hrow⟩ := hlive
          obtain ⟨hrecording, hofPath⟩ := uuid_mem_recordingRows.1 hrow
          exact hcreates ⟨stored, hmem, hnew, mem_pathUuids_iff.2 ⟨recording, hrecording, hofPath⟩⟩

/-- The file of a recording. -/
def recordedPath : String :=
  "/var/lib/wazo/sounds/tenants/" ++
    "4bc5b4a7-1f4a-4d9b-8b67-97e3c7ea4e90/monitor/6d2a33b1-6c37-4a15-a1d9-4be1d4a33f52.wav"

/-- A recorded call has arrived. -/
def recordedArrival : World where
  tables :=
    { db := Database.insertCels
        [plainEvent 1 "1.1" "PJSIP/alice-00000001" .chanStart,
         plainEvent 2 "1.1" "PJSIP/alice-00000001" .bridgeEnter,
         startEvent 3 "1.1" "0x1" recordedPath,
         plainEvent 4 "1.1" "PJSIP/alice-00000001" .chanEnd,
         plainEvent 5 "1.1" "PJSIP/alice-00000001" .linkedidEnd] .empty (by decide) }
  files := {recordedPath}

/-- Its CELs are generated. -/
def World.generateCall (w : World) : World :=
  { w with tables := { w.tables with
    db := (run (CallLogsManager.generate .simple noFault (.fromLinkedId "1.1")) w.tables.db).2 } }

/-- The call is generated, and its recording is deleted. -/
def recordedDeletion : World :=
  (run (RecordingService.deleteMedia ∅ 1 (.uuid (.ofPath "6d2a33b1-6c37-4a15-a1d9-4be1d4a33f52"))
    (some recordedPath)) recordedArrival.generateCall).2

/-- A second generation over the CELs of the call makes the recording live again. -/
theorem recordedDeletion_live_again :
    History recordedArrival recordedDeletion ∧
      (∃ stored ∈ recordedDeletion.tables.db.callLogs, ∃ recording ∈ stored.log.recordings,
        recording.uuid = some (.ofPath "6d2a33b1-6c37-4a15-a1d9-4be1d4a33f52") ∧
          recording.deleted = true) ∧
      ¬ recordedDeletion.Live "6d2a33b1-6c37-4a15-a1d9-4be1d4a33f52" ∧
      HistoryStep recordedDeletion recordedDeletion.generateCall ∧
      recordedDeletion.generateCall.Live "6d2a33b1-6c37-4a15-a1d9-4be1d4a33f52" := by
  refine ⟨?_, by decide +kernel, by decide +kernel, .generate _ _ _ _, by decide +kernel⟩
  exact (Relation.ReflTransGen.single (.generate _ _ _ _)).tail (.deleteMedia _ _ _ _ _)

end CallLogd
