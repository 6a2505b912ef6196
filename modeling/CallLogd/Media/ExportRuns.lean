/-
The tasks of the exports do not interfere.

The stages of a task cut the program that it runs where something else can come in between.
What one task does is seen by no other: so a task that has come to its end has left what
its program leaves when it runs alone, from its pending row (`ended_alone`).
-/
import CallLogd.Media.Exports

namespace CallLogd

open Transactions

/-! ### What remains to do -/

namespace ExportTask

variable (outputDir uuid : String) (task : ExportTask)

/-- What remains to do when the archive is closed. -/
def finish (e : Export) : ExportProgram Unit := do
  ExportDAO.update
    ((e.withPath (RecordingExportTask.fullpath uuid outputDir)).withStatus .finished)
  if task.email.any (· ≠ "") then RecordingExportTask.sendEmail task.mailFails

/-- What remains to do of the body of `with ZipFile`, and the closing of the archive. -/
def withClosing (body : ExportProgram Unit) : ExportProgram Unit :=
  ExceptT.mk fun s =>
    match task.closingFails with
    | none => run body s
    | some e => (.error (.archive e), (run body s).2)

/-- The program of a task, from the beginning. -/
def program : ExportProgram Unit :=
  RecordingExportTask.run task.openingFails task.writeFails task.closingFails task.mailFails uuid
    task.recordings outputDir task.tenantUuid task.email

/-- What remains to do for a task. -/
def rest : Stage → ExportProgram Unit
  | .queued => task.program outputDir uuid
  | .started e => do
      ExportDAO.update e
      ZipFile.withArchive task.openingFails task.closingFails
        (RecordingExportTask.fullpath uuid outputDir)
        (RecordingExportTask.writeRecordings task.writeFails e
          (RecordingExportTask.fullpath uuid outputDir) 0 task.recordings)
      task.finish outputDir uuid e
  | .opening e => do
      ZipFile.withArchive task.openingFails task.closingFails
        (RecordingExportTask.fullpath uuid outputDir)
        (RecordingExportTask.writeRecordings task.writeFails e
          (RecordingExportTask.fullpath uuid outputDir) 0 task.recordings)
      task.finish outputDir uuid e
  | .writing e n => do
      task.withClosing (RecordingExportTask.writeRecordings task.writeFails e
        (RecordingExportTask.fullpath uuid outputDir) n (task.recordings.drop n))
      task.finish outputDir uuid e
  | .failing e error => do
      task.withClosing do
        ExportDAO.update (e.withStatus .error)
        throw error
      task.finish outputDir uuid e
  | .closing e raised => do
      task.withClosing (raised.elim (pure ()) throw)
      task.finish outputDir uuid e
  | .finishing e => task.finish outputDir uuid e
  | .mailing =>
      if task.email.any (· ≠ "") then RecordingExportTask.sendEmail task.mailFails else pure ()
  | .ended result => ExceptT.mk fun s => (result, s)
  | .stale => pure ()

variable {outputDir uuid task} {s : ExportState} {e : Export} {stage : Stage}

lemma Fits.stage_ne_stale {archive : String} {row : Export}
    {entries : Option (List ArchiveEntry)} (h : task.Fits archive row entries) :
    task.stage ≠ .stale := by
  intro hstale
  rw [Fits, hstale] at h
  exact h

lemma update_of_ne_stale (h : (update e stage s).1 ≠ .stale) :
    update e stage s = (stage, { s with exports := ExportDAO.updated e s.exports }) := by
  rw [update] at h ⊢
  split
  · rfl
  · next hnot => exact absurd (if_neg hnot ▸ rfl) h

lemma run_update : run (ExportDAO.update e) s =
    (.ok (), { s with exports := ExportDAO.updated e s.exports }) := rfl

/-- The body of `with ZipFile` goes on from another state. -/
lemma run_withClosing_congr {body body' : ExportProgram Unit} {s' : ExportState}
    (h : run body s = run body' s') (f : Unit → ExportProgram Unit) :
    run (task.withClosing body >>= f) s = run (task.withClosing body' >>= f) s' := by
  have hclosing : run (task.withClosing body) s = run (task.withClosing body') s' := by
    have hrun : ∀ (body : ExportProgram Unit) (s : ExportState),
        run (task.withClosing body) s =
          match task.closingFails with
          | none => run body s
          | some e => (.error (.archive e), (run body s).2) := fun _ _ => rfl
    rw [hrun, hrun, h]
  rw [run_bind, run_bind, hclosing]

/-- A write, in the program and in the stages. -/
lemma run_rest_writing {n : ℕ} (hstage : task.stage = .writing e n) :
    run (task.rest outputDir uuid (.writing e n)) s =
      run (task.rest outputDir uuid (task.next outputDir uuid s).1)
        (task.next outputDir uuid s).2 := by
  rw [next, hstage]
  dsimp only
  cases hrecording : task.recordings[n]? with
  | none =>
      have hdrop : task.recordings.drop n = [] :=
        List.drop_eq_nil_of_le (List.getElem?_eq_none_iff.1 hrecording)
      rw [rest, hdrop]
      rfl
  | some recording =>
      have hdrop : task.recordings.drop n = recording :: task.recordings.drop (n + 1) := by
        obtain ⟨hn, rfl⟩ := List.getElem?_eq_some_iff.1 hrecording
        exact List.drop_eq_getElem_cons hn
      rw [rest, hdrop, RecordingExportTask.writeRecordings]
      dsimp only
      cases hwrite : task.writeFails n with
      | none =>
          refine run_withClosing_congr (run_bind_of_ok (a := ()) ?_) _
          rw [run_handle]
          rfl
      | some error =>
          have hfails : ∀ (archive : String) (entry : ArchiveEntry),
              run (ZipFile.write (some error) archive entry) s = (.error error, s) :=
            fun _ _ => rfl
          cases error with
          | permissionError | fileNotFoundError =>
              refine run_withClosing_congr ?_ _
              rw [run_bind, run_handle, hfails]
              rfl
          | other =>
              refine run_withClosing_congr ?_ _
              rw [run_bind, run_handle, hfails]
              rfl

/-- The stages cut the program of a task. -/
lemma run_rest (h : (task.next outputDir uuid s).1 ≠ .stale) :
    run (task.rest outputDir uuid task.stage) s =
      run (task.rest outputDir uuid (task.next outputDir uuid s).1)
        (task.next outputDir uuid s).2 := by
  cases hstage : task.stage with
  | queued =>
      rw [next, hstage, rest, program, RecordingExportTask.run, run_bind_of_ok run_get]
      dsimp only
      cases ExportDAO.get uuid [task.tenantUuid] s.exports <;> rfl
  | started e =>
      rw [next, hstage] at h ⊢
      dsimp only at h ⊢
      rw [update_of_ne_stale h, rest, run_bind_of_ok run_update]
      rfl
  | opening e =>
      rw [next, hstage, rest]
      dsimp only
      cases task.openingFails with
      | some error => exact run_bind_of_error run_withArchive_of_some
      | none => rfl
  | writing e n => exact run_rest_writing hstage
  | failing e error =>
      rw [next, hstage] at h ⊢
      dsimp only at h ⊢
      rw [update_of_ne_stale h, rest]
      exact run_withClosing_congr (run_bind_of_ok run_update) _
  | closing e raised =>
      rw [next, hstage, rest]
      dsimp only
      cases hclosing : task.closingFails with
      | some error =>
          refine run_bind_of_error ?_
          rw [withClosing, hclosing]
          cases raised <;> rfl
      | none =>
          cases raised with
          | none =>
              refine run_bind_of_ok (a := ()) ?_
              rw [withClosing, hclosing]
              rfl
          | some error =>
              refine run_bind_of_error ?_
              rw [withClosing, hclosing]
              rfl
  | finishing e =>
      rw [next, hstage] at h ⊢
      dsimp only at h ⊢
      rw [update_of_ne_stale h, rest, finish, run_bind_of_ok run_update]
      rfl
  | mailing =>
      rw [next, hstage, rest, RecordingExportTask.sendEmail]
      cases hemail : task.email.any (· ≠ "") <;> cases hfails : task.mailFails <;> rfl
  | ended result =>
      rw [next, hstage]
  | stale =>
      rw [next, hstage]

end ExportTask

/-! ### What a task sees -/

/-- The rows of an export, with one archive. -/
def ExportState.part (uuid archive : String) (s : ExportState) : ExportState where
  exports := s.exports.filter (·.uuid = uuid)
  archives path := if path = archive then s.archives path else none

namespace ExportTask

variable {outputDir uuid archive : String} {task : ExportTask} {s : ExportState} {e : Export}
  {stage : Stage}

lemma get_part {tenantUuids : List String} :
    ExportDAO.get uuid tenantUuids (s.part uuid archive).exports =
      ExportDAO.get uuid tenantUuids s.exports := by
  rw [ExportDAO.get, ExportDAO.get, ExportState.part, List.find?_filter]
  refine congrArg (List.find? · s.exports) (funext fun row => ?_)
  by_cases h : row.uuid = uuid <;> simp [h]

lemma update_part (he : e.uuid = uuid) : update e stage (s.part uuid archive) =
    ((update e stage s).1, (update e stage s).2.part uuid archive) := by
  have hany : (s.part uuid archive).exports.any (·.uuid = e.uuid) =
      s.exports.any (·.uuid = e.uuid) := by
    rw [ExportState.part, List.any_filter]
    refine congrArg s.exports.any (funext fun row => ?_)
    by_cases h : row.uuid = e.uuid <;> simp [h, he]
  rw [update, update, hany]
  split
  · refine Prod.ext rfl ?_
    show ExportState.mk _ _ = ExportState.mk _ _
    rw [filter_updated]
    rfl
  · rfl

lemma part_update_archives {entries : Option (List ArchiveEntry)} :
    ExportState.part uuid archive
        { s with archives := Function.update s.archives archive entries } =
      { s.part uuid archive with
        archives := Function.update (s.part uuid archive).archives archive entries } := by
  refine congrArg (ExportState.mk _) (funext fun path => ?_)
  by_cases h : path = archive
  · subst h
    simp
  · simp [ExportState.part, h]

variable (outputDir s) in
/-- A task does the same in the part of the state that it sees. -/
lemma next_part (h : ∀ e ∈ task.stage.row?, e.uuid = uuid) :
    task.next outputDir uuid (s.part uuid (RecordingExportTask.fullpath uuid outputDir)) =
      ((task.next outputDir uuid s).1,
        (task.next outputDir uuid s).2.part uuid
          (RecordingExportTask.fullpath uuid outputDir)) := by
  rw [next, next]
  cases hstage : task.stage with
  | queued =>
      dsimp only
      rw [get_part]
      cases ExportDAO.get uuid [task.tenantUuid] s.exports <;> rfl
  | started e | failing e error | finishing e =>
      rw [hstage] at h
      exact update_part (h e rfl)
  | opening e =>
      dsimp only
      cases task.openingFails with
      | some error => rfl
      | none => exact Prod.ext rfl part_update_archives.symm
  | writing e n =>
      dsimp only
      cases task.recordings[n]? with
      | none => rfl
      | some recording =>
          cases task.writeFails n with
          | none =>
              have harchive : (s.part uuid (RecordingExportTask.fullpath uuid outputDir)).archives
                  (RecordingExportTask.fullpath uuid outputDir) =
                    s.archives (RecordingExportTask.fullpath uuid outputDir) := if_pos rfl
              refine Prod.ext rfl ?_
              dsimp only
              rw [part_update_archives, harchive]
          | some error => cases error <;> rfl
  | closing e raised =>
      dsimp only
      cases task.closingFails with
      | some error => rfl
      | none => cases raised <;> rfl
  | mailing | ended result | stale => rfl

/-- A task does nothing to what another one sees. -/
lemma Touches.part {p : Stage × ExportState} {uuid' archive' : String}
    (h : Touches archive uuid s p) (huuid : uuid' ≠ uuid) (harchive : archive' ≠ archive) :
    p.2.part uuid' archive' = s.part uuid' archive' := by
  refine congrArg₂ ExportState.mk (h.others uuid' huuid) (funext fun path => ?_)
  by_cases hpath : path = archive'
  · rw [if_pos hpath, if_pos hpath, hpath, h.archives _ harchive]
  · rw [if_neg hpath, if_neg hpath]

end ExportTask

/-! ### What is reached -/

/-- The state in which a task runs alone. -/
def ExportTask.initial (uuid : String) (requestedAt : DateTime) (task : ExportTask) :
    ExportState where
  exports := [pendingRow uuid task.tenantUuid requestedAt]
  archives _ := none

namespace ExportSystem

open ExportTask

variable {outputDir : String} {sys sys' : ExportSystem} {row : Export} {uuid : String}
  {task : ExportTask}

/-- What the task of a row sees. -/
def partOf (outputDir : String) (row : Export) (sys : ExportSystem) : ExportState :=
  sys.state.part row.uuid (RecordingExportTask.fullpath row.uuid outputDir)

/-- What remains to do for a task does the same as its program alone, from what it sees.  The
archive of a finished row may have been purged. -/
structure Continues (outputDir : String) (task : ExportTask) (row : Export) (requestedAt : DateTime)
    (sys : ExportSystem) (s : ExportState) : Prop where
  run_eq : run (task.rest outputDir row.uuid task.stage) s =
    run (task.program outputDir row.uuid) (task.initial row.uuid requestedAt)
  sees : s = sys.partOf outputDir row ∨ s.exports = [row] ∧ row.status = .finished ∧
    sys.state.archives (RecordingExportTask.fullpath row.uuid outputDir) = none

/-- Every task goes on as it does alone, and the archives of the exports to come do not
exist. -/
structure Apart (outputDir : String) (sys : ExportSystem) : Prop where
  fresh : ∀ uuid, IsCanonicalUuid uuid → sys.tasks uuid = none →
    sys.state.archives (RecordingExportTask.fullpath uuid outputDir) = none
  continues : ∀ row ∈ sys.state.exports, ∀ task, sys.tasks row.uuid = some task →
    ∃ requestedAt s, Continues outputDir task row requestedAt sys s

variable (outputDir) in
/-- The row of an export is the only one that its task sees. -/
lemma exports_partOf (hnodup : (sys.state.exports.map (·.uuid)).Nodup)
    (hrow : row ∈ sys.state.exports) : (sys.partOf outputDir row).exports = [row] := by
  refine List.perm_singleton.1 ((List.perm_ext_iff_of_nodup (hnodup.of_map.filter _)
    (List.nodup_singleton row)).2 fun row' => ?_)
  rw [List.mem_filter, decide_eq_true_eq, List.mem_singleton]
  constructor
  · rintro ⟨hrow', huuid⟩
    exact List.inj_on_of_nodup_map hnodup hrow' hrow huuid
  · rintro rfl
    exact ⟨hrow, rfl⟩

lemma Continues.exports_eq {requestedAt : DateTime} {s : ExportState}
    (h : Continues outputDir task row requestedAt sys s)
    (hnodup : (sys.state.exports.map (·.uuid)).Nodup) (hrow : row ∈ sys.state.exports) :
    s.exports = [row] := by
  rcases h.sees with rfl | ⟨hexports, -⟩
  · exact exports_partOf outputDir hnodup hrow
  · exact hexports

/-- A task goes on when nothing changes that it sees. -/
lemma Continues.congr {requestedAt : DateTime} {s : ExportState}
    (h : Continues outputDir task row requestedAt sys s)
    (hpart : sys'.partOf outputDir row = sys.partOf outputDir row) :
    Continues outputDir task row requestedAt sys' s := by
  refine ⟨h.run_eq, ?_⟩
  rcases h.sees with hs | ⟨hexports, hfinished, harchive⟩
  · exact .inl (hs.trans hpart.symm)
  · have hsame := congrFun (congrArg ExportState.archives hpart)
      (RecordingExportTask.fullpath row.uuid outputDir)
    refine .inr ⟨hexports, hfinished, ?_⟩
    simpa only [partOf, ExportState.part, if_pos, harchive] using hsame

lemma apart_request {requestedAt : DateTime} (hsys : Invariant outputDir sys)
    (hsys' : Invariant outputDir (sys.request uuid requestedAt task)) (h : Apart outputDir sys)
    (huuid : IsCanonicalUuid uuid) (hnew : sys.tasks uuid = none) :
    Apart outputDir (sys.request uuid requestedAt task) := by
  refine ⟨fun uuid' huuid' hnone => ?_, fun row hrow task' htask' => ?_⟩
  · have hne : uuid' ≠ uuid := fun heq => by
      rw [heq, tasks_request_self] at hnone
      cases hnone
    exact h.fresh uuid' huuid' ((tasks_request_of_ne hne).symm.trans hnone)
  · rcases List.mem_append.1 hrow with hold | hadded
    · have hne : row.uuid ≠ uuid := fun heq => by
        obtain ⟨before, hbefore, -⟩ := hsys.fits row hold
        rw [heq, hnew] at hbefore
        cases hbefore
      obtain ⟨requestedAt', s, hs⟩ :=
        h.continues row hold task' ((tasks_request_of_ne hne).symm.trans htask')
      refine ⟨requestedAt', s, hs.congr (congrArg₂ ExportState.mk ?_ rfl)⟩
      have hadded : [pendingRow uuid task.tenantUuid requestedAt].filter
          (·.uuid = row.uuid) = [] := by
        simpa [pendingRow] using hne.symm
      rw [request, List.filter_append, hadded, List.append_nil]
    · -- the row is the one that the program finds when it runs alone
      have hexports := exports_partOf outputDir hsys'.nodup hrow
      obtain rfl := List.mem_singleton.1 hadded
      obtain rfl := Option.some.inj (tasks_request_self.symm.trans htask')
      refine ⟨requestedAt, _, rfl, .inl (congrArg₂ ExportState.mk hexports.symm ?_)⟩
      funext path
      split
      · next heq => exact (heq ▸ h.fresh uuid huuid hnew).symm
      · rfl

/-- What a task does itself is what its program does next. -/
lemma Continues.work {before : Export} {requestedAt : DateTime} {s : ExportState}
    (h : Continues outputDir task before requestedAt sys s) (hsys : Invariant outputDir sys)
    (hsys' : Invariant outputDir (sys.work outputDir row.uuid task))
    (hbefore : before ∈ sys.state.exports)
    (hrow : row ∈ (sys.work outputDir row.uuid task).state.exports)
    (huuid : before.uuid = row.uuid) (htask : sys.tasks row.uuid = some task) :
    ∃ s, Continues outputDir (task.withStage (task.next outputDir row.uuid sys.state).1) row
      requestedAt (sys.work outputDir row.uuid task) s := by
  have hrun : ∀ stage, (task.withStage stage).rest outputDir row.uuid =
      task.rest outputDir row.uuid := fun stage => rfl
  have hrest := h.run_eq
  rw [huuid] at hrest
  rcases h.sees with rfl | ⟨hexports, hfinished, harchive⟩
  · have hpart := next_part outputDir sys.state
      (hsys.named row.uuid task htask)
    have hstale : (task.next outputDir row.uuid sys.state).1 ≠ .stale := by
      obtain ⟨task', htask', -, hfits⟩ := hsys'.fits row hrow
      obtain rfl := Option.some.inj (tasks_work_self.symm.trans htask')
      exact hfits.stage_ne_stale
    rw [partOf, huuid, run_rest (by rw [hpart]; exact hstale), hpart] at hrest
    exact ⟨_, hrest, .inl rfl⟩
  · obtain ⟨task', htask', -, hfits⟩ := hsys.fits before hbefore
    obtain rfl := Option.some.inj (htask.symm.trans (huuid ▸ htask'))
    obtain ⟨stage, hstale, hnext⟩ :=
      next_of_finished outputDir row.uuid hfits hfinished
    have hwork : (sys.work outputDir row.uuid task).state = sys.state := by
      rw [ExportSystem.work, hnext]
    rw [hwork] at hrow
    obtain rfl := List.inj_on_of_nodup_map hsys.nodup hbefore hrow huuid
    rw [run_rest (by rw [hnext]; exact hstale), hnext] at hrest
    refine ⟨s, ?_, .inr ⟨hexports, hfinished, hwork ▸ harchive⟩⟩
    rw [hnext]
    exact hrest

lemma apart_work (hsys : Invariant outputDir sys)
    (hsys' : Invariant outputDir (sys.work outputDir uuid task)) (h : Apart outputDir sys)
    (htask : sys.tasks uuid = some task) : Apart outputDir (sys.work outputDir uuid task) := by
  have htouches : Touches (RecordingExportTask.fullpath uuid outputDir) uuid sys.state
      (task.next outputDir uuid sys.state) := touches_next (hsys.named uuid task htask)
  have hpath : ∀ uuid', IsCanonicalUuid uuid' → uuid' ≠ uuid →
      RecordingExportTask.fullpath uuid' outputDir ≠ RecordingExportTask.fullpath uuid outputDir :=
    fun uuid' huuid' hne heq => hne (fullpath_inj huuid' (hsys.canonical _ _ htask) heq)
  refine ⟨fun uuid' huuid' hnone => ?_, fun row hrow task' htask' => ?_⟩
  · have hne : uuid' ≠ uuid := fun heq => by
      rw [heq, tasks_work_self] at hnone
      cases hnone
    rw [work, htouches.archives _ (hpath uuid' huuid' hne)]
    exact h.fresh uuid' huuid' ((tasks_work_of_ne hne).symm.trans hnone)
  · by_cases heq : row.uuid = uuid
    · subst heq
      obtain rfl := Option.some.inj (tasks_work_self.symm.trans htask')
      obtain ⟨before, hbefore, huuid⟩ : ∃ before ∈ sys.state.exports, before.uuid = row.uuid := by
        have hmem := List.mem_map_of_mem (f := (·.uuid)) hrow
        exact List.mem_map.1 (htouches.uuids ▸ hmem)
      obtain ⟨requestedAt, s, hs⟩ := h.continues before hbefore task (huuid ▸ htask)
      exact ⟨requestedAt, hs.work hsys hsys' hbefore hrow huuid htask⟩
    · have hold := (htouches.rows heq).1 hrow
      have hbefore := (tasks_work_of_ne heq).symm.trans htask'
      obtain ⟨requestedAt, s, hs⟩ := h.continues row hold task' hbefore
      exact ⟨requestedAt, s, hs.congr
        (htouches.part heq (hpath _ (hsys.canonical _ _ hbefore) heq))⟩

lemma apart_purge {tenantUuid : String} {maxDate : DateTime} {removed : List String}
    {completed : Bool} (hsys : Invariant outputDir sys)
    (hsys' : Invariant outputDir (sys.purge tenantUuid maxDate removed completed))
    (h : Apart outputDir sys) (hremoved : removed ⊆ sys.oldPaths tenantUuid maxDate) :
    Apart outputDir (sys.purge tenantUuid maxDate removed completed) := by
  refine ⟨fun uuid huuid hnone => ?_, fun row hrow task htask => ?_⟩
  · show (if _ then none else _) = none
    split
    · rfl
    · exact h.fresh uuid huuid hnone
  · have hold : row ∈ sys.state.exports := by
      cases completed with
      | true => exact List.mem_of_mem_filter hrow
      | false => exact hrow
    obtain ⟨requestedAt, s, hs⟩ := h.continues row hold task htask
    by_cases hmem : RecordingExportTask.fullpath row.uuid outputDir ∈ removed
    · -- only a finished row has the path that the purge removes
      obtain ⟨task', -, -, hfits⟩ := hsys.fits row hold
      rcases hfits.unfinished_or_complete with hunfinished | hcomplete
      · exact absurd (hremoved hmem) (hsys.notMem_oldPaths hold hunfinished.1)
      · exact ⟨requestedAt, s, hs.run_eq, .inr ⟨hs.exports_eq hsys.nodup hold,
          hcomplete.status, if_pos hmem⟩⟩
    · refine ⟨requestedAt, s, hs.congr (congrArg₂ ExportState.mk ?_ (funext fun path => ?_))⟩
      · exact (exports_partOf outputDir hsys'.nodup hrow).trans
          (exports_partOf outputDir hsys.nodup hold).symm
      · by_cases hpath : path = RecordingExportTask.fullpath row.uuid outputDir
        · rw [if_pos hpath, if_pos hpath, hpath]
          exact if_neg hmem
        · rw [if_neg hpath, if_neg hpath]

lemma apart_reached (h : Reached outputDir sys) : Apart outputDir sys := by
  induction h with
  | refl =>
      refine ⟨fun _ _ _ => rfl, fun _ hrow => ?_⟩
      cases hrow
  | @tail sys sys' hbefore hstep ih =>
      have hsys := invariant_reached hbefore
      have hsys' := invariant_reached (Relation.ReflTransGen.tail hbefore hstep)
      cases hstep with
      | request rules formats params db uuid requestedAt task sys hpost huuid hnew =>
          exact apart_request hsys hsys' ih huuid hnew
      | work uuid task sys htask => exact apart_work hsys hsys' ih htask
      | purge tenantUuid maxDate removed completed sys hremoved =>
          exact apart_purge hsys hsys' ih hremoved

/-- In every state that is reached, whatever came in between: a task that has come to its end
has the result of its program when it runs alone, and has left the same row and the same
archive, unless its row was purged, or the archive of its row that is finished. -/
theorem ended_alone (h : Reached outputDir sys) {result : Except TaskError Unit}
    (htask : sys.tasks row.uuid = some task) (hended : task.stage = .ended result)
    (hrow : row ∈ sys.state.exports) :
    ∃ requestedAt s,
      run (task.program outputDir row.uuid) (task.initial row.uuid requestedAt) = (result, s) ∧
      s.exports = [row] ∧
      (sys.state.archives (RecordingExportTask.fullpath row.uuid outputDir) =
          s.archives (RecordingExportTask.fullpath row.uuid outputDir) ∨
        row.status = .finished ∧
          sys.state.archives (RecordingExportTask.fullpath row.uuid outputDir) = none) := by
  obtain ⟨requestedAt, s, hs⟩ := (apart_reached h).continues row hrow task htask
  have hrun := hs.run_eq
  rw [hended] at hrun
  refine ⟨requestedAt, s, hrun.symm, hs.exports_eq (invariant_reached h).nodup hrow, ?_⟩
  rcases hs.sees with rfl | ⟨-, hfinished, harchive⟩
  · exact .inl (if_pos rfl).symm
  · exact .inr ⟨hfinished, harchive⟩

theorem ended_alone_downloadable : ∃ (task : ExportTask) (requestedAt : DateTime)
    (s : ExportState),
    run (task.program "/exports" exportUuid) (task.initial exportUuid requestedAt) =
        (.ok (), s) ∧
      s.exports = [⟨exportUuid, "t", 0, .finished,
        some "/exports/6fa459ea-ee8a-3ca4-894e-db77e160355e.zip"⟩] := by
  have hstage : (downloadable.tasks exportUuid).map (·.stage) = some (.ended (.ok ())) := by
    decide +kernel
  obtain ⟨task, htask, hended⟩ := Option.map_eq_some_iff.1 hstage
  have hrow : (⟨exportUuid, "t", 0, .finished,
      some "/exports/6fa459ea-ee8a-3ca4-894e-db77e160355e.zip"⟩ : Export) ∈
        downloadable.state.exports := by
    decide +kernel
  obtain ⟨requestedAt, s, hrun, hexports, -⟩ :=
    ended_alone reached_downloadable htask hended hrow
  exact ⟨task, requestedAt, s, hrun, hexports⟩

end ExportSystem

end CallLogd
