/-
A generation that follows one that has failed on the same CELs.

What the first one has deleted is no longer named by a CEL, and the second one
stores the same call logs as if the first one had not run.  It is the call logs
that the first one has created, but not associated, that the second one cannot
find.
-/
import CallLogd.Database.Runs

namespace CallLogd

open Transactions
open scoped List

/-- The row of a CEL, if it is in the table. -/
def Database.rowOf (db : Database) (cel : CEL) : Option CELRow :=
  db.cels.find? fun row => row.toCEL = cel

/-- The rows of some CELs. -/
def Database.rowsOf (db : Database) (cels : List CEL) : List CELRow := cels.filterMap db.rowOf

/-- The sequence of call-log ids after ids have been lost: a transaction that is
rolled back does not return those that it has drawn. -/
def Database.skipIds (k : ℕ) (db : Database) : Database :=
  { db with
    nextCallLogId := db.nextCallLogId + k
    callLogs_lt := fun stored h => Nat.lt_add_right k (db.callLogs_lt stored h)
    nextCallLogId_pos := Nat.add_pos_left db.nextCallLogId_pos k }

/-- A call log with another id. -/
def StoredCallLog.rename (σ : ℕ → ℕ) (stored : StoredCallLog) : StoredCallLog :=
  { stored with id := σ stored.id }

/-- The databases have the same call logs, which their CELs are assigned in the
same way, up to the ids of the call logs. -/
structure Database.Renaming (db db' : Database) (σ : ℕ → ℕ) : Prop where
  injective : Function.Injective σ
  callLogs : db'.callLogs ~ db.callLogs.map (·.rename σ)
  cels : db'.cels = db.cels.map fun row => { row with callLogId := row.callLogId.map σ }

/-- The databases are the same up to the ids of the call logs. -/
def Database.SameCallLogs (db db' : Database) : Prop := ∃ σ, db.Renaming db' σ

/-- The database after its call logs have been deleted, with the references. -/
def Database.withoutCallLogs (ids : Finset ℕ) (db : Database) : Database :=
  CELDAO.unassociate ids (db.deleteCallLogs ids)

variable {db db' single failed : Database} {gen : CallLogsGenerator} {cels : List CEL}
  {logs : List CallLog} {ids : Finset ℕ} {k n : ℕ}

/-! ### The same CELs -/

lemma mem_of_rowOf_eq_some {cel : CEL} {row : CELRow} (h : db.rowOf cel = some row) :
    row ∈ db.cels ∧ row.toCEL = cel := by
  rw [Database.rowOf] at h
  exact ⟨List.mem_of_find?_eq_some h, by simpa using List.find?_some h⟩

lemma rowOf_toCEL {row : CELRow} (hrow : row ∈ db.cels) : db.rowOf row.toCEL = some row := by
  obtain ⟨row', hfind⟩ : ∃ row', db.rowOf row.toCEL = some row' :=
    Option.isSome_iff_exists.1 (List.find?_isSome.2 ⟨row, hrow, by simp⟩)
  obtain ⟨hrow', heq⟩ := mem_of_rowOf_eq_some hfind
  rw [hfind, List.inj_on_of_nodup_map db.cels_nodup hrow' hrow (congrArg CEL.id heq)]

lemma mem_rowsOf {row : CELRow} : row ∈ db.rowsOf cels ↔ row ∈ db.cels ∧ row.toCEL ∈ cels := by
  rw [Database.rowsOf, List.mem_filterMap]
  constructor
  · rintro ⟨cel, hcel, hfind⟩
    obtain ⟨hrow, rfl⟩ := mem_of_rowOf_eq_some hfind
    exact ⟨hrow, hcel⟩
  · rintro ⟨hrow, hcel⟩
    exact ⟨row.toCEL, hcel, rowOf_toCEL hrow⟩

/-- A CEL of the table is fetched as it is. -/
lemma map_toCEL_rowOf (cel : CEL) :
    (db.rowOf cel).map (·.toCEL) = Option.guard (· ∈ db.cels.map (·.toCEL)) cel := by
  cases hfind : db.rowOf cel with
  | some row =>
      obtain ⟨hrow, rfl⟩ := mem_of_rowOf_eq_some hfind
      rw [Option.guard, if_pos (decide_eq_true (List.mem_map_of_mem hrow)), Option.map_some]
  | none =>
      have hnot : cel ∉ db.cels.map (·.toCEL) := by
        rw [List.mem_map]
        rintro ⟨row, hrow, rfl⟩
        rw [rowOf_toCEL hrow] at hfind
        cases hfind
      rw [Option.guard, if_neg (by simpa using hnot), Option.map_none]

lemma map_toCEL_rowsOf : (db.rowsOf cels).map (·.toCEL) =
    cels.filter fun cel => cel ∈ db.cels.map (·.toCEL) := by
  rw [Database.rowsOf, List.map_filterMap, ← List.filterMap_eq_filter]
  exact List.filterMap_congr fun cel _ => map_toCEL_rowOf cel

/-- The new call logs do not depend on the call logs that the CELs have. -/
lemma newCallLogs_rowsOf (h : db'.cels.map (·.toCEL) = db.cels.map (·.toCEL)) :
    (gen.fromCel (db'.rowsOf cels)).newCallLogs = (gen.fromCel (db.rowsOf cels)).newCallLogs := by
  simp only [CallLogsGenerator.fromCel, map_toCEL_rowsOf, h]

/-- The CELs have no call log left to delete. -/
lemma listCallLogIds_rowsOf_withoutCallLogs
    (hcels : db'.cels = (db.withoutCallLogs
      (CallLogsGenerator.listCallLogIds (db.rowsOf cels))).cels) :
    CallLogsGenerator.listCallLogIds (db'.rowsOf cels) = ∅ := by
  refine Finset.eq_empty_of_forall_notMem fun id hid => ?_
  obtain ⟨⟨row', hrow', hcallLogId⟩, hne⟩ := mem_listCallLogIds.1 hid
  obtain ⟨hrow', hcel⟩ := mem_rowsOf.1 hrow'
  rw [hcels] at hrow'
  obtain ⟨row, hrow, rfl⟩ := List.mem_map.1 hrow'
  obtain ⟨hcallLogId, hkept⟩ := mem_unassociate_iff.1 (Option.mem_def.2 hcallLogId)
  exact hkept (mem_listCallLogIds.2 ⟨⟨row, mem_rowsOf.2 ⟨hrow, hcel⟩, hcallLogId⟩, hne⟩)

/-! ### Other ids -/

/-- The ids from `n` on are shifted. -/
def shiftIds (n k : ℕ) (id : ℕ) : ℕ := if id < n then id else id + k

lemma shiftIds_injective : Function.Injective (shiftIds n k) := by
  intro a b h
  unfold shiftIds at h
  split at h <;> split at h <;> omega

lemma shiftIds_of_lt {id : ℕ} (h : id < n) : shiftIds n k id = id := if_pos h

lemma shiftIds_of_le {id : ℕ} (h : n ≤ id) : shiftIds n k id = id + k := if_neg (by omega)

lemma numbered_add (n k : ℕ) (logs : List CallLog) :
    numbered (n + k) logs = (numbered n logs).map (·.rename (shiftIds n k)) := by
  -- the new ids are all from `n` on
  have hadd : ∀ m, numbered (m + k) logs = (numbered m logs).map (·.rename (· + k)) := by
    induction logs with
    | nil => exact fun _ => rfl
    | cons log logs ih =>
        intro m
        rw [numbered_cons, numbered_cons, List.map_cons, ← ih, Nat.add_right_comm]
        rfl
  rw [hadd]
  refine List.map_congr_left fun c hc => ?_
  rw [StoredCallLog.rename, StoredCallLog.rename, shiftIds_of_le (mem_numbered hc).2]

lemma length_numbered (n : ℕ) (logs : List CallLog) : (numbered n logs).length = logs.length := by
  simp [numbered]

lemma lastAssociated_rename (σ : ℕ → ℕ) (created : List StoredCallLog) (id : ℕ)
    (old : Option ℕ) :
    lastAssociated (created.map (·.rename σ)) id (old.map σ) =
      (lastAssociated created id old).map σ := by
  induction created generalizing old with
  | nil => rfl
  | cons c created ih =>
      simp only [lastAssociated, List.map_cons, List.foldl_cons] at ih ⊢
      rw [← ih]
      congr 1
      by_cases h : id ∈ c.log.celIds <;> simp [StoredCallLog.rename, h]

/-- The database accepts the same call logs. -/
lemma createAll_congr (htenants : db'.tenants = db.tenants)
    (hlogs : db'.callLogs.map (·.log) = db.callLogs.map (·.log)) {p : List StoredCallLog × Database}
    (h : CallLogDAO.createAll logs db = .ok p) :
    CallLogDAO.createAll logs db' =
      .ok (numbered db'.nextCallLogId logs, db'.insertCallLogs logs) := by
  induction logs generalizing db db' p with
  | nil => rfl
  | cons log logs ih =>
      have hstored : ∀ d : Database, (∀ stored ∈ d.callLogs, ∀ uuid ∈ pathUuids log,
          uuid ∉ pathUuids stored.log) ↔
          ∀ other ∈ d.callLogs.map (·.log), ∀ uuid ∈ pathUuids log, uuid ∉ pathUuids other := by
        simp
      -- what is checked does not depend on the ids
      have haccepts : db'.accepts log ↔ db.accepts log := by
        rw [Database.accepts, Database.accepts, hstored, hstored, htenants, hlogs]
      obtain ⟨hok, others, hrest, -⟩ := createAll_cons_eq_ok h
      have hrest' := @ih (db.insertCallLog log.columns) (db'.insertCallLog log.columns)
        htenants (by simp [Database.insertCallLog, hlogs]) _ hrest
      rw [CallLogDAO.createAll, CallLogDAO.create, if_pos (haccepts.2 hok)]
      simp only [bind, Except.bind, hrest', numbered_cons]
      rfl

/-- What storing call logs does when it succeeds. -/
lemma run_storeNew_eq_ok (h : run (CallLogsWriter.storeNew noFault logs) db = (.ok (), db')) :
    (∃ p, CallLogDAO.createAll logs (db.insertTenants (CallLogsWriter.tenantUuids logs)) = .ok p) ∧
      db' = (numbered db.nextCallLogId logs).foldl CELDAO.associate
        ((db.insertTenants (CallLogsWriter.tenantUuids logs)).insertCallLogs logs) := by
  rw [run_storeNew, if_neg (by simp [noFault])] at h
  split at h
  · cases h
  dsimp only at h
  rw [if_neg (by simp [noFault])] at h
  split at h
  · cases h
  · next created db₂ hcreate =>
      obtain ⟨rfl, rfl⟩ := createAll_eq_ok hcreate
      rw [if_neg (by simp [noFault])] at h
      exact ⟨⟨_, hcreate⟩, (Prod.mk.inj h).2.symm⟩

lemma length_insertCallLogs :
    (db.insertCallLogs logs).callLogs.length = db.callLogs.length + logs.length := by
  rw [insertCallLogs_callLogs, List.length_append, List.length_map, length_numbered]

lemma length_storeNew (h : run (CallLogsWriter.storeNew noFault logs) db = (.ok (), db')) :
    db'.callLogs.length = db.callLogs.length + logs.length := by
  rw [(run_storeNew_eq_ok h).2, foldl_associate]
  exact length_insertCallLogs

/-- Call logs that can be stored in a database can be stored in one that accepts
the same call logs. -/
lemma run_storeNew_of_createAll {p : List StoredCallLog × Database}
    (h : CallLogDAO.createAll logs (db.insertTenants (CallLogsWriter.tenantUuids logs)) = .ok p) :
    run (CallLogsWriter.storeNew noFault logs) db =
      (.ok (), (numbered db.nextCallLogId logs).foldl CELDAO.associate
        ((db.insertTenants (CallLogsWriter.tenantUuids logs)).insertCallLogs logs)) := by
  have huuids := uuid_of_fits (fits_of_createAll h)
  rw [run_storeNew, if_neg (by simp [noFault]), if_neg (not_not.2 huuids)]
  dsimp only
  rw [if_neg (by simp [noFault]), createAll_congr rfl rfl h]
  rfl

/-- The references of a consistent database are smaller than the next id. -/
lemma Database.Consistent.lt (hdb : db.Consistent) {row : CELRow} (hrow : row ∈ db.cels) {id : ℕ}
    (hid : id ∈ row.callLogId) : id < db.nextCallLogId := by
  obtain ⟨stored, hstored, rfl⟩ := hdb row hrow id hid
  exact db.callLogs_lt stored hstored

/-- The call logs are stored in the same way after ids have been lost. -/
lemma renaming_storeNew_skipIds (hdb : db.Consistent) (k : ℕ) (logs : List CallLog) :
    Database.Renaming
      ((numbered db.nextCallLogId logs).foldl CELDAO.associate (db.insertCallLogs logs))
      ((numbered (db.nextCallLogId + k) logs).foldl CELDAO.associate
        ((db.skipIds k).insertCallLogs logs))
      (shiftIds db.nextCallLogId k) := by
  rw [foldl_associate, foldl_associate]
  refine ⟨shiftIds_injective, ?_, ?_⟩
  · refine List.Perm.of_eq ?_
    -- the ids in use are smaller than the next one
    have hold : db.callLogs.map (·.rename (shiftIds db.nextCallLogId k)) = db.callLogs := by
      conv_rhs => rw [← List.map_id db.callLogs]
      refine List.map_congr_left fun stored hstored => ?_
      rw [StoredCallLog.rename, shiftIds_of_lt (db.callLogs_lt stored hstored)]
      rfl
    simp only [Database.mapCallLogIds, insertCallLogs_callLogs, List.map_append, hold,
      Database.skipIds, numbered_add, List.map_map]
    rfl
  · simp only [Database.mapCallLogIds, insertCallLogs_cels, Database.skipIds, List.map_map]
    refine List.map_congr_left fun row hrow => ?_
    have hrow : row.callLogId.map (shiftIds db.nextCallLogId k) = row.callLogId := by
      cases hid : row.callLogId with
      | none => rfl
      | some id => rw [Option.map_some, shiftIds_of_lt (hdb.lt hrow hid)]
    simp only [Function.comp_apply]
    rw [← lastAssociated_rename, ← numbered_add, hrow]

/-- A second attempt to store call logs, after tenants may have been created and
ids may have been lost. -/
lemma storeNew_again (hdb : db.Consistent)
    (h : run (CallLogsWriter.storeNew noFault logs) db = (.ok (), single))
    (hagain : db' = db ∨ db' = db.insertTenants (CallLogsWriter.tenantUuids logs)) (k : ℕ) :
    (run (CallLogsWriter.storeNew noFault logs) (db'.skipIds k)).1 = .ok () ∧
      single.SameCallLogs (run (CallLogsWriter.storeNew noFault logs) (db'.skipIds k)).2 := by
  obtain ⟨⟨p, hcreate⟩, rfl⟩ := run_storeNew_eq_ok h
  have htenants : (db'.skipIds k).insertTenants (CallLogsWriter.tenantUuids logs) =
      (db.insertTenants (CallLogsWriter.tenantUuids logs)).skipIds k := by
    rcases hagain with rfl | rfl
    · rfl
    · ext1 <;> simp [Database.insertTenants, Database.skipIds]
  have hnext : (db'.skipIds k).nextCallLogId = db.nextCallLogId + k := by
    rcases hagain with rfl | rfl <;> rfl
  have hagain : CallLogDAO.createAll logs
      ((db.insertTenants (CallLogsWriter.tenantUuids logs)).skipIds k) = .ok _ :=
    createAll_congr (by rfl) (by rfl) hcreate
  rw [← htenants] at hagain
  rw [run_storeNew_of_createAll hagain, htenants, hnext]
  exact ⟨rfl, _, renaming_storeNew_skipIds (consistent_insertTenants hdb _) k logs⟩

/-! ### The second run -/

/-- The call logs are already deleted. -/
lemma withoutCallLogs_deleteCallLogs :
    (db.deleteCallLogs ids).withoutCallLogs ids = db.withoutCallLogs ids := by
  ext1 <;> simp [Database.withoutCallLogs, Database.deleteCallLogs, Database.filterCallLogs,
    CELDAO.unassociate, Database.mapCallLogIds]

@[simp]
lemma withoutCallLogs_empty : db.withoutCallLogs ∅ = db := by
  rw [Database.withoutCallLogs, unassociate_empty]
  ext1 <;> simp [Database.deleteCallLogs, Database.filterCallLogs]

lemma run_write_noFault (c : CallLogsCreation) :
    run (CallLogsWriter.write noFault c) db =
      run (CallLogsWriter.storeNew noFault c.newCallLogs)
        (db.withoutCallLogs c.callLogsToDelete) := by
  rw [run_write, if_neg (by simp [noFault]), if_neg (by simp [noFault])]
  rfl

/-- What a write leaves behind when a transaction fails. -/
def Database.leftBehind (c : CallLogsCreation) (db : Database) : DaoStep → Database
  | .fetchCels => db
  | .deleteCallLogs => db
  | .unassociate => db.deleteCallLogs c.callLogsToDelete
  | .createTenants => db.withoutCallLogs c.callLogsToDelete
  | .createCallLogs =>
      (db.withoutCallLogs c.callLogsToDelete).insertTenants
        (CallLogsWriter.tenantUuids c.newCallLogs)
  | .associate =>
      ((db.withoutCallLogs c.callLogsToDelete).insertTenants
        (CallLogsWriter.tenantUuids c.newCallLogs)).insertCallLogs c.newCallLogs

variable {c : CallLogsCreation} {step : DaoStep} {e : DaoError}

lemma failed_eq_leftBehind
    (hsingle : run (CallLogsWriter.write noFault c) db = (.ok (), single))
    (hfailed : run (CallLogsWriter.write (failAt step) c) db = (.error e, failed)) :
    failed = db.leftBehind c step := by
  obtain ⟨⟨p, hcreate⟩, -⟩ := run_storeNew_eq_ok ((run_write_noFault c).symm.trans hsingle)
  have huuids := uuid_of_fits (fits_of_createAll hcreate)
  have hcreate := createAll_congr rfl rfl hcreate
  rw [run_write, run_storeNew, if_neg (not_not.2 huuids)] at hfailed
  dsimp only at hfailed
  rw [← Database.withoutCallLogs, hcreate] at hfailed
  cases step with
  | fetchCels => simp [failAt] at hfailed
  | unassociate =>
      by_cases hids : c.callLogsToDelete = ∅
      · simp [failAt, hids] at hfailed
      · simp [failAt, hids] at hfailed
        exact hfailed.2.symm
  | createCallLogs =>
      by_cases hlogs : c.newCallLogs = []
      · simp [failAt, hlogs] at hfailed
      · simp [failAt, hlogs] at hfailed
        exact hfailed.2.symm
  | deleteCallLogs | createTenants | associate =>
      simp [failAt] at hfailed
      exact hfailed.2.symm

lemma map_toCEL_leftBehind :
    (db.leftBehind c step).cels.map (·.toCEL) = db.cels.map (·.toCEL) := by
  cases step <;>
    simp [Database.leftBehind, Database.withoutCallLogs, Database.insertTenants,
      Database.deleteCallLogs, Database.filterCallLogs, CELDAO.unassociate,
      Database.mapCallLogIds]

/-- The database in which a second write stores its call logs. -/
def Database.secondBase (c : CallLogsCreation) (db : Database) : DaoStep → Database
  | .createCallLogs => db.leftBehind c .createCallLogs
  | .associate => db.leftBehind c .associate
  | _ => db.withoutCallLogs c.callLogsToDelete

/-- The second run deletes what the first one has not deleted. -/
lemma withoutCallLogs_leftBehind (hids : c.callLogsToDelete =
      CallLogsGenerator.listCallLogIds (db.rowsOf cels)) :
    (db.leftBehind c step).withoutCallLogs
        (CallLogsGenerator.listCallLogIds ((db.leftBehind c step).rowsOf cels)) =
      db.secondBase c step := by
  have hnone : ∀ d : Database, d.cels = (db.withoutCallLogs c.callLogsToDelete).cels →
      d.withoutCallLogs (CallLogsGenerator.listCallLogIds (d.rowsOf cels)) = d := by
    intro d hd
    rw [listCallLogIds_rowsOf_withoutCallLogs (hids ▸ hd), withoutCallLogs_empty]
  cases step with
  | fetchCels | deleteCallLogs => exact congrArg (Database.withoutCallLogs · db) hids.symm
  | unassociate =>
      exact (congrArg (Database.withoutCallLogs · (db.deleteCallLogs _)) hids.symm).trans
        withoutCallLogs_deleteCallLogs
  | createTenants | createCallLogs => exact hnone _ rfl
  | associate => exact hnone _ insertCallLogs_cels

/-- The second run stores the same call logs. -/
lemma run_generateFromCels_again :
    run (CallLogsManager.generateFromCels gen noFault
        ((db.leftBehind (gen.fromCel (db.rowsOf cels)) step).rowsOf cels))
        ((db.leftBehind (gen.fromCel (db.rowsOf cels)) step).skipIds k) =
      run (CallLogsWriter.storeNew noFault (gen.fromCel (db.rowsOf cels)).newCallLogs)
        ((db.secondBase (gen.fromCel (db.rowsOf cels)) step).skipIds k) := by
  rw [← withoutCallLogs_leftBehind rfl,
    ← newCallLogs_rowsOf (map_toCEL_leftBehind (c := gen.fromCel (db.rowsOf cels)))]
  exact run_write_noFault _

/-- A run that fails is repaired by a second one over the same CELs, whatever ids
it has lost, unless it has created call logs that it has not associated. -/
theorem sameCallLogs_retry_iff (hdb : db.Consistent)
    (hsingle : run (CallLogsManager.generateFromCels gen noFault (db.rowsOf cels)) db =
      (.ok (), single))
    (hfailed : run (CallLogsManager.generateFromCels gen (failAt step) (db.rowsOf cels)) db =
      (.error e, failed)) (k : ℕ) :
    ((run (CallLogsManager.generateFromCels gen noFault (failed.rowsOf cels))
          (failed.skipIds k)).1 = .ok () ∧
        single.SameCallLogs (run (CallLogsManager.generateFromCels gen noFault
          (failed.rowsOf cels)) (failed.skipIds k)).2) ↔
      ¬ (step = .associate ∧ (gen.fromCel (db.rowsOf cels)).newCallLogs ≠ []) := by
  obtain rfl := failed_eq_leftBehind hsingle hfailed
  rw [run_generateFromCels_again]
  have hstore := (run_write_noFault _).symm.trans hsingle
  have hbase : (db.withoutCallLogs (gen.fromCel (db.rowsOf cels)).callLogsToDelete).Consistent :=
    consistent_unassociate hdb
  by_cases hleft : step = .associate ∧ (gen.fromCel (db.rowsOf cels)).newCallLogs ≠ []
  · refine iff_of_false ?_ (not_not.2 hleft)
    obtain ⟨rfl, hlogs⟩ := hleft
    rintro ⟨hok, σ, hsame⟩
    -- the call logs that the first run has created are still there
    have hlength := hsame.callLogs.length_eq
    have hleft : (db.secondBase (gen.fromCel (db.rowsOf cels)) .associate).callLogs.length =
        (db.withoutCallLogs (gen.fromCel (db.rowsOf cels)).callLogsToDelete).callLogs.length +
          (gen.fromCel (db.rowsOf cels)).newCallLogs.length := by
      rw [Database.secondBase, Database.leftBehind, length_insertCallLogs]
      rfl
    rw [length_storeNew (Prod.ext hok rfl), List.length_map, length_storeNew hstore] at hlength
    have hskip : ∀ d : Database, (d.skipIds k).callLogs.length = d.callLogs.length := fun _ => rfl
    have hpos := List.length_pos_iff.2 hlogs
    rw [hskip] at hlength
    omega
  · refine iff_of_true (storeNew_again hbase hstore ?_ k) hleft
    cases step with
    | fetchCels | deleteCallLogs | unassociate | createTenants => exact .inl rfl
    | createCallLogs => exact .inr rfl
    | associate =>
        have hlogs : (gen.fromCel (db.rowsOf cels)).newCallLogs = [] :=
          not_not.1 fun hlogs => hleft ⟨rfl, hlogs⟩
        refine .inr ?_
        rw [Database.secondBase, Database.leftBehind, hlogs]
        rfl

/-- The generation of the small call from its CELs. -/
def generateCall (faults : DaoStep → Bool) (db : Database) : Except DaoError Unit × Database :=
  run (CallLogsManager.generateFromCels .simple faults (db.rowsOf (shortCall 1 "1.1"))) db

/-- The creation of the call log of the small call fails, and three ids are lost. -/
theorem sameCallLogs_retry_createCallLogs :
    ((generateCall noFault ((generateCall (failAt .createCallLogs) arrivedCall).2.skipIds 3)).1 =
          .ok () ∧
        (generateCall noFault arrivedCall).2.SameCallLogs
          (generateCall noFault
            ((generateCall (failAt .createCallLogs) arrivedCall).2.skipIds 3)).2) ↔
      ¬ (DaoStep.createCallLogs = .associate ∧
        (CallLogsGenerator.simple.fromCel
          (arrivedCall.rowsOf (shortCall 1 "1.1"))).newCallLogs ≠ []) :=
  sameCallLogs_retry_iff linked_arrivedCall.consistent
    (Prod.fst_eq_iff.1 (by decide +kernel) : generateCall noFault arrivedCall = (.ok (), _))
    (Prod.fst_eq_iff.1 (by decide +kernel) : generateCall (failAt .createCallLogs) arrivedCall =
      (.error .databaseServiceUnavailable, _)) 3

/-- The association of the call log of the small call fails. -/
def failedCall : Database := (generateCall (failAt .associate) arrivedCall).2

/-- The second run creates the call log of the small call a second time. -/
theorem failedCall_retry_duplicates :
    arrivedCall.Consistent ∧
      (generateCall noFault arrivedCall).1 = .ok () ∧
      (generateCall (failAt .associate) arrivedCall).1 = .error .databaseServiceUnavailable ∧
      (generateCall noFault failedCall).1 = .ok () ∧
      (generateCall noFault failedCall).2.callLogs.map (·.log) =
        (generateCall noFault arrivedCall).2.callLogs.map (·.log) ++
          (generateCall noFault arrivedCall).2.callLogs.map (·.log) ∧
      ¬ (generateCall noFault arrivedCall).2.SameCallLogs (generateCall noFault failedCall).2 := by
  refine ⟨linked_arrivedCall.consistent, by decide +kernel, by decide +kernel, by decide +kernel,
    by decide +kernel, ?_⟩
  rintro ⟨σ, hsame⟩
  have hlength := hsame.callLogs.length_eq
  rw [List.length_map] at hlength
  exact absurd hlength (by decide +kernel)

end CallLogd
