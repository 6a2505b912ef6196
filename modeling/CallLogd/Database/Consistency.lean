/-
References from CELs to call logs, when a transaction fails.

The CELs and the call logs are in different databases: a reference dangles if
the call log is deleted and the transaction that removes the reference fails.
Every other failure leaves the references consistent.
-/
import CallLogd.Manager

namespace CallLogd

open Transactions

/-- A call log is stored. -/
def Database.hasCallLog (db : Database) (id : ℕ) : Prop := ∃ stored ∈ db.callLogs, stored.id = id

instance (db : Database) (id : ℕ) : Decidable (db.hasCallLog id) :=
  inferInstanceAs (Decidable (∃ stored ∈ db.callLogs, stored.id = id))

/-- Every CEL that has a call log names a stored one. -/
def Database.Consistent (db : Database) : Prop :=
  ∀ cel ∈ db.cels, ∀ id ∈ cel.callLogId, db.hasCallLog id

/-! ### The effects of the transactions -/

section Effects

variable {db db' : Database} {ids : Finset ℕ} {logs : List CallLog} {created : List StoredCallLog}

lemma run_deleteFromList (fault : Bool) :
    run (CallLogDAO.deleteFromList fault ids) db =
      if fault then (.error .databaseServiceUnavailable, db)
      else (.ok (), db.filterCallLogs fun stored => stored.id ∉ ids) := by
  cases fault <;> rfl

lemma run_delete (fault : Bool) (older : Option DateTime) :
    run (CallLogDAO.delete fault older) db =
      if fault then (.error .databaseServiceUnavailable, db)
      else (.ok ((db.callLogs.filter (CallLogDAO.matchesOlder older)).map (·.id)),
        db.filterCallLogs fun stored => !CallLogDAO.matchesOlder older stored) := by
  cases fault <;> rfl

@[simp]
lemma unassociate_empty : CELDAO.unassociate ∅ db = db := by
  ext <;> simp [CELDAO.unassociate, Database.mapCallLogIds]

/-- Nothing is done, and nothing fails, for an empty set. -/
lemma run_unassociateAllFromCallLogIds (fault : Bool) :
    run (CELDAO.unassociateAllFromCallLogIds fault ids) db =
      if fault ∧ ids ≠ ∅ then (.error .databaseServiceUnavailable, db)
      else (.ok (), CELDAO.unassociate ids db) := by
  rw [CELDAO.unassociateAllFromCallLogIds]
  split
  · next h => simp [h]
  · next h => cases fault <;> simp [h] <;> rfl

lemma run_unassociateAll (fault : Bool) :
    run (CELDAO.unassociateAll fault) db =
      if fault then (.error .databaseServiceUnavailable, db)
      else (.ok (), db.mapCallLogIds fun _ => none) := by
  cases fault <;> rfl

lemma run_createAllUuidsIfNotExist (fault : Bool) (tenantUuids : Finset String) :
    run (TenantDAO.createAllUuidsIfNotExist fault tenantUuids) db =
      if fault then (.error .databaseServiceUnavailable, db)
      else if ∀ tenantUuid ∈ tenantUuids, Column.uuid tenantUuid then
        (.ok (), db.insertTenants tenantUuids)
      else (.error .refused, db) := by
  cases fault with
  | true => rfl
  | false =>
      rw [TenantDAO.createAllUuidsIfNotExist, newSession, run_transaction]
      simp only [Bool.false_eq_true, if_false]
      by_cases huuids : ∀ tenantUuid ∈ tenantUuids, Column.uuid tenantUuid
      · simp only [if_pos huuids]
      · simp only [if_neg huuids]

lemma run_associateAllToCallLogs (fault : Bool) :
    run (CELDAO.associateAllToCallLogs fault created) db =
      if fault then (.error .databaseServiceUnavailable, db)
      else (.ok (), created.foldl CELDAO.associate db) := by
  cases fault <;> rfl

/-- Call logs with consecutive ids. -/
def numbered (n : ℕ) (logs : List CallLog) : List StoredCallLog :=
  (logs.zipIdx n).map fun p => ⟨p.2, p.1⟩

/-- Insert call logs one after the other. -/
def Database.insertCallLogs (logs : List CallLog) (db : Database) : Database :=
  logs.foldl (fun db log => db.insertCallLog log.columns) db

@[simp]
lemma numbered_nil (n : ℕ) : numbered n [] = [] := rfl

@[simp]
lemma numbered_cons (n : ℕ) (log : CallLog) (logs : List CallLog) :
    numbered n (log :: logs) = ⟨n, log⟩ :: numbered (n + 1) logs := by
  simp [numbered]

/-- The first of some call logs is created if it is accepted, and then the others are. -/
lemma createAll_cons_eq_ok {log : CallLog}
    (h : CallLogDAO.createAll (log :: logs) db = .ok (created, db')) :
    db.accepts log ∧ ∃ others,
      CallLogDAO.createAll logs (db.insertCallLog log.columns) = .ok (others, db') ∧
        created = ⟨db.nextCallLogId, log⟩ :: others := by
  rw [CallLogDAO.createAll, CallLogDAO.create] at h
  split at h
  · next haccepts =>
      cases hrest : CallLogDAO.createAll logs (db.insertCallLog log.columns) with
      | error e => simp [hrest, bind, Except.bind] at h
      | ok p =>
          obtain ⟨others, db₁⟩ := p
          simp only [hrest, bind, Except.bind, pure, Except.pure, Except.ok.injEq,
            Prod.mk.injEq] at h
          obtain ⟨rfl, rfl⟩ := h
          exact ⟨haccepts, others, rfl, rfl⟩
  · simp [bind, Except.bind] at h

/-- What the creation of call logs does when the database accepts them. -/
lemma createAll_eq_ok (h : CallLogDAO.createAll logs db = .ok (created, db')) :
    created = numbered db.nextCallLogId logs ∧ db' = db.insertCallLogs logs := by
  induction logs generalizing db created with
  | nil =>
      obtain ⟨rfl, rfl⟩ : created = [] ∧ db' = db := by
        simpa [CallLogDAO.createAll, eq_comm] using h
      exact ⟨rfl, rfl⟩
  | cons log logs ih =>
      obtain ⟨-, others, hrest, rfl⟩ := createAll_cons_eq_ok h
      obtain ⟨rfl, rfl⟩ := ih hrest
      exact ⟨(numbered_cons _ _ _).symm, rfl⟩

/-- Call logs that are created fit the columns. -/
lemma fits_of_createAll (h : CallLogDAO.createAll logs db = .ok (created, db')) :
    ∀ log ∈ logs, log.Fits := by
  induction logs generalizing db created with
  | nil => exact fun _ hlog => absurd hlog List.not_mem_nil
  | cons log logs ih =>
      obtain ⟨haccepts, others, hrest, -⟩ := createAll_cons_eq_ok h
      exact List.forall_mem_cons.2 ⟨haccepts.1, ih hrest⟩

/-- Their tenants are uuids. -/
lemma uuid_of_fits (h : ∀ log ∈ logs, log.Fits) :
    ∀ tenantUuid ∈ CallLogsWriter.tenantUuids logs, Column.uuid tenantUuid := by
  intro tenantUuid htenant
  obtain ⟨log, hlog, htenant⟩ := List.mem_filterMap.1 (List.mem_toFinset.1 htenant)
  exact (h log hlog).1 tenantUuid htenant

lemma run_createFromList (fault : Bool) :
    run (CallLogDAO.createFromList fault logs) db =
      if fault ∧ logs ≠ [] then (.error .databaseServiceUnavailable, db)
      else
        match CallLogDAO.createAll logs db with
        | .ok (created, db') => (.ok created, db')
        | .error e => (.error e, db) := by
  rw [CallLogDAO.createFromList]
  split
  · next h =>
      subst h
      simp [CallLogDAO.createAll]
  · next h =>
      cases fault
      · simp only [newSession, run_transaction, Bool.false_eq_true, false_and, if_false]
        cases CallLogDAO.createAll logs db <;> rfl
      · simp [h]
        rfl

lemma insertCallLogs_cons (log : CallLog) :
    db.insertCallLogs (log :: logs) = (db.insertCallLog log.columns).insertCallLogs logs := rfl

@[simp]
lemma insertCallLogs_cels : (db.insertCallLogs logs).cels = db.cels := by
  induction logs generalizing db with
  | nil => rfl
  | cons log logs ih => rw [insertCallLogs_cons, ih]; rfl

lemma insertCallLogs_callLogs :
    (db.insertCallLogs logs).callLogs = db.callLogs ++
      (numbered db.nextCallLogId logs).map fun created => ⟨created.id, created.log.columns⟩ := by
  induction logs generalizing db with
  | nil => simp [Database.insertCallLogs]
  | cons log logs ih =>
      rw [insertCallLogs_cons, ih, numbered_cons]
      simp [Database.insertCallLog]

lemma hasCallLog_insertCallLogs {id : ℕ} :
    (db.insertCallLogs logs).hasCallLog id ↔
      db.hasCallLog id ∨ ∃ created ∈ numbered db.nextCallLogId logs, created.id = id := by
  simp only [Database.hasCallLog, insertCallLogs_callLogs, List.mem_append, List.mem_map]
  constructor
  · rintro ⟨stored, h | ⟨created, h, rfl⟩, rfl⟩
    · exact .inl ⟨stored, h, rfl⟩
    · exact .inr ⟨created, h, rfl⟩
  · rintro (⟨stored, h, rfl⟩ | ⟨created, h, rfl⟩)
    · exact ⟨stored, .inl h, rfl⟩
    · exact ⟨_, .inr ⟨created, h, rfl⟩, rfl⟩

/-! ### The writer, step by step -/

/-- The part of `write` that stores the new call logs. -/
def CallLogsWriter.storeNew (faults : DaoStep → Bool) (logs : List CallLog) : Dao Unit := do
  TenantDAO.createAllUuidsIfNotExist (faults .createTenants) (CallLogsWriter.tenantUuids logs)
  let created ← CallLogDAO.createFromList (faults .createCallLogs) logs
  CELDAO.associateAllToCallLogs (faults .associate) created

/-- The database without some call logs, whose CELs still name them. -/
def Database.deleteCallLogs (ids : Finset ℕ) (db : Database) : Database :=
  db.filterCallLogs fun stored => stored.id ∉ ids

lemma run_write (faults : DaoStep → Bool) (c : CallLogsCreation) :
    run (CallLogsWriter.write faults c) db =
      if faults .deleteCallLogs then (.error .databaseServiceUnavailable, db)
      else if faults .unassociate ∧ c.callLogsToDelete ≠ ∅ then
        (.error .databaseServiceUnavailable, db.deleteCallLogs c.callLogsToDelete)
      else
        run (CallLogsWriter.storeNew faults c.newCallLogs)
          (CELDAO.unassociate c.callLogsToDelete (db.deleteCallLogs c.callLogsToDelete)) := by
  by_cases hdelete : faults .deleteCallLogs
  · rw [if_pos hdelete]
    exact run_bind_of_error (by rw [run_deleteFromList, if_pos hdelete])
  · rw [if_neg hdelete, CallLogsWriter.write,
      run_bind_of_ok (by rw [run_deleteFromList, if_neg hdelete])]
    by_cases hids : faults .unassociate = true ∧ c.callLogsToDelete ≠ ∅
    · rw [if_pos hids]
      exact run_bind_of_error (by rw [run_unassociateAllFromCallLogIds, if_pos hids]; rfl)
    · rw [if_neg hids, run_bind_of_ok (by rw [run_unassociateAllFromCallLogIds, if_neg hids])]
      rfl

lemma run_storeNew (faults : DaoStep → Bool) :
    run (CallLogsWriter.storeNew faults logs) db =
      if faults .createTenants then (.error .databaseServiceUnavailable, db)
      else if ¬ ∀ tenantUuid ∈ CallLogsWriter.tenantUuids logs, Column.uuid tenantUuid then
        (.error .refused, db)
      else
        let db₁ := db.insertTenants (CallLogsWriter.tenantUuids logs)
        if faults .createCallLogs ∧ logs ≠ [] then (.error .databaseServiceUnavailable, db₁)
        else
          match CallLogDAO.createAll logs db₁ with
          | .error e => (.error e, db₁)
          | .ok (created, db₂) =>
              if faults .associate then (.error .databaseServiceUnavailable, db₂)
              else (.ok (), created.foldl CELDAO.associate db₂) := by
  by_cases htenants : faults .createTenants
  · rw [if_pos htenants]
    exact run_bind_of_error (by rw [run_createAllUuidsIfNotExist, if_pos htenants])
  · rw [if_neg htenants]
    by_cases huuids : ∀ tenantUuid ∈ CallLogsWriter.tenantUuids logs, Column.uuid tenantUuid
    swap
    · rw [if_pos huuids]
      exact run_bind_of_error
        (by rw [run_createAllUuidsIfNotExist, if_neg htenants, if_neg huuids])
    rw [if_neg (not_not.2 huuids), CallLogsWriter.storeNew, run_bind_of_ok
      (by rw [run_createAllUuidsIfNotExist, if_neg htenants, if_pos huuids])]
    dsimp only
    by_cases hcreate : faults .createCallLogs = true ∧ logs ≠ []
    · rw [if_pos hcreate]
      exact run_bind_of_error (by rw [run_createFromList, if_pos hcreate])
    · rw [if_neg hcreate]
      split
      · next e h =>
          exact run_bind_of_error (by rw [run_createFromList, if_neg hcreate, h])
      · next created db₂ h =>
          rw [run_bind_of_ok (by rw [run_createFromList, if_neg hcreate, h]),
            run_associateAllToCallLogs]

end Effects

/-! ### What keeps the references consistent -/

section Consistent

variable {db : Database} {ids : Finset ℕ}

@[simp]
lemma hasCallLog_mapCallLogIds {f : CELRow → Option ℕ} {id : ℕ} :
    (db.mapCallLogIds f).hasCallLog id ↔ db.hasCallLog id := Iff.rfl

lemma hasCallLog_filterCallLogs {p : ℕ → Bool} {id : ℕ} :
    (db.filterCallLogs fun stored => p stored.id).hasCallLog id ↔ db.hasCallLog id ∧ p id := by
  simp only [Database.hasCallLog, Database.filterCallLogs, List.mem_filter]
  constructor
  · rintro ⟨stored, ⟨h, hp⟩, rfl⟩
    exact ⟨⟨stored, h, rfl⟩, hp⟩
  · rintro ⟨⟨stored, h, rfl⟩, hp⟩
    exact ⟨stored, ⟨h, hp⟩, rfl⟩

/-- Every new reference names a stored call log. -/
lemma consistent_mapCallLogIds {f : CELRow → Option ℕ} :
    (db.mapCallLogIds f).Consistent ↔
      ∀ cel ∈ db.cels, ∀ id ∈ f cel, db.hasCallLog id := by
  simp [Database.Consistent, Database.mapCallLogIds, Database.hasCallLog]

lemma hasCallLog_deleteCallLogs {id : ℕ} :
    (db.deleteCallLogs ids).hasCallLog id ↔ db.hasCallLog id ∧ id ∉ ids := by
  rw [Database.deleteCallLogs, hasCallLog_filterCallLogs (p := (· ∉ ids))]
  simp

/-- The references to the deleted call logs dangle until they are removed. -/
lemma consistent_deleteCallLogs_iff (h : db.Consistent) :
    (db.deleteCallLogs ids).Consistent ↔ ∀ cel ∈ db.cels, ∀ id ∈ cel.callLogId, id ∉ ids := by
  constructor
  · intro h' cel hcel id hid
    exact (hasCallLog_deleteCallLogs.1 (h' cel hcel id hid)).2
  · intro hids cel hcel id hid
    exact hasCallLog_deleteCallLogs.2 ⟨h cel hcel id hid, hids cel hcel id hid⟩

/-- The ids are unique, so the call logs that match are those that have the ids of
the call logs that match. -/
lemma filterCallLogs_eq_deleteCallLogs {p : StoredCallLog → Bool} :
    db.filterCallLogs (fun stored => !p stored) =
      db.deleteCallLogs ((db.callLogs.filter p).map (·.id)).toFinset := by
  have hfilter : db.callLogs.filter (fun stored => !p stored) = db.callLogs.filter fun stored =>
      stored.id ∉ ((db.callLogs.filter p).map (·.id)).toFinset := by
    refine List.filter_congr fun stored hstored => ?_
    rw [Bool.eq_iff_iff, Bool.not_eq_true', Bool.eq_false_iff, decide_eq_true_eq,
      List.mem_toFinset, List.mem_map]
    refine not_congr ⟨fun hp => ⟨stored, List.mem_filter.2 ⟨hstored, hp⟩, rfl⟩, ?_⟩
    rintro ⟨other, hother, hid⟩
    obtain ⟨hother, hp⟩ := List.mem_filter.1 hother
    exact List.inj_on_of_nodup_map db.callLogs_nodup hother hstored hid ▸ hp
  ext1 <;> first | exact hfilter | rfl

/-- The references to the call logs that match dangle once these are deleted. -/
lemma consistent_delete_iff (h : db.Consistent) {p : StoredCallLog → Bool} :
    (db.filterCallLogs fun stored => !p stored).Consistent ↔
      ¬ ∃ cel ∈ db.cels, ∃ stored ∈ db.callLogs, cel.callLogId = some stored.id ∧ p stored := by
  rw [filterCallLogs_eq_deleteCallLogs, consistent_deleteCallLogs_iff h]
  simp only [List.mem_toFinset, List.mem_map, List.mem_filter, Option.mem_def]
  constructor
  · rintro h' ⟨cel, hcel, stored, hstored, hid, hp⟩
    exact h' cel hcel stored.id hid ⟨stored, ⟨hstored, hp⟩, rfl⟩
  · rintro h' cel hcel id hid ⟨stored, ⟨hstored, hp⟩, rfl⟩
    exact h' ⟨cel, hcel, stored, hstored, hid, hp⟩

lemma mem_unassociate_iff {cel : CELRow} {id : ℕ} :
    id ∈ (if cel.callLogId.any (· ∈ ids) then none else cel.callLogId) ↔
      id ∈ cel.callLogId ∧ id ∉ ids := by
  cases cel.callLogId with
  | none => simp
  | some n =>
      by_cases hn : n ∈ ids
      · simp [hn]
        rintro rfl
        exact hn
      · simp [hn]
        rintro rfl
        exact hn

lemma consistent_unassociate (h : db.Consistent) :
    (CELDAO.unassociate ids (db.deleteCallLogs ids)).Consistent := by
  rw [CELDAO.unassociate, consistent_mapCallLogIds]
  intro cel hcel id hid
  obtain ⟨hid, hids⟩ := mem_unassociate_iff.1 hid
  exact hasCallLog_deleteCallLogs.2 ⟨h cel hcel id hid, hids⟩

lemma consistent_insertTenants (h : db.Consistent) (tenantUuids : Finset String) :
    (db.insertTenants tenantUuids).Consistent := h

lemma consistent_insertCallLogs (h : db.Consistent) (logs : List CallLog) :
    (db.insertCallLogs logs).Consistent := by
  intro cel hcel id hid
  rw [insertCallLogs_cels] at hcel
  exact hasCallLog_insertCallLogs.2 (.inl (h cel hcel id hid))

@[simp]
lemma hasCallLog_associate {created : StoredCallLog} {id : ℕ} :
    (CELDAO.associate db created).hasCallLog id ↔ db.hasCallLog id := by
  rw [CELDAO.associate]
  split
  · rfl
  · exact hasCallLog_mapCallLogIds

lemma consistent_associate (h : db.Consistent) {created : List StoredCallLog}
    (hcreated : ∀ c ∈ created, db.hasCallLog c.id) :
    (created.foldl CELDAO.associate db).Consistent := by
  induction created generalizing db with
  | nil => exact h
  | cons c created ih =>
      rw [List.foldl_cons]
      refine ih ?_ fun c' hc' => hasCallLog_associate.2 (hcreated c' (by simp [hc']))
      rw [CELDAO.associate]
      split
      · exact h
      · refine consistent_mapCallLogIds.2 fun cel hcel id hid => ?_
        split at hid
        · obtain rfl : c.id = id := by simpa using hid
          exact hcreated c (by simp)
        · exact h cel hcel id hid

/-- Storing new call logs keeps the references consistent, whatever fails. -/
lemma consistent_storeNew (h : db.Consistent) (faults : DaoStep → Bool) (logs : List CallLog) :
    (run (CallLogsWriter.storeNew faults logs) db).2.Consistent := by
  have htenants := consistent_insertTenants h (CallLogsWriter.tenantUuids logs)
  rw [run_storeNew]
  split
  · exact h
  split
  · exact h
  dsimp only
  split
  · exact htenants
  split
  · exact htenants
  · next created db₂ hcreate =>
      obtain ⟨rfl, rfl⟩ := createAll_eq_ok hcreate
      have hinsert := consistent_insertCallLogs htenants logs
      split
      · exact hinsert
      · exact consistent_associate hinsert fun c hc =>
          hasCallLog_insertCallLogs.2 (.inr ⟨c, hc, rfl⟩)

end Consistent

/-! ### The operations of the manager -/

section Operations

variable {db : Database} (h : db.Consistent) (faults : DaoStep → Bool)

include h

/-- The writer leaves a consistent database, unless the references to the call
logs that it has deleted are not removed. -/
lemma consistent_write_iff (c : CallLogsCreation) :
    (run (CallLogsWriter.write faults c) db).2.Consistent ↔
      ¬ (faults .deleteCallLogs = false ∧ faults .unassociate = true ∧
        ∃ cel ∈ db.cels, ∃ id ∈ cel.callLogId, id ∈ c.callLogsToDelete) := by
  rw [run_write]
  split
  · next hdelete => simp [hdelete, h]
  · next hdelete =>
      split
      · next hids =>
          rw [consistent_deleteCallLogs_iff h]
          simp [hdelete, hids.1]
      · next hids =>
          refine iff_of_true (consistent_storeNew (consistent_unassociate h) _ _) ?_
          rintro ⟨-, hfault, cel, hcel, id, -, hid⟩
          exact hids ⟨hfault, Finset.ne_empty_of_mem hid⟩

lemma consistent_deleteAll_iff :
    (run (CallLogsManager.deleteAll faults) db).2.Consistent ↔
      ¬ (faults .deleteCallLogs = false ∧ faults .unassociate = true ∧
        ∃ cel ∈ db.cels, cel.callLogId ≠ none) := by
  by_cases hdelete : faults .deleteCallLogs
  · rw [CallLogsManager.deleteAll, run_bind_of_error (by rw [run_delete, if_pos hdelete])]
    simp [hdelete, h]
  · rw [CallLogsManager.deleteAll, run_bind_of_ok (by rw [run_delete, if_neg hdelete]),
      run_unassociateAll]
    split
    · next hfault =>
        rw [consistent_delete_iff h]
        simp only [hdelete, hfault, true_and, CallLogDAO.matchesOlder, Option.all_none,
          and_true]
        refine not_congr (exists_congr fun cel => and_congr_right fun hcel => ?_)
        constructor
        · rintro ⟨stored, -, hid⟩
          simp [hid]
        · intro hid
          obtain ⟨id, hid⟩ := Option.ne_none_iff_exists'.1 hid
          obtain ⟨stored, hstored, rfl⟩ := h cel hcel id hid
          exact ⟨stored, hstored, hid⟩
    · next hfault =>
        refine iff_of_true (consistent_mapCallLogIds.2 fun _ _ _ hid => ?_) (by simp [hfault])
        simp at hid

lemma consistent_deleteFromDays_iff (now : DateTime) (days : ℕ) :
    (run (CallLogsManager.deleteFromDays faults now days) db).2.Consistent ↔
      ¬ (faults .deleteCallLogs = false ∧ faults .unassociate = true ∧
        ∃ cel ∈ db.cels, ∃ stored ∈ db.callLogs, cel.callLogId = some stored.id ∧
          CallLogDAO.matchesOlder (some (CallLogsManager.daysBefore now days)) stored) := by
  by_cases hdelete : faults .deleteCallLogs
  · rw [CallLogsManager.deleteFromDays, run_bind_of_error (by rw [run_delete, if_pos hdelete])]
    simp [hdelete, h]
  · rw [CallLogsManager.deleteFromDays, run_bind_of_ok (by rw [run_delete, if_neg hdelete]),
      run_unassociateAllFromCallLogIds]
    split
    · next hids =>
        rw [consistent_delete_iff h]
        simp [hdelete, hids.1]
    · next hids =>
        rw [filterCallLogs_eq_deleteCallLogs]
        refine iff_of_true (consistent_unassociate h) ?_
        rintro ⟨-, hfault, cel, -, stored, hstored, -, hmatch⟩
        refine hids ⟨hfault, Finset.ne_empty_of_mem (a := stored.id) ?_⟩
        exact List.mem_toFinset.2 (List.mem_map_of_mem (List.mem_filter.2 ⟨hstored, hmatch⟩))

/-- The references remain consistent whatever fails, but for the references to
deleted call logs when their removal fails. -/
theorem consistent_after_fault_iff :
    (∀ c : CallLogsCreation,
      (run (CallLogsWriter.write faults c) db).2.Consistent ↔
        ¬ (faults .deleteCallLogs = false ∧ faults .unassociate = true ∧
          ∃ cel ∈ db.cels, ∃ id ∈ cel.callLogId, id ∈ c.callLogsToDelete)) ∧
    ((run (CallLogsManager.deleteAll faults) db).2.Consistent ↔
      ¬ (faults .deleteCallLogs = false ∧ faults .unassociate = true ∧
        ∃ cel ∈ db.cels, cel.callLogId ≠ none)) ∧
    ∀ now days,
      (run (CallLogsManager.deleteFromDays faults now days) db).2.Consistent ↔
        ¬ (faults .deleteCallLogs = false ∧ faults .unassociate = true ∧
          ∃ cel ∈ db.cels, ∃ stored ∈ db.callLogs, cel.callLogId = some stored.id ∧
            CallLogDAO.matchesOlder (some (CallLogsManager.daysBefore now days)) stored) :=
  ⟨consistent_write_iff h faults, consistent_deleteAll_iff h faults,
    consistent_deleteFromDays_iff h faults⟩

end Operations

/-- A small call, with its call log. -/
def processedCall : Database where
  callLogs := [⟨1, ({ date := some 1, sourceName := some "Alice" } : RawCallLog).fillCallLog⟩]
  cels := (shortCall 1 "1.1").map fun cel => { toCEL := cel, callLogId := some 1 }
  nextCallLogId := 2

lemma processedCall_consistent : processedCall.Consistent := by
  intro cel hcel id hid
  have hone : ∀ cel ∈ processedCall.cels, cel.callLogId = some 1 := by decide
  obtain rfl : 1 = id := by simpa [hone cel hcel] using hid
  exact ⟨processedCall.callLogs[0], by decide, rfl⟩

/-- The deletion of all call logs fails after its first transaction. -/
theorem processedCall_deleteAll_consistent_iff :
    (run (CallLogsManager.deleteAll (failAt .unassociate)) processedCall).2.Consistent ↔
      ¬ (failAt .unassociate .deleteCallLogs = false ∧ failAt .unassociate .unassociate = true ∧
        ∃ cel ∈ processedCall.cels, cel.callLogId ≠ none) :=
  (consistent_after_fault_iff processedCall_consistent (failAt .unassociate)).2.1

/-- The CELs of the call name its call log after this has been deleted. -/
theorem processedCall_write_not_consistent :
    processedCall.Consistent ∧
      ¬ (run (CallLogsWriter.write (failAt .unassociate) ⟨[], {1}⟩) processedCall).2.Consistent :=
  ⟨processedCall_consistent, fun h =>
    (consistent_write_iff processedCall_consistent _ _).1 h ⟨by decide, by decide,
      processedCall.cels[0], by decide, 1, by decide, by decide⟩⟩

end CallLogd
