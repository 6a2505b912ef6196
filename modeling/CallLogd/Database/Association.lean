/-
The associations after a generation.

The call logs of a batch are associated in turn, and a CEL that is in several of
them ends with the last one.  Each of them has a CEL that is in no other one, so
each is still named when the generation has finished.
-/
import CallLogd.Database.Consistency
import CallLogd.Generation.Calls

namespace CallLogd

open Transactions Sequences

/-! ### The last association wins -/

/-- The call log of a CEL after the call logs have been associated in turn. -/
def lastAssociated (created : List StoredCallLog) (id : ℕ) (callLogId : Option ℕ) : Option ℕ :=
  created.foldl (fun acc c => if id ∈ c.log.celIds then some c.id else acc) callLogId

variable {created : List StoredCallLog} {c : StoredCallLog} {db db' : Database} {id n : ℕ}
  {old : Option ℕ}

/-- What the associations do to the table. -/
lemma foldl_associate (created : List StoredCallLog) (db : Database) :
    created.foldl CELDAO.associate db =
      db.mapCallLogIds fun cel => lastAssociated created cel.id cel.callLogId := by
  induction created generalizing db with
  | nil =>
      ext1 <;> simp [Database.mapCallLogIds, lastAssociated]
  | cons c created ih =>
      rw [List.foldl_cons, ih, CELDAO.associate]
      split
      · next h => simp [lastAssociated, h]
      · ext1 <;> simp [Database.mapCallLogIds, lastAssociated]

lemma lastAssociated_of_forall_notMem (h : ∀ c ∈ created, id ∉ c.log.celIds) :
    lastAssociated created id old = old := by
  induction created generalizing old with
  | nil => rfl
  | cons c created ih =>
      rw [lastAssociated, List.foldl_cons, if_neg (h c (by simp))]
      exact ih fun c' hc' => h c' (by simp [hc'])

lemma lastAssociated_append (created' : List StoredCallLog) :
    lastAssociated (created ++ created') id old =
      lastAssociated created' id (lastAssociated created id old) := by
  simp [lastAssociated]

/-- A CEL gets a call log that has it if no later one does. -/
lemma lastAssociated_append_cons {before after : List StoredCallLog} (hid : id ∈ c.log.celIds)
    (hafter : ∀ c' ∈ after, id ∉ c'.log.celIds) :
    lastAssociated (before ++ c :: after) id old = some c.id := by
  rw [lastAssociated_append, lastAssociated, List.foldl_cons, if_pos hid]
  exact lastAssociated_of_forall_notMem hafter

/-- A CEL gets a call log that has it, or keeps its own. -/
lemma lastAssociated_eq_some (h : lastAssociated created id old = some n) :
    (∃ c ∈ created, c.id = n ∧ id ∈ c.log.celIds) ∨
      old = some n ∧ ∀ c ∈ created, id ∉ c.log.celIds := by
  induction created using List.reverseRecOn with
  | nil => exact .inr ⟨h, by simp⟩
  | append_singleton created c ih =>
      rw [lastAssociated_append] at h
      simp only [lastAssociated, List.foldl_cons, List.foldl_nil] at h
      split at h
      · next hid => exact .inl ⟨c, by simp, Option.some.inj h, hid⟩
      · next hid =>
          rcases ih h with ⟨c', hc', hn, hid'⟩ | ⟨hold, hno⟩
          · exact .inl ⟨c', by simp [hc'], hn, hid'⟩
          · refine .inr ⟨hold, fun c' hc' => ?_⟩
            rcases List.mem_append.1 hc' with hc' | hc'
            · exact hno c' hc'
            · rwa [List.mem_singleton.1 hc']

/-- A CEL without call log gets one exactly if a call log has it. -/
lemma exists_lastAssociated_none_iff :
    (∃ n, lastAssociated created id none = some n) ↔ ∃ c ∈ created, id ∈ c.log.celIds := by
  constructor
  · rintro ⟨n, h⟩
    rcases lastAssociated_eq_some h with ⟨c, hc, -, hid⟩ | ⟨h, -⟩
    · exact ⟨c, hc, hid⟩
    · cases h
  · intro h
    refine Option.ne_none_iff_exists'.1 fun hnone => ?_
    induction created using List.reverseRecOn with
    | nil => simp at h
    | append_singleton created c ih =>
        rw [lastAssociated_append] at hnone
        simp only [lastAssociated, List.foldl_cons, List.foldl_nil] at hnone
        split at hnone
        · cases hnone
        · next hid =>
            refine ih ?_ hnone
            obtain ⟨c', hc', hid'⟩ := h
            rcases List.mem_append.1 hc' with hc' | hc'
            · exact ⟨c', hc', hid'⟩
            · exact absurd (List.mem_singleton.1 hc' ▸ hid') hid

/-- A CEL that gets a call log loses the one that it had. -/
lemma lastAssociated_of_none (h : lastAssociated created id none = some n) :
    lastAssociated created id old = some n := by
  induction created using List.reverseRecOn with
  | nil => cases h
  | append_singleton created c ih =>
      rw [lastAssociated_append] at h ⊢
      simp only [lastAssociated, List.foldl_cons, List.foldl_nil] at h ⊢
      split at h
      · next hid => rwa [if_pos hid]
      · next hid =>
          rw [if_neg hid]
          exact ih h

/-! ### A write that succeeds -/

variable {faults : DaoStep → Bool} {creation : CallLogsCreation} {cel : CELRow}

/-- The call log of a CEL after a write. -/
def writtenCallLogId (creation : CallLogsCreation) (next : ℕ) (cel : CELRow) : Option ℕ :=
  lastAssociated (numbered next creation.newCallLogs) cel.id
    (if cel.callLogId.any (· ∈ creation.callLogsToDelete) then none else cel.callLogId)

/-- What a write does when it succeeds. -/
lemma run_write_eq_ok (h : run (CallLogsWriter.write faults creation) db = (.ok (), db')) :
    db'.callLogs = (db.callLogs.filter fun stored => stored.id ∉ creation.callLogsToDelete) ++
        (numbered db.nextCallLogId creation.newCallLogs).map
          (fun created => ⟨created.id, created.log.columns⟩) ∧
      db'.cels = db.cels.map fun cel =>
        { cel with callLogId := writtenCallLogId creation db.nextCallLogId cel } := by
  -- a transaction that fails ends the write with an error
  rw [run_write] at h
  split at h
  · cases h
  split at h
  · cases h
  rw [run_storeNew] at h
  split at h
  · cases h
  split at h
  · cases h
  dsimp only at h
  split at h
  · cases h
  split at h
  · cases h
  · next created db₂ hcreate =>
      obtain ⟨rfl, rfl⟩ := createAll_eq_ok hcreate
      split at h
      · cases h
      · obtain rfl := (Prod.mk.inj h).2
        rw [foldl_associate]
        constructor
        · exact insertCallLogs_callLogs
        · simp only [Database.mapCallLogIds, insertCallLogs_cels, Database.insertTenants,
            CELDAO.unassociate, List.map_map]
          rfl

/-- The call logs of the fetched rows are deleted. -/
lemma mem_listCallLogIds {rows : List CELRow} :
    id ∈ CallLogsGenerator.listCallLogIds rows ↔
      (∃ row ∈ rows, row.callLogId = some id) ∧ id ≠ 0 := by
  simp [CallLogsGenerator.listCallLogIds]

/-- The call logs are numbered in order. -/
lemma mem_numbered {logs : List CallLog} (hc : c ∈ numbered n logs) : c.log ∈ logs ∧ n ≤ c.id := by
  obtain ⟨p, hp, rfl⟩ := List.mem_map.1 hc
  obtain ⟨hle, -, hget⟩ := List.mem_zipIdx hp
  exact ⟨hget ▸ List.getElem_mem _, hle⟩

lemma map_log_numbered (n : ℕ) (logs : List CallLog) : (numbered n logs).map (·.log) = logs := by
  simp [numbered, Function.comp_def]

lemma pairwise_numbered {R : CallLog → CallLog → Prop} {logs : List CallLog}
    (h : logs.Pairwise R) : (numbered n logs).Pairwise fun c c' => R c.log c'.log :=
  List.pairwise_map.1 ((map_log_numbered n logs).symm ▸ h)

end CallLogd
