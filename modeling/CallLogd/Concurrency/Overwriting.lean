/-
What two concurrent generations leave behind.

A generation deletes the call logs that its CELs had when it fetched them.  If the
other one has associated call logs since then, these are not deleted, and the CELs
that name them get the call logs of this generation.
-/
import CallLogd.Concurrency.System

namespace CallLogd

open Transactions

/-- A CEL names a call log. -/
def Database.named (db : Database) (id : ℕ) : Prop := ∃ cel ∈ db.cels, cel.callLogId = some id

/-! ### What a generation has done so far -/

namespace Phase

/-- The call logs to delete, once they are known. -/
def targets : Phase → Finset ℕ
  | fetched c | deleted c | unassociated c | tenantsCreated c | created c _ => c.callLogsToDelete
  | start | finished _ _ | failed => ∅

/-- The call logs to create, once they are known. -/
def newLogs : Phase → List CallLog
  | fetched c | deleted c | unassociated c | tenantsCreated c | created c _ => c.newCallLogs
  | start | finished _ _ | failed => []

/-- The call logs that have been deleted. -/
def removed : Phase → Finset ℕ
  | deleted c | unassociated c | tenantsCreated c | created c _ => c.callLogsToDelete
  | start | fetched _ | finished _ _ | failed => ∅

/-- The call logs that have been deleted with the references to them. -/
def cleared : Phase → Finset ℕ
  | unassociated c | tenantsCreated c | created c _ => c.callLogsToDelete
  | start | fetched _ | deleted _ | finished _ _ | failed => ∅

/-- The call logs that have been created and not associated. -/
def pending : Phase → List StoredCallLog
  | created _ callLogs => callLogs
  | _ => []

/-- The call logs that have been associated. -/
def assigned : Phase → List StoredCallLog
  | finished _ callLogs => callLogs
  | _ => []

lemma removed_subset_targets (p : Phase) : p.removed ⊆ p.targets := by
  cases p <;> simp [removed, targets]

lemma cleared_subset_targets (p : Phase) : p.cleared ⊆ p.targets := by
  cases p <;> simp [cleared, targets]

lemma eq_finished_of_mem_assigned {p : Phase} {c : StoredCallLog} (h : c ∈ p.assigned) :
    ∃ creation, p = finished creation p.assigned := by
  cases p with
  | finished creation callLogs => exact ⟨creation, rfl⟩
  | _ => simp [assigned] at h

end Phase

/-! ### The invariant -/

/-- What holds of a generation `p` while the other one is at `q`. -/
structure Sound (db : Database) (trace : List (Side × DaoStep)) (side : Side) (p q : Phase) :
    Prop where
  fetched : p ≠ .start → (side, .fetchCels) ∈ trace
  associated : (side, .associate) ∈ trace → p.ended
  targets_lt : ∀ id ∈ p.targets, id < db.nextCallLogId
  removed : ∀ id ∈ p.removed, ¬ db.hasCallLog id
  cleared : ∀ id ∈ p.cleared, ¬ db.named id
  /-- The other generation does not know the call logs that are not associated. -/
  pending : ∀ c ∈ p.pending, db.hasCallLog c.id ∧ ¬ db.named c.id ∧ c.id ∉ q.targets ∧
    ∀ c' ∈ q.pending, c'.id ≠ c.id
  numbered : ∀ c callLogs, p = .created c callLogs → ∃ n, callLogs = numbered n c.newCallLogs
  /-- Each new call log is the last one of a CEL. -/
  owned : ∀ n, ∀ c ∈ CallLogd.numbered n p.newLogs, ∃ cel ∈ db.cels, ∀ old,
    lastAssociated (CallLogd.numbered n p.newLogs) cel.id old = some c.id
  /-- The CELs that will be associated name call logs that will be deleted, or
  that the other generation has associated since they were fetched. -/
  seen : ∀ log ∈ p.newLogs, ∀ cel ∈ db.cels, cel.id ∈ log.celIds → ∀ id ∈ cel.callLogId,
    id ∈ p.targets ∨ id ∈ q.assigned.map (·.id) ∧
      [(side, .fetchCels), (side.other, .associate)].Sublist trace
  /-- The CELs keep their call logs until the other generation deletes these. -/
  assigned : ¬ q.ended → ∀ cel ∈ db.cels, ∀ id, lastAssociated p.assigned cel.id none = some id →
    cel.callLogId = some id ∨ id ∈ q.targets
  named_assigned : ¬ q.ended → ∀ cel ∈ db.cels, ∀ c ∈ p.assigned, cel.callLogId = some c.id →
    lastAssociated p.assigned cel.id none = some c.id
  assigned_lt : ∀ c ∈ p.assigned, c.id < db.nextCallLogId ∧ ∀ c' ∈ q.pending, c'.id ≠ c.id

/-- A call log that has lost all its CELs: the other generation had fetched them
before they were associated, and has associated them to its own call logs since. -/
def System.Overwritten (s : System) (id : ℕ) : Prop :=
  ∃ side c c' callLogs callLogs', s.phases side = .finished c callLogs ∧
    s.phases side.other = .finished c' callLogs' ∧ id ∈ callLogs.map (·.id) ∧
    [(side.other, .fetchCels), (side, .associate), (side.other, .associate)].Sublist s.trace ∧
    ∀ cel ∈ s.db.cels, lastAssociated callLogs cel.id none = some id →
      ∃ log ∈ c'.newCallLogs, cel.id ∈ log.celIds

/-- What holds while two generations run. -/
structure System.Inv (s : System) : Prop where
  bounded : ∀ id, s.db.named id → 0 < id ∧ id < s.db.nextCallLogId
  consistent : ∀ id, s.db.named id →
    s.db.hasCallLog id ∨ ∃ side, id ∈ (s.phases side).removed
  known : ∀ id, s.db.hasCallLog id →
    s.db.named id ∨ (∃ side, ∃ c ∈ (s.phases side).pending, c.id = id) ∨ s.Overwritten id
  overwritten : ∀ id, s.Overwritten id → ¬ s.db.named id
  sound : ∀ side, Sound s.db s.trace side (s.phases side) (s.phases side.other)

variable {db db' : Database} {trace : List (Side × DaoStep)} {label : Side × DaoStep} {side : Side}
  {p p' q q' : Phase} {id : ℕ}

@[simp]
lemma Side.other_other (side : Side) : side.other.other = side := by cases side <;> rfl

lemma Side.other_ne (side : Side) : side.other ≠ side := by cases side <;> simp [Side.other]

lemma forall_side {P : Side → Prop} (side : Side) (h : P side) (hother : P side.other) :
    ∀ x, P x := by
  intro x
  cases side <;> cases x <;> assumption

lemma exists_side {P : Side → Prop} (side : Side) (h : ∃ x, P x) : P side ∨ P side.other := by
  obtain ⟨x, hx⟩ := h
  cases side <;> cases x <;> simp [Side.other, hx]

lemma Database.hasCallLog.lt (h : db.hasCallLog id) : id < db.nextCallLogId := by
  obtain ⟨stored, hstored, rfl⟩ := h
  exact db.callLogs_lt stored hstored

lemma Database.hasCallLog.pos (h : db.hasCallLog id) : 0 < id := by
  obtain ⟨stored, hstored, rfl⟩ := h
  exact db.callLogs_pos stored hstored

lemma System.inv_start (h : db.Linked) : (System.start db).Inv where
  bounded := by
    rintro id ⟨cel, hcel, hid⟩
    have hstored := h.consistent cel hcel id hid
    exact ⟨hstored.pos, hstored.lt⟩
  consistent := by
    rintro id ⟨cel, hcel, hid⟩
    exact .inl (h.consistent cel hcel id hid)
  known := by
    rintro id ⟨stored, hstored, rfl⟩
    exact .inl (h.named stored hstored)
  overwritten := by
    rintro id ⟨side, c, c', callLogs, callLogs', hside, -⟩
    cases hside
  sound := by
    intro side
    constructor <;>
      simp [System.start, Phase.targets, Phase.removed, Phase.cleared, Phase.pending,
        Phase.newLogs, Phase.assigned, lastAssociated]

/-! ### Transactions that add no reference -/

/-- The references of the second database are references of the first one, and
its new call logs have new ids. -/
structure Database.Forgets (db db' : Database) : Prop where
  cels : ∀ cel' ∈ db'.cels, ∃ cel ∈ db.cels, cel.id = cel'.id ∧
    ∀ id ∈ cel'.callLogId, id ∈ cel.callLogId
  ids : ∀ cel ∈ db.cels, ∃ cel' ∈ db'.cels, cel'.id = cel.id
  next_le : db.nextCallLogId ≤ db'.nextCallLogId
  stored : ∀ id, db'.hasCallLog id → db.hasCallLog id ∨ db.nextCallLogId ≤ id

/-- The CELs are the same. -/
lemma Database.Forgets.of_cels (hcels : db'.cels = db.cels)
    (hnext : db.nextCallLogId ≤ db'.nextCallLogId)
    (hstored : ∀ id, db'.hasCallLog id → db.hasCallLog id ∨ db.nextCallLogId ≤ id) :
    db.Forgets db' where
  cels := by
    rw [hcels]
    exact fun cel hcel => ⟨cel, hcel, rfl, fun _ hid => hid⟩
  ids := by
    rw [hcels]
    exact fun cel hcel => ⟨cel, hcel, rfl⟩
  next_le := hnext
  stored := hstored

lemma Database.Forgets.named (h : db.Forgets db') (hid : db'.named id) : db.named id := by
  obtain ⟨cel', hcel', hid⟩ := hid
  obtain ⟨cel, hcel, -, hsub⟩ := h.cels cel' hcel'
  exact ⟨cel, hcel, hsub id hid⟩

lemma forgets_deleteCallLogs (ids : Finset ℕ) : db.Forgets (db.deleteCallLogs ids) :=
  .of_cels rfl le_rfl fun _ h => .inl (hasCallLog_deleteCallLogs.1 h).1

lemma forgets_insertTenants (tenantUuids : Finset String) :
    db.Forgets (db.insertTenants tenantUuids) :=
  .of_cels rfl le_rfl fun _ h => .inl h

lemma nextCallLogId_le_insertCallLogs (logs : List CallLog) :
    db.nextCallLogId ≤ (db.insertCallLogs logs).nextCallLogId := by
  induction logs generalizing db with
  | nil => exact le_rfl
  | cons log logs ih => exact (Nat.le_succ _).trans (@ih (db.insertCallLog log.columns))

lemma forgets_insertCallLogs (logs : List CallLog) : db.Forgets (db.insertCallLogs logs) := by
  refine .of_cels insertCallLogs_cels (nextCallLogId_le_insertCallLogs logs) fun id h => ?_
  rcases hasCallLog_insertCallLogs.1 h with h | ⟨c, hc, rfl⟩
  · exact .inl h
  · exact .inr (mem_numbered hc).2

lemma forgets_unassociate (ids : Finset ℕ) : db.Forgets (CELDAO.unassociate ids db) where
  cels := by
    intro cel' hcel'
    obtain ⟨cel, hcel, rfl⟩ := List.mem_map.1 hcel'
    exact ⟨cel, hcel, rfl, fun id hid => (mem_unassociate_iff.1 hid).1⟩
  ids := fun cel hcel => ⟨_, List.mem_map_of_mem hcel, rfl⟩
  next_le := le_rfl
  stored := fun _ h => .inl h

lemma lastAssociated_nil_ne_some {n : ℕ} : lastAssociated [] n none ≠ some id := by
  simp [lastAssociated]

namespace Sound

/-- What holds of a generation still holds when references are forgotten. -/
lemma forget (h : Sound db trace side p q) (hdb : db.Forgets db') {label : Side × DaoStep}
    (hlabel : label ≠ (side, .associate)) (hpending : ∀ c ∈ p.pending, db'.hasCallLog c.id)
    (hassigned : ¬ q.ended → ∀ cel' ∈ db'.cels, ∀ id,
      lastAssociated p.assigned cel'.id none = some id →
        cel'.callLogId = some id ∨ id ∈ q.targets) :
    Sound db' (trace ++ [label]) side p q where
  fetched hp := List.mem_append_left _ (h.fetched hp)
  associated hmem := by
    rcases List.mem_append.1 hmem with hmem | hmem
    · exact h.associated hmem
    · exact absurd (List.mem_singleton.1 hmem).symm hlabel
  targets_lt id hid := (h.targets_lt id hid).trans_le hdb.next_le
  removed id hid hstored := by
    rcases hdb.stored id hstored with hstored | hle
    · exact h.removed id hid hstored
    · exact absurd hle (h.targets_lt id (p.removed_subset_targets hid)).not_ge
  cleared id hid hnamed := h.cleared id hid (hdb.named hnamed)
  pending c hc :=
    ⟨hpending c hc, fun hnamed => (h.pending c hc).2.1 (hdb.named hnamed), (h.pending c hc).2.2⟩
  numbered := h.numbered
  owned n c hc := by
    obtain ⟨cel, hcel, hlast⟩ := h.owned n c hc
    obtain ⟨cel', hcel', hid⟩ := hdb.ids cel hcel
    exact ⟨cel', hcel', hid ▸ hlast⟩
  seen log hlog cel' hcel' hmem id hid := by
    obtain ⟨cel, hcel, heq, hsub⟩ := hdb.cels cel' hcel'
    rcases h.seen log hlog cel hcel (heq ▸ hmem) id (hsub id hid) with hid | ⟨hid, htrace⟩
    · exact .inl hid
    · exact .inr ⟨hid, htrace.trans (List.sublist_append_left _ _)⟩
  assigned := hassigned
  named_assigned hended cel' hcel' c hc hid := by
    obtain ⟨cel, hcel, heq, hsub⟩ := hdb.cels cel' hcel'
    exact heq ▸ h.named_assigned hended cel hcel c hc (hsub _ hid)
  assigned_lt c hc := ⟨(h.assigned_lt c hc).1.trans_le hdb.next_le, (h.assigned_lt c hc).2⟩

/-- The same when the generation itself forgets references. -/
lemma forget_self (h : Sound db trace side p q) (hdb : db.Forgets db') {label : Side × DaoStep}
    (hlabel : label ≠ (side, .associate)) (hpending : p.pending = [])
    (hassigned : p.assigned = []) :
    Sound db' (trace ++ [label]) side p q :=
  h.forget hdb hlabel (by simp [hpending]) fun _ _ _ _ hlast =>
    absurd (hassigned ▸ hlast) lastAssociated_nil_ne_some

/-- The generation goes on after it has deleted call logs or references. -/
lemma advance (h : Sound db trace side p q) (hp : p ≠ .start) (htargets : p'.targets = p.targets)
    (hnew : p'.newLogs = p.newLogs) (hpending : p'.pending = p.pending)
    (hassigned : p'.assigned = p.assigned) (hended : p'.ended = p.ended)
    (hremoved : ∀ id ∈ p'.removed, ¬ db.hasCallLog id)
    (hcleared : ∀ id ∈ p'.cleared, ¬ db.named id)
    (hcreated : ∀ c callLogs, p' ≠ .created c callLogs) :
    Sound db trace side p' q where
  fetched _ := h.fetched hp
  associated := hended ▸ h.associated
  targets_lt := htargets ▸ h.targets_lt
  removed := hremoved
  cleared := hcleared
  pending := hpending ▸ h.pending
  numbered c callLogs hp' := absurd hp' (hcreated c callLogs)
  owned := hnew ▸ h.owned
  seen := by
    rw [hnew, htargets]
    exact h.seen
  assigned := hassigned ▸ h.assigned
  named_assigned := hassigned ▸ h.named_assigned
  assigned_lt := hassigned ▸ h.assigned_lt

/-- The other generation goes on. -/
lemma advance_other (h : Sound db trace side p q) (htargets : q'.targets = q.targets)
    (hpending : q'.pending = q.pending) (hassigned : q'.assigned = q.assigned)
    (hended : q'.ended = q.ended) : Sound db trace side p q' where
  fetched := h.fetched
  associated := h.associated
  targets_lt := h.targets_lt
  removed := h.removed
  cleared := h.cleared
  pending := by
    rw [htargets, hpending]
    exact h.pending
  numbered := h.numbered
  owned := h.owned
  seen := hassigned ▸ h.seen
  assigned := by
    rw [hended, htargets]
    exact h.assigned
  named_assigned := hended ▸ h.named_assigned
  assigned_lt := hpending ▸ h.assigned_lt

end Sound

/-! ### One transaction -/

namespace System

variable {s : System} {gens : Side → Generation} {step : DaoStep} {c : CallLogsCreation}

/-- The system after a transaction of one of the generations. -/
def move (s : System) (side : Side) (step : DaoStep) (db : Database) (p : Phase) : System :=
  ⟨db, Function.update s.phases side p, s.trace ++ [(side, step)]⟩

lemma not_overwritten (h : ∀ c callLogs, s.phases side ≠ .finished c callLogs) :
    ¬ s.Overwritten id := by
  rintro ⟨side', c, c', callLogs, callLogs', hside, hother, -⟩
  have hfinished : ∀ x, ∃ c callLogs, s.phases x = .finished c callLogs :=
    forall_side side' ⟨c, callLogs, hside⟩ ⟨c', callLogs', hother⟩
  obtain ⟨c, callLogs, hx⟩ := hfinished side
  exact h c callLogs hx

lemma Inv.move {p q : Phase} (hq : s.phases side.other = q)
    (hbounded : ∀ id, db'.named id → 0 < id ∧ id < db'.nextCallLogId)
    (hconsistent : ∀ id, db'.named id → db'.hasCallLog id ∨ id ∈ p.removed ∨ id ∈ q.removed)
    (hknown : ∀ id, db'.hasCallLog id → db'.named id ∨ (∃ c ∈ p.pending, c.id = id) ∨
      (∃ c ∈ q.pending, c.id = id) ∨ (s.move side step db' p).Overwritten id)
    (hoverwritten : ∀ id, (s.move side step db' p).Overwritten id → ¬ db'.named id)
    (hself : Sound db' (s.trace ++ [(side, step)]) side p q)
    (hother : Sound db' (s.trace ++ [(side, step)]) side.other q p) :
    (s.move side step db' p).Inv := by
  have hphase : (s.move side step db' p).phases side = p := Function.update_self ..
  have hphase' : (s.move side step db' p).phases side.other = q :=
    (Function.update_of_ne side.other_ne ..).trans hq
  refine ⟨hbounded, fun id hid => ?_, fun id hid => ?_, hoverwritten, ?_⟩
  · rcases hconsistent id hid with h | h | h
    · exact .inl h
    · exact .inr ⟨side, by rwa [hphase]⟩
    · exact .inr ⟨side.other, by rwa [hphase']⟩
  · rcases hknown id hid with h | h | h | h
    · exact .inl h
    · exact .inr (.inl ⟨side, by rwa [hphase]⟩)
    · exact .inr (.inl ⟨side.other, by rwa [hphase']⟩)
    · exact .inr (.inr h)
  · refine forall_side side ?_ ?_
    · rw [hphase, hphase']
      exact hself
    · rw [hphase', Side.other_other, hphase]
      exact hother

/-- The generation does not finish with the transaction. -/
lemma Inv.move_of_ne_finished {p q : Phase} (hq : s.phases side.other = q)
    (hp : ∀ c callLogs, p ≠ .finished c callLogs)
    (hbounded : ∀ id, db'.named id → 0 < id ∧ id < db'.nextCallLogId)
    (hconsistent : ∀ id, db'.named id → db'.hasCallLog id ∨ id ∈ p.removed ∨ id ∈ q.removed)
    (hknown : ∀ id, db'.hasCallLog id → db'.named id ∨ (∃ c ∈ p.pending, c.id = id) ∨
      (∃ c ∈ q.pending, c.id = id))
    (hself : Sound db' (s.trace ++ [(side, step)]) side p q)
    (hother : Sound db' (s.trace ++ [(side, step)]) side.other q p) :
    (s.move side step db' p).Inv := by
  have hphase : (s.move side step db' p).phases side = p := Function.update_self ..
  refine .move hq hbounded hconsistent (fun id hid => ?_) (fun id hid => ?_) hself hother
  · exact (hknown id hid).imp_right (.imp_right .inl)
  · exact absurd hid (not_overwritten (hphase ▸ hp))

/-- The facts of the invariant, seen from one of the generations. -/
lemma Inv.consistent_of (h : s.Inv) {p q : Phase} (hp : s.phases side = p)
    (hq : s.phases side.other = q) (hid : s.db.named id) :
    s.db.hasCallLog id ∨ id ∈ p.removed ∨ id ∈ q.removed := by
  subst hp hq
  exact (h.consistent id hid).imp_right (exists_side side)

lemma Inv.known_of (h : s.Inv) {p q : Phase} (hp : s.phases side = p)
    (hq : s.phases side.other = q) (hne : ∀ c callLogs, p ≠ .finished c callLogs)
    (hid : s.db.hasCallLog id) :
    s.db.named id ∨ (∃ c ∈ p.pending, c.id = id) ∨ ∃ c ∈ q.pending, c.id = id := by
  subst hp hq
  rcases h.known id hid with h | h | h
  · exact .inl h
  · exact .inr (exists_side side h)
  · exact absurd h (not_overwritten hne)

lemma Inv.sound_self (h : s.Inv) {p q : Phase} (hp : s.phases side = p)
    (hq : s.phases side.other = q) : Sound s.db s.trace side p q := hp ▸ hq ▸ h.sound side

lemma Inv.sound_other (h : s.Inv) {p q : Phase} (hp : s.phases side = p)
    (hq : s.phases side.other = q) : Sound s.db s.trace side.other q p := by
  have hsound := h.sound side.other
  rw [Side.other_other, hp, hq] at hsound
  exact hsound

variable {q : Phase} (h : s.Inv) (hq : s.phases side.other = q)

include h hq

lemma inv_deleteCallLogs (hp : s.phases side = .fetched c) :
    (s.move side .deleteCallLogs (s.db.deleteCallLogs c.callLogsToDelete) (.deleted c)).Inv := by
  have hself := h.sound_self hp hq
  have hother := h.sound_other hp hq
  have hforgets : s.db.Forgets (s.db.deleteCallLogs c.callLogsToDelete) :=
    forgets_deleteCallLogs _
  refine .move_of_ne_finished hq (by simp) ?_ ?_ ?_ ?_ ?_
  · exact fun id hid => h.bounded id hid
  · intro id hid
    by_cases hmem : id ∈ c.callLogsToDelete
    · exact .inr (.inl hmem)
    · rcases h.consistent_of hp hq hid with hid | hid | hid
      · exact .inl (hasCallLog_deleteCallLogs.2 ⟨hid, hmem⟩)
      · simp [Phase.removed] at hid
      · exact .inr (.inr hid)
  · intro id hid
    rcases h.known_of hp hq (by simp) (hasCallLog_deleteCallLogs.1 hid).1 with hid | hid | hid
    · exact .inl hid
    · exact .inr (.inl hid)
    · exact .inr (.inr hid)
  · refine (hself.forget_self hforgets (by simp) rfl rfl).advance (by simp) rfl rfl rfl rfl rfl ?_
      (by simp [Phase.cleared]) (by simp)
    exact fun id hid hstored => (hasCallLog_deleteCallLogs.1 hstored).2 hid
  · refine (hother.forget hforgets (by simp) ?_ hother.assigned).advance_other rfl rfl rfl rfl
    exact fun c' hc' => hasCallLog_deleteCallLogs.2
      ⟨(hother.pending c' hc').1, (hother.pending c' hc').2.2.1⟩

lemma inv_unassociate (hp : s.phases side = .deleted c) :
    (s.move side .unassociate (CELDAO.unassociate c.callLogsToDelete s.db)
      (.unassociated c)).Inv := by
  have hself := h.sound_self hp hq
  have hother := h.sound_other hp hq
  have hforgets : s.db.Forgets (CELDAO.unassociate c.callLogsToDelete s.db) :=
    forgets_unassociate _
  have hcleared : ∀ id, (CELDAO.unassociate c.callLogsToDelete s.db).named id →
      id ∉ c.callLogsToDelete := by
    rintro id ⟨cel', hcel', hid⟩
    obtain ⟨cel, hcel, rfl⟩ := List.mem_map.1 hcel'
    exact (mem_unassociate_iff.1 (Option.mem_def.2 hid)).2
  -- a reference to a call log that is not deleted stays
  have hkept : ∀ cel ∈ s.db.cels, ∀ id ∉ c.callLogsToDelete, cel.callLogId = some id →
      { cel with callLogId := if cel.callLogId.any (· ∈ c.callLogsToDelete) then none
          else cel.callLogId } = cel := by
    intro cel hcel id hid hcallLogId
    rw [if_neg (by simp [hcallLogId, hid])]
  refine .move_of_ne_finished hq (by simp) ?_ ?_ ?_ ?_ ?_
  · exact fun id hid => h.bounded id (hforgets.named hid)
  · intro id hid
    have hid := h.consistent_of hp hq (hforgets.named hid)
    exact hid
  · intro id hid
    have hmem : id ∉ c.callLogsToDelete := fun hmem => hself.removed id hmem hid
    rcases h.known_of hp hq (by simp) hid with ⟨cel, hcel, hcallLogId⟩ | hid | hid
    · refine .inl ⟨cel, ?_, hcallLogId⟩
      rw [← hkept cel hcel id hmem hcallLogId]
      exact List.mem_map_of_mem hcel
    · exact .inr (.inl hid)
    · exact .inr (.inr hid)
  · refine (hself.forget_self hforgets (by simp) rfl rfl).advance (by simp) rfl rfl rfl rfl rfl
      ?_ ?_
      (by simp)
    · exact hself.removed
    · exact fun id hid hnamed => hcleared id hnamed hid
  · refine (hother.forget hforgets (by simp)
      (fun c' hc' => (hother.pending c' hc').1) ?_).advance_other
      rfl rfl rfl rfl
    intro hended cel' hcel' id hlast
    obtain ⟨cel, hcel, rfl⟩ := List.mem_map.1 hcel'
    by_cases hmem : id ∈ c.callLogsToDelete
    · exact .inr hmem
    · rcases hother.assigned hended cel hcel id hlast with hid | hid
      · exact .inl (by rw [hkept cel hcel id hmem hid, hid])
      · exact .inr hid

lemma inv_createTenants (hp : s.phases side = .unassociated c) (tenantUuids : Finset String) :
    (s.move side .createTenants (s.db.insertTenants tenantUuids) (.tenantsCreated c)).Inv := by
  have hself := h.sound_self hp hq
  have hother := h.sound_other hp hq
  have hforgets : s.db.Forgets (s.db.insertTenants tenantUuids) := forgets_insertTenants _
  refine .move_of_ne_finished hq (by simp) ?_ ?_ ?_ ?_ ?_
  · exact fun id hid => h.bounded id hid
  · intro id hid
    have hid := h.consistent_of hp hq hid
    exact hid
  · intro id hid
    have hid := h.known_of hp hq (by simp) hid
    exact hid
  · exact (hself.forget_self hforgets (by simp) rfl rfl).advance (by simp) rfl rfl rfl rfl rfl
      hself.removed hself.cleared (by simp)
  · exact (hother.forget hforgets (by simp) (fun c' hc' => (hother.pending c' hc').1)
      hother.assigned).advance_other rfl rfl rfl rfl

/-- The ids of the new call logs are greater than those that are known. -/
lemma sound_self_create (hp : s.phases side = .tenantsCreated c) :
    Sound (s.db.insertCallLogs c.newCallLogs) (s.trace ++ [(side, .createCallLogs)]) side
      (.created c (numbered s.db.nextCallLogId c.newCallLogs)) q := by
  have hother := h.sound_other hp hq
  have hnamed : ∀ id, (s.db.insertCallLogs c.newCallLogs).named id ↔ s.db.named id := by
    simp [Database.named]
  have hlabel : (side, DaoStep.createCallLogs) ≠ (side, .associate) := by simp
  have hforget := (h.sound_self hp hq).forget_self (forgets_insertCallLogs c.newCallLogs) hlabel
    rfl rfl
  refine ⟨fun _ => hforget.fetched (by simp), hforget.associated, hforget.targets_lt,
    hforget.removed, hforget.cleared, ?_, ?_, hforget.owned, hforget.seen,
    hforget.assigned, hforget.named_assigned, hforget.assigned_lt⟩
  case refine_2 =>
    rintro _ _ ⟨⟩
    exact ⟨_, rfl⟩
  intro c' hc'
  have hle := (mem_numbered hc').2
  refine ⟨hasCallLog_insertCallLogs.2 (.inr ⟨c', hc', rfl⟩), fun hid => ?_, fun hid => ?_,
    fun c'' hc'' heq => ?_⟩
  · have hlt := (h.bounded _ ((hnamed _).1 hid)).2
    omega
  · have hlt := hother.targets_lt _ hid
    omega
  · have hlt := (hother.pending c'' hc'').1.lt
    omega

lemma sound_other_create (hp : s.phases side = .tenantsCreated c) :
    Sound (s.db.insertCallLogs c.newCallLogs) (s.trace ++ [(side, .createCallLogs)]) side.other q
      (.created c (numbered s.db.nextCallLogId c.newCallLogs)) := by
  have hother := h.sound_other hp hq
  have hlabel : (side, DaoStep.createCallLogs) ≠ (side.other, .associate) := by simp
  have hforget := hother.forget (forgets_insertCallLogs c.newCallLogs) hlabel
    (fun c' hc' => hasCallLog_insertCallLogs.2 (.inl (hother.pending c' hc').1))
    (by simpa only [insertCallLogs_cels] using hother.assigned)
  refine ⟨hforget.fetched, hforget.associated, hforget.targets_lt, hforget.removed,
    hforget.cleared, ?_, hforget.numbered, hforget.owned, hforget.seen, hforget.assigned,
    hforget.named_assigned, fun c' hc' => ⟨(hforget.assigned_lt c' hc').1, ?_⟩⟩
  case refine_2 =>
    intro c'' hc'' heq
    have hle := (mem_numbered hc'').2
    have hlt := (hother.assigned_lt c' hc').1
    omega
  intro c' hc'
  obtain ⟨hc'stored, hc'named, hc'targets, -⟩ := hforget.pending c' hc'
  refine ⟨hc'stored, hc'named, hc'targets, fun c'' hc'' heq => ?_⟩
  have hle := (mem_numbered hc'').2
  have hlt := (hother.pending c' hc').1.lt
  omega

lemma inv_createCallLogs (hp : s.phases side = .tenantsCreated c) :
    (s.move side .createCallLogs (s.db.insertCallLogs c.newCallLogs)
      (.created c (numbered s.db.nextCallLogId c.newCallLogs))).Inv := by
  have hnamed : ∀ id, (s.db.insertCallLogs c.newCallLogs).named id ↔ s.db.named id := by
    simp [Database.named]
  refine .move_of_ne_finished hq (by simp) ?_ ?_ ?_ (sound_self_create h hq hp)
    (sound_other_create h hq hp)
  · intro id hid
    have hid := h.bounded id ((hnamed id).1 hid)
    exact ⟨hid.1, hid.2.trans_le (nextCallLogId_le_insertCallLogs _)⟩
  · intro id hid
    have hid := h.consistent_of hp hq ((hnamed id).1 hid)
    exact hid.imp_left fun hid => hasCallLog_insertCallLogs.2 (.inl hid)
  · intro id hid
    rcases hasCallLog_insertCallLogs.1 hid with hid | hid
    · rcases h.known_of hp hq (by simp) hid with hid | hid | hid
      · exact .inl ((hnamed id).2 hid)
      · simp [Phase.pending] at hid
      · exact .inr (.inr hid)
    · exact .inr (.inl hid)

/-- A generation of which the tenants or the call logs are refused ends. -/
lemma inv_fail {step : DaoStep} (hp : s.phases side = p)
    (hphase : p = .unassociated c ∨ p = .tenantsCreated c) (hstep : step ≠ .associate) :
    (s.move side step s.db .failed).Inv := by
  have hself := h.sound_self hp hq
  have hother := h.sound_other hp hq
  have hforgets : s.db.Forgets s.db := .of_cels rfl le_rfl fun _ hid => .inl hid
  have hpending : p.pending = [] := by rcases hphase with rfl | rfl <;> rfl
  have hassigned : p.assigned = [] := by rcases hphase with rfl | rfl <;> rfl
  have hcleared : p.cleared = p.removed := by rcases hphase with rfl | rfl <;> rfl
  have hstart : p ≠ .start := by rcases hphase with rfl | rfl <;> simp
  have hfinished : ∀ c callLogs, p ≠ .finished c callLogs := by
    rcases hphase with rfl | rfl <;> simp
  refine .move_of_ne_finished hq (by simp) h.bounded ?_ ?_ ?_ ?_
  · intro id hid
    rcases h.consistent_of hp hq hid with hstored | hremoved | hremoved
    · exact .inl hstored
    · exact absurd hid (hself.cleared id (hcleared ▸ hremoved))
    · exact .inr (.inr hremoved)
  · intro id hid
    rcases h.known_of hp hq hfinished hid with hid | hid | hid
    · exact .inl hid
    · simp [hpending] at hid
    · exact .inr (.inr hid)
  · have hlabel : (side, step) ≠ (side, .associate) := by simpa using hstep
    have hforget := hself.forget_self hforgets hlabel hpending hassigned
    constructor <;> simp [Phase.targets, Phase.removed, Phase.cleared, Phase.pending,
      Phase.newLogs, Phase.assigned, Phase.ended, lastAssociated, hforget.fetched hstart]
  · have hlabel : (side, step) ≠ (side.other, .associate) := by simp [hstep]
    have hforget := hother.forget hforgets hlabel
      (fun c' hc' => (hother.pending c' hc').1) hother.assigned
    refine ⟨hforget.fetched, hforget.associated, hforget.targets_lt, hforget.removed,
      hforget.cleared, ?_, hforget.numbered, hforget.owned, ?_,
      fun hended => absurd rfl hended, fun hended => absurd rfl hended,
      fun c' hc' => ⟨(hforget.assigned_lt c' hc').1, by simp [Phase.pending]⟩⟩
    swap
    · have hseen := hforget.seen
      rw [hassigned] at hseen
      exact hseen
    intro c' hc'
    obtain ⟨hc'stored, hc'named, -, -⟩ := hforget.pending c' hc'
    exact ⟨hc'stored, hc'named, by simp [Phase.targets], by simp [Phase.pending]⟩

lemma inv_fetchCels (hp : s.phases side = .start) (g : Generation) :
    (s.move side .fetchCels s.db (.fetched (g.gen.fromCel (g.fetch.cels s.db)))).Inv := by
  have hself := h.sound_self hp hq
  have hother := h.sound_other hp hq
  have hforgets : s.db.Forgets s.db := .of_cels rfl le_rfl fun _ hid => .inl hid
  have htargets : ∀ id ∈ (g.gen.fromCel (g.fetch.cels s.db)).callLogsToDelete, s.db.named id := by
    intro id hid
    obtain ⟨⟨row, hrow, hcallLogId⟩, -⟩ := mem_listCallLogIds.1 hid
    exact ⟨row, mem_of_mem_fetch hrow, hcallLogId⟩
  refine .move_of_ne_finished hq (by simp) h.bounded ?_ ?_ ?_ ?_
  · intro id hid
    have hid := h.consistent_of hp hq hid
    exact hid
  · intro id hid
    have hid := h.known_of hp hq (by simp) hid
    exact hid
  · have hlabel : (side, DaoStep.fetchCels) ≠ (side, .associate) := by simp
    have hforget := hself.forget_self hforgets hlabel rfl rfl
    refine ⟨fun _ => List.mem_append_right _ (List.mem_singleton_self _), hforget.associated, ?_,
      hforget.removed, hforget.cleared, hforget.pending, by simp, ?_, ?_, hforget.assigned,
      hforget.named_assigned, hforget.assigned_lt⟩
    · exact fun id hid => (h.bounded id (htargets id hid)).2
    · intro n c' hc'
      obtain ⟨row, hrow, hlast⟩ := exists_lastAssociated s.db g.gen g.fetch hc'
      exact ⟨row, mem_of_mem_fetch hrow, hlast⟩
    · -- a CEL of a new call log has been fetched
      intro log hlog cel hcel hmem id hid
      obtain ⟨d, hd, hdc⟩ := exists_of_mem_celIds hlog hmem
      obtain ⟨row, hrow, rfl⟩ := List.mem_map.1 hd
      obtain rfl := List.inj_on_of_nodup_map s.db.cels_nodup (mem_of_mem_fetch hrow) hcel hdc
      exact .inl (mem_listCallLogIds.2 ⟨⟨row, hrow, hid⟩, (h.bounded id ⟨row, hcel, hid⟩).1.ne'⟩)
  · have hlabel : (side, DaoStep.fetchCels) ≠ (side.other, .associate) := by simp
    have hforget := hother.forget hforgets hlabel (fun c' hc' => (hother.pending c' hc').1)
      hother.assigned
    refine ⟨hforget.fetched, hforget.associated, hforget.targets_lt, hforget.removed,
      hforget.cleared, ?_, hforget.numbered, hforget.owned, hforget.seen, ?_,
      hforget.named_assigned, hforget.assigned_lt⟩
    · intro c' hc'
      obtain ⟨hc'stored, hc'named, -, hc'pending⟩ := hforget.pending c' hc'
      exact ⟨hc'stored, hc'named, fun hid => hc'named (htargets _ hid), hc'pending⟩
    · intro hended cel hcel id hlast
      refine .inl ((hforget.assigned hended cel hcel id hlast).resolve_right ?_)
      simp [Phase.targets]

/-! ### The last transaction of a generation -/

variable {callLogs : List StoredCallLog}

omit h hq in
/-- The references after call logs have been associated. -/
lemma named_associateAll (hid : (db.associateAll callLogs).named id) :
    (∃ c' ∈ callLogs, c'.id = id) ∨ ∃ cel ∈ db.cels, cel.callLogId = some id ∧
      ∀ c' ∈ callLogs, cel.id ∉ c'.log.celIds := by
  obtain ⟨cel', hcel', hid⟩ := hid
  obtain ⟨cel, hcel, rfl⟩ := List.mem_map.1 hcel'
  rcases lastAssociated_eq_some hid with ⟨c', hc', heq, -⟩ | ⟨hold, hnot⟩
  · exact .inl ⟨c', hc', heq⟩
  · exact .inr ⟨cel, hcel, hold, hnot⟩

lemma sound_self_associate (hp : s.phases side = .created c callLogs) :
    Sound (s.db.associateAll callLogs) (s.trace ++ [(side, .associate)]) side
      (.finished c callLogs) q := by
  have hself := h.sound_self hp hq
  have hpending := hself.pending
  refine ⟨fun _ => List.mem_append_left _ (hself.fetched (by simp)), fun _ => rfl,
    by simp [Phase.targets], by simp [Phase.removed], by simp [Phase.cleared],
    by simp [Phase.pending], by simp, by simp [Phase.newLogs], by simp [Phase.newLogs], ?_, ?_, ?_⟩
  · intro hended cel' hcel' id hlast
    obtain ⟨cel, hcel, rfl⟩ := List.mem_map.1 hcel'
    exact .inl (lastAssociated_of_none hlast)
  · intro hended cel' hcel' c' hc' hid
    obtain ⟨cel, hcel, rfl⟩ := List.mem_map.1 hcel'
    rcases lastAssociated_eq_some hid with ⟨c₀, hc₀, -, hmem⟩ | ⟨hold, -⟩
    · obtain ⟨n, hn⟩ := exists_lastAssociated_none_iff.2 ⟨c₀, hc₀, hmem⟩
      have hsame := (lastAssociated_of_none hn).symm.trans hid
      exact hn.trans hsame
    · exact absurd ⟨cel, hcel, hold⟩ (hpending c' hc').2.1
  · exact fun c' hc' => ⟨(hpending c' hc').1.lt, (hpending c' hc').2.2.2⟩

lemma sound_other_associate (hp : s.phases side = .created c callLogs) :
    Sound (s.db.associateAll callLogs) (s.trace ++ [(side, .associate)]) side.other q
      (.finished c callLogs) := by
  have hself := h.sound_self hp hq
  have hother := h.sound_other hp hq
  have hpending := hself.pending
  refine ⟨fun hne => List.mem_append_left _ (hother.fetched hne), ?_, hother.targets_lt,
    hother.removed, ?_, ?_, hother.numbered, ?_, ?_, fun hended => absurd rfl hended,
    fun hended => absurd rfl hended,
    fun c' hc' => ⟨(hother.assigned_lt c' hc').1, by simp [Phase.pending]⟩⟩
  · intro hmem
    rcases List.mem_append.1 hmem with hmem | hmem
    · exact hother.associated hmem
    · simp [side.other_ne] at hmem
  · intro id hid hnamed
    rcases named_associateAll hnamed with ⟨c', hc', rfl⟩ | ⟨cel, hcel, hold, -⟩
    · exact (hpending c' hc').2.2.1 (q.cleared_subset_targets hid)
    · exact hother.cleared id hid ⟨cel, hcel, hold⟩
  · intro c' hc'
    obtain ⟨hstored, hnamed, -, -⟩ := hother.pending c' hc'
    refine ⟨hstored, fun hnamed' => ?_, by simp [Phase.targets], by simp [Phase.pending]⟩
    rcases named_associateAll hnamed' with ⟨c'', hc'', heq⟩ | ⟨cel, hcel, hold, -⟩
    · exact (hpending c'' hc'').2.2.2 c' hc' heq.symm
    · exact hnamed ⟨cel, hcel, hold⟩
  · intro n c' hc'
    obtain ⟨cel, hcel, hlast⟩ := hother.owned n c' hc'
    exact ⟨_, List.mem_map_of_mem hcel, hlast⟩
  · intro log hlog cel' hcel' hmem id hid
    obtain ⟨cel, hcel, rfl⟩ := List.mem_map.1 hcel'
    rcases lastAssociated_eq_some hid with ⟨c', hc', rfl, -⟩ | ⟨hold, -⟩
    · -- the other generation has fetched the CEL before this association
      have hfetched : (side.other, DaoStep.fetchCels) ∈ s.trace := by
        refine hother.fetched fun hstart => ?_
        simp [hstart, Phase.newLogs] at hlog
      refine .inr ⟨List.mem_map_of_mem hc', ?_⟩
      rw [Side.other_other]
      exact (List.singleton_sublist.2 hfetched).append (List.Sublist.refl [_])
    · rcases hother.seen log hlog cel hcel hmem id hold with hid | ⟨hid, -⟩
      · exact .inl hid
      · simp [Phase.assigned] at hid

/-- A CEL that is associated is in one of the new call logs of the generation. -/
lemma exists_newCallLog (hp : s.phases side = .created c callLogs) {k : ℕ} :
    (∃ c' ∈ callLogs, k ∈ c'.log.celIds) ↔ ∃ log ∈ c.newCallLogs, k ∈ log.celIds := by
  obtain ⟨n, rfl⟩ := (h.sound_self hp hq).numbered c callLogs rfl
  conv_rhs => rw [← map_log_numbered n c.newCallLogs]
  simp

/-- A stored call log is named, is to be associated by the other generation, or
has just lost its CELs. -/
lemma known_associate (hp : s.phases side = .created c callLogs) (hid : s.db.hasCallLog id) :
    (s.db.associateAll callLogs).named id ∨ (∃ c' ∈ q.pending, c'.id = id) ∨
      (s.move side .associate (s.db.associateAll callLogs)
        (.finished c callLogs)).Overwritten id := by
  have hself := h.sound_self hp hq
  have hother := h.sound_other hp hq
  have hkept : id ∉ c.callLogsToDelete := fun hmem => hself.removed id hmem hid
  rcases h.known_of hp hq (by simp) hid with ⟨cel₀, hcel₀, hcel₀id⟩ | ⟨c', hc', rfl⟩ | hpending
  · by_cases hleft : ∃ cel ∈ s.db.cels, cel.callLogId = some id ∧
        ∀ c' ∈ callLogs, cel.id ∉ c'.log.celIds
    · -- a CEL that names it is not associated
      obtain ⟨cel, hcel, hold, hnot⟩ := hleft
      refine .inl ⟨_, List.mem_map_of_mem hcel, ?_⟩
      exact (lastAssociated_of_forall_notMem hnot).trans hold
    · have hall : ∀ cel ∈ s.db.cels, cel.callLogId = some id →
          ∃ log ∈ c.newCallLogs, cel.id ∈ log.celIds := by
        intro cel hcel hold
        rw [← exists_newCallLog h hq hp]
        by_contra hnot
        exact hleft ⟨cel, hcel, hold, fun c' hc' hmem => hnot ⟨c', hc', hmem⟩⟩
      obtain ⟨log, hlog, hmem⟩ := hall cel₀ hcel₀ hcel₀id
      rcases hself.seen log hlog cel₀ hcel₀ hmem id hcel₀id with hid | ⟨hassigned, htrace⟩
      · exact absurd hid hkept
      · obtain ⟨c₀, hc₀, -⟩ := List.mem_map.1 hassigned
        obtain ⟨c', hfinished⟩ := Phase.eq_finished_of_mem_assigned hc₀
        refine .inr (.inr ⟨side.other, c', c, q.assigned, callLogs, ?_, ?_, hassigned, ?_, ?_⟩)
        · exact (Function.update_of_ne side.other_ne ..).trans (hq.trans hfinished)
        · rw [Side.other_other]
          exact Function.update_self ..
        · rw [Side.other_other]
          exact htrace.append (List.Sublist.refl [_])
        · intro cel' hcel' hlast
          obtain ⟨cel, hcel, rfl⟩ := List.mem_map.1 hcel'
          exact hall cel hcel ((hother.assigned (by simp [Phase.ended]) cel hcel id
            hlast).resolve_right hkept)
  · -- it is one of those that are associated
    obtain ⟨n, rfl⟩ := hself.numbered c callLogs rfl
    obtain ⟨cel, hcel, hlast⟩ := hself.owned n c' hc'
    exact .inl ⟨_, List.mem_map_of_mem hcel, hlast _⟩
  · exact .inr (.inl hpending)

/-- A call log that has lost its CELs is not named. -/
lemma overwritten_associate (hp : s.phases side = .created c callLogs)
    (hid : (s.move side .associate (s.db.associateAll callLogs)
      (.finished c callLogs)).Overwritten id) : ¬ (s.db.associateAll callLogs).named id := by
  have hself := h.sound_self hp hq
  have hother := h.sound_other hp hq
  have hphase : (s.move side .associate (s.db.associateAll callLogs)
      (.finished c callLogs)).phases side = .finished c callLogs := Function.update_self ..
  have hphase' : (s.move side .associate (s.db.associateAll callLogs)
      (.finished c callLogs)).phases side.other = q :=
    (Function.update_of_ne side.other_ne ..).trans hq
  obtain ⟨first, c₁, c₂, callLogs₁, callLogs₂, hfirst, hsecond, hmem, htrace, hcover⟩ := hid
  -- the generation that associates now is the second one
  obtain rfl : first = side.other := by
    by_contra hne
    obtain rfl : first = side := by
      cases first <;> cases side <;> simp [Side.other] at hne ⊢
    have hbefore := htrace.reverse.tail
    rw [show (s.move first .associate (s.db.associateAll callLogs) (.finished c callLogs)).trace =
      s.trace ++ [(first, .associate)] from rfl, List.reverse_append] at hbefore
    have hmem : (first, DaoStep.associate) ∈ s.trace :=
      List.mem_reverse.1 (hbefore.subset (by simp))
    exact absurd (hself.associated hmem) (by simp [Phase.ended])
  rw [Side.other_other, hphase] at hsecond
  rw [hphase'] at hfirst
  obtain ⟨rfl, rfl⟩ := Phase.finished.inj hsecond
  subst hfirst
  obtain ⟨c₀, hc₀, rfl⟩ := List.mem_map.1 hmem
  intro hnamed
  rcases named_associateAll hnamed with ⟨c', hc', heq⟩ | ⟨cel, hcel, hold, hnot⟩
  · exact (hother.assigned_lt c₀ hc₀).2 c' hc' heq
  · have hlast := hother.named_assigned (by simp [Phase.ended]) cel hcel c₀ hc₀ hold
    obtain ⟨log, hlog, hmem⟩ := hcover _ (List.mem_map_of_mem hcel) hlast
    obtain ⟨c', hc', hmem⟩ := (exists_newCallLog h hq hp).2 ⟨log, hlog, hmem⟩
    exact hnot c' hc' hmem

lemma inv_associate (hp : s.phases side = .created c callLogs) :
    (s.move side .associate (s.db.associateAll callLogs) (.finished c callLogs)).Inv := by
  have hself := h.sound_self hp hq
  refine .move hq ?_ ?_ ?_ ?_ (sound_self_associate h hq hp) (sound_other_associate h hq hp)
  · intro id hid
    rcases named_associateAll hid with ⟨c', hc', rfl⟩ | ⟨cel, hcel, hold, -⟩
    · have hstored := (hself.pending c' hc').1
      exact ⟨hstored.pos, hstored.lt⟩
    · exact h.bounded id ⟨cel, hcel, hold⟩
  · intro id hid
    rcases named_associateAll hid with ⟨c', hc', rfl⟩ | ⟨cel, hcel, hold, -⟩
    · exact .inl (hself.pending c' hc').1
    · rcases h.consistent_of hp hq ⟨cel, hcel, hold⟩ with hid | hid | hid
      · exact .inl hid
      · exact absurd ⟨cel, hcel, hold⟩ (hself.cleared id hid)
      · exact .inr (.inr hid)
  · intro id hid
    exact (known_associate h hq hp hid).imp_right .inr
  · exact fun id hid => overwritten_associate h hq hp hid

end System

/-! ### Whole runs -/

namespace System

variable {s s' : System} {gens : Side → Generation}

/-- One transaction keeps the invariant. -/
lemma Inv.step (h : s.Inv) (hstep : s.step gens side = some s') : s'.Inv := by
  obtain ⟨step, db, phase, hmoves, rfl⟩ := step_eq_some hstep
  generalize hp : s.phases side = p at hmoves
  generalize hd : s.db = d at hmoves
  cases hmoves with
  | fetchCels => exact hd ▸ inv_fetchCels h rfl hp (gens side)
  | deleteCallLogs => exact hd ▸ inv_deleteCallLogs h rfl hp
  | unassociate => exact hd ▸ inv_unassociate h rfl hp
  | createTenants => exact hd ▸ inv_createTenants h rfl hp _
  | refuseTenants => exact hd ▸ inv_fail h rfl hp (.inl rfl) (by simp)
  | createCallLogs => exact hd ▸ inv_createCallLogs h rfl hp
  | fail => exact hd ▸ inv_fail h rfl hp (.inr rfl) (by simp)
  | associate => exact hd ▸ inv_associate h rfl hp

/-- Any order of the transactions keeps the invariant. -/
lemma Inv.execute (h : s.Inv) {schedule : List Side} (hrun : s.execute gens schedule = some s') :
    s'.Inv := by
  induction schedule generalizing s with
  | nil =>
      obtain rfl := Option.some.inj hrun
      exact h
  | cons side schedule ih =>
      obtain ⟨s₁, hstep, hrest⟩ := Option.bind_eq_some_iff.1 hrun
      exact ih (h.step hstep) hrest

/-- When two generations that run at the same time have ended, no reference
dangles, and a call log is named unless the generation that associated it was
overtaken: the other one had fetched its CELs before, and has associated them to
its own call logs since. -/
theorem consistent_and_named_iff (hdb : db.Linked) {schedule : List Side}
    (hrun : (start db).execute gens schedule = some s) (hended : s.Ended) :
    s.db.Consistent ∧ ∀ stored ∈ s.db.callLogs,
      (∃ cel ∈ s.db.cels, cel.callLogId = some stored.id) ↔ ¬ s.Overwritten stored.id := by
  have hinv := (inv_start hdb).execute hrun
  have hremoved : ∀ side, (s.phases side).removed = ∅ ∧ (s.phases side).pending = [] := by
    intro side
    have hside : (s.phases side).ended := by
      cases side
      · exact hended.1
      · exact hended.2
    cases hphase : s.phases side <;>
      simp [hphase, Phase.ended, Phase.removed, Phase.pending] at hside ⊢
  constructor
  · intro cel hcel id hid
    rcases hinv.consistent id ⟨cel, hcel, hid⟩ with hstored | ⟨side, hmem⟩
    · exact hstored
    · simp [(hremoved side).1] at hmem
  · intro stored hstored
    refine ⟨fun hnamed hover => hinv.overwritten _ hover hnamed, fun hover => ?_⟩
    rcases hinv.known _ ⟨stored, hstored, rfl⟩ with hnamed | ⟨side, c, hc, -⟩ | hover'
    · exact hnamed
    · simp [(hremoved side).2] at hc
    · exact absurd hover' hover

/-- The consumer and the sweep both generate the small call. -/
def smallGenerations : Side → Generation
  | .consumer => ⟨.simple, .fromLinkedId "1.1"⟩
  | .sweep => ⟨.simple, .lastUnprocessed (some 20) none⟩

/-- Both fetch the CELs before either goes on. -/
def overtakingSchedule : List Side :=
  [.consumer, .sweep] ++ List.replicate 5 .consumer ++ List.replicate 5 .sweep

/-- The small call after it has been generated twice at the same time. -/
def overtakenCall : System :=
  ((start arrivedCall).execute smallGenerations overtakingSchedule).getD (start arrivedCall)

lemma execute_overtakingSchedule :
    (start arrivedCall).execute smallGenerations overtakingSchedule = some overtakenCall := by
  have hsome : ((start arrivedCall).execute smallGenerations overtakingSchedule).isSome := by
    decide +kernel
  obtain ⟨s, hs⟩ := Option.isSome_iff_exists.1 hsome
  rw [overtakenCall, hs]
  rfl

/-- The small call, generated twice at the same time. -/
theorem consistent_and_named_overtakenCall :
    overtakenCall.db.Consistent ∧ ∀ stored ∈ overtakenCall.db.callLogs,
      (∃ cel ∈ overtakenCall.db.cels, cel.callLogId = some stored.id) ↔
        ¬ overtakenCall.Overwritten stored.id :=
  consistent_and_named_iff linked_arrivedCall execute_overtakingSchedule (by decide +kernel)

/-- The small call has two call logs, and none of its CELs names the first one. -/
theorem overtakenCall_orphan :
    arrivedCall.Linked ∧
      (start arrivedCall).execute smallGenerations overtakingSchedule = some overtakenCall ∧
      overtakenCall.Ended ∧
      ∃ stored ∈ overtakenCall.db.callLogs,
        ¬ ∃ cel ∈ overtakenCall.db.cels, cel.callLogId = some stored.id :=
  ⟨linked_arrivedCall, execute_overtakingSchedule, by decide +kernel, by decide +kernel⟩

end System

end CallLogd
