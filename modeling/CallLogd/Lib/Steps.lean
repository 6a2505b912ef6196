/-
A stretch of time walked in steps.

The walk starts at `a` and goes on as long as it has not reached `b`. All its steps but
the first are cut off at `b`. The sums over the steps of what falls in each of them are
the sum over the stretch if they share it out (`sum_filter_parts`).
-/
import Mathlib.Algebra.BigOperators.Intervals
import Mathlib.Algebra.BigOperators.Group.List.Basic
import Mathlib.Tactic

namespace Steps

/-- A way to go forward, by a key that each step increases. -/
structure Stepper (α : Type*) where
  key : α → ℤ
  step : α → α
  lt_step : ∀ a, key a < key (step a)

namespace Stepper

variable {α : Type*} (s : Stepper α)

/-- A step that ends after `b` is cut off there. -/
def cut (b next : α) : α := if s.key b < s.key next then b else next

/-- The steps from `a`, which is not the start of the walk. -/
def rest (b : α) : ℕ → α → List (α × α)
  | 0, _ => []
  | fuel + 1, a =>
      if s.key a < s.key b then
        (a, s.cut b (s.step a)) :: rest b fuel (s.cut b (s.step a))
      else []

/-- The steps of the walk from `a` to `b`. -/
def parts (a b : α) : List (α × α) :=
  if s.key a < s.key b then
    -- each step gets closer to `b`, so the distance is enough fuel
    (a, s.step a) :: s.rest b (s.key b - s.key (s.step a)).toNat (s.step a)
  else []

/-- Where the walk is after some steps. -/
def mark (a : α) (k : ℕ) : α := s.step^[k] a

/-- The walk makes a step from this mark. -/
def Starts (a b : α) (k : ℕ) : Prop := s.key (s.mark a k) < s.key b

/-- Where a step of the walk ends. -/
def stop (a b : α) (k : ℕ) : α :=
  if k = 0 then s.mark a 1 else s.cut b (s.mark a (k + 1))

variable {s} {a b : α} {k : ℕ}

lemma key_mark_lt_succ (a : α) (k : ℕ) : s.key (s.mark a k) < s.key (s.mark a (k + 1)) := by
  rw [mark, mark, Function.iterate_succ_apply']
  exact s.lt_step _

lemma key_mark_strictMono (a : α) : StrictMono fun k => s.key (s.mark a k) :=
  strictMono_nat_of_lt_succ (key_mark_lt_succ a)

lemma lt_key_cut (h : s.key a < s.key b) : s.key a < s.key (s.cut b (s.step a)) := by
  unfold cut
  split
  · exact h
  · exact s.lt_step a

lemma exists_rest_eq (fuel : ℕ) (a : α) (hfuel : (s.key b - s.key a).toNat ≤ fuel) :
    ∃ n, (∀ k, k < n ↔ s.Starts a b k) ∧
      s.rest b fuel a = (List.range n).map fun k => (s.mark a k, s.cut b (s.mark a (k + 1))) := by
  induction fuel generalizing a with
  | zero =>
    have hmono := (key_mark_strictMono (s := s) a).monotone
    refine ⟨0, fun k => ⟨fun h => absurd h (Nat.not_lt_zero k), fun h => ?_⟩, rfl⟩
    have hk : s.key a ≤ s.key (s.mark a k) := hmono (Nat.zero_le k)
    unfold Starts at h
    omega
  | succ fuel ih =>
    have hmono := (key_mark_strictMono (s := s) a).monotone
    by_cases hlt : s.key a < s.key b
    · have hnext := lt_key_cut hlt
      obtain ⟨n, hn, hrest⟩ := ih (s.cut b (s.step a)) (by omega)
      rw [rest, if_pos hlt, hrest]
      by_cases hcut : s.key b < s.key (s.step a)
      · -- the step is the last one
        have hb : s.cut b (s.step a) = b := if_pos hcut
        have hzero : n = 0 := by
          by_contra hpos
          have := (hn 0).1 (Nat.pos_of_ne_zero hpos)
          rw [hb] at this
          exact lt_irrefl _ this
        refine ⟨1, fun k => ⟨fun h => ?_, fun h => ?_⟩, ?_⟩
        · obtain rfl : k = 0 := by omega
          exact hlt
        · by_contra hk
          have hge : s.key (s.mark a 1) ≤ s.key (s.mark a k) := hmono (by omega)
          have hstep : s.mark a 1 = s.step a := rfl
          rw [hstep] at hge
          unfold Starts at h
          omega
        · subst hzero
          rfl
      · have hb : s.cut b (s.step a) = s.step a := if_neg hcut
        refine ⟨n + 1, fun k => ?_, ?_⟩
        · cases k with
          | zero => exact ⟨fun _ => hlt, fun _ => Nat.succ_pos n⟩
          | succ k =>
            rw [Nat.succ_lt_succ_iff, hn k, hb]
            rfl
        · have hfirst : s.cut b (s.mark a (0 + 1)) = s.step a := hb
          rw [List.range_succ_eq_map, List.map_cons, List.map_map, hb, hfirst]
          rfl
    · refine ⟨0, fun k => ⟨fun h => absurd h (Nat.not_lt_zero k), fun h => ?_⟩, ?_⟩
      · have hk : s.key a ≤ s.key (s.mark a k) := hmono (Nat.zero_le k)
        unfold Starts at h
        omega
      · rw [rest, if_neg hlt]
        rfl

variable (s a b) in
/-- The steps of a walk, by the marks from which they are made. -/
theorem exists_parts_eq : ∃ n, (∀ k, k < n ↔ s.Starts a b k) ∧
    s.parts a b = (List.range n).map fun k => (s.mark a k, s.stop a b k) := by
  by_cases hlt : s.key a < s.key b
  · obtain ⟨n, hn, hrest⟩ := s.exists_rest_eq _ (s.step a) (b := b) le_rfl
    refine ⟨n + 1, fun k => ?_, ?_⟩
    · cases k with
      | zero => exact ⟨fun _ => hlt, fun _ => Nat.succ_pos n⟩
      | succ k =>
        rw [Nat.succ_lt_succ_iff, hn k]
        rfl
    · rw [parts, if_pos hlt, hrest, List.range_succ_eq_map, List.map_cons, List.map_map]
      rfl
  · refine ⟨0, fun k => ⟨fun h => absurd h (Nat.not_lt_zero k), fun h => ?_⟩, ?_⟩
    · have hk : s.key a ≤ s.key (s.mark a k) :=
        (key_mark_strictMono (s := s) a).monotone (Nat.zero_le k)
      unfold Starts at h
      omega
    · rw [parts, if_neg hlt]
      rfl

end Stepper

/-! ### Tilings -/

section Tilings

variable {α : Type*}

/-- The parts cover the time from `a` to `b`, one after another. -/
structure Tiles (time : α → ℤ) (a b : ℤ) (parts : List (α × α)) : Prop where
  starts : parts.head?.map (fun p => time p.1) = some a
  ends : parts.getLast?.map (fun p => time p.2) = some b
  joined : parts.IsChain fun p q => p.2 = q.1
  nonempty : ∀ p ∈ parts, time p.1 < time p.2
  within : ∀ p ∈ parts, time p.2 ≤ b

lemma tiles_map_iff {β : Type*} {f : β → α} (hf : Function.Injective f) {time : α → ℤ} {a b : ℤ}
    {parts : List (β × β)} :
    Tiles time a b (parts.map fun (p, q) => (f p, f q)) ↔ Tiles (time ∘ f) a b parts := by
  have hjoined : (parts.map fun (p, q) => (f p, f q)).IsChain (fun p q => p.2 = q.1) ↔
      parts.IsChain fun p q => p.2 = q.1 := by
    rw [List.isChain_map]
    simp only [hf.eq_iff]
  constructor
  · rintro ⟨hstarts, hends, hchain, hnonempty, hwithin⟩
    exact ⟨by simpa [Function.comp_def] using hstarts, by simpa [Function.comp_def] using hends,
      hjoined.1 hchain, fun p hp => hnonempty _ (List.mem_map_of_mem hp),
      fun p hp => hwithin _ (List.mem_map_of_mem hp)⟩
  · rintro ⟨hstarts, hends, hchain, hnonempty, hwithin⟩
    exact ⟨by simpa [Function.comp_def] using hstarts, by simpa [Function.comp_def] using hends,
      hjoined.2 hchain, List.forall_mem_map.2 hnonempty, List.forall_mem_map.2 hwithin⟩

namespace Stepper

variable (s : Stepper α) (time : α → ℤ) (a b : α)

/-- When the steps of a walk, which go forward by their keys, cover the time from its start
to its end. Keys and times may disagree, as clocks do that are put forward and back. -/
structure Fits : Prop where
  lt : s.key a < s.key b
  /-- The first step, which is not cut off, does not go too far. -/
  first : s.key b < s.key (s.step a) → time (s.step a) = time b
  forward : ∀ k, s.Starts a b k → time (s.mark a k) < time (s.cut b (s.mark a (k + 1)))
  /-- A mark that has the key of the end is at the end. -/
  last : ∀ k, s.key (s.mark a k) = s.key b → time (s.mark a k) = time b

variable {s time a b} {k : ℕ}

lemma starts_of_lt {j : ℕ} (h : j < k) (hkey : s.key (s.mark a k) ≤ s.key b) : s.Starts a b j :=
  (key_mark_strictMono a h).trans_le hkey

/-- The next step begins where a step ends. -/
lemma stop_eq_mark (h : s.Starts a b (k + 1)) : s.stop a b k = s.mark a (k + 1) := by
  unfold stop
  split
  case isTrue hk => rw [hk]
  case isFalse => exact if_neg (not_lt.2 (le_of_lt h))

/-- A step that ends at the key of the end of the walk is not cut off. -/
lemma stop_of_key_eq (h : s.key (s.mark a (k + 1)) = s.key b) :
    s.stop a b k = s.mark a (k + 1) := by
  unfold stop
  split
  case isTrue hk => rw [hk]
  case isFalse => exact if_neg (not_lt.2 h.le)

lemma stop_of_lt (hk : k ≠ 0) (h : s.key b < s.key (s.mark a (k + 1))) : s.stop a b k = b := by
  rw [stop, if_neg hk]
  exact if_pos h

lemma fits_of_tiles (hlt : time a < time b) (h : Tiles time (time a) (time b) (s.parts a b)) :
    s.Fits time a b := by
  obtain ⟨n, hn, hparts⟩ := s.exists_parts_eq a b
  rw [hparts] at h
  obtain _ | m := n
  · exact absurd h.starts (by simp)
  have hstep : ∀ k, s.Starts a b k → time (s.mark a k) < time (s.stop a b k) := fun k hk =>
    h.nonempty _ (List.mem_map_of_mem (List.mem_range.2 ((hn k).2 hk)))
  have hend : time (s.stop a b m) = time b := by
    have hlast := h.ends
    rw [List.range_succ, List.map_append] at hlast
    simpa using hlast
  -- the last step is the one whose mark no other mark follows
  have hlastStep : ∀ k, s.Starts a b k → ¬s.Starts a b (k + 1) → k = m := by
    intro k hk hnext
    have := (hn k).2 hk
    have := mt (hn (k + 1)).1 hnext
    omega
  have hstart : s.Starts a b 0 := (hn 0).1 (Nat.succ_pos m)
  refine ⟨hstart, fun hkey => ?_, fun k hk => ?_, fun k hk => ?_⟩
  · obtain rfl := hlastStep 0 hstart (not_lt.2 hkey.le)
    exact hend
  · have hforward := hstep k hk
    by_cases hcut : s.key b < s.key (s.mark a (k + 1))
    · rw [cut, if_pos hcut]
      obtain rfl | hzero := eq_or_ne k 0
      · exact hlt
      · rwa [stop_of_lt hzero hcut] at hforward
    · rw [cut, if_neg hcut]
      unfold stop at hforward
      split at hforward
      case isTrue hzero => rwa [hzero] at hforward ⊢
      case isFalse => rwa [cut, if_neg hcut] at hforward
  · obtain _ | k := k
    · exact absurd hk (ne_of_lt hstart)
    · have hprev := starts_of_lt (Nat.lt_succ_self k) hk.le
      obtain rfl := hlastStep k hprev (not_lt.2 hk.ge)
      rwa [stop_of_key_eq hk] at hend

lemma tiles_of_fits (h : s.Fits time a b) :
    Tiles time (time a) (time b) (s.parts a b) := by
  obtain ⟨n, hn, hparts⟩ := s.exists_parts_eq a b
  rw [hparts]
  obtain ⟨m, rfl⟩ : ∃ m, n = m + 1 := Nat.exists_eq_succ_of_ne_zero ((hn 0).2 h.lt).ne'
  have hlast : s.key b ≤ s.key (s.mark a (m + 1)) := not_lt.1 (mt (hn (m + 1)).2 (lt_irrefl _))
  have hend : time (s.stop a b m) = time b := by
    obtain heq | hkey := hlast.eq_or_lt
    · rw [stop_of_key_eq heq.symm]
      exact h.last (m + 1) heq.symm
    · obtain rfl | hm := eq_or_ne m 0
      · exact h.first hkey
      · rw [stop_of_lt hm hkey]
  have hforward : ∀ k < m + 1, time (s.mark a k) < time (s.stop a b k) := by
    intro k hk
    by_cases hcut : s.key b < s.key (s.mark a (k + 1))
    · -- only the last step is cut off, or goes too far
      obtain rfl : k = m := by
        by_contra hne
        have hnext : s.Starts a b (k + 1) := (hn (k + 1)).1 (by omega)
        exact lt_asymm hcut hnext
      rw [hend]
      have hcutForward := h.forward k ((hn k).1 hk)
      rwa [cut, if_pos hcut] at hcutForward
    · have hcutForward := h.forward k ((hn k).1 hk)
      rw [cut, if_neg hcut] at hcutForward
      unfold stop
      split
      case isTrue hzero => rwa [hzero] at hcutForward ⊢
      case isFalse => rwa [cut, if_neg hcut]
  have hwithin : ∀ k ≤ m, time (s.stop a b k) ≤ time b := by
    intro k hk
    induction hk using Nat.decreasingInduction with
    | self => exact hend.le
    | of_succ k hk ih =>
      rw [stop_eq_mark ((hn (k + 1)).1 (by omega))]
      exact (hforward (k + 1) (by omega)).le.trans ih
  refine ⟨by simp [List.range_succ_eq_map, mark], ?_, ?_, ?_, ?_⟩
  · rw [List.range_succ, List.map_append]
    simpa using hend
  · rw [List.isChain_map]
    refine List.isChain_iff_getElem.2 fun k hk => ?_
    rw [List.length_range] at hk
    rw [List.getElem_range, List.getElem_range]
    exact stop_eq_mark ((hn (k + 1)).1 hk)
  · intro p hp
    obtain ⟨k, hk, rfl⟩ := List.mem_map.1 hp
    exact hforward k (List.mem_range.1 hk)
  · intro p hp
    obtain ⟨k, hk, rfl⟩ := List.mem_map.1 hp
    exact hwithin k (Nat.le_of_lt_succ (List.mem_range.1 hk))

theorem tiles_parts_iff (hlt : time a < time b) :
    Tiles time (time a) (time b) (s.parts a b) ↔ s.Fits time a b :=
  ⟨fits_of_tiles hlt, tiles_of_fits⟩

/-- Where the keys are the times, up to a constant, only the first step can go too far. -/
lemma fits_iff_of_time_eq {c : ℤ} (htime : ∀ a, time a = s.key a + c) :
    s.Fits time a b ↔ s.key (s.step a) ≤ s.key b := by
  constructor
  · intro h
    by_contra hlt
    have hkey := h.first (not_le.1 hlt)
    rw [htime, htime] at hkey
    omega
  · intro h
    have hlt : s.key a < s.key b := (s.lt_step a).trans_le h
    refine ⟨hlt, fun hkey => absurd h (not_le.2 hkey), fun k hk => ?_, fun k hk => ?_⟩
    · have hnext := key_mark_lt_succ (s := s) a k
      rw [Starts] at hk
      rw [htime, htime, cut]
      split <;> omega
    · rw [htime, htime, hk]

end Stepper

end Tilings

/-! ### Sums over parts -/

section Sums

variable {ι ρ M : Type*} [AddCommMonoid M]

/-- What is counted in parts is counted once if each element of the whole is in exactly
one part, and the parts have no others. -/
theorem sum_filter_parts (parts : Finset ι) (rows : List ρ) (weight : ρ → M)
    (part : ι → ρ → Prop) [∀ i, DecidablePred (part i)] (whole : ρ → Prop) [DecidablePred whole]
    (hwhole : ∀ r ∈ rows, whole r → ∃ i ∈ parts, part i r ∧ ∀ j ∈ parts, part j r → j = i)
    (hpart : ∀ r ∈ rows, ∀ i ∈ parts, part i r → whole r) :
    ∑ i ∈ parts, ((rows.filter (part i ·)).map weight).sum =
      ((rows.filter (whole ·)).map weight).sum := by
  induction rows with
  | nil => simp
  | cons r rows ih =>
    have hrows := ih (fun r' h => hwhole r' (List.mem_cons_of_mem _ h))
      (fun r' h => hpart r' (List.mem_cons_of_mem _ h))
    have hsplit : ∀ p : ρ → Prop, ∀ [DecidablePred p],
        (((r :: rows).filter (p ·)).map weight).sum =
          (if p r then weight r else 0) + ((rows.filter (p ·)).map weight).sum := by
      intro p _
      by_cases h : p r <;> simp [h]
    simp only [hsplit, Finset.sum_add_distrib, hrows]
    congr 1
    by_cases hr : whole r
    · obtain ⟨i, hi, hir, hone⟩ := hwhole r List.mem_cons_self hr
      rw [if_pos hr, Finset.sum_eq_single_of_mem i hi, if_pos hir]
      intro j hj hne
      exact if_neg fun h => hne (hone j hj h)
    · rw [if_neg hr]
      refine Finset.sum_eq_zero fun i hi => if_neg fun h => hr ?_
      exact hpart r List.mem_cons_self i hi h

/-- Parts that are listed share out the whole if each of its elements is in exactly one. -/
theorem sum_parts {parts : List ι} {rows : List ρ} {part : ι → ρ → Bool} {whole : ρ → Bool}
    (weight : ρ → M)
    (hpart : ∀ r ∈ rows, parts.countP (part · r) = if whole r then 1 else 0) :
    (parts.map fun i => ((rows.filter (part i)).map weight).sum).sum =
      ((rows.filter whole).map weight).sum := by
  induction rows with
  | nil => simp
  | cons r rows ih =>
    have hrow := hpart r List.mem_cons_self
    have hrows := ih fun r' h => hpart r' (List.mem_cons_of_mem _ h)
    have hsplit : ∀ p : ρ → Bool, (((r :: rows).filter p).map weight).sum =
        (if p r then weight r else 0) + ((rows.filter p).map weight).sum := by
      intro p
      by_cases h : p r <;> simp [h]
    have hsum : (parts.map fun i => if part i r then weight r else 0).sum =
        parts.countP (part · r) • weight r := by
      clear hpart hrow hrows ih
      induction parts with
      | nil => simp
      | cons i parts ih =>
        by_cases h : part i r
        · rw [List.map_cons, List.sum_cons, ih, List.countP_cons, if_pos h, if_pos h, add_nsmul,
            one_nsmul, add_comm]
        · simp [ih, h]
    simp only [hsplit]
    rw [List.sum_map_add, hrows, hsum, hrow]
    congr 1
    by_cases h : whole r <;> simp [h]

lemma sum_countP_parts {parts : List ι} {rows : List ρ} {part : ι → ρ → Bool} {whole : ρ → Bool}
    (hpart : ∀ r ∈ rows, parts.countP (part · r) = if whole r then 1 else 0) :
    (parts.map fun i => rows.countP (part i)).sum = rows.countP whole := by
  have hcount : ∀ p : ρ → Bool, rows.countP p = ((rows.filter p).map fun _ => 1).sum := by
    intro p
    rw [List.countP_eq_length_filter, List.map_const', List.sum_replicate, smul_eq_mul, mul_one]
  simp only [hcount]
  exact sum_parts (fun _ => 1) hpart

/-- The groups of rows by a key share them out. -/
lemma sum_groups [DecidableEq ι] {keys : List ι} {rows : List ρ} (key : ρ → ι) (weight : ρ → M)
    (hnodup : keys.Nodup) (hkeys : ∀ r ∈ rows, key r ∈ keys) :
    (keys.map fun k => ((rows.filter (key · = k)).map weight).sum).sum =
      (rows.map weight).sum := by
  have hone : ∀ r ∈ rows, keys.countP (fun k => decide (key r = k)) = if true then 1 else 0 := by
    intro r hr
    have hcount := List.count_eq_one_of_mem hnodup (hkeys r hr)
    rw [List.count] at hcount
    simpa [eq_comm, BEq.beq] using hcount
  rw [sum_parts weight hone, List.filter_true]

end Sums

end Steps
