/-
Lists whose elements are repeated, as a join returns its rows, and the windows on them.

A window counts the rows, and what it shows is each element once.  It is the same window on
the elements if, and only if, nothing is repeated that moves one of its ends
(`window_repeated_iff`).
-/
import Mathlib.Algebra.GroupWithZero.Nat
import CallLogd.Lib.Sequences

namespace Repetitions

open Sequences

variable {α κ : Type*} [DecidableEq κ]

/-- Each element as often as it counts. -/
def repeated (m : α → ℕ) (l : List α) : List α := l.flatMap fun a => List.replicate (m a) a

/-- The rows of the elements. -/
def rows (m : α → ℕ) (l : List α) : ℕ := (l.map m).sum

/-- The elements that are among the first `n` rows. -/
def shown (m : α → ℕ) : List α → ℕ → ℕ
  | [], _ => 0
  | a :: l, n => if n = 0 then 0 else shown m l (n - m a) + 1

/-- The window on the rows is a window on the elements: it is past the end, or it starts
after `k` rows that are different elements, and reaches its last element. -/
def Fits (m : α → ℕ) (l : List α) (k n : ℕ) : Prop :=
  rows m l ≤ k ∨
    0 < n ∧ k < l.length ∧ rows m (l.take k) = k ∧
      rows m (l.take (min (k + n) l.length - 1)) < k + n

instance (m : α → ℕ) (l : List α) (k n : ℕ) : Decidable (Fits m l k n) :=
  inferInstanceAs (Decidable (_ ∨ _))

variable {m : α → ℕ} {key : α → κ} {a : α} {l t : List α} {j k n : ℕ}

/-! ### Rows -/

@[simp]
lemma repeated_cons : repeated m (a :: l) = List.replicate (m a) a ++ repeated m l := rfl

@[simp]
lemma length_repeated : (repeated m l).length = rows m l := by
  simp [repeated, rows]

lemma mem_repeated : a ∈ repeated m l ↔ a ∈ l ∧ 0 < m a := by
  simp only [repeated, List.mem_flatMap, List.mem_replicate, Nat.pos_iff_ne_zero]
  constructor
  · rintro ⟨_, hmem, hm, rfl⟩
    exact ⟨hmem, hm⟩
  · exact fun ⟨hmem, hm⟩ => ⟨a, hmem, hm, rfl⟩

lemma repeated_perm (h : l.Perm t) : (repeated m l).Perm (repeated m t) := h.flatMap_right _

/-- The rows are in order if the elements are. -/
lemma pairwise_repeated {r : α → α → Prop} (hrefl : ∀ a, r a a) (h : l.Pairwise r) :
    (repeated m l).Pairwise r := by
  induction l with
  | nil => exact List.Pairwise.nil
  | cons a l ih =>
    obtain ⟨hhead, htail⟩ := List.pairwise_cons.1 h
    refine List.pairwise_append.2 ⟨List.pairwise_replicate.2 (.inr (hrefl a)), ih htail, ?_⟩
    intro b hb c hc
    rw [List.eq_of_mem_replicate hb]
    exact hhead c (mem_repeated.1 hc).1

lemma filter_repeated (p : α → Bool) : (repeated m l).filter p = repeated m (l.filter p) := by
  induction l with
  | nil => rfl
  | cons a l ih =>
    rw [repeated_cons, List.filter_append, ih, List.filter_replicate, List.filter_cons]
    split
    · rfl
    · rfl

/-- An element without rows can be left out. -/
lemma repeated_filter_pos : repeated m (l.filter fun a => 0 < m a) = repeated m l := by
  rw [← filter_repeated]
  exact List.filter_eq_self.2 fun a ha => by simpa using (mem_repeated.1 ha).2

lemma le_rows (hpos : ∀ a ∈ l, 0 < m a) : l.length ≤ rows m l := by
  induction l with
  | nil => exact Nat.zero_le _
  | cons a l ih =>
    have ha := hpos a List.mem_cons_self
    have hl := ih fun b hb => hpos b (List.mem_cons_of_mem a hb)
    simp only [rows, List.map_cons, List.sum_cons, List.length_cons] at hl ⊢
    omega

/-! ### The first rows -/

lemma shown_le_length : shown m l n ≤ l.length := by
  induction l generalizing n with
  | nil => exact le_rfl
  | cons a l ih =>
    rw [shown, List.length_cons]
    split
    · exact Nat.zero_le _
    · exact Nat.succ_le_succ ih

/-- The first `n` rows show no more than `j` elements if these have as many rows. -/
lemma shown_le_iff : shown m l n ≤ j ↔ l.length ≤ j ∨ n ≤ rows m (l.take j) := by
  induction l generalizing n j with
  | nil => simp [shown]
  | cons a l ih =>
    rw [shown]
    split
    · next hn => simp [hn]
    · next hn =>
      cases j with
      | zero => simp [rows, hn]
      | succ j =>
        have htake : rows m ((a :: l).take (j + 1)) = m a + rows m (l.take j) := by
          simp [rows]
        rw [Nat.succ_le_succ_iff, ih, htake, List.length_cons]
        omega

lemma shown_pos (hl : l ≠ []) (hn : 0 < n) : 0 < shown m l n := by
  cases l with
  | nil => exact absurd rfl hl
  | cons a l =>
    rw [shown, if_neg hn.ne']
    exact Nat.succ_pos _

/-- The rows of an element are returned as one. -/
lemma uniqueBy_replicate_append (hj : 0 < j) (ha : ∀ b ∈ t, key b ≠ key a) :
    uniqueBy key (List.replicate j a ++ t) = a :: uniqueBy key t := by
  have hkeep : ∀ {s : List α}, (∀ b ∈ s, key b ≠ key a) →
      s.filter (fun b => key b ≠ key a) = s :=
    fun hs => List.filter_eq_self.2 fun b hb => decide_eq_true (hs b hb)
  have hunique := hkeep fun b hb => ha b ((uniqueBy_sublist key t).subset hb)
  induction j, hj using Nat.le_induction with
  | base => simp only [List.replicate_one, List.singleton_append, uniqueBy, hunique]
  | succ j _ ih =>
    rw [List.replicate_succ, List.cons_append, uniqueBy, ih, List.filter_cons_of_neg (by simp),
      hunique]

omit [DecidableEq κ] in
/-- The rows after those of an element have other keys. -/
lemma key_ne_of_mem_repeated (hnodup : ((a :: l).map key).Nodup) :
    ∀ b ∈ repeated m l, key b ≠ key a := by
  intro b hb hkey
  rw [List.map_cons, List.nodup_cons] at hnodup
  exact hnodup.1 (hkey ▸ List.mem_map_of_mem (mem_repeated.1 hb).1)

/-- All the rows show each element. -/
lemma uniqueBy_repeated (hnodup : (l.map key).Nodup) (hpos : ∀ a ∈ l, 0 < m a) :
    uniqueBy key (repeated m l) = l := by
  induction l with
  | nil => rfl
  | cons a l ih =>
    have ih := ih (List.nodup_cons.1 hnodup).2 fun b hb => hpos b (List.mem_cons_of_mem a hb)
    rw [repeated_cons, uniqueBy_replicate_append (hpos a List.mem_cons_self)
      (key_ne_of_mem_repeated hnodup), ih]

lemma uniqueBy_take_repeated (hnodup : (l.map key).Nodup) (hpos : ∀ a ∈ l, 0 < m a) :
    uniqueBy key ((repeated m l).take n) = l.take (shown m l n) := by
  induction l generalizing n with
  | nil => simp [repeated, uniqueBy]
  | cons a l ih =>
    have ih := ih (n := n - m a) (List.nodup_cons.1 hnodup).2
      fun b hb => hpos b (List.mem_cons_of_mem a hb)
    rw [shown]
    split
    · next hn => simp [hn, uniqueBy]
    · next hn =>
      have hm := hpos a List.mem_cons_self
      rw [repeated_cons, List.take_append, List.take_replicate, List.length_replicate,
        uniqueBy_replicate_append (by omega), ih, List.take_succ_cons]
      exact fun b hb => key_ne_of_mem_repeated hnodup b (List.mem_of_mem_take hb)

/-! ### Windows -/

/-- What is shown by a window that starts within the rows. -/
lemma uniqueBy_window (hnodup : (l.map key).Nodup) (hpos : ∀ a ∈ l, 0 < m a) (hn : 0 < n)
    (hk : k < rows m l) : uniqueBy key (((repeated m l).drop k).take n) =
      (l.take (shown m l (k + n))).drop (shown m l (k + 1) - 1) := by
  induction l generalizing k with
  | nil => exact absurd hk (Nat.not_lt_zero k)
  | cons a l ih =>
    have htail : (l.map key).Nodup := (List.nodup_cons.1 hnodup).2
    have hpos' : ∀ b ∈ l, 0 < m b := fun b hb => hpos b (List.mem_cons_of_mem a hb)
    have hrows : rows m (a :: l) = m a + rows m l := by simp [rows]
    rw [shown, shown, if_neg (by omega), if_neg (by omega), repeated_cons, List.drop_append,
      List.drop_replicate, List.length_replicate]
    rcases Nat.lt_or_ge k (m a) with hka | hka
    · -- the window starts in the rows of the first element
      have hzero : k + 1 - m a = 0 := by omega
      have hshown : shown m l 0 = 0 := by cases l <;> rfl
      rw [Nat.sub_eq_zero_of_le hka.le, List.drop_zero, List.take_append, List.take_replicate,
        List.length_replicate, uniqueBy_replicate_append (by omega),
        uniqueBy_take_repeated htail hpos', hzero, hshown, List.take_succ_cons]
      · have hcount : n - (m a - k) = k + n - m a := by omega
        rw [hcount]
        rfl
      · exact fun b hb => key_ne_of_mem_repeated hnodup b (List.mem_of_mem_take hb)
    · -- the first element is before the window
      have hl : l ≠ [] := by
        rintro rfl
        simp only [rows, List.map_cons, List.map_nil, List.sum_cons, List.sum_nil] at hk
        omega
      have hshown := shown_pos (m := m) hl (show 0 < k + 1 - m a by omega)
      have hstart : shown m l (k + 1 - m a) + 1 - 1 = shown m l (k - m a + 1) - 1 + 1 := by
        rw [show k - m a + 1 = k + 1 - m a by omega]
        omega
      rw [Nat.sub_eq_zero_of_le hka, List.replicate_zero, List.nil_append,
        ih htail hpos' (by omega), hstart, List.take_succ_cons, List.drop_succ_cons,
        show k - m a + n = k + n - m a by omega]

/-- The windows on a list without repetitions are the same if their ends are. -/
lemma drop_take_eq_iff {i e : ℕ} (hl : l.Nodup) (hik : i < j) (hj : j ≤ l.length) :
    (l.take j).drop i = (l.take e).drop k ↔ i = k ∧ j = min e l.length := by
  constructor
  · intro h
    have hlength := congrArg List.length h
    simp only [List.length_drop, List.length_take] at hlength
    have hfirst : (l.take j)[i]? = (l.take e)[k]? := by
      have hhead := congrArg List.head? h
      rwa [List.head?_drop, List.head?_drop] at hhead
    rw [List.getElem?_take_of_lt hik, List.getElem?_take_of_lt (by omega)] at hfirst
    have hi : i = k := (List.getElem?_inj (by omega) hl).1 hfirst
    omega
  · rintro ⟨rfl, rfl⟩
    rw [← List.take_eq_take_min]

lemma shown_le (hpos : ∀ a ∈ l, 0 < m a) : shown m l n ≤ n := by
  have htake : (l.take n).length ≤ rows m (l.take n) :=
    le_rows fun a ha => hpos a (List.mem_of_mem_take ha)
  rw [List.length_take] at htake
  exact shown_le_iff.2 (by omega)

/-- What is shown by a window is the same window on the elements. -/
theorem window_repeated_iff (hnodup : (l.map key).Nodup) (hpos : ∀ a ∈ l, 0 < m a)
    (hn : 0 < n) :
    uniqueBy key (((repeated m l).drop k).take n) = (l.drop k).take n ↔ Fits m l k n := by
  have hlength := le_rows hpos
  rcases Nat.lt_or_ge k (rows m l) with hk | hk
  · have hl : l ≠ [] := by
      rintro rfl
      exact Nat.not_lt_zero k hk
    have hle : shown m l (k + n) ≤ l.length := shown_le_length
    have hfirst : shown m l (k + 1) ≤ k + 1 := shown_le hpos
    have hlast : shown m l (k + n) ≤ k + n := shown_le hpos
    have hmono : shown m l (k + 1) ≤ shown m l (k + n) :=
      shown_le_iff.2 ((shown_le_iff.1 le_rfl).imp_right (by omega))
    have hsome : 0 < shown m l (k + 1) := shown_pos hl (Nat.succ_pos k)
    have htake : (l.take k).length ≤ rows m (l.take k) :=
      le_rows fun a ha => hpos a (List.mem_of_mem_take ha)
    -- where the window starts, and where it ends
    have hstart := shown_le_iff (m := m) (l := l) (n := k + 1) (j := k)
    have hend := shown_le_iff (m := m) (l := l) (n := k + n) (j := min (k + n) l.length - 1)
    rw [uniqueBy_window hnodup hpos hn hk, List.take_drop,
      drop_take_eq_iff hnodup.of_map (by omega) hle, Fits]
    rw [List.length_take] at htake
    omega
  · have hlong : (repeated m l).length ≤ k := by rw [length_repeated]; exact hk
    rw [List.drop_eq_nil_of_le hlong, List.drop_eq_nil_of_le (hlength.trans hk)]
    simp only [List.take_nil, uniqueBy, true_iff]
    exact .inl hk

/-- A window without rows shows nothing, unlike one without a limit. -/
lemma uniqueBy_drop_repeated_eq_nil_iff :
    uniqueBy key ((repeated m l).drop k) = [] ↔ Fits m l k 0 := by
  have hnil : ∀ t : List α, uniqueBy key t = [] ↔ t = [] := by
    intro t
    cases t with
    | nil => simp [uniqueBy]
    | cons a t => simp [uniqueBy]
  rw [hnil, List.drop_eq_nil_iff, length_repeated, Fits]
  simp

end Repetitions
