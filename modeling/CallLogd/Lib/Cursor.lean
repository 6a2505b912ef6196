/-
Readers of a growing store that resume where they have stopped.

The items of a store have keys, and the keys of new items are greater than all the keys
that the store has ever had.  A reader asks for the items from a position on, page by page.
Whatever is added or removed between two pages, it reads no item twice and passes over
none (`once_of_reaches`).
-/
import Mathlib.Data.Set.Basic
import Mathlib.Logic.Relation

namespace Cursor

/-- The keys of the items that a store has, below the keys of the items to come. -/
structure View where
  keys : Set ℕ
  bound : ℕ
  lt_bound : ∀ k ∈ keys, k < bound

/-- The items of a store are removed, and new ones are added. -/
structure View.Grows (v v' : View) : Prop where
  bound_le : v.bound ≤ v'.bound
  old : ∀ k ∈ v'.keys, k < v.bound → k ∈ v.keys

/-- A page of the items from a position on: their first keys. -/
structure Page (keys : Set ℕ) (position : ℕ) (page : List ℕ) : Prop where
  sorted : page.Pairwise (· < ·)
  mem : ∀ k ∈ page, k ∈ keys ∧ position ≤ k
  first : ∀ k ∈ keys, position ≤ k → k ∈ page ∨ ∀ l ∈ page, l < k

/-- The first items of a page are a page. -/
lemma Page.take {keys : Set ℕ} {position : ℕ} {page : List ℕ} (h : Page keys position page)
    (n : ℕ) : Page keys position (page.take n) where
  sorted := h.sorted.sublist (List.take_sublist n page)
  mem k hk := h.mem k (List.mem_of_mem_take hk)
  first k hk hposition := by
    rcases h.first k hk hposition with hmem | hbehind
    · rw [← List.take_append_drop n page] at hmem
      have hsorted := h.sorted
      rw [← List.take_append_drop n page, List.pairwise_append] at hsorted
      exact (List.mem_append.1 hmem).imp_right fun hrest l hl => hsorted.2.2 l hl k hrest
    · exact .inr fun l hl => hbehind l (List.mem_of_mem_take hl)

/-- A reader: its position, and what it has read. -/
structure Reader where
  position : ℕ
  read : List ℕ

namespace Reader

/-- A reader goes on behind the last item of a page. -/
def next (page : List ℕ) (r : Reader) : Reader where
  position := page.getLast?.elim r.position (· + 1)
  read := r.read ++ page

/-- A reader has read the items before its position, each of them once. -/
structure Once (v : View) (r : Reader) : Prop where
  sorted : r.read.Pairwise (· < ·)
  lt : ∀ k ∈ r.read, k < r.position
  position_le : r.position ≤ v.bound
  read : ∀ k ∈ v.keys, k < r.position → k ∈ r.read

variable {v v' : View} {r : Reader} {page : List ℕ}

lemma Once.grows (h : r.Once v) (hv : v.Grows v') : r.Once v' where
  sorted := h.sorted
  lt := h.lt
  position_le := h.position_le.trans hv.bound_le
  read k hk hlt := h.read k (hv.old k hk (hlt.trans_le h.position_le)) hlt

/-- The position behind a page is greater than its keys. -/
lemma lt_position_next (hpage : Page v.keys r.position page) {k : ℕ} (hk : k ∈ page) :
    k < (r.next page).position := by
  rcases List.eq_nil_or_concat page with rfl | ⟨front, last, rfl⟩
  · cases hk
  · rw [List.concat_eq_append] at hk hpage
    have hsorted := hpage.sorted
    rw [List.pairwise_append] at hsorted
    have hnext : (r.next (front.concat last)).position = last + 1 := by simp [next]
    rw [hnext]
    rcases List.mem_append.1 hk with hk | hk
    · exact (hsorted.2.2 k hk last List.mem_cons_self).trans (Nat.lt_succ_self last)
    · exact List.mem_singleton.1 hk ▸ Nat.lt_succ_self k

lemma position_le_next (hpage : Page v.keys r.position page) :
    r.position ≤ (r.next page).position := by
  cases hlast : page.getLast? with
  | none => simp [next, hlast]
  | some last =>
      have hle : r.position ≤ last := (hpage.mem last (List.mem_of_getLast? hlast)).2
      simpa [next, hlast] using hle.trans (Nat.le_succ last)

lemma Once.next (h : r.Once v) (hpage : Page v.keys r.position page) : (r.next page).Once v where
  sorted := List.pairwise_append.2 ⟨h.sorted, hpage.sorted, fun k hk l hl =>
    (h.lt k hk).trans_le (hpage.mem l hl).2⟩
  lt k hk := by
    rcases List.mem_append.1 hk with hk | hk
    · exact (h.lt k hk).trans_le (position_le_next hpage)
    · exact lt_position_next hpage hk
  position_le := by
    cases hlast : page.getLast? with
    | none => simpa [Reader.next, hlast] using h.position_le
    | some last =>
        have hmem := (hpage.mem last (List.mem_of_getLast? hlast)).1
        simpa [Reader.next, hlast] using Nat.succ_le_of_lt (v.lt_bound last hmem)
  read k hk hlt := by
    by_cases hold : k < r.position
    · exact List.mem_append_left _ (h.read k hk hold)
    · rcases hpage.first k hk (Nat.not_lt.1 hold) with hmem | hbehind
      · exact List.mem_append_right _ hmem
      · -- the page stops before the position that it leads to
        cases hlast : page.getLast? with
        | none =>
            rw [Reader.next, hlast] at hlt
            exact absurd hlt hold
        | some last =>
            rw [Reader.next, hlast] at hlt
            have hle : k ≤ last := Nat.lt_succ_iff.1 hlt
            exact absurd (hbehind last (List.mem_of_getLast? hlast)) (Nat.not_lt.2 hle)

end Reader

/-! ### Runs -/

section Runs

variable {σ : Type*} (view : σ → View) (change : σ → σ → Prop)

/-- The store changes, or the reader gets a page. -/
inductive Step : σ × Reader → σ × Reader → Prop
  | change {s s' : σ} {r : Reader} (h : change s s') : Step (s, r) (s', r)
  | read {s : σ} {r : Reader} {page : List ℕ} (h : Page (view s).keys r.position page) :
      Step (s, r) (s, r.next page)

variable {view change}

/-- In a run of changes and pages, the reader reads each item once. -/
theorem once_of_reaches (hchange : ∀ s s', change s s' → (view s).Grows (view s'))
    {start p : σ × Reader} (hreaches : Relation.ReflTransGen (Step view change) start p)
    (hstart : start.2.Once (view start.1)) : p.2.Once (view p.1) := by
  induction hreaches with
  | refl => exact hstart
  | tail _ hstep ih =>
      cases hstep with
      | change h => exact ih.grows (hchange _ _ h)
      | read h => exact ih.next h

end Runs

end Cursor
