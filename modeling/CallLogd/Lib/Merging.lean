/-
Merging the items of a list that share a key.

The first item of a key becomes an entry of a table, and the later ones are absorbed by
it.  The table consists of the first occurrences, each with the items of its key folded
into it (`table_eq`), so the items of the other keys have no effect on an entry
(`filter_table`).  A loop over the cells of a memory whose entries are the cells
themselves, changed in place, builds the same table if no cell occurs twice
(`contents_run`).
-/
import Mathlib.Data.List.Induction
import Mathlib.Logic.Function.Basic
import CallLogd.Lib.Dict
import CallLogd.Lib.Sequences

namespace Merging

open Sequences

variable {α κ : Type*} [DecidableEq κ] (key : α → κ) (absorb : α → α → α)

/-- An item is absorbed by the entry of its key, or becomes one. -/
def put (d : Dict κ α) (x : α) : Dict κ α := d.upsert (key x) x fun entry => absorb entry x

/-- The table of the items of a list. -/
def table (xs : List α) : Dict κ α := xs.foldl (put key absorb) []

/-- The entry of a key whose first item is `x`. -/
def entry (xs : List α) (x : α) : α := (xs.filter fun y => key y = key x).foldl absorb x

variable {key absorb} {xs : List α} {x : α} {k : κ}

/-! ### The table -/

lemma table_concat : table key absorb (xs ++ [x]) = put key absorb (table key absorb xs) x :=
  List.foldl_concat ..

lemma entry_concat {y : α} : entry key absorb (xs ++ [y]) x =
    if key y = key x then absorb (entry key absorb xs x) y else entry key absorb xs x := by
  unfold entry
  split
  · next h => simp [List.filter_append, h]
  · next h => simp [List.filter_append, h]

variable (key absorb xs) in
/-- The entries are the first items of the keys, in order, each with the items of its key. -/
theorem table_eq : table key absorb xs =
    (uniqueBy key xs).map fun x => (key x, entry key absorb xs x) := by
  induction xs using List.reverseRecOn with
  | nil => rfl
  | append_singleton xs x ih =>
      rw [table_concat, put, ih, uniqueBy_concat]
      by_cases hx : ∃ y ∈ xs, key y = key x
      · -- the item is absorbed
        have hknown : ∃ p ∈ (uniqueBy key xs).map fun y => (key y, entry key absorb xs y),
            p.1 = key x := by
          obtain ⟨y, hy, hyx⟩ := List.mem_map.1 (mem_map_uniqueBy.2 (List.mem_map.2 hx))
          exact ⟨_, List.mem_map_of_mem hy, hyx⟩
        rw [Dict.upsert_of_known hknown, if_pos hx, List.map_map]
        refine List.map_congr_left fun y _ => ?_
        rw [Function.comp_apply, entry_concat]
        by_cases hyx : key y = key x
        · rw [if_pos hyx, if_pos hyx.symm]
        · rw [if_neg hyx, if_neg (Ne.symm hyx)]
      · -- no item before it has its key
        have hne : ∀ y ∈ xs, key y ≠ key x := fun y hy hyx => hx ⟨y, hy, hyx⟩
        have hnew : ∀ p ∈ (uniqueBy key xs).map fun y => (key y, entry key absorb xs y),
            p.1 ≠ key x := by
          intro p hp
          obtain ⟨y, hy, rfl⟩ := List.mem_map.1 hp
          exact hne y ((uniqueBy_sublist key xs).subset hy)
        have hself : entry key absorb (xs ++ [x]) x = absorb x x := by
          have hnone : xs.filter (fun y => key y = key x) = [] :=
            List.filter_eq_nil_iff.2 fun y hy => by simpa using hne y hy
          rw [entry_concat, if_pos rfl, entry, hnone]
          rfl
        rw [Dict.upsert_of_new hnew, if_neg hx, List.map_append, List.map_singleton, hself]
        refine congrArg (· ++ _) (List.map_congr_left fun y hy => ?_)
        rw [entry_concat, if_neg (hne y ((uniqueBy_sublist key xs).subset hy)).symm]

variable (key absorb xs) in
lemma map_fst_table : (table key absorb xs).map Prod.fst = (uniqueBy key xs).map key := by
  rw [table_eq, List.map_map]
  rfl

variable (key absorb xs) in
lemma nodup_table : ((table key absorb xs).map Prod.fst).Nodup :=
  map_fst_table key absorb xs ▸ nodup_map_uniqueBy key xs

variable (key absorb xs) in
/-- The items of the other keys have no effect on the entry of a key. -/
theorem filter_table (k : κ) : (table key absorb xs).filter (fun p => p.1 = k) =
    table key absorb (xs.filter fun x => key x = k) := by
  have hentry : ∀ x, key x = k →
      entry key absorb (xs.filter fun x => key x = k) x = entry key absorb xs x := by
    rintro x rfl
    unfold entry
    rw [List.filter_filter]
    simp only [Bool.and_self]
  have hfirst : uniqueBy key (xs.filter fun x => key x = k) =
      (uniqueBy key xs).filter fun x => key x = k := by
    have hall : ∀ x ∈ uniqueBy key (xs.filter fun x => key x = k), decide (key x = k) = true :=
      fun x hx => (List.mem_filter.1 ((uniqueBy_sublist _ _).subset hx)).2
    rw [← List.filter_eq_self.2 hall, filter_uniqueBy, filter_uniqueBy, List.filter_filter]
    simp only [Bool.and_self]
  rw [table_eq, table_eq, hfirst, List.filter_map]
  refine List.map_congr_left fun x hx => ?_
  rw [hentry x (of_decide_eq_true (List.mem_filter.1 hx).2)]

/-! ### Entries that are changed in place -/

section InPlace

variable {ι : Type*} [DecidableEq ι]

variable (ι κ α) in
/-- A memory, and a table whose entries are cells of it. -/
structure Cells where
  memory : ι → α
  seen : Dict κ ι := []

variable (key absorb) in
/-- The item of a cell is absorbed by the cell that was seen with its key, in place, or
the cell becomes an entry. -/
def visit (s : Cells α κ ι) (cell : ι) : Cells α κ ι :=
  match s.seen.get? (key (s.memory cell)) with
  | some first =>
      { s with
        memory := Function.update s.memory first (absorb (s.memory first) (s.memory cell)) }
  | none => { s with seen := s.seen.set (key (s.memory cell)) cell }

variable (key absorb) in
/-- The loop over some cells. -/
def run (memory : ι → α) (cells : List ι) : Cells α κ ι :=
  cells.foldl (visit key absorb) { memory := memory }

/-- The items in the cells of the table. -/
def Cells.contents (s : Cells α κ ι) : Dict κ α := s.seen.map fun p => (p.1, s.memory p.2)

/-- After some cells, the table is that of their first items, and the cells to come are as
they were. -/
structure Built (key : α → κ) (absorb : α → α → α) (memory : ι → α) (done : List ι)
    (s : Cells α κ ι) : Prop where
  contents : s.contents = table key absorb (done.map memory)
  fresh : ∀ cell ∉ done, s.memory cell = memory cell
  seen : ∀ p ∈ s.seen, p.2 ∈ done
  apart : (s.seen.map Prod.snd).Nodup

variable {memory : ι → α} {done cells : List ι} {cell : ι} {s : Cells α κ ι}

lemma visit_of_seen {first : ι} (h : s.seen.get? (key (s.memory cell)) = some first) :
    visit key absorb s cell =
      { s with
        memory := Function.update s.memory first (absorb (s.memory first) (s.memory cell)) } := by
  rw [visit, h]

lemma visit_of_new (h : s.seen.get? (key (s.memory cell)) = none) :
    visit key absorb s cell = { s with seen := s.seen ++ [(key (s.memory cell), cell)] } := by
  rw [visit, h]
  exact congrArg (Cells.mk s.memory) (Dict.upsert_of_new (Dict.get?_eq_none.1 h))

namespace Built

omit [DecidableEq ι] in
lemma nodup (h : Built key absorb memory done s) : (s.seen.map Prod.fst).Nodup := by
  have hkeys : s.contents.map Prod.fst = s.seen.map Prod.fst := by
    rw [Cells.contents, List.map_map]
    rfl
  rw [← hkeys, h.contents]
  exact nodup_table _ _ _

omit [DecidableEq ι] in
/-- The table after a cell that was not visited yet. -/
lemma table_concat (h : Built key absorb memory done s) (hcell : cell ∉ done) :
    table key absorb ((done ++ [cell]).map memory) =
      put key absorb s.contents (s.memory cell) := by
  rw [List.map_append, List.map_singleton, Merging.table_concat, h.contents, h.fresh cell hcell]

/-- The cell that was seen changes, and no other entry. -/
lemma visit_seen {first : ι} (h : Built key absorb memory done s) (hcell : cell ∉ done)
    (hfirst : s.seen.get? (key (s.memory cell)) = some first) :
    Built key absorb memory (done ++ [cell]) (visit key absorb s cell) := by
  have hmem := Dict.mem_of_get? hfirst
  have hiff : ∀ p ∈ s.seen, p.1 = key (s.memory cell) ↔ p.2 = first := by
    intro p hp
    constructor
    · exact fun hkey => congrArg Prod.snd (List.inj_on_of_nodup_map h.nodup hp hmem hkey)
    · exact fun hsame => congrArg Prod.fst (List.inj_on_of_nodup_map h.apart hp hmem hsame)
  rw [visit_of_seen hfirst]
  refine ⟨?_, fun c hc => ?_, fun p hp => List.mem_append_left _ (h.seen p hp), h.apart⟩
  · have hknown : ∃ p ∈ s.contents, p.1 = key (s.memory cell) :=
      ⟨_, List.mem_map_of_mem hmem, rfl⟩
    rw [h.table_concat hcell, put, Dict.upsert_of_known hknown, Cells.contents, Cells.contents,
      List.map_map]
    refine List.map_congr_left fun p hp => ?_
    dsimp only [Function.comp_apply]
    rw [Function.update_apply]
    by_cases hpfirst : p.2 = first
    · rw [if_pos hpfirst, if_pos ((hiff p hp).2 hpfirst), hpfirst]
    · rw [if_neg hpfirst, if_neg ((hiff p hp).not.2 hpfirst)]
  · have hdone : c ∉ done := fun hc' => hc (List.mem_append_left _ hc')
    have hne : c ≠ first := fun heq => hdone (heq ▸ h.seen _ hmem)
    exact (Function.update_of_ne hne _ _).trans (h.fresh c hdone)

/-- The cell becomes an entry. -/
lemma visit_new (hself : ∀ x, absorb x x = x) (h : Built key absorb memory done s)
    (hcell : cell ∉ done) (hfirst : s.seen.get? (key (s.memory cell)) = none) :
    Built key absorb memory (done ++ [cell]) (visit key absorb s cell) := by
  rw [visit_of_new hfirst]
  refine ⟨?_, fun c hc => ?_, fun p hp => ?_, ?_⟩
  · have hnew : ∀ p ∈ s.contents, p.1 ≠ key (s.memory cell) := by
      intro p hp
      obtain ⟨q, hq, rfl⟩ := List.mem_map.1 hp
      exact Dict.get?_eq_none.1 hfirst q hq
    rw [h.table_concat hcell, put, Dict.upsert_of_new hnew, hself, Cells.contents, List.map_append]
    rfl
  · exact h.fresh c fun hc' => hc (List.mem_append_left _ hc')
  · rcases List.mem_append.1 hp with hp | hp
    · exact List.mem_append_left _ (h.seen p hp)
    · rw [List.mem_singleton.1 hp]
      exact List.mem_append_right _ (List.mem_singleton_self cell)
  · rw [List.map_append, List.map_singleton]
    refine h.apart.append (List.nodup_singleton _) (List.disjoint_singleton.2 fun hmem => ?_)
    obtain ⟨p, hp, rfl⟩ := List.mem_map.1 hmem
    exact hcell (h.seen p hp)

end Built

lemma built_run (hself : ∀ x, absorb x x = x) (hcells : cells.Nodup) :
    Built key absorb memory cells (run key absorb memory cells) := by
  induction cells using List.reverseRecOn with
  | nil => exact ⟨rfl, fun _ _ => rfl, by simp [run], List.nodup_nil⟩
  | append_singleton cells cell ih =>
      obtain ⟨hcell, hcells⟩ := (List.nodup_concat cells cell).1 (List.concat_eq_append ▸ hcells)
      have hdone := ih hcells
      rw [run, List.foldl_concat]
      cases hfirst : (run key absorb memory cells).seen.get?
          (key ((run key absorb memory cells).memory cell)) with
      | some first => exact hdone.visit_seen hcell hfirst
      | none => exact hdone.visit_new hself hcell hfirst

/-- The loop builds the table of the items that the cells had at first. -/
theorem contents_run (hself : ∀ x, absorb x x = x) (hcells : cells.Nodup) :
    (run key absorb memory cells).contents = table key absorb (cells.map memory) :=
  (built_run hself hcells).contents

end InPlace

end Merging
