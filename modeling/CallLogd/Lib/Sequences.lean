/-
Stable sorting by a key and grouping of consecutive elements by a key, as in
`sorted(..., key=...)` and `itertools.groupby`.

The groups of a list that has been sorted by the same key are the elements of
each key, in the order of the list (`groupby_sortedBy`).  If it has been sorted
otherwise, there is one group for each key exactly if the elements of each key
are consecutive (`nodup_map_groupby_iff`).
-/
import Mathlib.Data.Finset.Sort
import Mathlib.Data.List.Sort

namespace Sequences

variable {α κ : Type*}

/-- Stable sorting by a key. -/
def sortedBy [LinearOrder κ] (key : α → κ) (l : List α) : List α :=
  l.insertionSort fun a b => key a ≤ key b

/-- The maximal runs of consecutive elements with the same key. -/
def groupby [DecidableEq κ] (key : α → κ) : List α → List (κ × List α)
  | [] => []
  | a :: l =>
      match groupby key l with
      | [] => [(key a, [a])]
      | (k, g) :: rest =>
          if key a = k then (k, a :: g) :: rest else (key a, [a]) :: (k, g) :: rest

/-- The elements of each key are consecutive. -/
def Contiguous (key : α → κ) (l : List α) : Prop :=
  ∀ a b c, [a, b, c].Sublist l → key a = key c → key b = key a

/-- The elements whose key does not occur before them. -/
def uniqueBy [DecidableEq κ] (key : α → κ) : List α → List α
  | [] => []
  | a :: l => a :: (uniqueBy key l).filter fun b => key b ≠ key a

/-- The distinct keys of a list, in increasing order. -/
def distinctKeys [LinearOrder κ] (key : α → κ) (l : List α) : List κ :=
  (l.map key).toFinset.sort

/-! ### Runs -/

section Runs

variable {key : α → κ} {l : List α} {a : α} {k : κ}

lemma contiguous_cons : Contiguous key (a :: l) ↔ Contiguous key l ∧
    ∀ b c, [b, c].Sublist l → key a = key c → key b = key a := by
  constructor
  · intro h
    exact ⟨fun x b c hsub => h x b c (hsub.cons a), fun b c hsub => h a b c (hsub.cons_cons a)⟩
  · rintro ⟨hl, ha⟩ x b c hsub hkey
    cases hsub with
    | cons _ hsub => exact hl x b c hsub hkey
    | cons_cons _ hsub => exact ha b c hsub hkey

variable [DecidableEq κ]

lemma groupby_eq_nil : groupby key l = [] ↔ l = [] := by
  cases l with
  | nil => simp [groupby]
  | cons a l =>
      rw [groupby]
      split
      · simp
      · split <;> simp

variable (key l)

/-- The first group has the key of the first element. -/
lemma key_head?_groupby : (groupby key l).head?.map Prod.fst = l.head?.map key := by
  cases l with
  | nil => rfl
  | cons a l =>
      rw [groupby]
      split
      · rfl
      · next k g rest _ =>
          split
          · next h => simp [h]
          · rfl

lemma map_groupby_cons : (groupby key (a :: l)).map Prod.fst =
    if l.head?.map key = some (key a) then (groupby key l).map Prod.fst
    else key a :: (groupby key l).map Prod.fst := by
  rw [← key_head?_groupby, groupby]
  split
  · next h => simp [h]
  · next k g rest h =>
      rw [h]
      split
      · next h => simp [h]
      · next h => simp [Ne.symm h]

variable {key l}

/-- The groups have the keys of the elements. -/
lemma mem_map_groupby : k ∈ (groupby key l).map Prod.fst ↔ ∃ a ∈ l, key a = k := by
  induction l with
  | nil => simp [groupby]
  | cons b l ih =>
      rw [map_groupby_cons]
      split
      · next h =>
          obtain ⟨c, hc, hcb⟩ := Option.map_eq_some_iff.1 h
          rw [ih]
          constructor
          · rintro ⟨a, ha, rfl⟩
            exact ⟨a, List.mem_cons_of_mem b ha, rfl⟩
          · rintro ⟨a, ha, rfl⟩
            rcases List.mem_cons.1 ha with rfl | ha
            · exact ⟨c, List.mem_of_mem_head? hc, hcb⟩
            · exact ⟨a, ha, rfl⟩
      · rw [List.mem_cons, ih]
        simp [eq_comm]

variable (key l) in
lemma flatMap_groupby : (groupby key l).flatMap Prod.snd = l := by
  induction l with
  | nil => rfl
  | cons a l ih =>
      rw [groupby]
      split
      · next h =>
          obtain rfl := groupby_eq_nil.1 h
          rfl
      · next h =>
          rw [h] at ih
          split <;> simp [← ih]

/-- A group is not empty, and its elements have its key. -/
lemma group_spec {p : κ × List α} (hp : p ∈ groupby key l) :
    p.2 ≠ [] ∧ ∀ a ∈ p.2, key a = p.1 := by
  induction l generalizing p with
  | nil => simp [groupby] at hp
  | cons b l ih =>
      rw [groupby] at hp
      split at hp
      · obtain rfl := List.mem_singleton.1 hp
        simp
      · next k g rest hcons =>
          rw [hcons] at ih
          split at hp
          · next hbk =>
              rcases List.mem_cons.1 hp with rfl | hp
              · refine ⟨List.cons_ne_nil b g, fun a ha => ?_⟩
                rcases List.mem_cons.1 ha with rfl | ha
                · exact hbk
                · exact (ih List.mem_cons_self).2 a ha
              · exact ih (List.mem_cons_of_mem _ hp)
          · rcases List.mem_cons.1 hp with rfl | hp
            · simp
            · exact ih hp

/-- Two groups have the same key exactly if elements of another key separate
elements of that key. -/
theorem nodup_map_groupby_iff : ((groupby key l).map Prod.fst).Nodup ↔ Contiguous key l := by
  induction l with
  | nil => simp [groupby, Contiguous]
  | cons a l ih =>
      rw [map_groupby_cons, contiguous_cons]
      split
      · next hhead =>
          rw [ih, iff_self_and]
          intro hl b c hsub hkey
          obtain ⟨d, hd, hda⟩ := Option.map_eq_some_iff.1 hhead
          obtain ⟨l', rfl⟩ := List.head?_eq_some_iff.1 hd
          cases hsub with
          | cons _ hsub => exact (hl d b c (hsub.cons_cons d) (hda.trans hkey)).trans hda
          | cons_cons _ hsub => exact hda
      · next hhead =>
          rw [List.nodup_cons, ih, and_comm, and_congr_right_iff, mem_map_groupby]
          refine fun _ => ⟨fun hnone b c hsub hkey => ?_, ?_⟩
          · exact absurd ⟨c, hsub.subset (by simp), hkey.symm⟩ hnone
          · rintro hrun ⟨c, hc, hca⟩
            cases l with
            | nil => cases hc
            | cons d l =>
                have hd : key d ≠ key a := fun hda => hhead (by simp [hda])
                have hc : c ∈ l := (List.mem_cons.1 hc).resolve_left fun h => hd (h ▸ hca)
                exact hd (hrun d c ((List.singleton_sublist.2 hc).cons_cons d) hca.symm)

end Runs

variable [LinearOrder κ] {key : α → κ} {l : List α} {a : α} {k : κ}

/-! ### Sorting -/

instance total_le_key : Std.Total fun a b : α => key a ≤ key b :=
  ⟨fun a b => le_total (key a) (key b)⟩

instance isTrans_le_key : IsTrans α fun a b => key a ≤ key b := ⟨fun _ _ _ => le_trans⟩

variable (key l) in
lemma sortedBy_perm : (sortedBy key l).Perm l := List.perm_insertionSort _ l

@[simp]
lemma mem_sortedBy : a ∈ sortedBy key l ↔ a ∈ l := (sortedBy_perm key l).mem_iff

variable (key l) in
lemma pairwise_sortedBy : (sortedBy key l).Pairwise fun a b => key a ≤ key b :=
  List.pairwise_insertionSort _ l

/-- What leaves the keys does not matter for the order. -/
lemma map_sortedBy {β : Type*} {f : α → β} {key' : β → κ} (h : ∀ a, key' (f a) = key a) :
    (sortedBy key l).map f = sortedBy key' (l.map f) :=
  List.map_insertionSort _ _ f l fun a _ b _ => by rw [h, h]

/-- Three elements that increase come in this order in a sorted list. -/
lemma sublist_of_lt {l : List κ} {a b c : κ} (hl : l.Pairwise (· ≤ ·)) (ha : a ∈ l) (hb : b ∈ l)
    (hc : c ∈ l) (hab : a < b) (hbc : b < c) : [a, b, c].Sublist l := by
  refine List.sublist_of_subperm_of_pairwise (List.subperm_of_subset ?_ ?_) ?_ hl
  · simp [hab.ne, hbc.ne, (hab.trans hbc).ne]
  · simp [ha, hb, hc]
  · simp [hab.le, hbc.le, (hab.trans hbc).le]

/-- The sort is stable: the elements of one key keep their order. -/
lemma filter_sortedBy : (sortedBy key l).filter (fun a => key a = k) =
    l.filter fun a => key a = k := by
  have hsorted : (l.filter fun a => key a = k).Pairwise fun a b => key a ≤ key b := by
    refine List.pairwise_of_forall_mem_list fun a ha b hb => ?_
    have hak := of_decide_eq_true (List.mem_filter.1 ha).2
    have hbk := of_decide_eq_true (List.mem_filter.1 hb).2
    rw [hak, hbk]
  have hsub := (List.sublist_insertionSort hsorted List.filter_sublist).filter
    fun a => key a = k
  simp only [List.filter_filter, Bool.and_self] at hsub
  exact (hsub.eq_of_length ((sortedBy_perm key l).filter _).length_eq.symm).symm

/-- Elements that are told apart by their keys have one sorted order. -/
lemma sortedBy_eq_of_perm {l' : List α} (h : l'.Perm l) (hkey : (l.map key).Nodup) :
    sortedBy key l' = sortedBy key l := by
  refine List.Perm.eq_of_pairwise (fun a b ha hb hab hba => ?_) (pairwise_sortedBy key l')
    (pairwise_sortedBy key l) ((sortedBy_perm key l').trans (h.trans (sortedBy_perm key l).symm))
  exact List.inj_on_of_nodup_map hkey (h.subset (mem_sortedBy.1 ha)) (mem_sortedBy.1 hb)
    (le_antisymm hab hba)

/-! ### Groups -/

lemma distinctKeys_eq_of_perm {l' : List α} (h : l'.Perm l) :
    distinctKeys key l' = distinctKeys key l := by
  rw [distinctKeys, distinctKeys, List.toFinset_eq_of_perm _ _ (h.map key)]

@[simp]
lemma mem_distinctKeys : k ∈ distinctKeys key l ↔ ∃ a ∈ l, key a = k := by
  simp [distinctKeys]

lemma distinctKeys_sortedLT : (distinctKeys key l).SortedLT := Finset.sortedLT_sort _

lemma distinctKeys_nodup : (distinctKeys key l).Nodup := distinctKeys_sortedLT.nodup

/-- The keys of the groups are increasing if the list is sorted, and each group
consists of the elements of its key. -/
lemma groupby_of_pairwise (hl : l.Pairwise fun a b => key a ≤ key b) :
    ((groupby key l).map Prod.fst).Pairwise (· < ·) ∧
      ∀ p ∈ groupby key l, p.2 = l.filter fun a => key a = p.1 := by
  induction l with
  | nil => simp [groupby]
  | cons a l ih =>
      obtain ⟨ha, hl⟩ := List.pairwise_cons.1 hl
      obtain ⟨hkeys, hgroups⟩ := ih hl
      have hhead := key_head?_groupby key l
      have hmem : ∀ b ∈ l, key b ∈ (groupby key l).map Prod.fst := fun b hb =>
        mem_map_groupby.2 ⟨b, hb, rfl⟩
      rw [groupby]
      split
      · next hnil =>
          obtain rfl := groupby_eq_nil.1 hnil
          simp
      · next k g rest hcons =>
          rw [hcons] at hkeys hgroups hhead hmem
          obtain ⟨hrest, hkeys'⟩ := List.pairwise_cons.1 hkeys
          -- the key of the first group is that of the next element
          have hak : key a ≤ k := by
            cases l with
            | nil => simp at hhead
            | cons b l =>
                obtain rfl : k = key b := by simpa using hhead
                exact ha b (by simp)
          split
          · next heq =>
              have hother : ∀ p ∈ rest, key a ≠ p.1 := fun p hp =>
                (hak.trans_lt (hrest _ (List.mem_map_of_mem hp))).ne
              refine ⟨hkeys, fun p hp => ?_⟩
              rcases List.mem_cons.1 hp with rfl | hp
              · have hg := hgroups _ List.mem_cons_self
                simp [heq, ← hg]
              · have hg := hgroups p (List.mem_cons_of_mem _ hp)
                simpa [hother p hp] using hg
          · next hne =>
              have hlt : ∀ k' ∈ ((k, g) :: rest).map Prod.fst, key a < k' := by
                intro k' hk'
                rcases List.mem_cons.1 hk' with rfl | hk'
                · exact lt_of_le_of_ne hak hne
                · exact hak.trans_lt (hrest k' hk')
              refine ⟨List.pairwise_cons.2 ⟨hlt, hkeys⟩, fun p hp => ?_⟩
              rcases List.mem_cons.1 hp with rfl | hp
              · have hnone : ∀ b ∈ l, key b ≠ key a := fun b hb => (hlt _ (hmem b hb)).ne'
                simpa using hnone
              · have hg := hgroups p hp
                have hap := (hlt _ (List.mem_map_of_mem hp)).ne
                simpa [hap] using hg

/-- Grouping a list that is sorted by the same key: one group for each key. -/
theorem groupby_sortedBy :
    groupby key (sortedBy key l) =
      (distinctKeys key l).map fun k => (k, l.filter fun a => key a = k) := by
  obtain ⟨hkeys, hgroups⟩ := groupby_of_pairwise (pairwise_sortedBy key l)
  have hfst : (groupby key (sortedBy key l)).map Prod.fst = distinctKeys key l :=
    hkeys.eq_of_mem_iff distinctKeys_sortedLT.pairwise fun k => by
      rw [mem_map_groupby]
      simp
  rw [← hfst, List.map_map]
  conv_lhs => rw [← List.map_id (groupby key (sortedBy key l))]
  refine List.map_congr_left fun p hp => ?_
  rw [id, Function.comp_apply, ← filter_sortedBy, ← hgroups p hp]

/-- The elements of all the keys, key by key, are those of the list. -/
lemma flatMap_distinctKeys_perm :
    ((distinctKeys key l).flatMap fun k => l.filter fun a => key a = k).Perm l := by
  have h := flatMap_groupby key (sortedBy key l)
  rw [groupby_sortedBy, List.flatMap_map] at h
  exact h ▸ sortedBy_perm key l

/-- The keys of the elements with some keys. -/
lemma distinctKeys_filter {S : κ → Bool} :
    distinctKeys key (l.filter fun a => S (key a)) = (distinctKeys key l).filter S := by
  refine distinctKeys_sortedLT.pairwise.eq_of_mem_iff
    (distinctKeys_sortedLT.pairwise.filter _) fun k => ?_
  simp only [mem_distinctKeys, List.mem_filter]
  constructor
  · rintro ⟨a, ⟨ha, hS⟩, rfl⟩
    exact ⟨⟨a, ha, rfl⟩, hS⟩
  · rintro ⟨⟨a, ha, rfl⟩, hS⟩
    exact ⟨a, ⟨ha, hS⟩, rfl⟩

/-! ### First occurrences -/

section Unique

variable {α κ : Type*} [DecidableEq κ] {key : α → κ} {l : List α} {a : α}

variable (key l) in
lemma uniqueBy_sublist : (uniqueBy key l).Sublist l := by
  induction l with
  | nil => exact .slnil
  | cons b l ih => exact (List.filter_sublist.trans ih).cons_cons b

variable (key l) in
lemma nodup_map_uniqueBy : ((uniqueBy key l).map key).Nodup := by
  induction l with
  | nil => exact List.nodup_nil
  | cons b l ih =>
      rw [uniqueBy, List.map_cons, List.nodup_cons]
      refine ⟨fun hmem => ?_, ih.sublist (List.filter_sublist.map _)⟩
      obtain ⟨c, hc, hcb⟩ := List.mem_map.1 hmem
      exact of_decide_eq_true (List.mem_filter.1 hc).2 hcb

/-- An element that comes last is kept if its key is new. -/
lemma uniqueBy_concat : uniqueBy key (l ++ [a]) =
    if ∃ b ∈ l, key b = key a then uniqueBy key l else uniqueBy key l ++ [a] := by
  induction l with
  | nil => rfl
  | cons b l ih =>
      rw [List.cons_append, uniqueBy, ih]
      simp only [List.exists_mem_cons_iff]
      by_cases hl : ∃ c ∈ l, key c = key a
      · rw [if_pos hl, if_pos (Or.inr hl), uniqueBy]
      · by_cases hb : key b = key a
        · rw [if_neg hl, if_pos (Or.inl hb), uniqueBy, List.filter_append]
          simp [hb]
        · rw [if_neg hl, if_neg (by simp [hb, hl]), uniqueBy, List.filter_append]
          simp [Ne.symm hb]

/-- Every key is the key of an element that is kept. -/
lemma mem_map_uniqueBy {k : κ} : k ∈ (uniqueBy key l).map key ↔ k ∈ l.map key := by
  induction l with
  | nil => rfl
  | cons b l ih =>
      rw [uniqueBy, List.map_cons, List.map_cons, List.mem_cons, List.mem_cons, ← ih]
      by_cases hk : k = key b
      · simp [hk]
      · refine or_congr_right ?_
        simp only [List.mem_map, List.mem_filter, decide_eq_true_eq]
        constructor
        · rintro ⟨c, ⟨hc, -⟩, hck⟩
          exact ⟨c, hc, hck⟩
        · rintro ⟨c, hc, hck⟩
          exact ⟨c, ⟨hc, fun hcb => hk (hck.symm.trans hcb)⟩, hck⟩

/-- The first element of a key is the one that is kept. -/
lemma filter_uniqueBy (k : κ) : (uniqueBy key l).filter (fun a => key a = k) =
    (l.filter fun a => key a = k).head?.toList := by
  induction l with
  | nil => rfl
  | cons b l ih =>
      rw [uniqueBy]
      by_cases hb : key b = k
      · have hnone : ((uniqueBy key l).filter fun c => key c ≠ key b).filter
            (fun a => key a = k) = [] := by
          rw [List.filter_filter, List.filter_eq_nil_iff]
          intro c _
          simp [hb]
        rw [List.filter_cons_of_pos (by simpa using hb), hnone,
          List.filter_cons_of_pos (by simpa using hb)]
        rfl
      · rw [List.filter_cons_of_neg (by simpa using hb), List.filter_filter,
          List.filter_cons_of_neg (by simpa using hb), ← ih]
        refine List.filter_congr fun c _ => ?_
        by_cases hc : key c = k
        · simp [hc, Ne.symm hb]
        · simp [hc]

/-- Nothing is lost if the keys tell the elements apart. -/
lemma mem_uniqueBy (hkey : ∀ a ∈ l, ∀ b ∈ l, key a = key b → a = b) :
    a ∈ uniqueBy key l ↔ a ∈ l := by
  induction l with
  | nil => rfl
  | cons b l ih =>
      have ih := ih fun a ha c hc =>
        hkey a (List.mem_cons_of_mem b ha) c (List.mem_cons_of_mem b hc)
      rw [uniqueBy, List.mem_cons, List.mem_cons, List.mem_filter, ih, decide_eq_true_eq]
      constructor
      · exact Or.imp_right And.left
      · rintro (rfl | ha)
        · exact .inl rfl
        · by_cases hab : key a = key b
          · exact .inl (hkey a (List.mem_cons_of_mem b ha) b List.mem_cons_self hab)
          · exact .inr ⟨ha, hab⟩

end Unique

/-! ### Interleavings -/

/-- A list is an interleaving of two lists. -/
inductive Interleaving : List α → List α → List α → Prop
  | nil : Interleaving [] [] []
  | left (a : α) {l m n : List α} (h : Interleaving l m n) : Interleaving (a :: l) m (a :: n)
  | right (a : α) {l m n : List α} (h : Interleaving l m n) : Interleaving l (a :: m) (a :: n)

namespace Interleaving

variable {m n : List α} {p : α → Bool}

lemma symm (h : Interleaving l m n) : Interleaving m l n := by
  induction h with
  | nil => exact .nil
  | left a _ ih => exact .right a ih
  | right a _ ih => exact .left a ih

lemma mem_iff (h : Interleaving l m n) : a ∈ n ↔ a ∈ l ∨ a ∈ m := by
  induction h with
  | nil => simp
  | left b _ ih => simp [ih, or_assoc]
  | right b _ ih => simp [ih, or_left_comm]

/-- The elements of the first list, when a predicate tells them apart. -/
lemma filter_eq (h : Interleaving l m n) (hl : ∀ a ∈ l, p a = true)
    (hm : ∀ a ∈ m, p a = false) : n.filter p = l := by
  induction h with
  | nil => rfl
  | left a _ ih =>
      rw [List.filter_cons_of_pos (hl a (by simp)),
        ih (fun b hb => hl b (List.mem_cons_of_mem a hb)) hm]
  | right a _ ih =>
      rw [List.filter_cons_of_neg (by simp [hm a (by simp)]),
        ih hl fun b hb => hm b (List.mem_cons_of_mem a hb)]

lemma filter (h : Interleaving l m n) (p : α → Bool) :
    Interleaving (l.filter p) (m.filter p) (n.filter p) := by
  induction h with
  | nil => exact .nil
  | left a _ ih =>
      by_cases ha : p a = true
      · simpa [ha] using ih.left a
      · simpa [ha] using ih
  | right a _ ih =>
      by_cases ha : p a = true
      · simpa [ha] using ih.right a
      · simpa [ha] using ih

lemma eq_of_nil (h : Interleaving l [] n) : n = l := by
  have hfilter := h.filter_eq (p := fun _ => true) (fun _ _ => rfl) fun _ ha => by cases ha
  simpa using hfilter

/-- A filter that rejects the second list sees only the first one. -/
lemma filter_eq_filter (h : Interleaving l m n) (hm : ∀ a ∈ m, p a = false) :
    n.filter p = l.filter p := by
  have hnone : m.filter p = [] := List.filter_eq_nil_iff.2 fun a ha => by simp [hm a ha]
  exact eq_of_nil (hnone ▸ h.filter p)

end Interleaving

end Sequences
