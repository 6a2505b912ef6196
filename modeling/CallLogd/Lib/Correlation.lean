/-
Grouping of items that share keys, one item at a time.

An item is added to every group with which it shares a key, or else it starts a
new group.  The groups are the connected components of the items if and only if
no item bridges two components of the items that come before it
(`isPartition_iff_noBridge`).  Whatever the items, the first member of a group is
in no other group (`groups_pairwise_head`).
-/
import Mathlib.Data.Finset.Basic
import Mathlib.Data.List.Nodup
import Mathlib.Data.List.Pairwise
import Mathlib.Data.List.Sort
import Mathlib.Logic.Relation

namespace Correlation

variable {ι κ : Type*} (keys : ι → Finset κ)

/-- Two items share a key. -/
def Linked (a b : ι) : Prop := ∃ k ∈ keys a, k ∈ keys b

/-- A chain of items of `xs` leads from `a` to `b`, consecutive ones being linked. -/
def Connected (xs : List ι) : ι → ι → Prop :=
  Relation.ReflTransGen fun a b => a ∈ xs ∧ b ∈ xs ∧ Linked keys a b

/-- No item is linked to two items before it that are not connected already. -/
def NoBridge (xs : List ι) : Prop :=
  ∀ p x s, xs = p ++ x :: s →
    ∀ a ∈ p, ∀ b ∈ p, Linked keys x a → Linked keys x b → Connected keys p a b

/-- The groups are the connected components of the items. -/
structure IsPartition (xs : List ι) (gs : List (List ι)) : Prop where
  /-- Every item is in a group, and nothing else is. -/
  mem_iff : ∀ x, (∃ G ∈ gs, x ∈ G) ↔ x ∈ xs
  /-- No item is in two groups. -/
  disjoint : gs.Pairwise List.Disjoint
  /-- Two items are in the same group if and only if they are connected. -/
  connected_iff : ∀ G ∈ gs, ∀ a ∈ G, ∀ b, b ∈ G ↔ Connected keys xs a b

section Grouping

variable [DecidableEq κ]

instance : DecidableRel (Linked keys) := fun a b =>
  inferInstanceAs (Decidable (∃ k ∈ keys a, k ∈ keys b))

/-- An item is linked to a member of a group. -/
def Touches (x : ι) (G : List ι) : Prop := ∃ a ∈ G, Linked keys x a

instance (x : ι) (G : List ι) : Decidable (Touches keys x G) :=
  inferInstanceAs (Decidable (∃ a ∈ G, Linked keys x a))

/-- A touched group gets the item. -/
def extend (x : ι) (G : List ι) : List ι := if Touches keys x G then G ++ [x] else G

/-- Add an item to all the groups that it touches, or as a new group. -/
def addItem (gs : List (List ι)) (x : ι) : List (List ι) :=
  if ∃ G ∈ gs, Touches keys x G then gs.map (extend keys x) else gs ++ [[x]]

/-- The groups of the items, which are added from left to right. -/
def groups (xs : List ι) : List (List ι) := xs.foldl (addItem keys) []

end Grouping

variable {keys} {xs ys : List ι} {gs : List (List ι)} {G : List ι} {a b x : ι}

/-! ### Links and chains -/

lemma Linked.symm (h : Linked keys a b) : Linked keys b a := by
  obtain ⟨k, ha, hb⟩ := h
  exact ⟨k, hb, ha⟩

lemma Connected.symm (h : Connected keys xs a b) : Connected keys xs b a := by
  induction h with
  | refl => exact .refl
  | tail _ hbc ih => exact .head ⟨hbc.2.1, hbc.1, hbc.2.2.symm⟩ ih

lemma Connected.mono (hxs : ∀ x ∈ xs, x ∈ ys) (h : Connected keys xs a b) :
    Connected keys ys a b :=
  Relation.ReflTransGen.mono (fun _ _ h => ⟨hxs _ h.1, hxs _ h.2.1, h.2.2⟩) _ _ h

lemma Connected.single (ha : a ∈ xs) (hb : b ∈ xs) (h : Linked keys a b) :
    Connected keys xs a b :=
  Relation.ReflTransGen.single ⟨ha, hb, h⟩

/-- A set of items that is closed under links contains whole chains. -/
lemma Connected.mem_of_closed {S : ι → Prop} (h : Connected keys xs a b) (ha : S a)
    (hS : ∀ c d, S c → c ∈ xs → d ∈ xs → Linked keys c d → S d) : S b := by
  induction h with
  | refl => exact ha
  | tail _ hbc ih => exact hS _ _ ih hbc.1 hbc.2.1 hbc.2.2

variable [DecidableEq κ]

/-! ### One item -/

@[simp]
lemma groups_nil : groups keys ([] : List ι) = [] := rfl

lemma groups_concat : groups keys (xs ++ [x]) = addItem keys (groups keys xs) x := by
  simp [groups]

lemma mem_extend : b ∈ extend keys x G ↔ b ∈ G ∨ b = x ∧ Touches keys x G := by
  rw [extend]
  split <;> simp_all

/-- The groups that result from adding an item: the groups that were there, extended
where they are touched, and the item alone if it touches none. -/
lemma mem_addItem {H : List ι} :
    H ∈ addItem keys gs x ↔
      (∃ G ∈ gs, H = extend keys x G) ∨ H = [x] ∧ ∀ G ∈ gs, ¬ Touches keys x G := by
  rw [addItem]
  split
  · next h =>
      obtain ⟨G₀, hG₀, ht⟩ := h
      constructor
      · intro hH
        obtain ⟨G, hG, rfl⟩ := List.mem_map.1 hH
        exact .inl ⟨G, hG, rfl⟩
      · rintro (⟨G, hG, rfl⟩ | ⟨-, hno⟩)
        · exact List.mem_map_of_mem hG
        · exact absurd ht (hno G₀ hG₀)
  · next h =>
      have hno : ∀ G ∈ gs, ¬ Touches keys x G := fun G hG ht => h ⟨G, hG, ht⟩
      have hext : ∀ G ∈ gs, extend keys x G = G := fun G hG => if_neg (hno G hG)
      rw [List.mem_append, List.mem_singleton]
      constructor
      · rintro (hH | rfl)
        · exact .inl ⟨H, hH, (hext H hH).symm⟩
        · exact .inr ⟨rfl, hno⟩
      · rintro (⟨G, hG, rfl⟩ | ⟨rfl, -⟩)
        · exact .inl ((hext G hG).symm ▸ hG)
        · exact .inr rfl

/-! ### All items -/

/-- Every item is in a group, and nothing else is. -/
lemma exists_mem_groups : (∃ G ∈ groups keys xs, a ∈ G) ↔ a ∈ xs := by
  induction xs using List.reverseRecOn generalizing a with
  | nil => simp
  | append_singleton xs x ih =>
      rw [groups_concat, List.mem_append, List.mem_singleton]
      constructor
      · rintro ⟨H, hH, ha⟩
        rcases mem_addItem.1 hH with ⟨G, hG, rfl⟩ | ⟨rfl, -⟩
        · rcases mem_extend.1 ha with ha | ⟨rfl, -⟩
          · exact .inl (ih.1 ⟨G, hG, ha⟩)
          · exact .inr rfl
        · exact .inr (List.mem_singleton.1 ha)
      · rintro (ha | rfl)
        · obtain ⟨G, hG, haG⟩ := ih.2 ha
          exact ⟨_, mem_addItem.2 (.inl ⟨G, hG, rfl⟩), mem_extend.2 (.inl haG)⟩
        · by_cases h : ∃ G ∈ groups keys xs, Touches keys a G
          · obtain ⟨G, hG, ht⟩ := h
            exact ⟨_, mem_addItem.2 (.inl ⟨G, hG, rfl⟩), mem_extend.2 (.inr ⟨rfl, ht⟩)⟩
          · exact ⟨[a], mem_addItem.2 (.inr ⟨rfl, fun G hG ht => h ⟨G, hG, ht⟩⟩), by simp⟩

lemma mem_of_mem_groups (hG : G ∈ groups keys xs) (ha : a ∈ G) : a ∈ xs :=
  exists_mem_groups.1 ⟨G, hG, ha⟩

lemma groups_ne_nil (hG : G ∈ groups keys xs) : G ≠ [] := by
  induction xs using List.reverseRecOn generalizing G with
  | nil => simp at hG
  | append_singleton xs x ih =>
      rw [groups_concat] at hG
      rcases mem_addItem.1 hG with ⟨H, hH, rfl⟩ | ⟨rfl, -⟩
      · have hne := ih hH
        rw [extend]
        split <;> simp [hne]
      · simp

/-- The members of a group are in the order of the items. -/
lemma sublist_of_mem_groups (hG : G ∈ groups keys xs) : G.Sublist xs := by
  induction xs using List.reverseRecOn generalizing G with
  | nil => simp at hG
  | append_singleton xs x ih =>
      rw [groups_concat] at hG
      rcases mem_addItem.1 hG with ⟨H, hH, rfl⟩ | ⟨rfl, -⟩
      · unfold extend
        split
        · exact (ih hH).append_right [x]
        · exact (ih hH).trans (List.sublist_append_left xs [x])
      · exact List.sublist_append_right xs [x]

lemma nodup_of_mem_groups (hnd : xs.Nodup) (hG : G ∈ groups keys xs) : G.Nodup :=
  hnd.sublist (sublist_of_mem_groups hG)

/-- The members of a group are connected. -/
lemma connected_of_mem_groups (hG : G ∈ groups keys xs) (ha : a ∈ G) (hb : b ∈ G) :
    Connected keys xs a b := by
  induction xs using List.reverseRecOn generalizing G a b with
  | nil => simp at hG
  | append_singleton xs x ih =>
      have hsub : ∀ y ∈ xs, y ∈ xs ++ [x] := fun y => List.mem_append_left [x]
      rw [groups_concat] at hG
      rcases mem_addItem.1 hG with ⟨H, hH, rfl⟩ | ⟨rfl, -⟩
      · -- the new member is linked to one of the group
        have hnew : ∀ c ∈ H, Touches keys x H → Connected keys (xs ++ [x]) x c := by
          rintro c hc ⟨d, hd, hlink⟩
          have hxd : Connected keys (xs ++ [x]) x d :=
            .single (by simp) (hsub d (mem_of_mem_groups hH hd)) hlink
          exact hxd.trans ((ih hH hd hc).mono hsub)
        rcases mem_extend.1 ha with ha | ⟨hax, ht⟩ <;>
          rcases mem_extend.1 hb with hb | ⟨hbx, ht'⟩
        · exact (ih hH ha hb).mono hsub
        · exact hbx ▸ (hnew a ha ht').symm
        · exact hax ▸ hnew b hb ht
        · exact hax.trans hbx.symm ▸ .refl
      · rw [List.mem_singleton] at ha hb
        subst ha hb
        exact .refl

/-- Two groups of `addItem` are disjoint if the groups were, and were not both
touched. -/
lemma pairwise_addItem (hx : ∀ G ∈ gs, x ∉ G) :
    (addItem keys gs x).Pairwise List.Disjoint ↔
      gs.Pairwise fun G H => List.Disjoint G H ∧ ¬ (Touches keys x G ∧ Touches keys x H) := by
  rw [addItem]
  split
  · -- the new item is in two groups exactly if it touches both
    rw [List.pairwise_map]
    refine List.Pairwise.iff_of_mem fun {G H} hG hH => ⟨fun h => ⟨?_, ?_⟩, ?_⟩
    · exact fun c hc hc' => h (mem_extend.2 (.inl hc)) (mem_extend.2 (.inl hc'))
    · rintro ⟨htG, htH⟩
      exact h (mem_extend.2 (.inr ⟨rfl, htG⟩)) (mem_extend.2 (.inr ⟨rfl, htH⟩))
    · rintro ⟨hd, ht⟩ c hc hc'
      rcases mem_extend.1 hc with hc | ⟨rfl, htG⟩ <;>
        rcases mem_extend.1 hc' with hc' | ⟨hcx, htH⟩
      · exact hd hc hc'
      · exact hx G hG (hcx ▸ hc)
      · exact hx H hH hc'
      · exact ht ⟨htG, htH⟩
  · next h =>
      have hno : ∀ G ∈ gs, ¬ Touches keys x G := fun G hG ht => h ⟨G, hG, ht⟩
      have hnew : ∀ G ∈ gs, List.Disjoint G [x] := fun G hG =>
        List.disjoint_singleton.2 (hx G hG)
      rw [List.pairwise_append]
      constructor
      · rintro ⟨hgs, -⟩
        exact hgs.imp_of_mem fun hG _ hd => ⟨hd, fun ht => hno _ hG ht.1⟩
      · intro hgs
        exact ⟨hgs.imp And.left, List.pairwise_singleton _ _, by simpa using hx⟩

omit [DecidableEq κ] in
lemma eq_of_touches {H : List ι}
    (hpw : gs.Pairwise fun G H => ¬ (Touches keys x G ∧ Touches keys x H)) (hG : G ∈ gs)
    (hH : H ∈ gs) (htG : Touches keys x G) (htH : Touches keys x H) : G = H := by
  have : Std.Symm fun G H : List ι => ¬ (Touches keys x G ∧ Touches keys x H) :=
    ⟨fun _ _ h h' => h h'.symm⟩
  by_contra hne
  exact hpw.forall hG hH hne ⟨htG, htH⟩

/-- Disjoint groups are closed under links. -/
lemma mem_of_linked (hnd : xs.Nodup) (hd : (groups keys xs).Pairwise List.Disjoint)
    (hG : G ∈ groups keys xs) (ha : a ∈ G) (hb : b ∈ xs) (hab : Linked keys a b) : b ∈ G := by
  induction xs using List.reverseRecOn generalizing G a b with
  | nil => simp at hG
  | append_singleton xs x ih =>
      obtain ⟨hx, hnd⟩ := (List.nodup_concat xs x).1 (List.concat_eq_append ▸ hnd)
      have hxG : ∀ G ∈ groups keys xs, x ∉ G := fun G hG hxG => hx (mem_of_mem_groups hG hxG)
      rw [groups_concat] at hG hd
      have hd' := (pairwise_addItem hxG).1 hd
      -- at most one group is touched
      have huniq := fun H hH H' hH' => eq_of_touches (hd'.imp And.right) (G := H) (H := H') hH hH'
      rw [List.mem_append, List.mem_singleton] at hb
      rcases mem_addItem.1 hG with ⟨H, hH, rfl⟩ | ⟨rfl, hno⟩
      · rw [mem_extend] at ha ⊢
        rcases ha with ha | ⟨rfl, ht⟩ <;> rcases hb with hb | rfl
        · exact .inl (ih hnd (hd'.imp And.left) hH ha hb hab)
        · exact .inr ⟨rfl, a, ha, hab.symm⟩
        · obtain ⟨H', hH', hbH'⟩ : ∃ H ∈ groups keys xs, b ∈ H := exists_mem_groups.2 hb
          exact .inl (huniq H hH H' hH' ht ⟨b, hbH', hab⟩ ▸ hbH')
        · exact .inr ⟨rfl, ht⟩
      · rw [List.mem_singleton] at ha ⊢
        subst ha
        refine hb.resolve_left fun hb => ?_
        obtain ⟨H, hH, hbH⟩ : ∃ H ∈ groups keys xs, b ∈ H := exists_mem_groups.2 hb
        exact hno H hH ⟨b, hbH, hab⟩

/-- Disjoint groups are the connected components. -/
lemma isPartition_of_disjoint (hnd : xs.Nodup)
    (hd : (groups keys xs).Pairwise List.Disjoint) : IsPartition keys xs (groups keys xs) where
  mem_iff _ := exists_mem_groups
  disjoint := hd
  connected_iff G hG a ha b := by
    constructor
    · exact connected_of_mem_groups hG ha
    · intro hab
      exact hab.mem_of_closed (S := (· ∈ G)) ha fun c d hc _ hd' hcd =>
        mem_of_linked hnd hd hG hc hd' hcd

/-- The components contain each item once. -/
lemma IsPartition.flatten_perm (h : IsPartition keys xs (groups keys xs)) (hnd : xs.Nodup) :
    (groups keys xs).flatten.Perm xs := by
  have hflat : (groups keys xs).flatten.Nodup :=
    List.nodup_flatten.2 ⟨fun G hG => nodup_of_mem_groups hnd hG, h.disjoint⟩
  refine (List.perm_ext_iff_of_nodup hflat hnd).2 fun a => ?_
  rw [List.mem_flatten]
  exact h.mem_iff a

/-! ### Bridges -/

omit [DecidableEq κ] in
lemma noBridge_concat :
    NoBridge keys (xs ++ [x]) ↔ NoBridge keys xs ∧
      ∀ a ∈ xs, ∀ b ∈ xs, Linked keys x a → Linked keys x b → Connected keys xs a b := by
  constructor
  · intro h
    refine ⟨fun p y s hxs => h p y (s ++ [x]) (by simp [hxs]), h xs x [] rfl⟩
  · rintro ⟨h, hx⟩ p y s hxs
    -- either `x` is the item in question, or that one is among the earlier items
    rcases s.eq_nil_or_concat with rfl | ⟨s, z, rfl⟩
    · obtain ⟨rfl, hyx⟩ := List.append_inj' hxs rfl
      obtain rfl : x = y := by simpa using hyx
      exact hx
    · rw [List.concat_eq_append, ← List.cons_append, ← List.append_assoc] at hxs
      exact h p y s (List.append_inj' hxs rfl).1

/-- The groups are disjoint if and only if no item is a bridge. -/
lemma pairwise_disjoint_iff_noBridge (hnd : xs.Nodup) :
    (groups keys xs).Pairwise List.Disjoint ↔ NoBridge keys xs := by
  induction xs using List.reverseRecOn with
  | nil => simp [NoBridge]
  | append_singleton xs x ih =>
      obtain ⟨hx, hnd⟩ := (List.nodup_concat xs x).1 (List.concat_eq_append ▸ hnd)
      have hxG : ∀ G ∈ groups keys xs, x ∉ G := fun G hG hxG => hx (mem_of_mem_groups hG hxG)
      rw [groups_concat, pairwise_addItem hxG, List.pairwise_and_iff, ih hnd, noBridge_concat]
      refine and_congr_right fun hno => ?_
      -- the groups so far are the components of the earlier items
      have hpart := isPartition_of_disjoint hnd ((ih hnd).2 hno)
      constructor
      · intro hpw a ha b hb hxa hxb
        obtain ⟨G, hG, haG⟩ : ∃ G ∈ groups keys xs, a ∈ G := exists_mem_groups.2 ha
        obtain ⟨H, hH, hbH⟩ : ∃ H ∈ groups keys xs, b ∈ H := exists_mem_groups.2 hb
        obtain rfl : G = H := eq_of_touches hpw hG hH ⟨a, haG, hxa⟩ ⟨b, hbH, hxb⟩
        exact connected_of_mem_groups hG haG hbH
      · intro hconn
        refine hpart.disjoint.imp_of_mem fun {G H} hG hH hGH => ?_
        rintro ⟨⟨a, haG, hxa⟩, b, hbH, hxb⟩
        have hab := hconn a (mem_of_mem_groups hG haG) b (mem_of_mem_groups hH hbH) hxa hxb
        exact hGH ((hpart.connected_iff G hG a haG b).2 hab) hbH

/-- The groups are the connected components if and only if no item is a bridge. -/
theorem isPartition_iff_noBridge (hnd : xs.Nodup) :
    IsPartition keys xs (groups keys xs) ↔ NoBridge keys xs :=
  ⟨fun h => (pairwise_disjoint_iff_noBridge hnd).1 h.disjoint,
    fun h => isPartition_of_disjoint hnd ((pairwise_disjoint_iff_noBridge hnd).2 h)⟩

omit [DecidableEq κ] in
/-- For items in increasing order, the items before `x` are the smaller ones. -/
lemma noBridge_iff_of_sortedLT [LinearOrder ι] (hxs : xs.SortedLT) :
    NoBridge keys xs ↔
      ∀ x ∈ xs, ∀ a ∈ xs, ∀ b ∈ xs, a < x → b < x → Linked keys x a → Linked keys x b →
        Connected keys (xs.filter (· < x)) a b := by
  have hsplit : ∀ p x s, xs = p ++ x :: s → xs.filter (· < x) = p := by
    rintro p x s rfl
    obtain ⟨-, hs, hp⟩ := List.pairwise_append.1 hxs.pairwise
    have hps : p.filter (· < x) = p :=
      List.filter_eq_self.2 fun a ha => decide_eq_true (hp a ha x (by simp))
    have hss : s.filter (· < x) = [] := List.filter_eq_nil_iff.2 fun a ha => by
      simpa using ((List.pairwise_cons.1 hs).1 a ha).le
    simp [List.filter_append, hps, hss]
  constructor
  · intro h x hx a ha b hb hax hbx
    obtain ⟨p, s, hps⟩ := List.append_of_mem hx
    have hfilter := hsplit p x s hps
    have hmem : ∀ c ∈ xs, c < x → c ∈ p := fun c hc hcx =>
      hfilter ▸ List.mem_filter.2 ⟨hc, decide_eq_true hcx⟩
    rw [hfilter]
    exact h p x s hps a (hmem a ha hax) b (hmem b hb hbx)
  · intro h p x s hps a ha b hb
    have hfilter := hsplit p x s hps
    have hlt : ∀ c ∈ p, c ∈ xs ∧ c < x := fun c hc => by
      have := List.mem_filter.1 (hfilter ▸ hc : c ∈ xs.filter (· < x))
      exact ⟨this.1, of_decide_eq_true this.2⟩
    have hconn := h x (hps ▸ by simp) a (hlt a ha).1 b (hlt b hb).1 (hlt a ha).2 (hlt b hb).2
    rwa [hfilter] at hconn

/-! ### The first members of the groups -/

lemma head?_extend (hG : G ≠ []) : (extend keys x G).head? = G.head? := by
  rw [extend]
  split
  · exact List.head?_append_of_ne_nil _ hG
  · rfl

/-- The first member of a group is in no other group. -/
theorem groups_pairwise_head (hnd : xs.Nodup) :
    (groups keys xs).Pairwise fun G H =>
      (∀ a ∈ G.head?, a ∉ H) ∧ ∀ b ∈ H.head?, b ∉ G := by
  induction xs using List.reverseRecOn with
  | nil => simp
  | append_singleton xs x ih =>
      obtain ⟨hx, hnd⟩ := (List.nodup_concat xs x).1 (List.concat_eq_append ▸ hnd)
      have hxG : ∀ G ∈ groups keys xs, x ∉ G := fun G hG hxG => hx (mem_of_mem_groups hG hxG)
      -- the first member of an old group is not the new item
      have hhead : ∀ G ∈ groups keys xs, ∀ H ∈ groups keys xs, (∀ a ∈ G.head?, a ∉ H) →
          ∀ a ∈ (extend keys x G).head?, a ∉ extend keys x H := by
        intro G hG H hH hGH a ha haH
        rw [head?_extend (groups_ne_nil hG)] at ha
        rcases mem_extend.1 haH with haH | ⟨rfl, -⟩
        · exact hGH a ha haH
        · exact hxG G hG (List.mem_of_mem_head? ha)
      rw [groups_concat, addItem]
      split
      · rw [List.pairwise_map]
        exact (ih hnd).imp_of_mem fun {G H} hG hH h =>
          ⟨hhead G hG H hH h.1, hhead H hH G hG h.2⟩
      · refine List.pairwise_append.2 ⟨ih hnd, List.pairwise_singleton _ _, ?_⟩
        intro G hG H hH
        rw [List.mem_singleton] at hH
        subst hH
        refine ⟨fun a ha hax => hxG G hG ?_, fun b hb => ?_⟩
        · rw [List.mem_singleton] at hax
          exact hax ▸ List.mem_of_mem_head? ha
        · obtain rfl : x = b := by simpa using hb
          exact hxG G hG

/-! ### Unrelated items -/

/-- The groups depend on the keys of the items only. -/
lemma groups_congr {keys' : ι → Finset κ} (h : ∀ x ∈ xs, keys x = keys' x) :
    groups keys xs = groups keys' xs := by
  induction xs using List.reverseRecOn with
  | nil => rfl
  | append_singleton xs x ih =>
      have hx : keys x = keys' x := h x (by simp)
      have ih := ih fun y hy => h y (List.mem_append_left [x] hy)
      have htouch : ∀ G ∈ groups keys xs, (Touches keys x G ↔ Touches keys' x G) := by
        intro G hG
        have hkeys : ∀ a ∈ G, keys a = keys' a := fun a ha =>
          h a (List.mem_append_left [x] (mem_of_mem_groups hG ha))
        unfold Touches Linked
        refine exists_congr fun a => and_congr_right fun ha => ?_
        rw [hx, hkeys a ha]
      rw [groups_concat, groups_concat, ← ih]
      unfold addItem
      by_cases hG : ∃ G ∈ groups keys xs, Touches keys x G
      · have hG' : ∃ G ∈ groups keys xs, Touches keys' x G := by
          obtain ⟨G, hG, ht⟩ := hG
          exact ⟨G, hG, (htouch G hG).1 ht⟩
        rw [if_pos hG, if_pos hG']
        exact List.map_congr_left fun G hG => if_congr (htouch G hG) rfl rfl
      · have hG' : ¬ ∃ G ∈ groups keys xs, Touches keys' x G := by
          rintro ⟨G, hG', ht⟩
          exact hG ⟨G, hG', (htouch G hG').2 ht⟩
        rw [if_neg hG, if_neg hG']

section Kinds

variable {S : ι → Bool}

/-- A group that is extended is of the kind of the new item. -/
lemma any_extend (hx : ∀ a ∈ G, Linked keys x a → S a = S x) :
    (extend keys x G).any S = G.any S := by
  rw [extend]
  split
  · next ht =>
      obtain ⟨a, ha, hlink⟩ := ht
      have hax := hx a ha hlink
      rw [List.any_append, List.any_cons, List.any_nil, Bool.or_false]
      cases hSx : S x with
      | false => exact Bool.or_false _
      | true => simpa using ⟨a, ha, hax.trans hSx⟩
  · rfl

/-- A group with members of another kind than the new item is not extended. -/
lemma extend_of_any (hS : ∀ a ∈ G, ∀ b ∈ G, S a = S b)
    (hx : ∀ a ∈ G, Linked keys x a → S a = S x) (hany : G.any S = true) (hSx : S x = false) :
    extend keys x G = G := by
  obtain ⟨b, hb, hSb⟩ := List.any_eq_true.1 hany
  refine if_neg ?_
  rintro ⟨a, ha, hlink⟩
  have hba := (hS b hb a ha).trans ((hx a ha hlink).trans hSx)
  rw [hSb] at hba
  contradiction

/-- Adding an item does not depend on the groups whose members are of another kind. -/
lemma filter_addItem (hS : ∀ G ∈ gs, ∀ a ∈ G, ∀ b ∈ G, S a = S b)
    (hx : ∀ G ∈ gs, ∀ a ∈ G, Linked keys x a → S a = S x) :
    (addItem keys gs x).filter (·.any S) =
      if S x then addItem keys (gs.filter (·.any S)) x else gs.filter (·.any S) := by
  have hmap : (gs.map (extend keys x)).filter (·.any S) =
      (gs.filter (·.any S)).map (extend keys x) := by
    rw [List.filter_map]
    exact congrArg _ (List.filter_congr fun G hG => any_extend (hx G hG))
  cases hSx : S x with
  | false =>
      have hid : ∀ G ∈ gs.filter (·.any S), extend keys x G = G := by
        intro G hG
        obtain ⟨hG, hany⟩ := List.mem_filter.1 hG
        exact extend_of_any (hS G hG) (hx G hG) hany hSx
      rw [addItem]
      split
      · rw [hmap, List.map_congr_left hid, List.map_id']
        simp
      · simp [List.filter_append, hSx]
  | true =>
      have htouch : (∃ G ∈ gs.filter (·.any S), Touches keys x G) ↔
          ∃ G ∈ gs, Touches keys x G := by
        constructor
        · rintro ⟨G, hG, ht⟩
          exact ⟨G, (List.mem_filter.1 hG).1, ht⟩
        · rintro ⟨G, hG, a, ha, hlink⟩
          have hany : G.any S = true :=
            List.any_eq_true.2 ⟨a, ha, (hx G hG a ha hlink).trans hSx⟩
          exact ⟨G, List.mem_filter.2 ⟨hG, hany⟩, a, ha, hlink⟩
      unfold addItem
      rw [if_pos rfl]
      by_cases h : ∃ G ∈ gs, Touches keys x G
      · rw [if_pos h, if_pos (htouch.2 h), hmap]
      · rw [if_neg h, if_neg (htouch.not.2 h), List.filter_append]
        simp [hSx]

end Kinds

/-- The groups of one kind of items, if the links never lead to another kind. -/
theorem groups_filter {S : ι → Bool}
    (hS : ∀ a ∈ xs, ∀ b ∈ xs, Linked keys a b → S a = S b) :
    groups keys (xs.filter S) = (groups keys xs).filter (·.any S) := by
  induction xs using List.reverseRecOn with
  | nil => rfl
  | append_singleton xs x ih =>
      have hsub : ∀ y ∈ xs, y ∈ xs ++ [x] := fun y => List.mem_append_left [x]
      have hS' : ∀ a ∈ xs, ∀ b ∈ xs, Linked keys a b → S a = S b := fun a ha b hb =>
        hS a (hsub a ha) b (hsub b hb)
      rw [groups_concat, filter_addItem, ← ih hS', List.filter_append]
      · cases hSx : S x with
        | false => simp [hSx]
        | true => simp [hSx, groups_concat]
      · -- the members of a group are connected, so they are of one kind
        intro G hG a ha b hb
        exact (connected_of_mem_groups hG ha hb).mem_of_closed (S := fun c => S a = S c) rfl
          fun c d hac hc hd hcd => hac.trans (hS' c hc d hd hcd)
      · intro G hG a ha hlink
        exact (hS x (by simp) a (hsub a (mem_of_mem_groups hG ha)) hlink).symm

end Correlation
