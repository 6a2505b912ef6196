/-
What `_group_cels_by_shared_channels` computes.

The linkedids of the CELs are grouped as items whose keys are their channels.
The groups are the correlated CELs, transitively, as long as no linkedid bridges
two groups of smaller linkedids; such a linkedid is put in both.
-/
import Mathlib.Data.Finset.Union
import CallLogd.Lib.Correlation
import CallLogd.Generator

namespace CallLogd

open Sequences Correlation
open scoped List

/-! ### Correlated linkedids -/

/-- Two linkedids have CELs with the same uniqueid. -/
def ShareUniqueid (cels : List CEL) (a b : String) : Prop :=
  ∃ c ∈ cels, ∃ d ∈ cels, c.linkedid = a ∧ d.linkedid = b ∧ c.uniqueid = d.uniqueid

instance (cels : List CEL) : DecidableRel (ShareUniqueid cels) := fun a b =>
  inferInstanceAs (Decidable (∃ c ∈ cels, ∃ d ∈ cels,
    c.linkedid = a ∧ d.linkedid = b ∧ c.uniqueid = d.uniqueid))

/-- A finite chain of linkedids leads from `a` to `b`, consecutive ones sharing a
uniqueid. -/
def LinkedidsConnected (cels : List CEL) : String → String → Prop :=
  Relation.ReflTransGen (ShareUniqueid cels)

/-- The groups are the classes of CELs with connected linkedids. -/
structure IsCorrelationPartition (cels : List CEL) (groups : List (Finset String × List CEL)) :
    Prop where
  /-- No CEL is lost or duplicated. -/
  perm : (groups.flatMap Prod.snd).Perm cels
  /-- No CEL is in two groups. -/
  disjoint : groups.Pairwise fun g h => List.Disjoint g.2 h.2
  /-- Two CELs are in the same group if and only if their linkedids are connected. -/
  mem_iff : ∀ g ∈ groups, ∀ c ∈ g.2, ∀ d ∈ cels,
    d ∈ g.2 ↔ LinkedidsConnected cels c.linkedid d.linkedid
  /-- The groups are sorted by time. -/
  sorted : ∀ g ∈ groups, g.2.Pairwise fun c d => c.eventtime ≤ d.eventtime

/-- Two linkedids that share a uniqueid with the same later one are connected by
a chain of earlier ones. -/
def NoBridgingLinkedid (cels : List CEL) : Prop :=
  ∀ l a b, a < l → b < l → ShareUniqueid cels l a → ShareUniqueid cels l b →
    LinkedidsConnected (cels.filter fun cel => cel.linkedid < l) a b

/-! ### The grouping of the linkedids -/

/-- The linkedids of the CELs, in increasing order. -/
def linkedidsOf (cels : List CEL) : List String := distinctKeys (·.linkedid) cels

/-- The CELs of a linkedid. -/
def celsOfLinkedid (cels : List CEL) (linkedid : String) : List CEL :=
  cels.filter fun cel => cel.linkedid = linkedid

/-- The channels of a linkedid. -/
def channelsOf (cels : List CEL) (linkedid : String) : Finset String :=
  uniqueidsOf (celsOfLinkedid cels linkedid)

/-- The linkedids of the groups, in the order in which they were added. -/
def linkedidGroups (cels : List CEL) : List (List String) :=
  groups (channelsOf cels) (linkedidsOf cels)

/-- The correlation group of some linkedids. -/
def CorrelationGroup.ofLinkedids (cels : List CEL) (linkedids : List String) :
    CorrelationGroup where
  uniqueids := linkedids.toFinset.biUnion (channelsOf cels)
  linkedids := linkedids.toFinset
  cels := linkedids.flatMap (celsOfLinkedid cels)

/-- The group that is yielded for some linkedids. -/
def groupOfLinkedids (cels : List CEL) (linkedids : List String) : Finset String × List CEL :=
  (linkedids.toFinset, sortedBy (·.eventtime) (linkedids.flatMap (celsOfLinkedid cels)))

variable {cels : List CEL} {l a b : String} {G : List String} {c : CEL}

lemma mem_linkedidsOf : l ∈ linkedidsOf cels ↔ ∃ c ∈ cels, c.linkedid = l := mem_distinctKeys

lemma linkedidsOf_sortedLT : (linkedidsOf cels).SortedLT := distinctKeys_sortedLT

lemma linkedidsOf_nodup : (linkedidsOf cels).Nodup := distinctKeys_nodup

@[simp]
lemma mem_celsOfLinkedid : c ∈ celsOfLinkedid cels l ↔ c ∈ cels ∧ c.linkedid = l := by
  simp [celsOfLinkedid]

@[simp]
lemma mem_channelsOf {u : String} :
    u ∈ channelsOf cels l ↔ ∃ c ∈ cels, c.linkedid = l ∧ c.uniqueid = u := by
  simp [channelsOf, uniqueidsOf, and_assoc]

lemma linkedidSequences_eq :
    linkedidSequences cels = (linkedidsOf cels).map fun l => (l, celsOfLinkedid cels l) :=
  groupby_sortedBy

lemma linked_iff_shareUniqueid : Linked (channelsOf cels) a b ↔ ShareUniqueid cels a b := by
  simp only [Linked, mem_channelsOf, ShareUniqueid]
  constructor
  · rintro ⟨u, ⟨c, hc, hca, rfl⟩, d, hd, hdb, hdc⟩
    exact ⟨c, hc, d, hd, hca, hdb, hdc.symm⟩
  · rintro ⟨c, hc, d, hd, hca, hdb, hcd⟩
    exact ⟨c.uniqueid, ⟨c, hc, hca, rfl⟩, d, hd, hdb, hcd.symm⟩

lemma ShareUniqueid.mem_linkedidsOf (h : ShareUniqueid cels a b) :
    a ∈ linkedidsOf cels ∧ b ∈ linkedidsOf cels := by
  obtain ⟨c, hc, d, hd, rfl, rfl, -⟩ := h
  exact ⟨CallLogd.mem_linkedidsOf.2 ⟨c, hc, rfl⟩, CallLogd.mem_linkedidsOf.2 ⟨d, hd, rfl⟩⟩

/-- A set of linkedids that is closed under shared uniqueids contains whole chains. -/
lemma LinkedidsConnected.mem_of_closed {S : String → Prop} (h : LinkedidsConnected cels a b)
    (ha : S a) (hS : ∀ c d, S c → ShareUniqueid cels c d → S d) : S b := by
  induction h with
  | refl => exact ha
  | tail _ hbc ih => exact hS _ _ ih hbc

lemma connected_iff_linkedidsConnected :
    Connected (channelsOf cels) (linkedidsOf cels) a b ↔ LinkedidsConnected cels a b := by
  have h : (fun a b => a ∈ linkedidsOf cels ∧ b ∈ linkedidsOf cels ∧
      Linked (channelsOf cels) a b) = ShareUniqueid cels := by
    ext a b
    rw [linked_iff_shareUniqueid]
    exact ⟨fun h => h.2.2, fun h => ⟨h.mem_linkedidsOf.1, h.mem_linkedidsOf.2, h⟩⟩
  rw [Connected, h, LinkedidsConnected]

/-- Chains of the linkedids before `l` are chains of their CELs. -/
lemma connected_lt_iff :
    Connected (channelsOf cels) ((linkedidsOf cels).filter (· < l)) a b ↔
      LinkedidsConnected (cels.filter fun cel => cel.linkedid < l) a b := by
  have h : (fun a b => a ∈ (linkedidsOf cels).filter (· < l) ∧
      b ∈ (linkedidsOf cels).filter (· < l) ∧ Linked (channelsOf cels) a b) =
      ShareUniqueid (cels.filter fun cel => cel.linkedid < l) := by
    ext a b
    rw [linked_iff_shareUniqueid]
    simp only [List.mem_filter, decide_eq_true_eq, ShareUniqueid]
    constructor
    · rintro ⟨⟨-, hal⟩, ⟨-, hbl⟩, c, hc, d, hd, rfl, rfl, hcd⟩
      exact ⟨c, ⟨hc, hal⟩, d, ⟨hd, hbl⟩, rfl, rfl, hcd⟩
    · rintro ⟨c, ⟨hc, hcl⟩, d, ⟨hd, hdl⟩, rfl, rfl, hcd⟩
      exact ⟨⟨mem_linkedidsOf.2 ⟨c, hc, rfl⟩, hcl⟩, ⟨mem_linkedidsOf.2 ⟨d, hd, rfl⟩, hdl⟩,
        c, hc, d, hd, rfl, rfl, hcd⟩
  rw [Connected, h, LinkedidsConnected]

lemma noBridge_iff_noBridgingLinkedid :
    NoBridge (channelsOf cels) (linkedidsOf cels) ↔ NoBridgingLinkedid cels := by
  rw [noBridge_iff_of_sortedLT linkedidsOf_sortedLT]
  simp only [linked_iff_shareUniqueid, NoBridgingLinkedid]
  constructor
  · intro h l a b hal hbl hla hlb
    exact connected_lt_iff.1
      (h l hla.mem_linkedidsOf.1 a hla.mem_linkedidsOf.2 b hlb.mem_linkedidsOf.2 hal hbl hla hlb)
  · intro h l _ a _ b _ hal hbl hla hlb
    exact connected_lt_iff.2 (h l a b hal hbl hla hlb)

/-! ### The grouping of the CELs -/

@[simp]
lemma CorrelationGroup.mem_cels_ofLinkedids :
    c ∈ (CorrelationGroup.ofLinkedids cels G).cels ↔ c ∈ cels ∧ c.linkedid ∈ G := by
  simp [CorrelationGroup.ofLinkedids, and_comm]

/-- A group shares a channel with a linkedid if and only if one of its linkedids does. -/
lemma CorrelationGroup.sharesChannel_ofLinkedids :
    (CorrelationGroup.ofLinkedids cels G).sharesChannel (channelsOf cels l) = true ↔
      Touches (channelsOf cels) l G := by
  simp only [CorrelationGroup.sharesChannel, CorrelationGroup.ofLinkedids, decide_eq_true_eq,
    ← Finset.nonempty_iff_ne_empty, Finset.Nonempty, Finset.mem_inter, Finset.mem_biUnion,
    List.mem_toFinset, Touches, Linked]
  constructor
  · rintro ⟨u, hu, a, ha, hua⟩
    exact ⟨a, ha, u, hu, hua⟩
  · rintro ⟨a, ha, u, hu, hua⟩
    exact ⟨u, hu, a, ha, hua⟩

/-- A sequence is added to a group as its linkedid is to the linkedids. -/
lemma CorrelationGroup.extend_ofLinkedids :
    (CorrelationGroup.ofLinkedids cels G).extend (channelsOf cels l) l (celsOfLinkedid cels l) =
      CorrelationGroup.ofLinkedids cels (G ++ [l]) := by
  have hset : insert l G.toFinset = (G ++ [l]).toFinset := by
    rw [List.toFinset_append, List.toFinset_cons, List.toFinset_nil, insert_empty_eq,
      Finset.union_comm, Finset.insert_eq]
  simp only [CorrelationGroup.extend, CorrelationGroup.ofLinkedids, hset, List.flatMap_append,
    List.flatMap_singleton, CorrelationGroup.mk.injEq, and_true]
  rw [← hset, Finset.biUnion_insert, Finset.union_comm]

lemma CorrelationGroup.ofLinkedids_singleton :
    CorrelationGroup.ofLinkedids cels [l] = ⟨channelsOf cels l, {l}, celsOfLinkedid cels l⟩ := by
  simp [CorrelationGroup.ofLinkedids]

/-- Adding a sequence of CELs to the groups is adding its linkedid. -/
lemma correlateSequence_ofLinkedids (gs : List (List String)) :
    correlateSequence (gs.map (CorrelationGroup.ofLinkedids cels)) (l, celsOfLinkedid cels l) =
      (addItem (channelsOf cels) gs l).map (CorrelationGroup.ofLinkedids cels) := by
  have hany : ((gs.map (CorrelationGroup.ofLinkedids cels)).any
      (·.sharesChannel (channelsOf cels l)) = true) ↔
        ∃ G ∈ gs, Touches (channelsOf cels) l G := by
    simp only [List.any_map, List.any_eq_true, Function.comp_apply,
      CorrelationGroup.sharesChannel_ofLinkedids]
  rw [correlateSequence, addItem, ← channelsOf]
  by_cases h : ∃ G ∈ gs, Touches (channelsOf cels) l G
  · rw [if_pos (hany.2 h), if_pos h, List.map_map, List.map_map]
    refine List.map_congr_left fun G _ => ?_
    simp only [Function.comp_apply, CorrelationGroup.sharesChannel_ofLinkedids,
      Correlation.extend, CorrelationGroup.extend_ofLinkedids]
    split <;> rfl
  · rw [if_neg (hany.not.2 h), if_neg h, List.map_append, List.map_singleton,
      CorrelationGroup.ofLinkedids_singleton]

/-- The correlation groups are those of the linkedids. -/
lemma correlationGroups_eq :
    correlationGroups cels = (linkedidGroups cels).map (CorrelationGroup.ofLinkedids cels) := by
  rw [correlationGroups, linkedidSequences_eq, linkedidGroups, groups]
  induction linkedidsOf cels using List.reverseRecOn with
  | nil => rfl
  | append_singleton ls l ih =>
      simp only [List.map_append, List.foldl_append, ih, List.map_singleton, List.foldl_cons,
        List.foldl_nil, correlateSequence_ofLinkedids]

/-- The groups that are yielded, one for each group of linkedids. -/
lemma groupCelsBySharedChannels_eq :
    groupCelsBySharedChannels cels = (linkedidGroups cels).map (groupOfLinkedids cels) := by
  rw [groupCelsBySharedChannels, correlationGroups_eq, List.map_map]
  rfl

lemma groupOfLinkedids_perm : (groupOfLinkedids cels G).2 ~ G.flatMap (celsOfLinkedid cels) :=
  sortedBy_perm _ _

lemma mem_groupOfLinkedids : c ∈ (groupOfLinkedids cels G).2 ↔ c ∈ cels ∧ c.linkedid ∈ G := by
  simp [groupOfLinkedids, and_comm]

lemma mem_of_mem_groupCelsBySharedChannels {group : Finset String × List CEL}
    (hgroup : group ∈ groupCelsBySharedChannels cels) (hc : c ∈ group.2) : c ∈ cels := by
  rw [groupCelsBySharedChannels_eq] at hgroup
  obtain ⟨G, -, rfl⟩ := List.mem_map.1 hgroup
  exact (mem_groupOfLinkedids.1 hc).1

/-- Two groups share a CEL if and only if they share a linkedid. -/
lemma disjoint_groupOfLinkedids {H : List String} (hG : ∀ l ∈ G, l ∈ linkedidsOf cels) :
    List.Disjoint (groupOfLinkedids cels G).2 (groupOfLinkedids cels H).2 ↔
      List.Disjoint G H := by
  constructor
  · intro h l hlG hlH
    obtain ⟨c, hc, rfl⟩ := mem_linkedidsOf.1 (hG l hlG)
    exact h (mem_groupOfLinkedids.2 ⟨hc, hlG⟩) (mem_groupOfLinkedids.2 ⟨hc, hlH⟩)
  · intro h c hcG hcH
    exact h (mem_groupOfLinkedids.1 hcG).2 (mem_groupOfLinkedids.1 hcH).2

/-- The groups are the classes of correlated CELs if and only if the groups of
linkedids are their connected components. -/
lemma isCorrelationPartition_iff_isPartition :
    IsCorrelationPartition cels (groupCelsBySharedChannels cels) ↔
      IsPartition (channelsOf cels) (linkedidsOf cels) (linkedidGroups cels) := by
  have hmem : ∀ G ∈ linkedidGroups cels, ∀ l ∈ G, l ∈ linkedidsOf cels := fun G hG l hl =>
    mem_of_mem_groups hG hl
  have hdisj : ((groupCelsBySharedChannels cels).Pairwise fun g h => List.Disjoint g.2 h.2) ↔
      (linkedidGroups cels).Pairwise List.Disjoint := by
    rw [groupCelsBySharedChannels_eq, List.pairwise_map]
    exact List.Pairwise.iff_of_mem fun hG _ => disjoint_groupOfLinkedids (hmem _ hG)
  constructor
  · intro h
    exact isPartition_of_disjoint linkedidsOf_nodup (hdisj.1 h.disjoint)
  · intro h
    refine ⟨?_, hdisj.2 h.disjoint, ?_, ?_⟩
    · -- the sorts and the order of the groups only permute the CELs
      rw [groupCelsBySharedChannels_eq, List.flatMap_map]
      calc (linkedidGroups cels).flatMap fun G => (groupOfLinkedids cels G).2
        _ ~ (linkedidGroups cels).flatMap fun G => G.flatMap (celsOfLinkedid cels) :=
            List.Perm.flatMap_left _ fun G _ => groupOfLinkedids_perm
        _ = (linkedidGroups cels).flatten.flatMap (celsOfLinkedid cels) := by
            rw [← List.flatMap_id, List.flatMap_assoc]
            rfl
        _ ~ (linkedidsOf cels).flatMap (celsOfLinkedid cels) :=
            (h.flatten_perm linkedidsOf_nodup).flatMap_right _
        _ ~ cels := flatMap_distinctKeys_perm
    · intro g hg c hc d hd
      rw [groupCelsBySharedChannels_eq] at hg
      obtain ⟨G, hG, rfl⟩ := List.mem_map.1 hg
      have hcG := (mem_groupOfLinkedids.1 hc).2
      rw [mem_groupOfLinkedids, h.connected_iff G hG _ hcG, connected_iff_linkedidsConnected]
      exact and_iff_right hd
    · intro g hg
      rw [groupCelsBySharedChannels_eq] at hg
      obtain ⟨G, -, rfl⟩ := List.mem_map.1 hg
      exact pairwise_sortedBy _ _

/-- The groups are the classes of CELs with connected linkedids if and only if no
linkedid bridges two chains of smaller ones. -/
theorem groupCelsBySharedChannels_isCorrelationPartition_iff (cels : List CEL) :
    IsCorrelationPartition cels (groupCelsBySharedChannels cels) ↔ NoBridgingLinkedid cels := by
  rw [isCorrelationPartition_iff_isPartition, ← noBridge_iff_noBridgingLinkedid]
  exact isPartition_iff_noBridge linkedidsOf_nodup

/-- The linkedid `1.3` shares a channel with `1.1` and another one with `1.2`. -/
def bridgedCels : List CEL :=
  [{ id := 1, eventtype := .chanStart, eventtime := 0, uniqueid := "1.1", linkedid := "1.1" },
   { id := 2, eventtype := .chanStart, eventtime := 1, uniqueid := "1.2", linkedid := "1.2" },
   { id := 3, eventtype := .bridgeEnter, eventtime := 2, uniqueid := "1.1", linkedid := "1.3" },
   { id := 4, eventtype := .bridgeEnter, eventtime := 3, uniqueid := "1.2", linkedid := "1.3" }]

/-- The CELs of the bridging linkedid are in both groups. -/
theorem bridgedCels_not_isCorrelationPartition :
    ¬ IsCorrelationPartition bridgedCels (groupCelsBySharedChannels bridgedCels) := by
  intro h
  -- the two CELs of the bridging linkedid are counted twice
  have hlen : ((groupCelsBySharedChannels bridgedCels).flatMap Prod.snd).length = 6 := by
    decide +kernel
  rw [h.perm.length_eq] at hlen
  exact absurd hlen (by decide)

end CallLogd
