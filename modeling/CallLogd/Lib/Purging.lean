/-
Purges: for one group of rows after the other, the files of the rows are removed, and
then the rows forget them.

However a purge ends, the rows of some groups were forgotten, whose files are all gone,
and only files of the purged rows were removed (`exists_run_eq`).  Hence purging again
does the same as purging once (`run_empty_of_partial`).

Several purges of the same tables do not depend on their order, if what one of them
forgets costs the others only files that it removes itself (`runAll_perm`).
-/
import Mathlib.Data.Finset.Lattice.Lemmas
import CallLogd.Lib.Files

open Files

/-- A purge of tables `σ` whose rows are in groups `κ` and have files `π`. -/
structure Purge (κ σ π : Type*) where
  /-- The files of the rows of a group that are purged. -/
  paths : κ → σ → List π
  /-- These rows are deleted, or forget their files. -/
  forget : κ → σ → σ

namespace Purge

variable {κ σ π : Type*}

/-- A purge with `p'` makes an earlier purge with `p` superfluous: it has all the files of
`p`, and finds the others whether or not `p` has forgotten its rows. -/
structure Absorbs (p' p : Purge κ σ π) : Prop where
  paths_subset : ∀ k s, p.paths k s ⊆ p'.paths k s
  paths_forget_subset : ∀ k s, p'.paths k (p.forget k s) ⊆ p'.paths k s
  mem_paths_forget_of_ne : ∀ k k' s path, k ≠ k' →
    (path ∈ p'.paths k (p.forget k' s) ↔ path ∈ p'.paths k s)
  mem_paths : ∀ k s path, path ∈ p'.paths k s →
    path ∈ p.paths k s ∨ path ∈ p'.paths k (p.forget k s)
  forget_forget : ∀ k s, p'.forget k (p.forget k s) = p'.forget k s
  forget_comm : ∀ k k' s, p.forget k (p'.forget k' s) = p'.forget k' (p.forget k s)

/-- The rows of a group are forgotten as such, and the groups are independent. -/
structure Lawful (p : Purge κ σ π) : Prop extends Absorbs p p where
  notMem_paths_forget_self : ∀ k s path, path ∉ p.paths k (p.forget k s)

variable (p : Purge κ σ π)

/-- The rows of all the groups are forgotten. -/
def forgetAll (ks : List κ) (s : σ) : σ := ks.foldl (fun s k => p.forget k s) s

@[simp]
lemma forgetAll_nil {s : σ} : p.forgetAll [] s = s := rfl

@[simp]
lemma forgetAll_cons {ks : List κ} {k : κ} {s : σ} :
    p.forgetAll (k :: ks) s = p.forgetAll ks (p.forget k s) := rfl

variable [DecidableEq π] (refused : Finset π)

/-- Purge one group after the other, up to the first refusal. -/
def run : List κ → σ → Finset π → Except OSError Unit × σ × Finset π
  | [], s, files => (.ok (), s, files)
  | k :: ks, s, files =>
      match removeAll refused (p.paths k s) files with
      | (.ok (), files) => run ks (p.forget k s) files
      | (.error e, files) => (.error e, s, files)

/-- The files of all the groups. -/
def allPaths (ks : List κ) (s : σ) : Finset π := (ks.flatMap (p.paths · s)).toFinset

variable {p refused} {p' : Purge κ σ π} {ks done : List κ} {k : κ} {s : σ} {files : Finset π}

@[simp]
lemma allPaths_nil : p.allPaths [] s = ∅ := rfl

lemma allPaths_cons : p.allPaths (k :: ks) s = (p.paths k s).toFinset ∪ p.allPaths ks s := by
  rw [allPaths, List.flatMap_cons, List.toFinset_append, allPaths]

lemma mem_allPaths {path : π} : path ∈ p.allPaths ks s ↔ ∃ k ∈ ks, path ∈ p.paths k s := by
  rw [allPaths, List.mem_toFinset, List.mem_flatMap]

namespace Lawful

variable (h : p.Lawful)

include h

/-- Another group keeps its files. -/
lemma allPaths_forget (hk : k ∉ ks) : p.allPaths ks (p.forget k s) = p.allPaths ks s := by
  ext path
  rw [mem_allPaths, mem_allPaths]
  refine exists_congr fun k' => and_congr_right fun hk' => h.mem_paths_forget_of_ne _ _ _ _ ?_
  rintro rfl
  exact hk hk'

variable (refused s files) in
/-- However a purge ends, it has forgotten the rows of some groups, the files of these
groups are gone, and only files of the purge are. -/
lemma exists_run_eq (hks : ks.Nodup) : ∃ done removed, done ⊆ ks ∧
    p.allPaths done s ⊆ removed ∧ removed ⊆ p.allPaths ks s ∧
    (p.run refused ks s files).2 = (p.forgetAll done s, files \ removed) ∧
    ((p.run refused ks s files).1 = .ok () → done = ks) := by
  induction ks generalizing s files with
  | nil => exact ⟨[], ∅, by simp, by simp, by simp, by simp [run], fun _ => rfl⟩
  | cons k ks ih =>
      obtain ⟨hk, hks⟩ := List.nodup_cons.1 hks
      rw [run]
      split
      · next files' hremove =>
          -- all the files of the group are gone
          obtain ⟨done, removed, hdone, hlower, hupper, hrun, hok⟩ :=
            @ih (p.forget k s) files' hks
          have hkdone : k ∉ done := fun hmem => hk (hdone hmem)
          rw [h.allPaths_forget hkdone] at hlower
          rw [h.allPaths_forget hk] at hupper
          have hfiles : files' = files \ (p.paths k s).toFinset := by
            have hrefused : ∀ path ∈ p.paths k s, path ∉ refused :=
              removeAll_fst_eq_ok_iff.1 (congrArg Prod.fst hremove)
            rw [removeAll_of_ok hrefused] at hremove
            exact (congrArg Prod.snd hremove).symm
          refine ⟨k :: done, (p.paths k s).toFinset ∪ removed, List.cons_subset_cons k hdone,
            ?_, ?_, ?_, fun heq => by rw [hok heq]⟩
          · rw [allPaths_cons]
            exact Finset.union_subset_union_right hlower
          · rw [allPaths_cons]
            exact Finset.union_subset_union_right hupper
          · rw [hrun, hfiles, sdiff_sdiff_left]
            rfl
      · next e files' hremove =>
          obtain ⟨removed, hremoved, hfiles⟩ := removeAll_snd refused files (p.paths k s)
          rw [hremove] at hfiles
          refine ⟨[], removed, List.nil_subset _, by simp, ?_, ?_, nofun⟩
          · rw [allPaths_cons]
            exact hremoved.trans Finset.subset_union_left
          · rw [forgetAll_nil, ← hfiles]

/-- A purge that completes has forgotten all the rows and removed all their files, and
nothing else. -/
lemma run_of_ok (hks : ks.Nodup) (hok : (p.run refused ks s files).1 = .ok ()) :
    (p.run refused ks s files).2 = (p.forgetAll ks s, files \ p.allPaths ks s) := by
  obtain ⟨done, removed, -, hlower, hupper, hrun, hdone⟩ := h.exists_run_eq refused s files hks
  obtain rfl := hdone hok
  rw [hrun, Finset.Subset.antisymm hupper hlower]

omit h in
/-- A purge without refusals completes. -/
lemma run_empty_fst : (p.run ∅ ks s files).1 = .ok () := by
  induction ks generalizing s files with
  | nil => rfl
  | cons k ks ih =>
      rw [run, removeAll_of_ok fun path _ => Finset.notMem_empty path]
      exact ih

/-- What a purge without refusals returns. -/
lemma run_empty (hks : ks.Nodup) :
    p.run ∅ ks s files = (.ok (), p.forgetAll ks s, files \ p.allPaths ks s) :=
  Prod.ext run_empty_fst (h.run_of_ok hks run_empty_fst)

end Lawful

namespace Absorbs

variable (h : Absorbs p' p)

include h

omit [DecidableEq π] in
lemma forgetAll_forget (hk : k ∈ ks) : p'.forgetAll ks (p.forget k s) = p'.forgetAll ks s := by
  induction ks generalizing s with
  | nil => cases hk
  | cons k' ks ih =>
      rw [forgetAll_cons, forgetAll_cons]
      by_cases hkk' : k = k'
      · subst hkk'
        rw [h.forget_forget]
      · have hmem : k ∈ ks := (List.mem_cons.1 hk).resolve_left hkk'
        rw [← h.forget_comm, ih hmem]

omit [DecidableEq π] in
/-- What was forgotten before makes no difference. -/
lemma forgetAll_forgetAll (hsub : done ⊆ ks) :
    p'.forgetAll ks (p.forgetAll done s) = p'.forgetAll ks s := by
  induction done generalizing s with
  | nil => rfl
  | cons k done ih =>
      have hk : k ∈ ks := hsub List.mem_cons_self
      rw [forgetAll_cons, ih (List.cons_subset.1 hsub).2, h.forgetAll_forget hk]

omit [DecidableEq π] in
lemma paths_forgetAll_subset : p'.paths k (p.forgetAll done s) ⊆ p'.paths k s := by
  induction done generalizing s with
  | nil => exact List.Subset.refl _
  | cons k' done ih =>
      have hforget : p'.paths k (p.forget k' s) ⊆ p'.paths k s := by
        by_cases hkk' : k = k'
        · subst hkk'
          exact h.paths_forget_subset k s
        · exact fun path hpath => (h.mem_paths_forget_of_ne _ _ _ _ hkk').1 hpath
      exact List.Subset.trans ih hforget

variable (done) in
omit [DecidableEq π] in
/-- A file of a group that is forgotten is one of the earlier purge, or still found. -/
lemma mem_paths_forgetAll (hp : p.Lawful) {path : π} (hpath : path ∈ p'.paths k s) :
    (k ∈ done ∧ path ∈ p.paths k s) ∨ path ∈ p'.paths k (p.forgetAll done s) := by
  induction done generalizing s with
  | nil => exact .inr hpath
  | cons k' done ih =>
      rw [forgetAll_cons]
      by_cases hkk' : k = k'
      · subst hkk'
        rcases h.mem_paths k s path hpath with hmem | hmem
        · exact .inl ⟨List.mem_cons_self, hmem⟩
        · rcases ih hmem with ⟨-, hmem⟩ | hmem
          · exact absurd hmem (hp.notMem_paths_forget_self _ _ _)
          · exact .inr hmem
      · rw [← h.mem_paths_forget_of_ne _ _ _ _ hkk'] at hpath
        rcases ih hpath with ⟨hdone, hmem⟩ | hmem
        · rw [hp.mem_paths_forget_of_ne _ _ _ _ hkk'] at hmem
          exact .inl ⟨List.mem_cons_of_mem _ hdone, hmem⟩
        · exact .inr hmem

variable (files done) in
/-- Purging with `p'` what a purge with `p` has left, with the rows that it forgot or with
all of them, does what `p'` would have done alone. -/
lemma run_empty_of_partial (hp : p.Lawful) (hp' : p'.Lawful) {removed : Finset π}
    (hks : ks.Nodup) (hdone : done ⊆ ks) (hlower : p.allPaths done s ⊆ removed)
    (hupper : removed ⊆ p.allPaths ks s) :
    p'.run ∅ ks (p.forgetAll done s) (files \ removed) = p'.run ∅ ks s files := by
  rw [hp'.run_empty hks, hp'.run_empty hks, h.forgetAll_forgetAll hdone, sdiff_sdiff_left]
  -- the files of the groups that were forgotten are among those that were removed
  have hfiles : removed ∪ p'.allPaths ks (p.forgetAll done s) = p'.allPaths ks s := by
    ext path
    rw [Finset.mem_union, mem_allPaths, mem_allPaths]
    constructor
    · rintro (hremoved | ⟨k, hk, hmem⟩)
      · obtain ⟨k, hk, hmem⟩ := mem_allPaths.1 (hupper hremoved)
        exact ⟨k, hk, h.paths_subset k s hmem⟩
      · exact ⟨k, hk, h.paths_forgetAll_subset hmem⟩
    · rintro ⟨k, hk, hmem⟩
      rcases h.mem_paths_forgetAll done hp hmem with ⟨hkdone, hmem⟩ | hmem
      · exact .inl (hlower (mem_allPaths.2 ⟨k, hkdone, hmem⟩))
      · exact .inr ⟨k, hk, hmem⟩
  exact congrArg (fun removed => (Except.ok (), p'.forgetAll ks s, files \ removed)) hfiles

end Absorbs

/-! ### Several purges -/

/-- What `p` forgets costs `q` only files that `p` removes. -/
structure Independent (p q : Purge κ σ π) : Prop where
  forget_comm : ∀ k k' s, p.forget k (q.forget k' s) = q.forget k' (p.forget k s)
  paths_forget_subset : ∀ k k' s, q.paths k (p.forget k' s) ⊆ q.paths k s
  mem_paths : ∀ k k' s path, path ∈ q.paths k s →
    path ∈ p.paths k' s ∨ path ∈ q.paths k (p.forget k' s)

/-- Lawful purges that are independent of each other. -/
structure Compatible (ps : List (Purge κ σ π)) : Prop where
  lawful : ∀ p ∈ ps, p.Lawful
  independent : ∀ p ∈ ps, ∀ q ∈ ps, p.Independent q

variable (refused) in
/-- One purge after the other, up to the first refusal. -/
def runAll (ks : List κ) :
    List (Purge κ σ π) → σ → Finset π → Except OSError Unit × σ × Finset π
  | [], s, files => (.ok (), s, files)
  | p :: ps, s, files =>
      match p.run refused ks s files with
      | (.ok (), s, files) => runAll ks ps s files
      | (.error e, s, files) => (.error e, s, files)

/-- A lawful purge completes exactly if none of its files is refused. -/
lemma Lawful.run_fst_eq_ok_iff (h : p.Lawful) (hks : ks.Nodup) :
    (p.run refused ks s files).1 = .ok () ↔ ∀ path ∈ p.allPaths ks s, path ∉ refused := by
  induction ks generalizing s files with
  | nil => simp [run]
  | cons k ks ih =>
      obtain ⟨hk, hks⟩ := List.nodup_cons.1 hks
      have hcons : (∀ path ∈ p.allPaths (k :: ks) s, path ∉ refused) ↔
          (∀ path ∈ p.paths k s, path ∉ refused) ∧
            ∀ path ∈ p.allPaths ks (p.forget k s), path ∉ refused := by
        simp only [allPaths_cons, h.allPaths_forget hk, Finset.mem_union, List.mem_toFinset,
          or_imp, forall_and]
      rw [hcons, run]
      split
      · next files' hremove =>
          rw [ih hks]
          exact (and_iff_right (removeAll_fst_eq_ok_iff.1 (congrArg Prod.fst hremove))).symm
      · next e files' hremove =>
          refine ⟨nofun, fun hrefused => ?_⟩
          have hok : (removeAll refused (p.paths k s) files).1 = .ok () :=
            removeAll_fst_eq_ok_iff.2 hrefused.1
          rw [hremove] at hok
          cases hok

namespace Independent

variable {q : Purge κ σ π} {ks' : List κ} {path : π} (h : p.Independent q)

include h

omit [DecidableEq π] in
lemma forgetAll_comm : p.forgetAll ks (q.forgetAll ks' s) = q.forgetAll ks' (p.forgetAll ks s) := by
  have hforget : ∀ k s, p.forget k (q.forgetAll ks' s) = q.forgetAll ks' (p.forget k s) := by
    intro k s
    induction ks' generalizing s with
    | nil => rfl
    | cons k' ks' ih => rw [forgetAll_cons, forgetAll_cons, ih, h.forget_comm]
  induction ks generalizing s with
  | nil => rfl
  | cons k ks ih => rw [forgetAll_cons, forgetAll_cons, hforget, ih]

omit [DecidableEq π] in
lemma paths_forgetAll_subset : q.paths k (p.forgetAll ks s) ⊆ q.paths k s := by
  induction ks generalizing s with
  | nil => exact List.Subset.refl _
  | cons k' ks ih => exact List.Subset.trans ih (h.paths_forget_subset k k' s)

/-- A file of `q` is one that `p` removes, or `q` still finds it. -/
lemma mem_paths_forgetAll (hp : p.Lawful) (hks : ks.Nodup) (hpath : path ∈ q.paths k s) :
    path ∈ p.allPaths ks s ∨ path ∈ q.paths k (p.forgetAll ks s) := by
  induction ks generalizing s with
  | nil => exact .inr hpath
  | cons k' ks ih =>
      obtain ⟨hk', hks⟩ := List.nodup_cons.1 hks
      rw [allPaths_cons, Finset.mem_union, List.mem_toFinset, forgetAll_cons,
        ← hp.allPaths_forget hk']
      rcases h.mem_paths k k' s path hpath with hmem | hmem
      · exact .inl (.inl hmem)
      · exact (ih hks hmem).imp_left .inr

/-- After `p`, the files of `q` are its files that `p` has not removed. -/
lemma mem_allPaths_or_iff (hp : p.Lawful) (hks : ks.Nodup) :
    path ∈ p.allPaths ks s ∨ path ∈ q.allPaths ks' (p.forgetAll ks s) ↔
      path ∈ p.allPaths ks s ∨ path ∈ q.allPaths ks' s := by
  rw [mem_allPaths (p := q), mem_allPaths (p := q)]
  constructor
  · rintro (hmem | ⟨k, hk, hmem⟩)
    · exact .inl hmem
    · exact .inr ⟨k, hk, h.paths_forgetAll_subset hmem⟩
  · rintro (hmem | ⟨k, hk, hmem⟩)
    · exact .inl hmem
    · exact (h.mem_paths_forgetAll hp hks hmem).imp_right fun hmem => ⟨k, hk, hmem⟩

end Independent

section RunAll

variable {ps ps' : List (Purge κ σ π)} {s' : σ} {files' : Finset π}

/-- Compatible purges complete exactly if none of their files is refused: then they have
forgotten all their rows and removed all the files of these, as they were at first. -/
theorem runAll_eq_ok_iff (h : Compatible ps) (hks : ks.Nodup) :
    runAll refused ks ps s files = (.ok (), s', files') ↔
      (∀ p ∈ ps, ∀ path ∈ p.allPaths ks s, path ∉ refused) ∧
      s' = ps.foldl (fun s p => p.forgetAll ks s) s ∧
      files' = files.filter fun path => ∀ p ∈ ps, path ∉ p.allPaths ks s := by
  induction ps generalizing s files with
  | nil => simp [runAll, eq_comm]
  | cons p ps ih =>
      have hp := h.lawful p List.mem_cons_self
      have hps : Compatible ps :=
        ⟨fun q hq => h.lawful q (List.mem_cons_of_mem _ hq), fun q hq r hr =>
          h.independent q (List.mem_cons_of_mem _ hq) r (List.mem_cons_of_mem _ hr)⟩
      have hunion : ∀ q ∈ ps, ∀ path, path ∈ p.allPaths ks s ∨
          path ∈ q.allPaths ks (p.forgetAll ks s) ↔
            path ∈ p.allPaths ks s ∨ path ∈ q.allPaths ks s := fun q hq path =>
        (h.independent p List.mem_cons_self q (List.mem_cons_of_mem _ hq)).mem_allPaths_or_iff
          hp hks
      have hfst : (p.run refused ks s files).1 = .ok () ↔
          ∀ path ∈ p.allPaths ks s, path ∉ refused := hp.run_fst_eq_ok_iff hks
      rw [runAll, List.forall_mem_cons, List.foldl_cons]
      split
      · next s₁ files₁ hrun =>
          have hok : (p.run refused ks s files).1 = .ok () := congrArg Prod.fst hrun
          obtain ⟨rfl, rfl⟩ := Prod.mk.inj
            ((congrArg Prod.snd hrun).symm.trans (hp.run_of_ok hks hok))
          have hrefused := hfst.1 hok
          rw [ih hps, and_iff_right hrefused]
          -- what `p` removes is neither refused nor left
          refine and_congr ?_ (and_congr_right fun _ => ?_)
          · refine forall₂_congr fun q hq => ?_
            constructor
            · intro hq' path hmem
              exact ((hunion q hq path).2 (.inr hmem)).elim (hrefused path) (hq' path)
            · intro hq' path hmem
              exact ((hunion q hq path).1 (.inr hmem)).elim (hrefused path) (hq' path)
          · refine Eq.congr_right ?_
            ext path
            simp only [Finset.mem_filter, Finset.mem_sdiff, List.forall_mem_cons, and_assoc]
            refine and_congr_right fun _ => and_congr_right fun hnot => ?_
            refine forall₂_congr fun q hq => not_congr ?_
            simpa only [hnot, false_or] using hunion q hq path
      · next e s₁ files₁ hrun =>
          refine ⟨nofun, fun hrefused => ?_⟩
          have hok := hfst.2 hrefused.1.1
          rw [hrun] at hok
          cases hok

/-- The order of compatible purges makes no difference. -/
theorem runAll_perm (h : Compatible ps) (hks : ks.Nodup) (hperm : ps.Perm ps') :
    runAll refused ks ps s files = (.ok (), s', files') ↔
      runAll refused ks ps' s files = (.ok (), s', files') := by
  have h' : Compatible ps' :=
    ⟨fun p hp => h.lawful p (hperm.mem_iff.2 hp), fun p hp q hq =>
      h.independent p (hperm.mem_iff.2 hp) q (hperm.mem_iff.2 hq)⟩
  have hforget : ps.foldl (fun s p => p.forgetAll ks s) s =
      ps'.foldl (fun s p => p.forgetAll ks s) s :=
    hperm.foldl_eq' (fun p hp q hq s => (h.independent q hq p hp).forgetAll_comm) s
  rw [runAll_eq_ok_iff h hks, runAll_eq_ok_iff h' hks, hforget]
  simp only [hperm.mem_iff]

end RunAll

end Purge
