/-
The removal of files, which can be refused.

A file that is missing is passed over, and the first refusal stops the removal: what is
left is known from the files that come before it (`removeAll_eq`).
-/
import Mathlib.Data.Finset.Basic
import Mathlib.Data.List.TakeWhile

namespace Files

/-- How the removal of a file fails. -/
inductive OSError where
  | permissionError
  | fileNotFoundError
deriving DecidableEq, Repr

variable {π : Type*} [DecidableEq π]

/-- `os.remove`, for the files that exist and those whose removal is refused. -/
def remove (refused : Finset π) (path : π) (files : Finset π) : Except OSError (Finset π) :=
  if path ∈ refused then .error .permissionError
  else if path ∈ files then .ok (files.erase path)
  else .error .fileNotFoundError

/-- Remove files one after the other, up to the first refusal. -/
def removeAll (refused : Finset π) : List π → Finset π → Except OSError Unit × Finset π
  | [], files => (.ok (), files)
  | path :: paths, files =>
      match remove refused path files with
      | .ok files => removeAll refused paths files
      | .error .fileNotFoundError => removeAll refused paths files
      | .error .permissionError => (.error .permissionError, files)

variable {refused files : Finset π} {path : π} {paths : List π}

/-- A removal that is not refused leaves the other files. -/
lemma removeAll_cons_of_notMem (h : path ∉ refused) :
    removeAll refused (path :: paths) files = removeAll refused paths (files.erase path) := by
  rw [removeAll, remove, if_neg h]
  by_cases hmem : path ∈ files
  · rw [if_pos hmem]
  · rw [if_neg hmem, Finset.erase_eq_of_notMem hmem]

lemma removeAll_cons_of_mem (h : path ∈ refused) :
    removeAll refused (path :: paths) files = (.error .permissionError, files) := by
  rw [removeAll, remove, if_pos h]

/-- What a removal returns, and the files that it leaves. -/
lemma removeAll_eq : removeAll refused paths files =
    (if ∃ path ∈ paths, path ∈ refused then .error .permissionError else .ok (),
      files \ (paths.takeWhile (· ∉ refused)).toFinset) := by
  induction paths generalizing files with
  | nil => simp [removeAll]
  | cons path paths ih =>
      by_cases h : path ∈ refused
      · simp [removeAll_cons_of_mem h, h]
      · rw [removeAll_cons_of_notMem h, ih]
        have herase : ∀ removed, files.erase path \ removed = files \ insert path removed := by
          intro removed
          ext file
          simp only [Finset.mem_sdiff, Finset.mem_erase, Finset.mem_insert, not_or]
          tauto
        simp [h, herase]

/-- A removal succeeds exactly if nothing is refused. -/
lemma removeAll_fst_eq_ok_iff :
    (removeAll refused paths files).1 = .ok () ↔ ∀ path ∈ paths, path ∉ refused := by
  rw [removeAll_eq]
  split
  · next h =>
      obtain ⟨path, hmem, hrefused⟩ := h
      exact ⟨nofun, fun hall => absurd hrefused (hall path hmem)⟩
  · next h => exact ⟨fun _ path hmem hrefused => h ⟨path, hmem, hrefused⟩, fun _ => rfl⟩

/-- Then all the files are gone, and only those. -/
lemma removeAll_of_ok (h : ∀ path ∈ paths, path ∉ refused) :
    removeAll refused paths files = (.ok (), files \ paths.toFinset) := by
  have htake : paths.takeWhile (· ∉ refused) = paths :=
    List.takeWhile_eq_self_iff.2 fun path hmem => by simpa using h path hmem
  rw [removeAll_eq, htake, if_neg]
  rintro ⟨path, hmem, hrefused⟩
  exact h path hmem hrefused

variable (refused paths files) in
/-- Whatever happens, only files of the list are removed. -/
lemma removeAll_snd : ∃ removed ⊆ paths.toFinset,
    (removeAll refused paths files).2 = files \ removed := by
  rw [removeAll_eq]
  refine ⟨_, fun path hmem => ?_, rfl⟩
  rw [List.mem_toFinset] at hmem ⊢
  exact (List.takeWhile_sublist _).subset hmem

end Files
