/-
Maps in which the last write to a key wins.

A history of writes determines the map alone: what is at a key is what the last write
to that key put there (`run_apply`).  Where the writes depend on the states of a run, a
value has a property in the end if each write without it is overwritten
(`run_value_iff`).
-/
import Mathlib.Data.List.Induction
import CallLogd.Lib.Results
import Mathlib.Logic.Function.Basic

namespace LastWrite

inductive Write (κ ν : Type*) where
  | put (key : κ) (value : ν)
  | erase (key : κ)

namespace Write

variable {κ ν : Type*}

def key : Write κ ν → κ
  | put k _ | erase k => k

/-- What a write leaves at its key. -/
def value? : Write κ ν → Option ν
  | put _ v => some v
  | erase _ => none

end Write

variable {κ ν : Type*} [DecidableEq κ]

def apply (m : κ → Option ν) (w : Write κ ν) : κ → Option ν := Function.update m w.key w.value?

def run (m : κ → Option ν) (ws : List (Write κ ν)) : κ → Option ν := ws.foldl apply m

/-- The last write to a key. -/
def lastWrite (ws : List (Write κ ν)) (k : κ) : Option (Write κ ν) :=
  (ws.filter fun w => w.key = k).getLast?

variable {m : κ → Option ν} {ws ws' : List (Write κ ν)} {w : Write κ ν} {k : κ}

lemma run_append : run m (ws ++ ws') = run (run m ws) ws' := List.foldl_append

lemma run_concat : run m (ws ++ [w]) = apply (run m ws) w := by
  simp [run]

lemma lastWrite_concat :
    lastWrite (ws ++ [w]) k = if w.key = k then some w else lastWrite ws k := by
  unfold lastWrite
  by_cases h : w.key = k <;> simp [h, List.filter_append]

theorem run_apply (m : κ → Option ν) (ws : List (Write κ ν)) (k : κ) :
    run m ws k = (lastWrite ws k).elim (m k) Write.value? := by
  induction ws using List.reverseRecOn with
  | nil => rfl
  | append_singleton ws w ih =>
    rw [run_concat, lastWrite_concat, apply]
    by_cases h : w.key = k
    · subst h
      simp
    · rw [Function.update_of_ne (Ne.symm h), ih, if_neg h]

/-! ### Runs -/

section Run

open Results

variable {ε σ α : Type} {step : σ → α → Except ε σ} {get : σ → ν} {written : α → σ → Option ν}
  {s s' : σ} {l : List α} {P : ν → Prop}

/-- A later event of the run writes the value. -/
def Overwritten (step : σ → α → Except ε σ) (written : α → σ → Option ν) (s : σ) (done : List α)
    (a : α) (rest : List α) : Prop :=
  ∃ done' a' rest' t, rest = done' ++ a' :: rest' ∧
    (done ++ a :: done').foldlM step s = .ok t ∧ (written a' t).isSome

/-- The last event of a list, or an earlier one. -/
lemma append_singleton_eq_iff {done rest : List α} {a b : α} :
    l ++ [b] = done ++ a :: rest ↔
      (rest = [] ∧ l = done ∧ b = a) ∨ ∃ rest', rest = rest' ++ [b] ∧ l = done ++ a :: rest' := by
  rcases List.eq_nil_or_concat rest with rfl | ⟨rest', c, rfl⟩
  · simp
  · rw [List.concat_eq_append]
    constructor
    · intro h
      have hsplit : l ++ [b] = (done ++ a :: rest') ++ [c] := by simpa using h
      obtain ⟨hl, hb⟩ := List.append_inj' hsplit rfl
      exact .inr ⟨rest', by rw [hb], hl⟩
    · rintro (⟨hnil, -⟩ | ⟨rest'', hrest, rfl⟩)
      · simp at hnil
      · simp [hrest]

omit [DecidableEq κ] in
lemma not_overwritten_nil {done : List α} {a : α} : ¬Overwritten step written s done a [] := by
  rintro ⟨done', a', rest', t, hnil, -⟩
  simp at hnil

omit [DecidableEq κ] in
/-- A further event is one more that may write the value. -/
lemma overwritten_concat_iff {done rest : List α} {a b : α} {t : σ}
    (ht : (done ++ a :: rest).foldlM step s = .ok t) :
    Overwritten step written s done a (rest ++ [b]) ↔
      Overwritten step written s done a rest ∨ (written b t).isSome := by
  constructor
  · rintro ⟨done', a', rest', u, hrest, hu, hsome⟩
    rcases append_singleton_eq_iff.1 hrest with ⟨-, rfl, rfl⟩ | ⟨rest'', -, hrest⟩
    · obtain rfl := Except.ok.inj (hu.symm.trans ht)
      exact .inr hsome
    · exact .inl ⟨done', a', rest'', u, hrest, hu, hsome⟩
  · rintro (⟨done', a', rest', u, rfl, hu, hsome⟩ | hsome)
    · exact ⟨done', a', rest' ++ [b], u, by simp, hu, hsome⟩
    · exact ⟨rest, b, [], t, rfl, ht, hsome⟩

omit [DecidableEq κ] in
variable (step get written P) in
/-- The value has a property in the end if, and only if, each write of a value without it is
overwritten. -/
theorem run_value_iff
    (hstep : ∀ s a s', step s a = .ok s' → get s' = (written a s).getD (get s))
    (hs : P (get s)) (hrun : l.foldlM step s = .ok s') :
    P (get s') ↔ ∀ done a rest t, l = done ++ a :: rest → done.foldlM step s = .ok t →
      ∀ v ∈ written a t, P v ∨ Overwritten step written s done a rest := by
  induction l using List.reverseRecOn generalizing s' with
  | nil =>
    obtain rfl := Except.ok.inj hrun
    simp [hs]
  | append_singleton l b ih =>
    rw [List.foldlM_append] at hrun
    obtain ⟨t, ht, hrun⟩ := exists_of_bind_eq_ok hrun
    rw [List.foldlM_cons] at hrun
    obtain ⟨t', hb, hrun⟩ := exists_of_bind_eq_ok hrun
    obtain rfl := Except.ok.inj hrun
    have hlast : ∀ {u : σ}, l.foldlM step s = .ok u → u = t :=
      fun hu => Except.ok.inj (hu.symm.trans ht)
    rw [hstep t b t' hb]
    cases hwritten : written b t with
    | some v =>
      -- the last event decides, whatever was written before
      have hsome : (written b t).isSome := Option.isSome_of_eq_some hwritten
      rw [Option.getD_some]
      constructor
      · intro hv done a rest u hsplit hu w hw
        rcases append_singleton_eq_iff.1 hsplit with ⟨-, rfl, rfl⟩ | ⟨rest', rfl, rfl⟩
        · obtain rfl := hlast hu
          obtain rfl := Option.some.inj (hwritten.symm.trans hw)
          exact .inl hv
        · exact .inr ((overwritten_concat_iff ht).2 (.inr hsome))
      · intro h
        exact (h l b [] t rfl ht v hwritten).resolve_right not_overwritten_nil
    | none =>
      -- the last event writes nothing
      have hnone : ¬(written b t).isSome := by simp [hwritten]
      rw [Option.getD_none, ih ht]
      constructor
      · intro h done a rest u hsplit hu w hw
        rcases append_singleton_eq_iff.1 hsplit with ⟨-, rfl, rfl⟩ | ⟨rest', rfl, rfl⟩
        · obtain rfl := hlast hu
          exact absurd (Option.isSome_of_eq_some hw) hnone
        · refine (h done a rest' u rfl hu w hw).imp_right fun hlater => ?_
          exact (overwritten_concat_iff ht).2 (.inl hlater)
      · intro h done a rest u hsplit hu w hw
        have hsplit' : l ++ [b] = done ++ a :: (rest ++ [b]) := by simp [hsplit]
        refine (h done a (rest ++ [b]) u hsplit' hu w hw).imp_right fun hlater => ?_
        exact ((overwritten_concat_iff (hsplit ▸ ht)).1 hlater).resolve_right hnone

end Run

end LastWrite
