/-
Programs that run transactions against a store.

A transaction commits what its body did, or fails and leaves the store as it was.
A program stops at its first failure; what it committed before stays.
-/
import Mathlib.Init

namespace Transactions

/-- A program over a store `σ` with errors `ε`. -/
abbrev Program (σ ε α : Type) := ExceptT ε (StateM σ) α

variable {σ ε α β : Type}

/-- How a program ends, and the store that it leaves behind. -/
def run (m : Program σ ε α) (s : σ) : Except ε α × σ := StateT.run (ExceptT.run m) s

/-- A transaction: the effect of its body is committed, or rolled back. -/
def transaction (body : σ → Except ε (α × σ)) : Program σ ε α :=
  ExceptT.mk fun s =>
    match body s with
    | .ok (a, s') => (.ok a, s')
    | .error e => (.error e, s)

/-- Go on after a failure, from the store that it leaves behind. -/
def handle {ε' : Type} (m : Program σ ε α) (h : ε → Program σ ε' α) : Program σ ε' α :=
  ExceptT.mk fun s =>
    match run m s with
    | (.ok a, s') => (.ok a, s')
    | (.error e, s') => run (h e) s'

variable {m : Program σ ε α} {f : α → Program σ ε β} {body : σ → Except ε (α × σ)} {s s' : σ}
  {a : α} {e : ε}

@[simp]
lemma run_pure : run (pure a : Program σ ε α) s = (.ok a, s) := rfl

@[simp]
lemma run_get : run (get : Program σ ε σ) s = (.ok s, s) := rfl

@[simp]
lemma run_modify {f : σ → σ} : run (modify f : Program σ ε Unit) s = (.ok (), f s) := rfl

@[simp]
lemma run_throw : run (throw e : Program σ ε α) s = (.error e, s) := rfl

lemma run_transaction :
    run (transaction body) s =
      match body s with
      | .ok (a, s') => (.ok a, s')
      | .error e => (.error e, s) := rfl

lemma run_handle {ε' : Type} {h : ε → Program σ ε' α} :
    run (handle m h) s =
      match run m s with
      | (.ok a, s') => (.ok a, s')
      | (.error e, s') => run (h e) s' := rfl

/-- A program goes on after a part that succeeds, and stops after one that fails. -/
lemma run_bind :
    run (m >>= f) s =
      match run m s with
      | (.ok a, s') => run (f a) s'
      | (.error e, s') => (.error e, s') := by
  simp only [run, ExceptT.run_bind, StateT.run_bind]
  cases h : StateT.run (ExceptT.run m) s with
  | mk r s' => cases r <;> rfl

lemma run_bind_of_ok (h : run m s = (.ok a, s')) : run (m >>= f) s = run (f a) s' := by
  rw [run_bind, h]

lemma run_bind_of_error (h : run m s = (.error e, s')) : run (m >>= f) s = (.error e, s') := by
  rw [run_bind, h]

/-- A loop goes on after a step that succeeds, and stops after one that fails. -/
lemma run_forM_cons {f : α → Program σ ε Unit} {as : List α} :
    run ((a :: as).forM f) s =
      match run (f a) s with
      | (.ok (), s') => run (as.forM f) s'
      | (.error e, s') => (.error e, s') := by
  have hbind : run ((a :: as).forM f) s = run (f a >>= fun _ => as.forM f) s := rfl
  rw [hbind, run_bind]
  cases run (f a) s with
  | mk r s' => cases r <;> rfl

/-- A transitive relation holds between the stores before and after a program if it does
for its parts, wherever the program stops. -/
lemma rel_run_bind {R : σ → σ → Prop} (htrans : ∀ s₁ s₂ s₃, R s₁ s₂ → R s₂ s₃ → R s₁ s₃)
    (hm : R s (run m s).2) (hf : ∀ a s', run m s = (.ok a, s') → R s' (run (f a) s').2) :
    R s (run (m >>= f) s).2 := by
  rw [run_bind]
  cases hrun : run m s with
  | mk r s' =>
      rw [hrun] at hm
      cases r with
      | error e => exact hm
      | ok a => exact htrans _ _ _ hm (hf a s' hrun)

/-- A program stops in its first part, or goes on with the second one. -/
lemma run_bind_cases {r : Except ε β} {s'' : σ} (h : run (m >>= f) s = (r, s'')) :
    (∃ e, run m s = (.error e, s'') ∧ r = .error e) ∨
      ∃ a s', run m s = (.ok a, s') ∧ run (f a) s' = (r, s'') := by
  rw [run_bind] at h
  cases hm : run m s with
  | mk r' s' =>
      rw [hm] at h
      cases r' with
      | ok a => exact .inr ⟨a, s', rfl, h⟩
      | error e =>
          obtain ⟨rfl, rfl⟩ := Prod.mk.inj h
          exact .inl ⟨e, rfl, rfl⟩

/-- A program that succeeds has succeeded in its parts. -/
lemma run_bind_eq_ok {b : β} {s'' : σ} (h : run (m >>= f) s = (.ok b, s'')) :
    ∃ a s', run m s = (.ok a, s') ∧ run (f a) s' = (.ok b, s'') := by
  rw [run_bind] at h
  cases hm : run m s with
  | mk r s' =>
      rw [hm] at h
      cases r with
      | ok a => exact ⟨a, s', rfl, h⟩
      | error e => cases h

end Transactions
