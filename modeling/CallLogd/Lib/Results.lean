/-
Postconditions of computations that may raise an error.
-/
import Mathlib.Data.List.Induction

namespace Results

universe u

variable {ε : Type*} {α β : Type u} {m : Except ε α} {f : α → Except ε β} {P : α → Prop}
  {Q : β → Prop}

/-- Every value that a computation returns satisfies `P`. -/
def Yields (m : Except ε α) (P : α → Prop) : Prop := ∀ a, m = .ok a → P a

lemma ok_bind {a : α} : (Except.ok a >>= f) = f a := rfl

lemma exists_of_bind_eq_ok {b : β} (h : m >>= f = .ok b) : ∃ a, m = .ok a ∧ f a = .ok b := by
  cases m with
  | error e => cases h
  | ok a => exact ⟨a, rfl, h⟩

lemma exists_of_map_eq_ok {γ : Type*} {g : α → γ} {c : γ} (h : m.map g = .ok c) :
    ∃ a, m = .ok a ∧ g a = c := by
  cases m with
  | error e => cases h
  | ok a => exact ⟨a, rfl, Except.ok.inj h⟩

/-- A change of the errors leaves what a computation returns. -/
lemma mapError_eq_ok_iff {ε' : Type*} {g : ε → ε'} {a : α} : m.mapError g = .ok a ↔ m = .ok a := by
  cases m with
  | error e => exact ⟨nofun, nofun⟩
  | ok b =>
      exact ⟨fun h => congrArg _ (Except.ok.inj h), fun h => congrArg _ (Except.ok.inj h)⟩

namespace Yields

lemma ok {a : α} (h : P a) : Yields (.ok a : Except ε α) P := by
  rintro _ ⟨⟩
  exact h

lemma pure {a : α} (h : P a) : Yields (pure a : Except ε α) P := ok h

lemma error {e : ε} : Yields (.error e : Except ε α) P := by
  rintro _ ⟨⟩

lemma bind (h : ∀ a, m = .ok a → Yields (f a) Q) : Yields (m >>= f) Q := by
  intro b hb
  obtain ⟨a, hm, hf⟩ := exists_of_bind_eq_ok hb
  exact h a hm b hf

lemma mono {P' : α → Prop} (h : Yields m P) (hP : ∀ a, P a → P' a) : Yields m P' :=
  fun a ha => hP a (h a ha)

/-- What a step makes of a property, a whole loop makes of it. -/
lemma foldlM {γ : Type*} {f : α → γ → Except ε α} {P : List γ → α → Prop} {s : α}
    (hs : P [] s) (hf : ∀ done s b, P done s → Yields (f s b) (P (done ++ [b])))
    (l : List γ) : Yields (l.foldlM f s) (P l) := by
  have h : ∀ l done s, P done s → Yields (List.foldlM f s l) (P (done ++ l)) := by
    intro l
    induction l with
    | nil =>
        intro done s hs
        rw [List.append_nil]
        exact pure hs
    | cons b l ih =>
        intro done s hs
        rw [List.foldlM_cons]
        refine bind fun s' hs' => ?_
        have := ih (done ++ [b]) s' (hf done s b hs s' hs')
        rwa [List.append_assoc] at this
  exact h l [] s hs

end Yields

/-- A computation returns a value that satisfies `P`. -/
def Returns (m : Except ε α) (P : α → Prop) : Prop := ∃ a, m = .ok a ∧ P a

namespace Returns

lemma ok {a : α} (h : P a) : Returns (.ok a : Except ε α) P := ⟨a, rfl, h⟩

lemma pure {a : α} (h : P a) : Returns (pure a : Except ε α) P := ok h

lemma bind (hm : Returns m P) (hf : ∀ a, P a → Returns (f a) Q) : Returns (m >>= f) Q := by
  obtain ⟨a, rfl, ha⟩ := hm
  exact hf a ha

lemma mono {P' : α → Prop} (h : Returns m P) (hP : ∀ a, P a → P' a) : Returns m P' := by
  obtain ⟨a, hm, ha⟩ := h
  exact ⟨a, hm, hP a ha⟩

/-- A loop whose steps all return keeps what each step keeps. -/
lemma foldlM {γ : Type*} {f : α → γ → Except ε α} {P : List γ → α → Prop} {s : α}
    (hs : P [] s) (l : List γ) (hf : ∀ done s b rest, l = done ++ b :: rest → P done s →
      Returns (f s b) (P (done ++ [b]))) : Returns (l.foldlM f s) (P l) := by
  have h : ∀ todo done s, l = done ++ todo → P done s →
      Returns (List.foldlM f s todo) (P (done ++ todo)) := by
    intro todo
    induction todo with
    | nil =>
        intro done s _ hs
        rw [List.append_nil]
        exact pure hs
    | cons b todo ih =>
        intro done s hl hs
        rw [List.foldlM_cons]
        refine bind (hf done s b todo hl hs) fun s' hs' => ?_
        have := ih (done ++ [b]) s' (by simpa using hl) hs'
        rwa [List.append_assoc] at this
  exact h l [] s rfl hs

end Returns

/-- A computation raises no error. -/
def Completes (m : Except ε α) : Prop := ∃ a, m = .ok a

@[simp] lemma completes_ok (a : α) : Completes (.ok a : Except ε α) := ⟨a, rfl⟩

@[simp] lemma completes_pure (a : α) : Completes (pure a : Except ε α) := ⟨a, rfl⟩

@[simp] lemma not_completes_error (e : ε) : ¬ Completes (.error e : Except ε α) := by
  rintro ⟨a, ⟨⟩⟩

@[simp] lemma not_completes_throw (e : ε) : ¬ Completes (throw e : Except ε α) :=
  not_completes_error e

/-- What a computation returns is what it completes with. -/
lemma toOption_eq_some_iff {a : α} : m.toOption = some a ↔ m = .ok a := by
  cases m with
  | error e => exact iff_of_false (fun h => by cases h) fun h => by cases h
  | ok b =>
      exact ⟨fun h => congrArg _ (Option.some.inj h), fun h => congrArg _ (Except.ok.inj h)⟩

lemma toOption_eq_none_iff : m.toOption = none ↔ ¬ Completes m := by
  cases m with
  | error e => exact iff_of_true rfl (not_completes_error e)
  | ok a => exact iff_of_false (fun h => by cases h) fun h => h (completes_ok a)

lemma completes_bind : Completes (m >>= f) ↔ ∃ a, m = .ok a ∧ Completes (f a) := by
  constructor
  · rintro ⟨b, h⟩
    obtain ⟨a, hm, hf⟩ := exists_of_bind_eq_ok h
    exact ⟨a, hm, b, hf⟩
  · rintro ⟨a, rfl, b, h⟩
    exact ⟨b, h⟩

/-- What follows raises no error, so the first computation decides. -/
lemma completes_bind_of_forall (h : ∀ a, Completes (f a)) : Completes (m >>= f) ↔ Completes m := by
  rw [completes_bind]
  exact ⟨fun ⟨a, hm, _⟩ => ⟨a, hm⟩, fun ⟨a, hm⟩ => ⟨a, hm, h a⟩⟩

lemma completes_bind_and {p : Prop} (h : ∀ a, Completes (f a) ↔ p) :
    Completes (m >>= f) ↔ Completes m ∧ p := by
  rw [completes_bind]
  exact ⟨fun ⟨a, hm, hf⟩ => ⟨⟨a, hm⟩, (h a).1 hf⟩, fun ⟨⟨a, hm⟩, hp⟩ => ⟨a, hm, (h a).2 hp⟩⟩

/-- A loop completes if and only if each of its steps does, in the state before it. -/
lemma completes_foldlM {γ : Type*} {f : α → γ → Except ε α} (l : List γ) (s : α) :
    Completes (l.foldlM f s) ↔ ∀ done b rest, l = done ++ b :: rest →
      ∀ s', done.foldlM f s = .ok s' → Completes (f s' b) := by
  constructor
  · rintro ⟨t, ht⟩ done b rest rfl s' hs'
    rw [List.foldlM_append, hs'] at ht
    change (List.foldlM f s' (b :: rest)) = .ok t at ht
    rw [List.foldlM_cons] at ht
    obtain ⟨s'', hs'', -⟩ := exists_of_bind_eq_ok ht
    exact ⟨s'', hs''⟩
  · intro h
    induction l using List.reverseRecOn with
    | nil => exact completes_pure s
    | append_singleton l b ih =>
      obtain ⟨s', hs'⟩ := ih fun done b' rest hl =>
        h done b' (rest ++ [b]) (by rw [hl, List.append_assoc, List.cons_append])
      obtain ⟨t, ht⟩ := h l b [] rfl s' hs'
      refine ⟨t, ?_⟩
      rw [List.foldlM_append, hs']
      exact (bind_pure _).trans ht

/-- A loop over independent steps completes if and only if each of them does. -/
lemma completes_mapM {γ : Type*} {f : γ → Except ε β} {l : List γ} :
    Completes (l.mapM f) ↔ ∀ c ∈ l, Completes (f c) := by
  induction l with
  | nil => simp
  | cons c l ih =>
      rw [List.mapM_cons, List.forall_mem_cons, ← ih]
      refine completes_bind_and fun b => ?_
      exact completes_bind_of_forall fun bs => completes_pure (b :: bs)

/-- A loop over steps that fail in one way only: it fails if one of them does. -/
lemma mapM_eq_ite {γ : Type*} {f : γ → Except ε β} {g : γ → β} {p : γ → Prop} [DecidablePred p]
    {e : ε} {l : List γ} (h : ∀ c ∈ l, f c = if p c then .ok (g c) else .error e) :
    l.mapM f = if ∀ c ∈ l, p c then .ok (l.map g) else .error e := by
  induction l with
  | nil => rfl
  | cons c l ih =>
      rw [List.mapM_cons, h c List.mem_cons_self,
        ih fun c hc => h c (List.mem_cons_of_mem _ hc)]
      by_cases hc : p c
      · by_cases hl : ∀ c ∈ l, p c
        · rw [if_pos hc, if_pos hl, if_pos (List.forall_mem_cons.2 ⟨hc, hl⟩)]
          rfl
        · rw [if_pos hc, if_neg hl, if_neg fun h => hl (List.forall_mem_cons.1 h).2]
          rfl
      · rw [if_neg hc, if_neg fun h => hc (List.forall_mem_cons.1 h).1]
        rfl

end Results
