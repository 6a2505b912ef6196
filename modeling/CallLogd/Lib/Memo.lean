/-
A table of the answers to requests that may fail.

A lookup sends a request only if the table has no answer for its key, and only an
answer is stored, never a failure.  If the answers are those of a function `f`, every
lookup gives the value of `f` or the failure of its own request (`lookup_of_sound`), and at
most one request for each key is answered (`countP_answered_le_one`).
-/
import CallLogd.Lib.Dict
import Mathlib.Data.List.Count

namespace Memo

variable {κ α ε : Type*} [DecidableEq κ]

/-- A lookup of a key, with what a request for it would bring at that time. -/
structure Lookup (κ α ε : Type*) where
  key : κ
  answer : Except ε α

/-- The result of a lookup, and the table after it. -/
def lookup (table : Dict κ α) (l : Lookup κ α ε) : Except ε α × Dict κ α :=
  match table.get? l.key with
  | some a => (.ok a, table)
  | none =>
      match l.answer with
      | .ok a => (.ok a, table.set l.key a)
      | .error e => (.error e, table)

/-- A lookup sends a request. -/
def Sends (table : Dict κ α) (l : Lookup κ α ε) : Prop := table.get? l.key = none

instance (table : Dict κ α) (l : Lookup κ α ε) : Decidable (Sends table l) :=
  decidable_of_iff ((table.get? l.key).isNone = true) Option.isNone_iff_eq_none

/-- What is seen of a lookup: whether it sent a request, and its result. -/
structure Seen (κ α ε : Type*) where
  lookup : Lookup κ α ε
  sent : Bool
  result : Except ε α

/-- What is seen of some lookups, one after the other. -/
def run (table : Dict κ α) : List (Lookup κ α ε) → List (Seen κ α ε)
  | [] => []
  | l :: ls => ⟨l, Sends table l, (lookup table l).1⟩ :: run (lookup table l).2 ls

/-- The table after some lookups. -/
def after (table : Dict κ α) (ls : List (Lookup κ α ε)) : Dict κ α :=
  ls.foldl (fun table l => (lookup table l).2) table

/-- The table holds values of `f` only. -/
def Sound (f : κ → α) (table : Dict κ α) : Prop := ∀ k a, table.get? k = some a → a = f k

/-- The request of a lookup brings the value of `f`, unless it fails. -/
def Lookup.Answers (f : κ → α) (l : Lookup κ α ε) : Prop := ∀ a, l.answer = .ok a → a = f l.key

/-- A request for the key was sent and answered. -/
def Seen.answered (k : κ) (o : Seen κ α ε) : Bool :=
  o.lookup.key == k && o.sent && o.lookup.answer.isOk

variable {f : κ → α} {table : Dict κ α} {l : Lookup κ α ε} {ls : List (Lookup κ α ε)} {k : κ}

lemma sound_nil : Sound f [] := by
  intro k a h
  simp [Dict.get?] at h

lemma after_cons : after table (l :: ls) = after (lookup table l).2 ls := rfl

/-! ### One lookup -/

/-- A known key needs no request, and changes nothing. -/
lemma lookup_of_get? {a : α} (h : table.get? l.key = some a) :
    lookup table l = (.ok a, table) := by
  simp only [lookup, h]

/-- Otherwise the request decides. -/
lemma lookup_of_sends (h : Sends table l) :
    lookup table l = match l.answer with
      | .ok a => (.ok a, table.set l.key a)
      | .error e => (.error e, table) := by
  simp only [lookup, show table.get? l.key = none from h]

/-- A failure is not stored. -/
lemma lookup_of_error {e : ε} (h : (lookup table l).1 = .error e) :
    Sends table l ∧ l.answer = .error e ∧ (lookup table l).2 = table := by
  cases hget : table.get? l.key with
  | some a =>
      rw [lookup_of_get? hget] at h
      cases h
  | none =>
      rw [lookup_of_sends hget] at h ⊢
      cases hanswer : l.answer with
      | ok a =>
          rw [hanswer] at h
          cases h
      | error e' =>
          rw [hanswer] at h
          exact ⟨hget, h, rfl⟩

/-- The table holds the answer of a lookup afterwards. -/
lemma lookup_of_ok {a : α} (h : (lookup table l).1 = .ok a) :
    (lookup table l).2.get? l.key = some a := by
  cases hget : table.get? l.key with
  | some b =>
      rw [lookup_of_get? hget] at h ⊢
      rw [hget, Except.ok.inj h]
  | none =>
      rw [lookup_of_sends hget] at h ⊢
      cases hanswer : l.answer with
      | ok b =>
          rw [hanswer] at h
          obtain rfl := Except.ok.inj h
          simp [Dict.get?_set]
      | error e =>
          rw [hanswer] at h
          cases h

/-- A known key stays known. -/
lemma get?_lookup {a : α} (h : table.get? k = some a) : (lookup table l).2.get? k = some a := by
  cases hget : table.get? l.key with
  | some b => rwa [lookup_of_get? hget]
  | none =>
      rw [lookup_of_sends hget]
      cases l.answer with
      | ok b =>
          have hne : k ≠ l.key := fun heq => by rw [heq, hget] at h; cases h
          rw [Dict.get?_set, if_neg hne, h]
      | error e => exact h

lemma sound_lookup (h : Sound f table) (hl : l.Answers f) : Sound f (lookup table l).2 := by
  cases hget : table.get? l.key with
  | some b => rwa [lookup_of_get? hget]
  | none =>
      rw [lookup_of_sends hget]
      cases hanswer : l.answer with
      | ok a =>
          intro k b hb
          rw [Dict.get?_set] at hb
          split at hb
          · next heq => rw [heq, ← Option.some.inj hb, hl a hanswer]
          · exact h k b hb
      | error e => exact h

/-- A lookup in a sound table gives the value of the function, or the failure of its own
request. -/
lemma lookup_of_sound (h : Sound f table) (hl : l.Answers f) :
    (lookup table l).1 = .ok (f l.key) ∨
      ∃ e, Sends table l ∧ l.answer = .error e ∧ (lookup table l).1 = .error e := by
  cases hresult : (lookup table l).1 with
  | ok a =>
      have ha := sound_lookup h hl l.key a (lookup_of_ok hresult)
      exact .inl (by rw [ha])
  | error e =>
      obtain ⟨hsends, hanswer, -⟩ := lookup_of_error hresult
      exact .inr ⟨e, hsends, hanswer, rfl⟩

/-! ### Runs -/

lemma sound_after (h : Sound f table) (hls : ∀ l ∈ ls, l.Answers f) : Sound f (after table ls) := by
  induction ls generalizing table with
  | nil => exact h
  | cons l ls ih =>
      exact ih (sound_lookup h (hls l List.mem_cons_self))
        fun l' hl' => hls l' (List.mem_cons_of_mem l hl')

lemma answered_iff {result : Except ε α} :
    Seen.answered k ⟨l, Sends table l, result⟩ = true ↔
      l.key = k ∧ Sends table l ∧ ∃ a, l.answer = .ok a := by
  have hok : l.answer.isOk = true ↔ ∃ a, l.answer = .ok a := by
    cases l.answer <;> simp [Except.isOk, Except.toBool]
  rw [Seen.answered, Bool.and_eq_true, Bool.and_eq_true, decide_eq_true_eq, beq_iff_eq, hok,
    and_assoc]

/-- No request is sent for a known key. -/
lemma countP_answered_of_get? {a : α} (h : table.get? k = some a) :
    (run table ls).countP (Seen.answered k) = 0 := by
  induction ls generalizing table with
  | nil => rfl
  | cons l ls ih =>
      have hseen : ¬ Seen.answered k ⟨l, Sends table l, (lookup table l).1⟩ = true := by
        rw [answered_iff]
        rintro ⟨rfl, hsends, -⟩
        cases h.symm.trans hsends
      rw [run, List.countP_cons_of_neg hseen, ih (get?_lookup h)]

/-- At most one request for a key is answered. -/
theorem countP_answered_le_one : (run table ls).countP (Seen.answered k) ≤ 1 := by
  induction ls generalizing table with
  | nil => exact Nat.zero_le 1
  | cons l ls ih =>
      by_cases hseen : Seen.answered k ⟨l, Sends table l, (lookup table l).1⟩ = true
      · -- the answer is stored, so no later request is sent
        obtain ⟨rfl, hsends, a, hanswer⟩ := answered_iff.1 hseen
        have hresult : (lookup table l).1 = .ok a := by rw [lookup_of_sends hsends, hanswer]
        have hone : (run table (l :: ls)).countP (Seen.answered l.key) = 1 := by
          rw [run, List.countP_cons_of_pos hseen, countP_answered_of_get? (lookup_of_ok hresult)]
        exact Nat.le_of_eq hone
      · rw [run, List.countP_cons_of_neg hseen]
        exact ih

end Memo
