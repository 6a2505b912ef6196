/-
Strings as the Python standard library treats them.

The functions work on lists of characters, so that all of them are structural
recursions; the versions on `String` are wrappers.  Separators are non-empty.
-/
import Mathlib.Data.List.DropRight
import Mathlib.Data.Finset.Basic

namespace Text

/-- A property of the characters of a text is decided along the text, never by trying all
characters. -/
instance (priority := 2000) decidableForallMem (p : Char → Prop) [DecidablePred p]
    (s : List Char) : Decidable (∀ c ∈ s, p c) :=
  List.decidableBAll p s

instance (priority := 2000) decidableForallMemOption (p : Char → Prop) [DecidablePred p]
    (o : Option Char) : Decidable (∀ c ∈ o, p c) :=
  Option.decidableForallMem o

/-- The white space of `str.isspace` (the class `\s` of a pattern is the same). -/
def isSpace (c : Char) : Bool :=
  let n := c.toNat
  (9 ≤ n && n ≤ 13) || (28 ≤ n && n ≤ 32) || n == 0x85 || n == 0xa0 || n == 0x1680 ||
    (0x2000 ≤ n && n ≤ 0x200a) || n == 0x2028 || n == 0x2029 || n == 0x202f || n == 0x205f ||
    n == 0x3000

/-- `str.strip()` with the characters to remove given by a predicate. -/
def stripBy (p : Char → Bool) (s : List Char) : List Char :=
  (s.dropWhile p).rdropWhile p

/-- `str.strip()`. -/
def strip (s : List Char) : List Char := stripBy isSpace s

/-- Auxiliary function of `split`: `skip` characters of a separator remain to be
dropped, `acc` is the current piece in reverse order. -/
def splitAux (sep : List Char) : ℕ → List Char → List Char → List (List Char)
  | _, acc, [] => [acc.reverse]
  | skip + 1, acc, _ :: s => splitAux sep skip acc s
  | 0, acc, c :: s =>
      if sep.isPrefixOf (c :: s) then acc.reverse :: splitAux sep (sep.length - 1) [] s
      else splitAux sep 0 (c :: acc) s

/-- `str.split(sep)`: the pieces between the occurrences of `sep`, from the left. -/
def split (sep s : List Char) : List (List Char) := splitAux sep 0 [] s

section Split

variable {c : Char} {sep piece s acc : List Char}

lemma splitAux_skip (skip : ℕ) (acc s : List Char) :
    splitAux sep skip acc s = splitAux sep 0 acc (s.drop skip) := by
  induction s generalizing skip with
  | nil => cases skip <;> rfl
  | cons d s ih =>
    cases skip with
    | zero => rfl
    | succ skip => rw [splitAux, ih, List.drop_succ_cons]

lemma splitAux_append (h : c ∉ piece) : splitAux (c :: sep) 0 acc (piece ++ (c :: sep ++ s)) =
    (acc.reverse ++ piece) :: splitAux (c :: sep) 0 [] s := by
  induction piece generalizing acc with
  | nil =>
    have hpre : (c :: sep).isPrefixOf (c :: (sep ++ s)) = true :=
      List.isPrefixOf_iff_prefix.2 (List.prefix_append (c :: sep) s)
    rw [List.nil_append, List.cons_append, splitAux, if_pos hpre, splitAux_skip,
      List.length_cons, Nat.add_sub_cancel, List.drop_left, List.append_nil]
  | cons d piece ih =>
    obtain ⟨hne, hpiece⟩ := not_or.1 (mt List.mem_cons.2 h)
    have hpre : (c :: sep).isPrefixOf (d :: (piece ++ (c :: sep ++ s))) ≠ true := by
      simp [List.isPrefixOf, hne]
    rw [List.cons_append, splitAux, if_neg hpre, ih hpiece, List.reverse_cons,
      List.append_assoc, List.singleton_append]

/-- The first piece ends where the first separator begins. -/
lemma split_append (h : c ∉ piece) :
    split (c :: sep) (piece ++ (c :: sep ++ s)) = piece :: split (c :: sep) s :=
  splitAux_append h

/-- A text without separators is one piece. -/
lemma split_eq_singleton (h : ¬ sep <:+: s) : split sep s = [s] := by
  have haux : ∀ s acc, ¬ sep <:+: s → splitAux sep 0 acc s = [acc.reverse ++ s] := by
    intro s
    induction s with
    | nil => simp [splitAux]
    | cons d s ih =>
      intro acc hnone
      have hpre : sep.isPrefixOf (d :: s) ≠ true := fun hpre =>
        hnone (List.isPrefixOf_iff_prefix.1 hpre).isInfix
      rw [splitAux, if_neg hpre, ih _ fun hocc => hnone (List.infix_cons hocc),
        List.reverse_cons, List.append_assoc, List.singleton_append]
  exact haux s [] h

lemma splitAux_ne_nil {skip : ℕ} : splitAux sep skip acc s ≠ [] := by
  induction s generalizing skip acc with
  | nil => cases skip <;> simp [splitAux]
  | cons d s ih =>
    cases skip with
    | zero =>
      rw [splitAux]
      split
      · exact List.cons_ne_nil _ _
      · exact ih
    | succ skip => exact ih

/-- A text is cut if and only if the separator occurs. -/
lemma one_lt_length_split : 1 < (split (c :: sep) s).length ↔ (c :: sep) <:+: s := by
  constructor
  · intro h
    by_contra hnone
    rw [split_eq_singleton hnone] at h
    exact absurd h (by simp)
  · have haux : ∀ s acc, (c :: sep) <:+: s → 1 < (splitAux (c :: sep) 0 acc s).length := by
      intro s
      induction s with
      | nil => simp
      | cons d s ih =>
        intro acc hocc
        rw [splitAux]
        split
        · have hpos : splitAux (c :: sep) ((c :: sep).length - 1) [] s ≠ [] := splitAux_ne_nil
          simpa using List.length_pos_iff.2 hpos
        · next hpre =>
          rw [List.isPrefixOf_iff_prefix] at hpre
          exact ih _ ((List.infix_cons_iff.1 hocc).resolve_left hpre)
    exact haux s []

end Split

/-- The text before and after the first occurrence of `sep`, as in
`str.split(sep, 1)` and `str.partition(sep)`; `none` if `sep` does not occur. -/
def splitOnce (sep : List Char) : List Char → Option (List Char × List Char)
  | [] => none
  | c :: s =>
      if sep.isPrefixOf (c :: s) then some ([], (c :: s).drop sep.length)
      else (splitOnce sep s).map fun p => (c :: p.1, p.2)

lemma isSome_splitOnce {c : Char} {sep s : List Char} :
    (splitOnce (c :: sep) s).isSome ↔ (c :: sep) <:+: s := by
  induction s with
  | nil => simp [splitOnce]
  | cons d s ih =>
    rw [splitOnce, List.infix_cons_iff, ← List.isPrefixOf_iff_prefix]
    split
    · next hpre => simp [hpre]
    · next hpre => simp [hpre, ih]

lemma splitOnce_append {c : Char} {sep piece s : List Char} (h : c ∉ piece) :
    splitOnce (c :: sep) (piece ++ (c :: sep ++ s)) = some (piece, s) := by
  induction piece with
  | nil =>
    have hpre : (c :: sep).isPrefixOf (c :: (sep ++ s)) = true :=
      List.isPrefixOf_iff_prefix.2 (List.prefix_append (c :: sep) s)
    rw [List.nil_append, List.cons_append, splitOnce, if_pos hpre, ← List.cons_append,
      List.drop_left]
  | cons d piece ih =>
    obtain ⟨hne, hpiece⟩ := not_or.1 (mt List.mem_cons.2 h)
    have hpre : (c :: sep).isPrefixOf (d :: (piece ++ (c :: sep ++ s))) ≠ true := by
      simp [List.isPrefixOf, hne]
    rw [List.cons_append, splitOnce, if_neg hpre, ih hpiece]
    rfl

/-- The text after the last occurrence of `sep`, and all the text if there is none:
`str.rpartition(sep)[2]`. -/
def afterLast (sep : List Char) : List Char → List Char
  | [] => []
  | c :: s =>
      if sep <:+: s then afterLast sep s
      else if sep.isPrefixOf (c :: s) then (c :: s).drop sep.length else c :: s

section AfterLast

variable {sep s t : List Char}

lemma afterLast_append (h : sep <:+: t) (s : List Char) : afterLast sep (s ++ t) =
    afterLast sep t := by
  induction s with
  | nil => rfl
  | cons d s ih =>
    rw [List.cons_append, afterLast, if_pos (h.trans (List.suffix_append s t).isInfix), ih]

/-- The separator does not occur any more. -/
lemma afterLast_spec (hsep : sep ≠ []) (h : sep <:+: s) :
    (∃ before, s = before ++ (sep ++ afterLast sep s)) ∧ ¬ sep <:+: afterLast sep s := by
  induction s with
  | nil => exact absurd (List.infix_nil.1 h) hsep
  | cons d s ih =>
    by_cases hlater : sep <:+: s
    · obtain ⟨⟨before, hbefore⟩, hnone⟩ := ih hlater
      rw [afterLast, if_pos hlater]
      exact ⟨⟨d :: before, by rw [List.cons_append, ← hbefore]⟩, hnone⟩
    · obtain ⟨rest, hrest⟩ := (List.infix_cons_iff.1 h).resolve_right hlater
      have hdrop : (d :: s).drop sep.length = rest := by
        rw [← hrest, List.drop_left]
      rw [afterLast, if_neg hlater, if_pos (List.isPrefixOf_iff_prefix.2 ⟨rest, hrest⟩), hdrop]
      refine ⟨⟨[], hrest.symm⟩, fun hocc => hlater (hocc.trans ?_)⟩
      obtain ⟨c, sep, rfl⟩ := List.exists_cons_of_ne_nil hsep
      rw [← (List.cons.inj hrest).2]
      exact (List.suffix_append sep rest).isInfix

/-- The separator that starts last is the last one. -/
lemma afterLast_eq (hsep : sep ≠ []) {before : List Char} (h : s = before ++ (sep ++ t))
    (hlast : ∀ before' t', s = before' ++ (sep ++ t') → before'.length ≤ before.length) :
    afterLast sep s = t := by
  obtain ⟨c, sep, rfl⟩ := List.exists_cons_of_ne_nil hsep
  induction before generalizing s with
  | nil =>
    have hs : s = c :: (sep ++ t) := h
    have hlater : ¬ (c :: sep) <:+: sep ++ t := by
      rintro ⟨before', t', hocc⟩
      have hlength := hlast (c :: before') t' (by rw [hs, ← hocc]; simp)
      simp at hlength
    have hdrop : (c :: (sep ++ t)).drop (c :: sep).length = t := by
      rw [← List.cons_append, List.drop_left]
    have hpre : (c :: sep).isPrefixOf (c :: (sep ++ t)) = true :=
      List.isPrefixOf_iff_prefix.2 (List.prefix_append (c :: sep) t)
    rw [hs, afterLast, if_neg hlater, if_pos hpre, hdrop]
  | cons d before ih =>
    subst h
    rw [List.cons_append, afterLast, if_pos ⟨before, t, by simp⟩]
    refine ih rfl fun before' t' hsplit => ?_
    have hlength := hlast (d :: before') t' (congrArg (d :: ·) hsplit)
    simpa using hlength

end AfterLast

/-- `s.split(sep, 1)[0]`. -/
def before (sep s : List Char) : List Char := ((splitOnce sep s).map Prod.fst).getD s

/-- `str.replace(old, new)`, where `old` is one character. -/
def replaceChar (old : Char) (new s : List Char) : List Char :=
  s.flatMap fun c => if c = old then new else [c]

/-- `str.lower()` on the letters that can be compared with ASCII text. -/
def lower (s : List Char) : List Char := s.map Char.toLower

/-- Pieces of a string as strings. -/
def splitString (sep s : String) : List String :=
  (split sep.toList s.toList).map String.ofList

end Text
