/-
Patterns of SQL's `LIKE`.

A `%` stands for any text, a `_` for any character, and a backslash makes the next
character a literal.  `ILIKE` compares the characters after a case folding.

A search for a text between two `%` finds the texts that contain it if the text is escaped
(`like_escape_iff`), or if it has no special character (`like_between_iff`).  Otherwise it
does not, as long as the folding tells these characters apart
(`noSpecial_of_like_between_iff`).
-/
import Mathlib.Data.List.Basic
import Mathlib.Data.List.Infix

namespace Like

/-- One element of a pattern. -/
inductive Token where
  | anyText
  | anyChar
  | char (c : Char)
deriving DecidableEq, Repr

/-- The elements of a pattern; `none` if it ends with the escape character. -/
def tokens : List Char → Option (List Token)
  | [] => some []
  | '%' :: pattern => (tokens pattern).map (.anyText :: ·)
  | '_' :: pattern => (tokens pattern).map (.anyChar :: ·)
  | '\\' :: c :: pattern => (tokens pattern).map (.char c :: ·)
  | ['\\'] => none
  | c :: pattern => (tokens pattern).map (.char c :: ·)

/-- A text satisfies a predicate from some position on. -/
def anySuffix (p : List Char → Bool) : List Char → Bool
  | [] => p []
  | c :: text => p (c :: text) || anySuffix p text

/-- A text matches a pattern whose characters are compared after a folding. -/
def matchTokens (fold : Char → Char) : List Token → List Char → Bool
  | [], text => text.isEmpty
  | .anyText :: pattern, text => anySuffix (matchTokens fold pattern) text
  | .anyChar :: _, [] => false
  | .anyChar :: pattern, _ :: text => matchTokens fold pattern text
  | .char _ :: _, [] => false
  | .char c :: pattern, d :: text => fold c == fold d && matchTokens fold pattern text

/-- `text LIKE pattern`; a pattern that ends with the escape character is refused. -/
def like (fold : Char → Char) (pattern text : String) : Bool :=
  (tokens pattern.toList).any fun pattern => matchTokens fold pattern text.toList

/-- A text contains another one, up to the folding. -/
def Contains (fold : Char → Char) (s text : String) : Prop :=
  s.toList.map fold <:+: text.toList.map fold

instance (fold : Char → Char) (s text : String) : Decidable (Contains fold s text) :=
  inferInstanceAs (Decidable (s.toList.map fold <:+: text.toList.map fold))

/-- A character that is a literal in a pattern, whatever it is. -/
def escapeChar (c : Char) : List Char :=
  if c = '\\' ∨ c = '%' ∨ c = '_' then ['\\', c] else [c]

/-- A text that is a literal in a pattern. -/
def escape (s : List Char) : List Char := s.flatMap escapeChar

/-- No character of the text is special in a pattern. -/
def NoSpecial (s : List Char) : Prop := ∀ c ∈ s, c ≠ '\\' ∧ c ≠ '%' ∧ c ≠ '_'

variable {fold : Char → Char} {p q : List Token} {s text : List Char} {c : Char}

/-! ### Matches -/

lemma anySuffix_iff {test : List Char → Bool} :
    anySuffix test text = true ↔ ∃ u v, text = u ++ v ∧ test v = true := by
  induction text with
  | nil =>
      constructor
      · exact fun h => ⟨[], [], rfl, h⟩
      · rintro ⟨u, v, huv, h⟩
        obtain ⟨rfl, rfl⟩ := List.append_eq_nil_iff.1 huv.symm
        exact h
  | cons c text ih =>
      rw [anySuffix, Bool.or_eq_true, ih]
      constructor
      · rintro (h | ⟨u, v, rfl, h⟩)
        · exact ⟨[], c :: text, rfl, h⟩
        · exact ⟨c :: u, v, rfl, h⟩
      · rintro ⟨u, v, huv, h⟩
        cases u with
        | nil => exact .inl (huv ▸ h)
        | cons d u => exact .inr ⟨u, v, (List.cons.inj huv).2, h⟩

/-- The texts that one element of a pattern stands for. -/
def Token.Takes (fold : Char → Char) : Token → List Char → Prop
  | .anyText, _ => True
  | .anyChar, u => ∃ d, u = [d]
  | .char c, u => ∃ d, u = [d] ∧ fold c = fold d

/-- A text matches a pattern if its start is taken by the first element. -/
lemma matchTokens_cons_iff {token : Token} : matchTokens fold (token :: p) text = true ↔
    ∃ u v, text = u ++ v ∧ token.Takes fold u ∧ matchTokens fold p v = true := by
  cases token with
  | anyText => simp [matchTokens, anySuffix_iff, Token.Takes]
  | anyChar =>
      cases text with
      | nil =>
          refine iff_of_false Bool.false_ne_true ?_
          rintro ⟨_, v, hsplit, ⟨e, rfl⟩, -⟩
          cases hsplit
      | cons d text =>
          constructor
          · exact fun h => ⟨[d], text, rfl, ⟨d, rfl⟩, h⟩
          · rintro ⟨_, v, hsplit, ⟨e, rfl⟩, h⟩
            obtain ⟨-, rfl⟩ := List.cons.inj hsplit
            exact h
  | char c =>
      cases text with
      | nil =>
          refine iff_of_false Bool.false_ne_true ?_
          rintro ⟨_, v, hsplit, ⟨e, rfl, -⟩, -⟩
          cases hsplit
      | cons d text =>
          rw [matchTokens, Bool.and_eq_true, beq_iff_eq]
          constructor
          · exact fun h => ⟨[d], text, rfl, ⟨d, rfl, h.1⟩, h.2⟩
          · rintro ⟨_, v, hsplit, ⟨e, rfl, he⟩, h⟩
            obtain ⟨rfl, rfl⟩ := List.cons.inj hsplit
            exact ⟨he, h⟩

/-- A text matches two patterns in a row if it can be cut between them. -/
lemma matchTokens_append : matchTokens fold (p ++ q) text = true ↔
    ∃ u v, text = u ++ v ∧ matchTokens fold p u = true ∧ matchTokens fold q v = true := by
  induction p generalizing text with
  | nil =>
      constructor
      · exact fun h => ⟨[], text, rfl, rfl, h⟩
      · rintro ⟨u, v, rfl, hu, h⟩
        obtain rfl := List.isEmpty_iff.1 hu
        exact h
  | cons token p ih =>
      simp only [List.cons_append, matchTokens_cons_iff, ih]
      constructor
      · rintro ⟨u, _, rfl, hu, v, w, rfl, hv, hw⟩
        exact ⟨u ++ v, w, (List.append_assoc u v w).symm, ⟨u, v, rfl, hu, hv⟩, hw⟩
      · rintro ⟨_, w, rfl, ⟨u, v, rfl, hu, hv⟩, hw⟩
        exact ⟨u, v ++ w, List.append_assoc u v w, hu, v, w, rfl, hv, hw⟩

/-- A pattern of literals matches the texts that are the same after the folding. -/
lemma matchTokens_chars : matchTokens fold (s.map .char) text = true ↔
    text.map fold = s.map fold := by
  induction s generalizing text with
  | nil => simp [matchTokens]
  | cons c s ih =>
      cases text with
      | nil => simp [matchTokens]
      | cons d text =>
          rw [List.map_cons, matchTokens, Bool.and_eq_true, ih, beq_iff_eq, List.map_cons,
            List.map_cons, List.cons_eq_cons, eq_comm]

@[simp]
lemma matchTokens_anyText : matchTokens fold [.anyText] text = true :=
  anySuffix_iff.2 ⟨text, [], (List.append_nil text).symm, rfl⟩

/-- A literal between two wildcards is found in the texts that contain it. -/
lemma matchTokens_between : matchTokens fold (.anyText :: (s.map .char ++ [.anyText])) text = true ↔
    s.map fold <:+: text.map fold := by
  rw [matchTokens, anySuffix_iff]
  simp only [matchTokens_append, matchTokens_chars, matchTokens_anyText, and_true]
  constructor
  · rintro ⟨u, _, rfl, v, w, rfl, hv⟩
    exact ⟨u.map fold, w.map fold, by simp [hv]⟩
  · rintro ⟨u', w', h⟩
    obtain ⟨u, rest, rfl, rfl, hrest⟩ := List.map_eq_append_iff.1 (List.append_assoc _ _ _ ▸ h.symm)
    obtain ⟨v, w, rfl, hv, rfl⟩ := List.map_eq_append_iff.1 hrest
    exact ⟨u, v ++ w, rfl, v, w, rfl, hv⟩

/-! ### Escaped texts -/

lemma tokens_cons (h : c ≠ '\\' ∧ c ≠ '%' ∧ c ≠ '_') (s : List Char) :
    tokens (c :: s) = (tokens s).map (.char c :: ·) := by
  rw [tokens]
  · exact h.2.1
  · exact h.2.2
  · exact fun d pattern heq _ => h.1 heq
  · exact fun heq _ => h.1 heq

lemma tokens_escapeChar : tokens (escapeChar c ++ s) = (tokens s).map (.char c :: ·) := by
  unfold escapeChar
  split
  · rfl
  · next h =>
      simp only [not_or] at h
      exact tokens_cons h s

/-- An escaped text is read as its characters. -/
lemma tokens_escape (s pattern : List Char) :
    tokens (escape s ++ pattern) = (tokens pattern).map (s.map .char ++ ·) := by
  induction s with
  | nil => simp [escape]
  | cons c s ih =>
      rw [escape, List.flatMap_cons, List.append_assoc, tokens_escapeChar, ← escape, ih,
        Option.map_map]
      rfl

lemma escape_of_noSpecial (h : NoSpecial s) : escape s = s := by
  induction s with
  | nil => rfl
  | cons c s ih =>
      obtain ⟨hc, hs⟩ := List.forall_mem_cons.1 h
      have hchar : escapeChar c = [c] := if_neg (by simpa only [not_or] using hc)
      rw [escape, List.flatMap_cons, hchar, ← escape, ih hs, List.singleton_append]

lemma tokens_append_of_noSpecial (h : NoSpecial s) (pattern : List Char) :
    tokens (s ++ pattern) = (tokens pattern).map (s.map .char ++ ·) := by
  rw [← tokens_escape, escape_of_noSpecial h]

/-- The search for an escaped text is literal. -/
theorem like_escape_iff (fold : Char → Char) (s text : String) :
    like fold ("%" ++ String.ofList (escape s.toList) ++ "%") text = true ↔
      Contains fold s text := by
  have htokens : tokens ("%" ++ String.ofList (escape s.toList) ++ "%").toList =
      some (.anyText :: (s.toList.map .char ++ [.anyText])) := by
    simp only [String.toList_append, String.toList_ofList]
    change (tokens (escape s.toList ++ ['%'])).map (.anyText :: ·) = _
    rw [tokens_escape]
    rfl
  rw [like, htokens]
  exact matchTokens_between

/-- The search for a text without special characters is literal. -/
theorem like_between_iff {s : String} (h : NoSpecial s.toList) (fold : Char → Char)
    (text : String) : like fold ("%" ++ s ++ "%") text = true ↔ Contains fold s text := by
  rw [← like_escape_iff, escape_of_noSpecial h, String.ofList_toList]

/-! ### Special characters -/

/-- The shortest text that a pattern stands for, with a character for each `_`. -/
def instantiate (d : Char) : List Token → List Char
  | [] => []
  | .anyText :: p => instantiate d p
  | .anyChar :: p => d :: instantiate d p
  | .char c :: p => c :: instantiate d p

variable (fold) in
lemma matchTokens_instantiate (d : Char) (p : List Token) :
    matchTokens fold p (instantiate d p) = true := by
  induction p with
  | nil => rfl
  | cons token p ih =>
      cases token with
      | anyText => exact anySuffix_iff.2 ⟨[], _, rfl, ih⟩
      | anyChar => exact ih
      | char c => simpa [matchTokens, instantiate] using ih

lemma instantiate_append (d : Char) (p q : List Token) :
    instantiate d (p ++ q) = instantiate d p ++ instantiate d q := by
  induction p with
  | nil => rfl
  | cons token p ih => cases token <;> simp [instantiate, ih]

/-- A character that starts neither an escape nor a wildcard. -/
lemma ne_escape (hescape : ∀ c' s', c = '\\' → s = c' :: s' → False)
    (hlast : c = '\\' → s = [] → False) : c ≠ '\\' := by
  rintro rfl
  cases s with
  | nil => exact hlast rfl rfl
  | cons c' s => exact hescape c' s rfl rfl

/-- A text is longer than what it stands for as a pattern, unless `_` is its only special
character. -/
lemma length_instantiate (d : Char) (h : tokens s = some p) :
    (instantiate d p).length < s.length ∨
      (∀ c ∈ s, c ≠ '\\' ∧ c ≠ '%') ∧
        instantiate d p = s.map fun c => if c = '_' then d else c := by
  induction s using tokens.induct generalizing p with
  | case1 =>
      obtain rfl := Option.some.inj h
      exact .inr ⟨by simp, rfl⟩
  | case2 s ih =>
      obtain ⟨q, hq, rfl⟩ := Option.map_eq_some_iff.1 h
      left
      rcases ih hq with hlt | ⟨-, heq⟩
      · exact hlt.trans (Nat.lt_succ_self _)
      · simp [instantiate, heq]
  | case3 s ih =>
      obtain ⟨q, hq, rfl⟩ := Option.map_eq_some_iff.1 h
      refine (ih hq).imp Nat.succ_lt_succ fun ⟨hs, heq⟩ => ⟨?_, by simp [instantiate, heq]⟩
      exact List.forall_mem_cons.2 ⟨by decide, hs⟩
  | case4 c s ih =>
      obtain ⟨q, hq, rfl⟩ := Option.map_eq_some_iff.1 h
      left
      rcases ih hq with hlt | ⟨-, heq⟩
      · exact Nat.succ_lt_succ (hlt.trans (Nat.lt_succ_self _))
      · simp [instantiate, heq]
  | case5 => cases h
  | case6 c s hpercent hunderscore hescape hlast ih =>
      have hc := ne_escape hescape hlast
      rw [tokens_cons ⟨hc, hpercent, hunderscore⟩] at h
      obtain ⟨q, hq, rfl⟩ := Option.map_eq_some_iff.1 h
      refine (ih hq).imp Nat.succ_lt_succ fun ⟨hs, heq⟩ => ⟨?_, ?_⟩
      · exact List.forall_mem_cons.2 ⟨⟨hc, hpercent⟩, hs⟩
      · rw [instantiate, heq, List.map_cons, if_neg hunderscore]

/-- The last `%` of a pattern is a wildcard, or it is escaped by what comes before it. -/
def LastIsRead (s : List Char) : Prop :=
  (∃ p, tokens s = some p ∧ tokens (s ++ ['%']) = some (p ++ [.anyText])) ∨
    (∃ u, s = u ++ ['\\']) ∧ ∃ p, tokens (s ++ ['%']) = some (p ++ [.char '%'])

/-- What is read before does not change that. -/
lemma LastIsRead.append (cs : List Char) {token : Token}
    (hread : ∀ t, tokens (cs ++ t) = (tokens t).map (token :: ·)) (h : LastIsRead s) :
    LastIsRead (cs ++ s) := by
  rcases h with ⟨p, hs, hp⟩ | ⟨⟨u, rfl⟩, p, hp⟩
  · refine .inl ⟨token :: p, by rw [hread, hs]; rfl, ?_⟩
    rw [List.append_assoc, hread, hp]
    rfl
  · refine .inr ⟨⟨cs ++ u, (List.append_assoc cs u _).symm⟩, token :: p, ?_⟩
    rw [List.append_assoc, hread, hp]
    rfl

lemma lastIsRead (s : List Char) : LastIsRead s := by
  induction s using tokens.induct with
  | case1 => exact .inl ⟨[], rfl, rfl⟩
  | case2 s ih => exact ih.append ['%'] fun _ => rfl
  | case3 s ih => exact ih.append ['_'] fun _ => rfl
  | case4 c s ih => exact ih.append ['\\', c] fun _ => rfl
  | case5 => exact .inr ⟨⟨[], rfl⟩, [], rfl⟩
  | case6 c s hpercent hunderscore hescape hlast ih =>
      have hc := ne_escape hescape hlast
      exact ih.append [c] fun t => tokens_cons ⟨hc, hpercent, hunderscore⟩ t

/-- If the search for a text is literal, the text has no special character, as long as the
folding tells them from other characters. -/
theorem noSpecial_of_like_between_iff {s : String} {d : Char} (hd : fold d ≠ fold '_')
    (hfold : fold '\\' ≠ fold '%')
    (h : ∀ text, like fold ("%" ++ s ++ "%") text = true ↔ Contains fold s text) :
    NoSpecial s.toList := by
  have htokens : ∀ q, tokens (s.toList ++ ['%']) = some q → ∀ text : List Char,
      matchTokens fold (.anyText :: q) text = true ↔ s.toList.map fold <:+: text.map fold := by
    intro q hq text
    have htokens : tokens ("%" ++ s ++ "%").toList = some (.anyText :: q) := by
      rw [String.toList_append, String.toList_append]
      exact congrArg (Option.map _) hq
    have htext := h (String.ofList text)
    rwa [like, htokens, Contains, String.toList_ofList] at htext
  rcases lastIsRead s.toList with ⟨p, hs, hp⟩ | ⟨⟨u, hu⟩, p, hp⟩
  · -- the shortest text that matches is too short, or `_` is replaced in it
    have hmatch := matchTokens_instantiate fold d (.anyText :: (p ++ [.anyText]))
    have hinfix := (htokens _ hp _).1 hmatch
    rw [instantiate, instantiate_append, instantiate, instantiate, List.append_nil] at hinfix
    have hle : s.toList.length ≤ (instantiate d p).length := by simpa using hinfix.length_le
    obtain ⟨hs, heq⟩ := (length_instantiate d hs).resolve_left hle.not_gt
    have hmap := hinfix.eq_of_length (by simp [heq])
    rw [heq, List.map_map] at hmap
    refine fun c hc => ⟨(hs c hc).1, (hs c hc).2, ?_⟩
    rintro rfl
    have hchar := List.map_inj_left.1 hmap '_' hc
    rw [Function.comp_apply, if_pos rfl] at hchar
    exact hd hchar.symm
  · -- the text itself does not end with a `%`
    have hmatch := (htokens _ hp s.toList).2 (List.infix_refl _)
    rw [← List.cons_append, matchTokens_append] at hmatch
    obtain ⟨a, b, hab, -, hb⟩ := hmatch
    have hlast := (matchTokens_chars (s := ['%'])).1 hb
    obtain ⟨x, rfl, hx⟩ := List.map_eq_singleton_iff.1 hlast
    obtain rfl : x = '\\' :=
      List.singleton_inj.1 (List.append_inj_right' (hab.symm.trans hu) rfl)
    exact absurd hx hfold

end Like
