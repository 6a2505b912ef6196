/-
JSON texts as encoders write them.

An encoder chooses how to write each character of a string: as it is, or as one of the
escapes that a decoder reads back.
-/
import CallLogd.Lib.Json
import Mathlib.Data.List.Basic

namespace Json

/-- The ways to write a character of a string. -/
inductive Writes : Char → List Char → Prop
  | plain (c : Char) (hquote : c ≠ '"') (hbackslash : c ≠ '\\') (hcontrol : 32 ≤ c.toNat) :
      Writes c [c]
  | short (c d : Char) (h : simpleEscape d = some c) : Writes c ['\\', d]
  | code (c : Char) (digits : List Char) (h : hex4 digits = some (c.toNat, [])) :
      Writes c ('\\' :: 'u' :: digits)
  | pair (c : Char) (hiDigits loDigits : List Char) (hi lo : ℕ)
      (hhi : hex4 hiDigits = some (hi, [])) (hlo : hex4 loDigits = some (lo, []))
      (hrange : 0xd800 ≤ hi ∧ hi < 0xdc00 ∧ 0xdc00 ≤ lo ∧ lo < 0xe000)
      (hc : c.toNat = 0x10000 + (hi - 0xd800) * 0x400 + (lo - 0xdc00)) :
      Writes c ('\\' :: 'u' :: hiDigits ++ '\\' :: 'u' :: loDigits)

/-- What is written for each character.  The printable ASCII characters that need no escape
are written as they are. -/
structure Encoder where
  escape : Char → List Char
  writes : ∀ c, Writes c (escape c)
  keeps : ∀ c, 32 ≤ c.toNat → c.toNat < 127 → c ∉ ['"', '\\', '/'] → escape c = [c]

/-- What is written for the characters of a string. -/
def Encoder.encode (e : Encoder) (s : List Char) : List Char := s.flatMap e.escape

/-- The object with one string field, with or without a blank before the string. -/
def Encoder.objectText (e : Encoder) (blank : Bool) (key text : List Char) : List Char :=
  ['\x7b', '"'] ++ e.encode key ++ ['"', ':'] ++ (if blank then [' '] else []) ++ ['"'] ++
    e.encode text ++ ['"', '\x7d']

/-- The characters of escapes. -/
def EscapeChar (c : Char) : Prop :=
  c ∈ ['\\', '"', '/', 'b', 'f', 'n', 'r', 't', 'u'] ∨ (hexValue c).isSome

instance (c : Char) : Decidable (EscapeChar c) := inferInstanceAs (Decidable (_ ∨ _))

section Writes

variable {c : Char} {w s : List Char}

lemma hex4_eq_some {digits rest : List Char} {n : ℕ} (h : hex4 digits = some (n, rest)) :
    ∃ a b c d, digits = a :: b :: c :: d :: rest ∧ (hexValue a).isSome ∧ (hexValue b).isSome ∧
      (hexValue c).isSome ∧ (hexValue d).isSome := by
  match digits, h with
  | a :: b :: c :: d :: s, h =>
    simp only [hex4, Option.bind_eq_bind, Option.bind_eq_some_iff, Option.some.injEq,
      Prod.mk.injEq] at h
    obtain ⟨va, ha, vb, hb, vc, hc, vd, hd, -, rfl⟩ := h
    exact ⟨a, b, c, d, rfl, by simp [ha], by simp [hb], by simp [hc], by simp [hd]⟩

lemma hex4_append {digits : List Char} {n : ℕ} (h : hex4 digits = some (n, [])) (s : List Char) :
    hex4 (digits ++ s) = some (n, s) := by
  obtain ⟨a, b, c, d, rfl, -⟩ := hex4_eq_some h
  simp only [hex4, Option.bind_eq_bind, Option.bind_eq_some_iff, Option.some.injEq,
    Prod.mk.injEq] at h
  obtain ⟨va, ha, vb, hb, vc, hc, vd, hd, rfl, -⟩ := h
  simp [hex4, ha, hb, hc, hd]

lemma escapeChar_of_simpleEscape {d : Char} (h : simpleEscape d = some c) : EscapeChar d := by
  unfold simpleEscape at h
  split at h
  all_goals cases h
  all_goals decide

/-- A character is written as it is, or as an escape. -/
lemma Writes.cases_escape (h : Writes c w) :
    w = [c] ∧ c ≠ '"' ∧ c ≠ '\\' ∧ 32 ≤ c.toNat ∨
      ∃ v, w = '\\' :: v ∧ v ≠ [] ∧ ∀ d ∈ v, EscapeChar d := by
  cases h with
  | plain hquote hbackslash hcontrol => exact Or.inl ⟨rfl, hquote, hbackslash, hcontrol⟩
  | short d h =>
    refine Or.inr ⟨[d], rfl, List.cons_ne_nil _ _, fun a ha => ?_⟩
    rw [List.mem_singleton.1 ha]
    exact escapeChar_of_simpleEscape h
  | code digits h =>
    obtain ⟨a, b, c, d, rfl, ha, hb, hc, hd⟩ := hex4_eq_some h
    refine Or.inr ⟨_, rfl, List.cons_ne_nil _ _, ?_⟩
    have hu : EscapeChar 'u' := by decide
    simpa using ⟨hu, Or.inr ha, Or.inr hb, Or.inr hc, Or.inr hd⟩
  | pair hiDigits loDigits hi lo hhi hlo =>
    obtain ⟨a, b, c, d, rfl, ha, hb, hc, hd⟩ := hex4_eq_some hhi
    obtain ⟨a', b', c', d', rfl, ha', hb', hc', hd'⟩ := hex4_eq_some hlo
    refine Or.inr ⟨_, rfl, List.cons_ne_nil _ _, ?_⟩
    have hu : EscapeChar 'u' := by decide
    have hbackslash : EscapeChar '\\' := by decide
    simpa using ⟨hu, Or.inr ha, Or.inr hb, Or.inr hc, Or.inr hd, hbackslash, hu, Or.inr ha',
      Or.inr hb', Or.inr hc', Or.inr hd'⟩

lemma surrogatePair_eq_none (c : Char) (s : List Char) : surrogatePair c.toNat s = none := by
  have hvalid : c.toNat < 0xd800 ∨ 0xdfff < c.toNat ∧ c.toNat < 0x110000 := c.valid
  unfold surrogatePair
  split
  · split
    · exact if_neg (by omega)
    · rfl
  · rfl

/-- The reader of a string reads the character back. -/
lemma Writes.parseChars_append (h : Writes c w) (fuel : ℕ) (acc s : List Char) :
    parseChars (fuel + 1) acc (w ++ s) = parseChars fuel (c :: acc) s := by
  cases h with
  | plain hquote hbackslash hcontrol =>
    have hread : ¬ (c = '\\' ∨ c.toNat < 32) := not_or.2 ⟨hbackslash, Nat.not_lt.2 hcontrol⟩
    rw [List.singleton_append, parseChars]
    · exact if_neg hread
    · exact hquote
    · exact fun _ hc _ => hbackslash hc
    · exact fun _ _ hc _ => hbackslash hc
  | short d h =>
    have hd : d ≠ 'u' := by
      rintro rfl
      cases h
    rw [List.cons_append, List.singleton_append, parseChars, h]
    exact hd
  | code digits h =>
    have hvalid : c.toNat < 0xd800 ∨ 0xdfff < c.toNat ∧ c.toNat < 0x110000 := c.valid
    have hrange : ¬ (0xd800 ≤ c.toNat ∧ c.toNat < 0xe000) := by omega
    simp only [List.cons_append, parseChars, hex4_append h, surrogatePair_eq_none, if_neg hrange,
      Char.ofNat_toNat]
  | pair hiDigits loDigits hi lo hhi hlo hrange hc =>
    have hpair : surrogatePair hi ('\\' :: 'u' :: (loDigits ++ s)) = some (c, s) := by
      simp only [surrogatePair, hex4_append hlo, if_pos hrange, ← hc, Char.ofNat_toNat]
    simp only [List.cons_append, List.append_assoc, parseChars, hex4_append hhi, hpair]

/-- A quotation mark is written for a quotation mark only. -/
lemma Writes.count_quote (h : Writes c w) : w.count '"' ≤ [c].count '"' := by
  have hdigit : ∀ d, (hexValue d).isSome → d ≠ '"' := by
    rintro d hd rfl
    revert hd
    decide
  cases h with
  | plain => exact le_rfl
  | short d h =>
    by_cases hd : d = '"'
    · subst hd
      cases h
      decide
    · simp [hd]
  | code digits h =>
    obtain ⟨a, b, c, d, rfl, ha, hb, hc, hd⟩ := hex4_eq_some h
    simp [hdigit a ha, hdigit b hb, hdigit c hc, hdigit d hd]
  | pair hiDigits loDigits hi lo hhi hlo =>
    obtain ⟨a, b, c, d, rfl, ha, hb, hc, hd⟩ := hex4_eq_some hhi
    obtain ⟨a', b', c', d', rfl, ha', hb', hc', hd'⟩ := hex4_eq_some hlo
    simp [hdigit a ha, hdigit b hb, hdigit c hc, hdigit d hd, hdigit a' ha', hdigit b' hb',
      hdigit c' hc', hdigit d' hd']

end Writes

namespace Encoder

variable {e : Encoder} {c : Char} {s t w : List Char}

lemma encode_nil : e.encode [] = [] := rfl

lemma encode_cons : e.encode (c :: s) = e.escape c ++ e.encode s := List.flatMap_cons

lemma encode_append : e.encode (s ++ t) = e.encode s ++ e.encode t := List.flatMap_append

/-- A character is written as it is, or as an escape. -/
lemma escape_cases (e : Encoder) (c : Char) :
    e.escape c = [c] ∨
      ∃ v, e.escape c = '\\' :: v ∧ v ≠ [] ∧ ∀ d ∈ '\\' :: v, EscapeChar d := by
  rcases (e.writes c).cases_escape with ⟨hplain, -⟩ | ⟨v, hv, hne, hescape⟩
  · exact Or.inl hplain
  · exact Or.inr ⟨v, hv, hne, List.forall_mem_cons.2 ⟨by decide, hescape⟩⟩

lemma length_le_length_encode (e : Encoder) (s : List Char) : s.length ≤ (e.encode s).length := by
  induction s with
  | nil => exact Nat.zero_le _
  | cons c s ih =>
    rw [encode_cons, List.length_append, List.length_cons]
    rcases escape_cases e c with hplain | ⟨v, hv, -⟩
    · rw [hplain, List.length_singleton]
      omega
    · rw [hv, List.length_cons]
      omega

/-- The characters are written as they are. -/
def Plain (e : Encoder) (s : List Char) : Prop := ∀ c ∈ s, e.escape c = [c]

lemma encode_eq_self_iff : e.encode s = s ↔ e.Plain s := by
  induction s with
  | nil => exact iff_of_true rfl (by simp [Plain])
  | cons c s ih =>
    rw [Plain, List.forall_mem_cons, ← Plain, ← ih, encode_cons]
    rcases escape_cases e c with hplain | ⟨v, hv, hne, -⟩
    · simp [hplain]
    · -- an escape is longer than its character
      have hlength := length_le_length_encode e s
      have hpos := List.length_pos_iff.2 hne
      constructor
      · intro h
        have := congrArg List.length h
        rw [hv, List.length_append, List.length_cons, List.length_cons] at this
        omega
      · rintro ⟨hplain, -⟩
        rw [hv] at hplain
        exact absurd (List.cons.inj hplain).2 hne

lemma encode_of_printable (h : ∀ c ∈ s, 32 ≤ c.toNat ∧ c.toNat < 127 ∧ c ∉ ['"', '\\', '/']) :
    e.encode s = s :=
  encode_eq_self_iff.2 fun c hc => e.keeps c (h c hc).1 (h c hc).2.1 (h c hc).2.2

/-- A quotation mark is never written as it is. -/
lemma Plain.notMem_quote (h : e.Plain s) : '"' ∉ s := by
  intro hmem
  rcases (e.writes '"').cases_escape with ⟨-, hquote, -⟩ | ⟨v, hv, -⟩
  · exact hquote rfl
  · cases (h _ hmem).symm.trans hv

/-- The characters of the encoding are those of the text, and those of escapes. -/
lemma mem_encode {d : Char} (h : d ∈ e.encode s) :
    EscapeChar d ∨ d ∈ s ∧ d ≠ '"' ∧ 32 ≤ d.toNat := by
  obtain ⟨c, hc, hd⟩ := List.mem_flatMap.1 h
  rcases (e.writes c).cases_escape with ⟨hplain, hquote, -, hcontrol⟩ | ⟨v, hv, -, hescape⟩
  · rw [hplain, List.mem_singleton] at hd
    subst hd
    exact Or.inr ⟨hc, hquote, hcontrol⟩
  · rw [hv] at hd
    rcases List.mem_cons.1 hd with rfl | hd
    · exact Or.inl (by decide)
    · exact Or.inl (hescape d hd)

lemma count_quote_encode : (e.encode s).count '"' ≤ s.count '"' := by
  induction s with
  | nil => exact le_rfl
  | cons c s ih =>
    rw [encode_cons, List.count_append, ← List.singleton_append, List.count_append]
    exact Nat.add_le_add (e.writes c).count_quote ih

lemma prefix_of_prefix_encode (hw : ∀ d ∈ w, ¬ EscapeChar d) (h : w <+: e.encode s) :
    w <+: s := by
  induction w generalizing s with
  | nil => exact List.nil_prefix
  | cons d w ih =>
    obtain ⟨hd, hw⟩ := List.forall_mem_cons.1 hw
    cases s with
    | nil => exact absurd (List.prefix_nil.1 h) (List.cons_ne_nil _ _)
    | cons c s =>
      rw [encode_cons] at h
      rcases escape_cases e c with hplain | ⟨v, hv, -, hescape⟩
      · rw [hplain, List.singleton_append, List.cons_prefix_cons] at h
        exact List.cons_prefix_cons.2 ⟨h.1, ih hw h.2⟩
      · rw [hv, List.cons_append, List.cons_prefix_cons] at h
        exact absurd (h.1 ▸ hescape _ List.mem_cons_self) hd

/-- A text without characters of escapes occurs in the encoding only if it occurs in the
text. -/
lemma infix_of_infix_encode (hne : w ≠ []) (hw : ∀ d ∈ w, ¬ EscapeChar d)
    (h : w <:+: e.encode s) : w <:+: s := by
  have hskip : ∀ u t : List Char, (∀ d ∈ u, EscapeChar d) → w <:+: u ++ t → w <:+: t := by
    intro u t hu hocc
    induction u with
    | nil => exact hocc
    | cons a u ih =>
      obtain ⟨ha, hu⟩ := List.forall_mem_cons.1 hu
      rcases List.infix_cons_iff.1 hocc with hpre | hocc
      · obtain ⟨d, w', rfl⟩ := List.exists_cons_of_ne_nil hne
        obtain ⟨rfl, -⟩ := List.cons_prefix_cons.1 hpre
        exact absurd ha (hw d List.mem_cons_self)
      · exact ih hu hocc
  induction s with
  | nil => exact absurd (List.infix_nil.1 h) hne
  | cons c s ih =>
    rcases escape_cases e c with hplain | ⟨v, hv, -, hescape⟩
    · rw [encode_cons, hplain, List.singleton_append, List.infix_cons_iff] at h
      rcases h with hpre | hocc
      · have hencoded : w <+: e.encode (c :: s) := by rwa [encode_cons, hplain]
        exact (prefix_of_prefix_encode hw hencoded).isInfix
      · exact List.infix_cons (ih hocc)
    · rw [encode_cons, hv] at h
      exact List.infix_cons (ih (hskip _ _ hescape h))

/-- The encoding starts and ends as the text does, or with a character of an escape. -/
lemma head?_of_head?_encode {d : Char} (hd : ¬ EscapeChar d)
    (h : (e.encode s).head? = some d) : s.head? = some d := by
  cases s with
  | nil => cases h
  | cons c s =>
    rw [encode_cons] at h
    rcases escape_cases e c with hplain | ⟨v, hv, -, hescape⟩
    · rw [hplain] at h
      exact h
    · rw [hv] at h
      obtain rfl := Option.some.inj h
      exact absurd (hescape _ List.mem_cons_self) hd

lemma getLast?_of_getLast?_encode {d : Char} (hd : ¬ EscapeChar d)
    (h : (e.encode s).getLast? = some d) : s.getLast? = some d := by
  induction s using List.reverseRecOn with
  | nil => cases h
  | append_singleton s c _ =>
    rw [encode_append] at h
    have hlast : e.encode [c] = e.escape c := List.append_nil _
    rw [hlast, List.getLast?_append] at h
    rcases escape_cases e c with hplain | ⟨v, hv, -, hescape⟩
    · rw [hplain] at h
      simpa using h
    · have hsome : (e.escape c).getLast? = some d := by
        cases hlast : (e.escape c).getLast? with
        | none => simp [hv] at hlast
        | some d' => simpa [hlast] using h
      rw [hv] at hsome
      exact absurd (hescape d (List.mem_of_getLast? hsome)) hd

lemma parseChars_encode {fuel : ℕ} (hfuel : s.length < fuel) (acc rest : List Char) :
    parseChars fuel acc (e.encode s ++ '"' :: rest) = some (acc.reverse ++ s, rest) := by
  induction s generalizing fuel acc with
  | nil =>
    obtain ⟨fuel, rfl⟩ := Nat.exists_eq_add_of_lt hfuel
    simp [encode_nil, parseChars]
  | cons c s ih =>
    obtain ⟨fuel, rfl⟩ : ∃ f, fuel = f + 1 := ⟨fuel - 1, by omega⟩
    rw [encode_cons, List.append_assoc, (e.writes c).parseChars_append,
      ih (by simpa using hfuel), List.reverse_cons, List.append_assoc, List.singleton_append]

/-- A string is read to its end. -/
lemma parseString_encode (e : Encoder) (s rest : List Char) :
    parseString (e.encode s ++ '"' :: rest) = .ok (String.ofList s, rest) := by
  have hfuel : s.length < (e.encode s ++ '"' :: rest).length + 1 := by
    have hlength := length_le_length_encode e s
    rw [List.length_append]
    omega
  rw [parseString, parseChars_encode hfuel]
  rfl

/-- The text of an object is decoded to the object, where one container may be open. -/
theorem loads_objectText {limits : Limits} (hnesting : 0 < limits.nesting) (e : Encoder)
    (blank : Bool) (key text : List Char) :
    loads limits (String.ofList (e.objectText blank key text)) =
      .ok (.obj [(String.ofList key, .str (String.ofList text))]) := by
  obtain ⟨depth, hdepth⟩ : ∃ depth, limits.nesting = depth + 1 :=
    Nat.exists_eq_succ_of_ne_zero hnesting.ne'
  have hskip : ∀ s, skipBlanks ((if blank then [' '] else []) ++ '"' :: s) = '"' :: s := by
    intro s
    cases blank <;> rfl
  have hvalue : ∀ fuel rest,
      parseValue limits (fuel + 1) depth ('"' :: (e.encode text ++ '"' :: rest)) =
        .ok (.str (String.ofList text), rest) := by
    intro fuel rest
    rw [parseValue, parseString_encode]
    rfl
  have hfields : ∀ fuel, parseFields limits (fuel + 2) depth [] ('"' :: (e.encode key ++ '"' ::
      ':' :: ((if blank then [' '] else []) ++ '"' :: (e.encode text ++ ['"', '\x7d'])))) =
        .ok ([(String.ofList key, .str (String.ofList text))], []) := by
    intro fuel
    rw [parseFields, parseString_encode]
    have hcolon : ∀ s, skipBlanks (':' :: s) = ':' :: s := fun _ => rfl
    simp only [hcolon, hskip, hvalue]
    rfl
  have htext : e.objectText blank key text = '\x7b' :: '"' :: (e.encode key ++ '"' :: ':' ::
      ((if blank then [' '] else []) ++ '"' :: (e.encode text ++ ['"', '\x7d']))) := by
    simp [objectText]
  have hobject : ∀ fuel, parseValue limits (fuel + 3) limits.nesting
      (e.objectText blank key text) =
        .ok (.obj [(String.ofList key, .str (String.ofList text))], []) := by
    intro fuel
    have hopen : ∀ s, parseValue limits (fuel + 3) (depth + 1) ('\x7b' :: '"' :: s) =
        (parseFields limits (fuel + 2) depth [] ('"' :: s)).map fun r => (.obj r.1, r.2) := by
      intro s
      rw [parseValue]
      rfl
    rw [htext, hdepth, hopen, hfields]
    rfl
  have hbrace : skipBlanks (e.objectText blank key text) = e.objectText blank key text := by
    rw [htext]
    rfl
  obtain ⟨n, hn⟩ : ∃ n, (e.objectText blank key text).length = n + 1 := by
    rw [htext]
    exact ⟨_, rfl⟩
  have hfuel : 2 * (String.ofList (e.objectText blank key text)).length + 2 = 2 * n + 1 + 3 := by
    rw [String.length_ofList, hn]
    omega
  rw [loads, hfuel, String.toList_ofList, hbrace, hobject]
  rfl

end Encoder

/-! ### An encoder -/

/-- A hexadecimal digit. -/
def hexDigit (n : ℕ) : Char := "0123456789abcdef".toList.getD n '0'

/-- What has to be escaped is escaped, and nothing else. -/
def Encoder.minimal : Encoder where
  escape c :=
    if c = '"' ∨ c = '\\' then ['\\', c]
    else if c.toNat < 32 then
      ['\\', 'u', '0', '0', hexDigit (c.toNat / 16), hexDigit (c.toNat % 16)]
    else [c]
  writes c := by
    have hdigits : ∀ n < 32,
        hex4 ['0', '0', hexDigit (n / 16), hexDigit (n % 16)] = some (n, []) := by decide
    by_cases hshort : c = '"' ∨ c = '\\'
    · rw [if_pos hshort]
      rcases hshort with rfl | rfl
      · exact .short _ _ rfl
      · exact .short _ _ rfl
    · rw [if_neg hshort]
      by_cases hcontrol : c.toNat < 32
      · rw [if_pos hcontrol]
        exact .code c _ (hdigits _ hcontrol)
      · rw [if_neg hcontrol]
        exact .plain c (fun h => hshort (Or.inl h)) (fun h => hshort (Or.inr h))
          (Nat.not_lt.1 hcontrol)
  keeps c hcontrol _ hspecial := by
    simp only [List.mem_cons, not_or] at hspecial
    rw [if_neg (not_or.2 ⟨hspecial.1, hspecial.2.1⟩), if_neg (Nat.not_lt.2 hcontrol)]

end Json
