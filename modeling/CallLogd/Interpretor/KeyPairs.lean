/-
Sequences of key pairs, and how they are read back.

The parser finds the keys by a pattern and takes the values as the texts in between.  The
pattern never backtracks into a key, so the keys can be found from left to right; the
positions of the matches then give way to the pieces of the text.
-/
import CallLogd.Interpretor.Payload

namespace CallLogd

open Regex

/-- `str.isalnum` on ASCII, and on white space. -/
structure Externals.LawfulAlnum (x : Externals) : Prop where
  ascii : ∀ c : Char, c.toNat < 128 → x.isAlnum c = c.isAlphanum
  space : ∀ c, Text.isSpace c = true → x.isAlnum c = false

variable {x : Externals}

/-! ### Keys -/

/-- The class `\w`. -/
def isWord (x : Externals) (c : Char) : Bool := x.isAlnum c || c == '_'

lemma isWord_comma (hx : x.LawfulAlnum) : isWord x ',' = false := by
  rw [isWord, hx.ascii ',' (by decide)]
  decide

lemma isWord_colon (hx : x.LawfulAlnum) : isWord x ':' = false := by
  rw [isWord, hx.ascii ':' (by decide)]
  decide

lemma isWord_of_isSpace (hx : x.LawfulAlnum) {c : Char} (hc : Text.isSpace c = true) :
    isWord x c = false := by
  rw [isWord, hx.space c hc, Bool.false_or, beq_eq_false_iff_ne]
  rintro rfl
  revert hc
  decide

/-- The key at the start of a text, and what follows its colon. -/
def keyAt (x : Externals) (s : List Char) : Option (List Char × List Char) :=
  if s.takeWhile (isWord x) ≠ [] ∧ (s.dropWhile (isWord x)).head? = some ':' then
    some (s.takeWhile (isWord x), (s.dropWhile (isWord x)).tail)
  else none

/-- The key after the comma at the start of a text. -/
def separatedKeyAt (x : Externals) (s : List Char) : Option (List Char × List Char) :=
  if s.head? = some ',' then keyAt x (s.tail.dropWhile Text.isSpace) else none

lemma take_takeWhile {α : Type*} (p : α → Bool) (s : List α) :
    s.take (s.length - (s.dropWhile p).length) = s.takeWhile p := by
  have hlength := congrArg List.length (List.takeWhile_append_dropWhile (p := p) (l := s))
  rw [List.length_append] at hlength
  have htake : s.length - (s.dropWhile p).length = (s.takeWhile p).length := by omega
  calc s.take (s.length - (s.dropWhile p).length)
      = (s.takeWhile p ++ s.dropWhile p).take (s.takeWhile p).length := by
        rw [htake, List.takeWhile_append_dropWhile]
    _ = s.takeWhile p := List.take_left

section Run

variable {β : Type*}

/-- The continuation after a key. -/
def afterKey (k : Cont β) (caps : Captures) (found : List Char × List Char) : Option β :=
  k false found.2 ((1, found.1) :: caps)

lemma run_key (hx : x.LawfulAlnum) (start : Bool) (s : List Char) (caps : Captures) (k : Cont β) :
    run (seq (group 1 (many1 (isWord x))) (cls (· == ':'))) start s caps k =
      (keyAt x s).bind (afterKey k caps) := by
  rw [run, run, run_many1_eq]
  · unfold keyAt
    by_cases hempty : s.takeWhile (isWord x) = []
    · simp [hempty]
    · rw [if_neg hempty, take_takeWhile]
      cases hrest : s.dropWhile (isWord x) with
      | nil => simp [run]
      | cons c rest => by_cases hc : c = ':' <;> simp [run, hc, hempty, afterKey]
  · -- a colon is no character of a key
    intro b c s hc
    have hne : c ≠ ':' := by
      rintro rfl
      exact absurd ((isWord_colon hx).symm.trans hc) Bool.false_ne_true
    simp [run, hne]

lemma run_keyPairKeyRegex (hx : x.LawfulAlnum) (start : Bool) (s : List Char) (caps : Captures)
    (k : Cont β) : run (keyPairKeyRegex x) start s caps k =
      (if start then (keyAt x s).bind (afterKey k caps) else none).or
        ((separatedKeyAt x s).bind (afterKey k caps)) := by
  have hkey := fun b s => run_key hx b s caps k
  unfold keyPairKeyRegex
  rw [run, run]
  congr 1
  · rw [run]
    split
    · exact hkey _ _
    · rfl
  · rw [run]
    cases s with
    | nil => rfl
    | cons c s =>
      rw [run, separatedKeyAt]
      by_cases hc : c = ','
      · have hhead : (c :: s).head? = some ',' := congrArg some hc
        rw [if_pos (beq_iff_eq.2 hc), if_pos hhead, run, runMany_eq]
        · exact hkey _ _
        · -- a key does not start with white space
          intro b c s hspace
          refine (hkey b (c :: s)).trans ?_
          rw [keyAt, List.takeWhile_cons_of_neg (by simp [isWord_of_isSpace hx hspace])]
          rfl
      · rw [if_neg (by simpa using hc), if_neg (by simpa using hc)]
        rfl

end Run

lemma length_of_keyAt {s key rest : List Char} (h : keyAt x s = some (key, rest)) :
    rest.length < s.length ∧ s.drop (s.length - rest.length) = rest := by
  unfold keyAt at h
  split at h
  · next hkey =>
    obtain ⟨rfl, rfl⟩ := Prod.mk.inj (Option.some.inj h)
    have hsplit := List.takeWhile_append_dropWhile (p := isWord x) (l := s)
    obtain ⟨rest, hrest⟩ := List.head?_eq_some_iff.1 hkey.2
    rw [hrest] at hsplit ⊢
    have hlength := congrArg List.length hsplit
    rw [List.length_append, List.length_cons] at hlength
    refine ⟨by rw [List.tail_cons]; omega, ?_⟩
    have hdrop : s.length - rest.length = (s.takeWhile (isWord x) ++ [':']).length := by
      rw [List.length_append, List.length_singleton]
      omega
    calc s.drop (s.length - rest.length)
        = (s.takeWhile (isWord x) ++ [':'] ++ rest).drop
            (s.takeWhile (isWord x) ++ [':']).length := by
          rw [hdrop, List.append_assoc, List.singleton_append, hsplit]
      _ = rest := List.drop_left
  · cases h

lemma length_of_separatedKeyAt {s key rest : List Char}
    (h : separatedKeyAt x s = some (key, rest)) :
    rest.length < s.length ∧ s.drop (s.length - rest.length) = rest := by
  unfold separatedKeyAt at h
  split at h
  · next hcomma =>
    obtain ⟨t, rfl⟩ := List.head?_eq_some_iff.1 hcomma
    obtain ⟨hlt, hdrop⟩ := length_of_keyAt h
    rw [List.tail_cons] at hlt hdrop
    have hsuffix := List.dropWhile_suffix (p := Text.isSpace) (l := t)
    have hlength := hsuffix.length_le
    obtain ⟨blanks, hblanks⟩ := hsuffix
    refine ⟨by rw [List.length_cons]; omega, ?_⟩
    have hsplit := congrArg List.length hblanks
    rw [List.length_append] at hsplit
    have hcount : (',' :: t).length - rest.length =
        (',' :: blanks).length + ((t.dropWhile Text.isSpace).length - rest.length) := by
      rw [List.length_cons, List.length_cons]
      omega
    calc (',' :: t).drop ((',' :: t).length - rest.length)
        = (',' :: blanks ++ t.dropWhile Text.isSpace).drop ((',' :: blanks).length +
            ((t.dropWhile Text.isSpace).length - rest.length)) := by
          rw [hcount, List.cons_append, hblanks]
      _ = (t.dropWhile Text.isSpace).drop ((t.dropWhile Text.isSpace).length - rest.length) :=
          List.drop_length_add_append _
      _ = rest := hdrop
  · cases h

/-! ### Pieces of a text -/

/-- The text up to the next key, and the keys after it with the texts that follow them;
`skip` characters of a key are left. -/
def pieces (x : Externals) : ℕ → List Char → List Char × List (List Char × List Char)
  | _, [] => ([], [])
  | skip + 1, _ :: s => pieces x skip s
  | 0, c :: s =>
      match separatedKeyAt x (c :: s) with
      | some (key, rest) =>
          let (value, later) := pieces x (s.length - rest.length) s
          ([], (key, value) :: later)
      | none =>
          let (value, later) := pieces x 0 s
          (c :: value, later)

lemma pieces_skip (skip : ℕ) (s : List Char) : pieces x skip s = pieces x 0 (s.drop skip) := by
  induction s generalizing skip with
  | nil => cases skip <;> rfl
  | cons c s ih =>
    cases skip with
    | zero => rfl
    | succ skip => rw [pieces, ih, List.drop_succ_cons]

lemma pieces_key {s key rest : List Char} (h : separatedKeyAt x s = some (key, rest)) :
    pieces x 0 s = ([], (key, (pieces x 0 rest).1) :: (pieces x 0 rest).2) := by
  obtain ⟨hlt, hdrop⟩ := length_of_separatedKeyAt h
  cases s with
  | nil => cases h
  | cons c s =>
    have hskip : (c :: s).length - rest.length = s.length - rest.length + 1 := by
      rw [List.length_cons] at hlt ⊢
      omega
    rw [hskip, List.drop_succ_cons] at hdrop
    rw [pieces, h]
    dsimp only
    rw [pieces_skip, hdrop]

/-- A text in which no key starts is part of the value. -/
lemma pieces_append {value tail : List Char}
    (h : ∀ c s, c :: s <:+ value → separatedKeyAt x (c :: s ++ tail) = none) :
    pieces x 0 (value ++ tail) = (value ++ (pieces x 0 tail).1, (pieces x 0 tail).2) := by
  induction value with
  | nil => rfl
  | cons c s ih =>
    have hrest := ih fun c' s' hsuffix => h c' s' (hsuffix.trans (List.suffix_cons c s))
    rw [List.cons_append, pieces, ← List.cons_append, h c s List.suffix_rfl, hrest]
    rfl

/-- The values as the parser trims them: the last one keeps its commas. -/
def trimPieces : List (List Char × List Char) → List (String × String)
  | [] => []
  | [(key, value)] => [(String.ofList key, String.ofList (Text.strip value))]
  | (key, value) :: p :: ps =>
      (String.ofList key, String.ofList ((Text.strip value).rdropWhile (· == ','))) ::
        trimPieces (p :: ps)

/-- After the start of the text a key is only found behind a comma. -/
lemma foundAt_keyPairKeyRegex (hx : x.LawfulAlnum) (s : List Char) {pos : ℕ} (hpos : 0 < pos) :
    foundAt (keyPairKeyRegex x) pos s = (separatedKeyAt x s).map fun found =>
      ⟨pos, pos + (s.length - found.2.length), [(1, found.1)]⟩ := by
  rw [foundAt, run_keyPairKeyRegex hx, if_neg (by simpa using hpos.ne'), Option.none_or]
  cases separatedKeyAt x s <;> rfl

/-- The parser reads the pieces: `m` is the last match, and the matches from `pos` on
follow it. -/
lemma keyPairValues_finditerFrom (hx : x.LawfulAlnum) (text : List Char) (m : Found)
    (skip pos : ℕ) (s : List Char) (hpos : 0 < pos) (hs : text.drop pos = s)
    (hstop : m.stop ≤ pos + skip) (hskip : 0 < skip → m.stop = pos + skip) :
    keyPairValues text (m :: finditerFrom (keyPairKeyRegex x) skip pos s) =
      trimPieces ((m.caps.get 1, (text.take pos).drop m.stop ++ (pieces x skip s).1) ::
        (pieces x skip s).2) := by
  induction s generalizing m skip pos with
  | nil =>
    have htake : text.take pos = text := List.take_of_length_le (List.drop_eq_nil_iff.1 hs)
    cases skip <;> simp [finditerFrom, pieces, keyPairValues, trimPieces, htake]
  | cons c s ih =>
    have hnext : text.drop (pos + 1) = s := by
      rw [← List.drop_drop, hs, List.drop_one, List.tail_cons]
    have htake : text.take (pos + 1) = text.take pos ++ [c] := by
      rw [List.take_add_one, ← List.head?_drop, hs]
      rfl
    -- up to a position no value is left after the end of a key
    have hnone : ∀ n stop, n ≤ stop → (text.take n).drop stop = [] := fun n stop hle =>
      List.drop_eq_nil_of_le ((List.length_take_le n text).trans hle)
    cases skip with
    | succ skip =>
      have hend := hskip (Nat.succ_pos skip)
      rw [finditerFrom, pieces, hnone pos m.stop (by omega), List.nil_append,
        ih m skip (pos + 1) (by omega) hnext (by omega) (fun _ => by omega),
        hnone (pos + 1) m.stop (by omega), List.nil_append]
    | zero =>
      rw [finditerFrom, foundAt_keyPairKeyRegex hx _ hpos, pieces]
      cases hkey : separatedKeyAt x (c :: s) with
      | none =>
        dsimp only [Option.map_none]
        rw [ih m 0 (pos + 1) (by omega) hnext (by omega) (fun h => absurd h (by omega)), htake,
          List.drop_append_of_le_length, List.append_assoc, List.singleton_append]
        rw [List.length_take_of_le]
        · exact hstop
        · have hlength := congrArg List.length hs
          rw [List.length_drop, List.length_cons] at hlength
          omega
      | some found =>
        obtain ⟨key, rest⟩ := found
        have hlt := (length_of_separatedKeyAt hkey).1
        rw [List.length_cons] at hlt
        dsimp only [Option.map_some]
        have hstop' : pos + ((c :: s).length - rest.length) =
            pos + 1 + (s.length - rest.length) := by
          rw [List.length_cons]
          omega
        have hskip' : pos + ((c :: s).length - rest.length) - pos - 1 =
            s.length - rest.length := by
          rw [List.length_cons]
          omega
        rw [keyPairValues, hskip', ih _ _ (pos + 1) (by omega) hnext hstop'.le fun _ => hstop',
          trimPieces, hnone (pos + 1) _ (by dsimp only; omega), List.nil_append, List.append_nil]
        rfl

/-- A text that starts with a key is read by pieces. -/
lemma parseKeyPairSequence_of_keyAt (hx : x.LawfulAlnum) {s key rest : List Char}
    (h : keyAt x s = some (key, rest)) : parseKeyPairSequence x (String.ofList s) =
      trimPieces ((key, (pieces x 0 rest).1) :: (pieces x 0 rest).2) := by
  obtain ⟨hlt, hdrop⟩ := length_of_keyAt h
  cases s with
  | nil => cases h
  | cons c s =>
    have hfound : foundAt (keyPairKeyRegex x) 0 (c :: s) =
        some ⟨0, 0 + ((c :: s).length - rest.length), [(1, key)]⟩ := by
      rw [foundAt, run_keyPairKeyRegex hx, h]
      rfl
    have hskip : (c :: s).length - rest.length = s.length - rest.length + 1 := by
      rw [List.length_cons] at hlt ⊢
      omega
    rw [hskip, List.drop_succ_cons] at hdrop
    rw [parseKeyPairSequence, String.toList_ofList, finditer, finditerFrom, hfound]
    dsimp only
    rw [hskip, keyPairValues_finditerFrom hx _ _ _ 1 s Nat.one_pos rfl (by dsimp only; omega)
      fun _ => by dsimp only; omega]
    have hnone : ((c :: s).take 1).drop (0 + (s.length - rest.length + 1)) = [] :=
      List.drop_eq_nil_of_le (by rw [List.length_take]; omega)
    have hcount : 0 + (s.length - rest.length + 1) - 0 - 1 = s.length - rest.length := by omega
    rw [hnone, List.nil_append, hcount, pieces_skip, hdrop]
    rfl

/-! ### Well-formed sequences -/

/-- A non-empty word. -/
def IsKey (x : Externals) (key : List Char) : Prop := key ≠ [] ∧ ∀ c ∈ key, isWord x c = true

def Blank (s : List Char) : Prop := ∀ c ∈ s, Text.isSpace c = true

/-- There is a comma, followed by optional blanks, a word and a colon. -/
def HasKey (x : Externals) (value : List Char) : Prop := ∃ before blanks key after,
  value = before ++ ',' :: (blanks ++ (key ++ ':' :: after)) ∧ Blank blanks ∧ IsKey x key

/-- A value that can be read back: no blanks at its ends, no comma at its end, and no key. -/
structure IsValue (x : Externals) (value : List Char) : Prop where
  head : ∀ c, value.head? = some c → Text.isSpace c = false
  last : ∀ c, value.getLast? = some c → Text.isSpace c = false ∧ c ≠ ','
  noKey : ¬ HasKey x value

lemma HasKey.of_suffix {s t : List Char} (hs : HasKey x s) (h : s <:+ t) : HasKey x t := by
  obtain ⟨before, blanks, key, after, rfl, hblanks, hkey⟩ := hs
  obtain ⟨t', rfl⟩ := h
  exact ⟨t' ++ before, blanks, key, after, (List.append_assoc _ _ _).symm, hblanks, hkey⟩

lemma HasKey.of_cons {c : Char} {s : List Char} (hc : c ≠ ',') (h : HasKey x (c :: s)) :
    HasKey x s := by
  obtain ⟨before, blanks, key, after, hsplit, hblanks, hkey⟩ := h
  cases before with
  | nil => exact absurd (List.cons.inj hsplit).1 hc
  | cons d before => exact ⟨before, blanks, key, after, (List.cons.inj hsplit).2, hblanks, hkey⟩

lemma keyAt_append (hx : x.LawfulAlnum) {key : List Char} (hkey : IsKey x key) (s : List Char) :
    keyAt x (key ++ ':' :: s) = some (key, s) := by
  have hcolon := isWord_colon hx
  have htake : (key ++ ':' :: s).takeWhile (isWord x) = key := by
    rw [List.takeWhile_append_of_pos hkey.2, List.takeWhile_cons_of_neg (by simp [hcolon]),
      List.append_nil]
  have hdrop : (key ++ ':' :: s).dropWhile (isWord x) = ':' :: s := by
    rw [List.dropWhile_append_of_pos hkey.2, List.dropWhile_cons_of_neg (by simp [hcolon])]
  rw [keyAt, htake, hdrop, if_pos ⟨hkey.1, rfl⟩, List.tail_cons]

lemma separatedKeyAt_append (hx : x.LawfulAlnum) {blanks key : List Char} (hblanks : Blank blanks)
    (hkey : IsKey x key) (s : List Char) :
    separatedKeyAt x (',' :: (blanks ++ (key ++ ':' :: s))) = some (key, s) := by
  obtain ⟨c, key', rfl⟩ := List.exists_cons_of_ne_nil hkey.1
  have hc : Text.isSpace c ≠ true := fun hspace => by
    have hword := hkey.2 c List.mem_cons_self
    rw [isWord_of_isSpace hx hspace] at hword
    cases hword
  rw [separatedKeyAt, List.head?_cons, if_pos rfl, List.tail_cons,
    List.dropWhile_append_of_pos hblanks, List.cons_append, List.dropWhile_cons_of_neg hc,
    ← List.cons_append]
  exact keyAt_append hx hkey s

lemma eq_of_keyAt {s key rest : List Char} (h : keyAt x s = some (key, rest)) :
    IsKey x key ∧ s = key ++ ':' :: rest := by
  unfold keyAt at h
  split at h
  · next hkey =>
    obtain ⟨rfl, rfl⟩ := Prod.mk.inj (Option.some.inj h)
    refine ⟨⟨hkey.1, fun c hc => List.mem_takeWhile_imp hc⟩, ?_⟩
    obtain ⟨rest, hrest⟩ := List.head?_eq_some_iff.1 hkey.2
    calc s = s.takeWhile (isWord x) ++ s.dropWhile (isWord x) :=
          List.takeWhile_append_dropWhile.symm
      _ = _ := by rw [hrest, List.tail_cons]
  · cases h

lemma eq_of_separatedKeyAt {s key rest : List Char} (h : separatedKeyAt x s = some (key, rest)) :
    ∃ blanks, Blank blanks ∧ IsKey x key ∧ s = ',' :: (blanks ++ (key ++ ':' :: rest)) := by
  unfold separatedKeyAt at h
  split at h
  · next hcomma =>
    obtain ⟨t, rfl⟩ := List.head?_eq_some_iff.1 hcomma
    obtain ⟨hkey, hrest⟩ := eq_of_keyAt h
    refine ⟨t.takeWhile Text.isSpace, fun c hc => List.mem_takeWhile_imp hc, hkey, ?_⟩
    rw [← hrest, List.tail_cons, List.takeWhile_append_dropWhile]
  · cases h

/-- A key that starts in a text ends in it, if a comma or nothing follows the text. -/
lemma separatedKeyAt_eq_none (hx : x.LawfulAlnum) {c : Char} {s tail : List Char}
    (htail : ∀ d, tail.head? = some d → d = ',') (hkey : ¬ HasKey x (c :: s)) :
    separatedKeyAt x (c :: s ++ tail) = none := by
  cases h : separatedKeyAt x (c :: s ++ tail) with
  | none => rfl
  | some found =>
    obtain ⟨blanks, hblanks, hword, hsplit⟩ := eq_of_separatedKeyAt h
    have hsplit' : (c :: s) ++ tail = ',' :: (blanks ++ (found.1 ++ [':'])) ++ found.2 := by
      rw [hsplit]
      simp
    rcases List.append_eq_append_iff.1 hsplit' with ⟨t, ht, htail'⟩ | ⟨t, hs, -⟩
    · cases t with
      | nil =>
        refine absurd ⟨[], blanks, found.1, [], ?_, hblanks, hword⟩ hkey
        rw [List.nil_append, ht, List.append_nil]
      | cons d t =>
        -- the match would go on over the comma
        obtain rfl := htail d (by rw [htail']; rfl)
        have hmem : ',' ∈ blanks ++ (found.1 ++ [':']) := by
          rw [(List.cons.inj ht).2]
          simp
        rcases List.mem_append.1 hmem with hmem | hmem
        · exact absurd (hblanks ',' hmem) (by decide)
        · rcases List.mem_append.1 hmem with hmem | hmem
          · exact absurd ((isWord_comma hx).symm.trans (hword.2 ',' hmem)) Bool.false_ne_true
          · exact absurd (List.mem_singleton.1 hmem) (by decide)
    · refine absurd ⟨[], blanks, found.1, t, ?_, hblanks, hword⟩ hkey
      rw [hs]
      simp

/-! ### Round trip -/

/-- A key and its value, as they are written. -/
def pairText (p : String × String) : List Char := p.1.toList ++ ':' :: ' ' :: p.2.toList

/-- A sequence of key pairs, as it is written; each pair but the first comes with the blanks
between the comma and the key. -/
def sequenceText : String × String → List (String × String × String) → List Char
  | p, [] => pairText p
  | p, (blanks, q) :: ps => pairText p ++ ',' :: (blanks.toList ++ sequenceText q ps)

def IsPair (x : Externals) (p : String × String) : Prop :=
  IsKey x p.1.toList ∧ IsValue x p.2.toList

lemma strip_value {value : List Char} (h : IsValue x value) :
    Text.strip (' ' :: value) = value := by
  have hleft : (' ' :: value).dropWhile Text.isSpace = value := by
    rw [List.dropWhile_cons_of_pos (by decide)]
    cases value with
    | nil => rfl
    | cons c value => exact List.dropWhile_cons_of_neg (by simp [h.head c rfl])
  rw [Text.strip, Text.stripBy, hleft, List.rdropWhile_eq_self_iff]
  intro hne
  simp [(h.last _ (List.getLast?_eq_some_getLast hne)).1]

lemma trim_value {value : List Char} (h : IsValue x value) :
    (Text.strip (' ' :: value)).rdropWhile (· == ',') = value := by
  rw [strip_value h, List.rdropWhile_eq_self_iff]
  intro hne
  simpa using (h.last _ (List.getLast?_eq_some_getLast hne)).2

/-- The pieces after a key reach to the end of its value. -/
lemma pieces_value (hx : x.LawfulAlnum) {value tail : List Char} (h : ¬ HasKey x value)
    (htail : ∀ d, tail.head? = some d → d = ',') : pieces x 0 (' ' :: value ++ tail) =
      (' ' :: value ++ (pieces x 0 tail).1, (pieces x 0 tail).2) :=
  pieces_append fun _ _ hsuffix => separatedKeyAt_eq_none hx htail fun hkey =>
    h ((hkey.of_suffix hsuffix).of_cons (by decide))

/-- What the parser reads of a pair and the text that follows. -/
lemma parse_pairText_append (hx : x.LawfulAlnum) {p : String × String}
    (hkey : IsKey x p.1.toList) (hvalue : ¬ HasKey x p.2.toList) {tail : List Char}
    (htail : ∀ d, tail.head? = some d → d = ',') :
    parseKeyPairSequence x (String.ofList (pairText p ++ tail)) =
      trimPieces ((p.1.toList, ' ' :: p.2.toList ++ (pieces x 0 tail).1) ::
        (pieces x 0 tail).2) := by
  have hfirst : keyAt x (pairText p ++ tail) = some (p.1.toList, ' ' :: p.2.toList ++ tail) := by
    rw [pairText, List.append_assoc]
    exact keyAt_append hx hkey _
  rw [parseKeyPairSequence_of_keyAt hx hfirst, pieces_value hx hvalue htail]

/-- The first pair of a sequence is read by itself, and so are the others. -/
lemma parse_pairText_cons (hx : x.LawfulAlnum) {p : String × String} (hp : IsPair x p)
    {blanks key rest : List Char} (hblanks : Blank blanks) (hkey : IsKey x key) :
    parseKeyPairSequence x
        (String.ofList (pairText p ++ ',' :: (blanks ++ (key ++ ':' :: rest)))) =
      p :: parseKeyPairSequence x (String.ofList (key ++ ':' :: rest)) := by
  rw [parse_pairText_append hx hp.1 hp.2.noKey (by simp),
    pieces_key (separatedKeyAt_append hx hblanks hkey rest), List.append_nil, trimPieces,
    parseKeyPairSequence_of_keyAt hx (keyAt_append hx hkey rest), trim_value hp.2,
    String.ofList_toList, String.ofList_toList]

/-- The same with a comma only, whatever follows the key of the second pair. -/
lemma parse_pairText_comma (hx : x.LawfulAlnum) {p q : String × String} (hp : IsPair x p)
    (hq : IsKey x q.1.toList) (tail : List Char) :
    parseKeyPairSequence x (String.ofList (pairText p ++ ',' :: (pairText q ++ tail))) =
      p :: parseKeyPairSequence x (String.ofList (pairText q ++ tail)) := by
  have hsplit : pairText q ++ tail = q.1.toList ++ ':' :: (' ' :: q.2.toList ++ tail) :=
    List.append_assoc _ _ _
  have hblank : Blank [] := fun _ h => absurd h List.not_mem_nil
  rw [hsplit, ← parse_pairText_cons hx hp hblank hq, List.nil_append]

/-- A well-formed sequence is read back pair by pair. -/
theorem parseKeyPairSequence_sequenceText (x : Externals) (hx : x.LawfulAlnum)
    (p : String × String) (ps : List (String × String × String)) (hp : IsPair x p)
    (hps : ∀ q ∈ ps, Blank q.1.toList ∧ IsPair x q.2) :
    parseKeyPairSequence x (String.ofList (sequenceText p ps)) = p :: ps.map Prod.snd := by
  induction ps generalizing p with
  | nil =>
    have hlast := parse_pairText_append hx hp.1 hp.2.noKey
      fun d (hd : ([] : List Char).head? = some d) => by cases hd
    rw [List.append_nil] at hlast
    rw [sequenceText, hlast, pieces, List.append_nil, trimPieces, strip_value hp.2]
    simp
  | cons q ps ih =>
    obtain ⟨blanks, q⟩ := q
    obtain ⟨hblanks, hq⟩ := hps (blanks, q) List.mem_cons_self
    -- the rest starts with the key of `q`
    have hrest : ∃ rest, sequenceText q ps = q.1.toList ++ ':' :: rest := by
      cases ps with
      | nil => exact ⟨_, rfl⟩
      | cons r ps => exact ⟨_, List.append_assoc _ _ _⟩
    obtain ⟨rest, hrest⟩ := hrest
    have hlater := ih q hq fun r hr => hps r (List.mem_cons_of_mem _ hr)
    rw [sequenceText, hrest, parse_pairText_cons hx hp hblanks hq.1, ← hrest, hlater,
      List.map_cons]

lemma lawfulAlnum_ascii : Externals.ascii.LawfulAlnum := by
  refine ⟨fun _ _ => rfl, fun c hc => ?_⟩
  have hascii : c.isAlphanum = true → 48 ≤ c.toNat ∧ c.toNat ≤ 122 := by
    have hranges : c.isAlphanum = ((decide (c.val ≥ 65 ∧ c.val ≤ 90) ||
        (decide (c.val ≥ 97) && decide (c.val ≤ 122))) ||
          (decide (c.val ≥ 48) && decide (c.val ≤ 57))) := rfl
    rw [hranges]
    simp only [Bool.or_eq_true, Bool.and_eq_true, decide_eq_true_eq, ge_iff_le,
      UInt32.le_iff_toNat_le]
    intro h
    rcases h with (⟨h₁, h₂⟩ | ⟨h₁, h₂⟩) | ⟨h₁, h₂⟩
    all_goals simp at h₁ h₂; omega
  simp only [Text.isSpace, Bool.or_eq_true, Bool.and_eq_true, decide_eq_true_eq, beq_iff_eq] at hc
  rw [Externals.ascii, Bool.eq_false_iff]
  intro halnum
  have := hascii halnum
  omega

lemma hasKey_iff (hx : x.LawfulAlnum) {value : List Char} :
    HasKey x value ↔ ∃ s ∈ value.tails, (separatedKeyAt x s).isSome := by
  constructor
  · rintro ⟨before, blanks, key, after, rfl, hblanks, hkey⟩
    refine ⟨_, (List.mem_tails _ _).2 (List.suffix_append before _), ?_⟩
    rw [separatedKeyAt_append hx hblanks hkey]
    rfl
  · rintro ⟨s, hs, hfound⟩
    obtain ⟨⟨key, after⟩, hfound⟩ := Option.isSome_iff_exists.1 hfound
    obtain ⟨blanks, hblanks, hkey, rfl⟩ := eq_of_separatedKeyAt hfound
    exact HasKey.of_suffix ⟨[], blanks, key, after, rfl, hblanks, hkey⟩ ((List.mem_tails _ _).1 hs)

instance (p : String × String) : Decidable (IsPair .ascii p) :=
  decidable_of_iff ((p.1.toList ≠ [] ∧ ∀ c ∈ p.1.toList, isWord .ascii c = true) ∧
    (∀ c ∈ p.2.toList.head?, Text.isSpace c = false) ∧
    (∀ c ∈ p.2.toList.getLast?, Text.isSpace c = false ∧ c ≠ ',') ∧
    ¬ ∃ s ∈ p.2.toList.tails, (separatedKeyAt .ascii s).isSome) <| by
  rw [← hasKey_iff lawfulAlnum_ascii]
  exact ⟨fun ⟨hkey, hhead, hlast, hnone⟩ => ⟨hkey, hhead, hlast, hnone⟩,
    fun ⟨hkey, hhead, hlast, hnone⟩ => ⟨hkey, hhead, hlast, hnone⟩⟩

instance (s : List Char) : Decidable (Blank s) := inferInstanceAs (Decidable (∀ c ∈ s, _))

/-- The name of the meeting has commas and a colon. -/
theorem parseKeyPairSequence_meeting :
    parseKeyPairSequence .ascii "type: meeting,uuid: 8018307b, name: Meeting: A,B, other" =
      [("type", "meeting"), ("uuid", "8018307b"), ("name", "Meeting: A,B, other")] :=
  (congrArg (parseKeyPairSequence .ascii) (by decide)).trans <|
    parseKeyPairSequence_sequenceText .ascii lawfulAlnum_ascii ("type", "meeting")
      [("", "uuid", "8018307b"), (" ", "name", "Meeting: A,B, other")] (by decide) (by decide)

end CallLogd
