/-
Patterns with captures, matched by backtracking.

The fragment has single-character classes, their greedy and lazy repetitions,
concatenation, ordered choice, numbered groups and the two anchors.  Matching
tries the alternatives in the order of a backtracking engine and keeps the first
success, which decides what the groups capture.  Repetitions range over one
character class only, so matching is a structural recursion.
-/
import CallLogd.Lib.Text

/-- Patterns over character classes. -/
inductive Regex where
  /-- The empty text. -/
  | eps
  /-- One character of a class. -/
  | cls (p : Char → Bool)
  /-- As many characters of a class as possible. -/
  | many (p : Char → Bool)
  /-- As few characters of a class as possible. -/
  | fewest (p : Char → Bool)
  /-- Concatenation. -/
  | seq (r s : Regex)
  /-- Ordered choice. -/
  | alt (r s : Regex)
  /-- A capturing group. -/
  | group (n : ℕ) (r : Regex)
  /-- The start of the text. -/
  | bos
  /-- The end of the text, or the position before a final line feed. -/
  | eos

namespace Regex

/-- The texts captured by the groups, the latest first. -/
abbrev Captures := List (ℕ × List Char)

/-- The text captured by group `n`. -/
def Captures.get (caps : Captures) (n : ℕ) : List Char := (caps.lookup n).getD []

/-- A literal text. -/
def lit (s : String) : Regex := s.toList.foldr (fun c r => seq (cls (· == c)) r) eps

/-- One or more characters of a class, as many as possible. -/
def many1 (p : Char → Bool) : Regex := seq (cls p) (many p)

/-- Exactly `n` characters of a class. -/
def times (p : Char → Bool) : ℕ → Regex
  | 0 => eps
  | n + 1 => seq (cls p) (times p n)

/-- Any character but a line feed. -/
def dot (c : Char) : Bool := c != '\n'

section Matching

variable {β : Type*}

/-- What remains to be matched after a sub-pattern: it is told whether the
position is the start of the text, and the rest of the text. -/
abbrev Cont (β : Type*) := Bool → List Char → Captures → Option β

/-- Greedy repetition: the longest run is tried first. -/
def runMany (p : Char → Bool) (caps : Captures) (k : Cont β) : Bool → List Char → Option β
  | start, [] => k start [] caps
  | start, c :: s =>
      if p c then (runMany p caps k false s).or (k start (c :: s) caps)
      else k start (c :: s) caps

/-- Lazy repetition: the shortest run is tried first. -/
def runFewest (p : Char → Bool) (caps : Captures) (k : Cont β) : Bool → List Char → Option β
  | start, [] => k start [] caps
  | start, c :: s =>
      (k start (c :: s) caps).or (if p c then runFewest p caps k false s else none)

/-- Match a pattern at a position of the text, then continue with `k`. -/
def run : Regex → Bool → List Char → Captures → Cont β → Option β
  | eps, start, s, caps, k => k start s caps
  | cls _, _, [], _, _ => none
  | cls p, _, c :: s, caps, k => if p c then k false s caps else none
  | many p, start, s, caps, k => runMany p caps k start s
  | fewest p, start, s, caps, k => runFewest p caps k start s
  | seq r t, start, s, caps, k => run r start s caps fun b s' caps' => run t b s' caps' k
  | alt r t, start, s, caps, k => (run r start s caps k).or (run t start s caps k)
  | group n r, start, s, caps, k =>
      run r start s caps fun b s' caps' => k b s' ((n, s.take (s.length - s'.length)) :: caps')
  | bos, start, s, caps, k => if start then k start s caps else none
  | eos, start, s, caps, k => if s = [] ∨ s = ['\n'] then k start s caps else none

end Matching

section Possessive

variable {β : Type*} {p : Char → Bool} {caps : Captures} {k : Cont β}

/-- A greedy repetition takes all it can, if what follows never starts with the class. -/
lemma runMany_eq (hk : ∀ b c s, p c = true → k b (c :: s) caps = none) (start : Bool)
    (s : List Char) : runMany p caps k start s =
      k (start && (s.takeWhile p).isEmpty) (s.dropWhile p) caps := by
  induction s generalizing start with
  | nil => simp [runMany]
  | cons c s ih =>
    by_cases hc : p c = true
    · simp [runMany, hc, ih, hk]
    · simp [runMany, hc]

/-- The same for at least one character. -/
lemma run_many1_eq (hk : ∀ b c s, p c = true → k b (c :: s) caps = none) (start : Bool)
    (s : List Char) : run (many1 p) start s caps k =
      if s.takeWhile p = [] then none else k false (s.dropWhile p) caps := by
  cases s with
  | nil => rfl
  | cons c s =>
    by_cases hc : p c = true
    · simp [many1, run, hc, runMany_eq hk]
    · simp [many1, run, hc]

end Possessive

/-! ### Matches -/

/-- The pattern matches a text, and its groups capture parts of it. -/
def Matches : Regex → List Char → Captures → Captures → Prop
  | eps, u, caps, caps' => u = [] ∧ caps' = caps
  | cls p, u, caps, caps' => (∃ c, p c = true ∧ u = [c]) ∧ caps' = caps
  | many p, u, caps, caps' => (∀ c ∈ u, p c = true) ∧ caps' = caps
  | fewest p, u, caps, caps' => (∀ c ∈ u, p c = true) ∧ caps' = caps
  | seq r t, u, caps, caps' =>
      ∃ v w caps₁, u = v ++ w ∧ Matches r v caps caps₁ ∧ Matches t w caps₁ caps'
  | alt r t, u, caps, caps' => Matches r u caps caps' ∨ Matches t u caps caps'
  | group n r, u, caps, caps' => ∃ caps₁, Matches r u caps caps₁ ∧ caps' = (n, u) :: caps₁
  | bos, u, caps, caps' => u = [] ∧ caps' = caps
  | eos, u, caps, caps' => u = [] ∧ caps' = caps

/-- The pattern does not ask where it is in the text. -/
def Unanchored : Regex → Prop
  | seq r t => Unanchored r ∧ Unanchored t
  | alt r t => Unanchored r ∧ Unanchored t
  | group _ r => Unanchored r
  | bos => False
  | eos => False
  | _ => True

lemma matches_lit {t : String} {u : List Char} {caps caps' : Captures} :
    Matches (lit t) u caps caps' ↔ u = t.toList ∧ caps' = caps := by
  unfold lit
  induction t.toList generalizing u with
  | nil => rfl
  | cons c l ih =>
    rw [List.foldr_cons, Matches]
    constructor
    · rintro ⟨v, w, caps₁, rfl, ⟨⟨d, hd, rfl⟩, rfl⟩, h⟩
      obtain ⟨rfl, rfl⟩ := ih.1 h
      rw [beq_iff_eq] at hd
      exact ⟨by rw [hd]; rfl, rfl⟩
    · rintro ⟨rfl, rfl⟩
      exact ⟨[c], l, caps', rfl, ⟨⟨c, beq_self_eq_true c, rfl⟩, rfl⟩, ih.2 ⟨rfl, rfl⟩⟩

lemma matches_many1 {p : Char → Bool} {u : List Char} {caps caps' : Captures} :
    Matches (many1 p) u caps caps' ↔ (u ≠ [] ∧ ∀ c ∈ u, p c = true) ∧ caps' = caps := by
  rw [many1, Matches]
  constructor
  · rintro ⟨v, w, caps₁, rfl, ⟨⟨c, hc, rfl⟩, rfl⟩, hw, rfl⟩
    exact ⟨⟨List.cons_ne_nil c w, List.forall_mem_cons.2 ⟨hc, hw⟩⟩, rfl⟩
  · rintro ⟨⟨hne, hu⟩, rfl⟩
    obtain ⟨c, w, rfl⟩ := List.exists_cons_of_ne_nil hne
    obtain ⟨hc, hw⟩ := List.forall_mem_cons.1 hu
    exact ⟨[c], w, caps', rfl, ⟨⟨c, hc, rfl⟩, rfl⟩, hw, rfl⟩

lemma unanchored_lit (t : String) : Unanchored (lit t) := by
  unfold lit
  induction t.toList with
  | nil => trivial
  | cons c l ih => exact ⟨trivial, ih⟩

lemma matches_times {p : Char → Bool} {n : ℕ} {u : List Char} {caps caps' : Captures} :
    Matches (times p n) u caps caps' ↔ (u.length = n ∧ ∀ c ∈ u, p c = true) ∧ caps' = caps := by
  induction n generalizing u with
  | zero => simp +contextual [times, Matches]
  | succ n ih =>
    rw [times, Matches]
    constructor
    · rintro ⟨v, w, caps₁, rfl, ⟨⟨c, hc, rfl⟩, rfl⟩, h⟩
      obtain ⟨⟨hlength, hw⟩, rfl⟩ := ih.1 h
      exact ⟨⟨by rw [List.singleton_append, List.length_cons, hlength],
        List.forall_mem_cons.2 ⟨hc, hw⟩⟩, rfl⟩
    · rintro ⟨⟨hlength, hu⟩, rfl⟩
      obtain ⟨c, w, rfl⟩ := List.exists_cons_of_length_eq_add_one hlength
      obtain ⟨hc, hw⟩ := List.forall_mem_cons.1 hu
      exact ⟨[c], w, caps', rfl, ⟨⟨c, hc, rfl⟩, rfl⟩, ih.2 ⟨⟨Nat.succ.inj hlength, hw⟩, rfl⟩⟩

section Matches

variable {β : Type*} {p : Char → Bool} {caps caps' : Captures} {k : Cont β} {b : β}

/-- So many characters of a class are taken. -/
lemma run_times {n : ℕ} {u v : List Char} (hlength : u.length = n) (hu : ∀ c ∈ u, p c = true) :
    run (times p n) false (u ++ v) caps k = k false v caps := by
  induction n generalizing u with
  | zero =>
    obtain rfl := List.length_eq_zero_iff.1 hlength
    rfl
  | succ n ih =>
    obtain ⟨c, w, rfl⟩ := List.exists_cons_of_length_eq_add_one hlength
    obtain ⟨hc, hw⟩ := List.forall_mem_cons.1 hu
    rw [times, run, List.cons_append, run, if_pos hc]
    exact ih (Nat.succ.inj hlength) hw

/-- The engine finds matches only. -/
lemma runMany_sound {start : Bool} {s : List Char} (h : runMany p caps k start s = some b) :
    ∃ u v start', s = u ++ v ∧ (∀ c ∈ u, p c = true) ∧ k start' v caps = some b := by
  induction s generalizing start with
  | nil => exact ⟨[], [], start, rfl, by simp, h⟩
  | cons c s ih =>
    rw [runMany] at h
    split at h
    · next hc =>
      rcases Option.or_eq_some_iff.1 h with h | ⟨-, h⟩
      · obtain ⟨u, v, start', rfl, hu, h⟩ := ih h
        exact ⟨c :: u, v, start', rfl, List.forall_mem_cons.2 ⟨hc, hu⟩, h⟩
      · exact ⟨[], c :: s, start, rfl, by simp, h⟩
    · exact ⟨[], c :: s, start, rfl, by simp, h⟩

lemma runFewest_sound {start : Bool} {s : List Char} (h : runFewest p caps k start s = some b) :
    ∃ u v start', s = u ++ v ∧ (∀ c ∈ u, p c = true) ∧ k start' v caps = some b := by
  induction s generalizing start with
  | nil => exact ⟨[], [], start, rfl, by simp, h⟩
  | cons c s ih =>
    rw [runFewest] at h
    rcases Option.or_eq_some_iff.1 h with h | ⟨-, h⟩
    · exact ⟨[], c :: s, start, rfl, by simp, h⟩
    · split at h
      · next hc =>
        obtain ⟨u, v, start', rfl, hu, h⟩ := ih h
        exact ⟨c :: u, v, start', rfl, List.forall_mem_cons.2 ⟨hc, hu⟩, h⟩
      · cases h

lemma run_sound {r : Regex} {start : Bool} {s : List Char} (h : run r start s caps k = some b) :
    ∃ u v start' caps', s = u ++ v ∧ Matches r u caps caps' ∧ k start' v caps' = some b := by
  induction r generalizing start s caps k with
  | eps => exact ⟨[], s, start, caps, rfl, ⟨rfl, rfl⟩, h⟩
  | cls p =>
    cases s with
    | nil => cases h
    | cons c s =>
      rw [run] at h
      split at h
      · next hc => exact ⟨[c], s, false, caps, rfl, ⟨⟨c, hc, rfl⟩, rfl⟩, h⟩
      · cases h
  | many p =>
    obtain ⟨u, v, start', hs, hu, h⟩ := runMany_sound h
    exact ⟨u, v, start', caps, hs, ⟨hu, rfl⟩, h⟩
  | fewest p =>
    obtain ⟨u, v, start', hs, hu, h⟩ := runFewest_sound h
    exact ⟨u, v, start', caps, hs, ⟨hu, rfl⟩, h⟩
  | seq r t ihr iht =>
    obtain ⟨u, s', start₁, caps₁, rfl, hr, h⟩ := ihr h
    obtain ⟨u', v, start₂, caps₂, rfl, ht, h⟩ := iht h
    exact ⟨u ++ u', v, start₂, caps₂, (List.append_assoc _ _ _).symm,
      ⟨u, u', caps₁, rfl, hr, ht⟩, h⟩
  | alt r t ihr iht =>
    rcases Option.or_eq_some_iff.1 h with h | ⟨-, h⟩
    · obtain ⟨u, v, start', caps', hs, hr, h⟩ := ihr h
      exact ⟨u, v, start', caps', hs, Or.inl hr, h⟩
    · obtain ⟨u, v, start', caps', hs, ht, h⟩ := iht h
      exact ⟨u, v, start', caps', hs, Or.inr ht, h⟩
  | group n r ih =>
    obtain ⟨u, v, start', caps₁, rfl, hr, h⟩ := ih h
    have htake : (u ++ v).take ((u ++ v).length - v.length) = u := by simp
    rw [htake] at h
    exact ⟨u, v, start', (n, u) :: caps₁, rfl, ⟨caps₁, hr, rfl⟩, h⟩
  | bos =>
    rw [run] at h
    split at h
    · exact ⟨[], s, start, caps, rfl, ⟨rfl, rfl⟩, h⟩
    · cases h
  | eos =>
    rw [run] at h
    split at h
    · exact ⟨[], s, start, caps, rfl, ⟨rfl, rfl⟩, h⟩
    · cases h

lemma runMany_isSome {u v : List Char} {start : Bool} (hu : ∀ c ∈ u, p c = true)
    (hk : (k (start && u.isEmpty) v caps).isSome) : (runMany p caps k start (u ++ v)).isSome := by
  induction u generalizing start with
  | nil =>
    rw [List.isEmpty_nil, Bool.and_true] at hk
    cases v with
    | nil => exact hk
    | cons c v =>
      rw [List.nil_append, runMany]
      split
      · simp [hk]
      · exact hk
  | cons c u ih =>
    obtain ⟨hc, hu⟩ := List.forall_mem_cons.1 hu
    rw [List.isEmpty_cons, Bool.and_false] at hk
    have hrun : (runMany p caps k false (u ++ v)).isSome := ih hu (by rwa [Bool.false_and])
    rw [List.cons_append, runMany, if_pos hc]
    simp [hrun]

lemma runFewest_isSome {u v : List Char} (hu : ∀ c ∈ u, p c = true)
    (hk : ∀ start, (k start v caps).isSome) (start : Bool) :
    (runFewest p caps k start (u ++ v)).isSome := by
  induction u generalizing start with
  | nil =>
    cases v with
    | nil => exact hk start
    | cons c v =>
      rw [List.nil_append, runFewest]
      simp [hk start]
  | cons c u ih =>
    obtain ⟨hc, hu⟩ := List.forall_mem_cons.1 hu
    rw [List.cons_append, runFewest, if_pos hc]
    simp [ih hu]

/-- The engine finds a match if there is one after which it can go on. -/
lemma run_isSome {r : Regex} (hr : Unanchored r) {u v : List Char} (h : Matches r u caps caps')
    (hk : ∀ start, (k start v caps').isSome) (start : Bool) :
    (run r start (u ++ v) caps k).isSome := by
  induction r generalizing start u v caps caps' k with
  | eps =>
    obtain ⟨rfl, rfl⟩ := h
    exact hk start
  | cls p =>
    obtain ⟨⟨c, hc, rfl⟩, rfl⟩ := h
    rw [List.singleton_append, run, if_pos hc]
    exact hk false
  | many p =>
    obtain ⟨hu, rfl⟩ := h
    exact runMany_isSome hu (hk _)
  | fewest p =>
    obtain ⟨hu, rfl⟩ := h
    exact runFewest_isSome hu hk start
  | seq r t ihr iht =>
    obtain ⟨u, w, caps₁, rfl, hmr, hmt⟩ := h
    rw [List.append_assoc]
    exact ihr hr.1 hmr (iht hr.2 hmt hk) start
  | alt r t ihr iht =>
    rw [run, Option.isSome_or, Bool.or_eq_true]
    exact h.imp (fun h => ihr hr.1 h hk start) (fun h => iht hr.2 h hk start)
  | group n r ih =>
    obtain ⟨caps₁, hmr, rfl⟩ := h
    refine ih hr hmr (fun start' => ?_) start
    have htake : (u ++ v).take ((u ++ v).length - v.length) = u := by simp
    rw [htake]
    exact hk start'
  | bos => exact hr.elim
  | eos => exact hr.elim

/-- A greedy repetition is the longest after which the engine can go on. -/
lemma runMany_longest {start : Bool} {s : List Char} (h : runMany p caps k start s = some b) :
    ∃ u v start', s = u ++ v ∧ (∀ c ∈ u, p c = true) ∧ k start' v caps = some b ∧
      ∀ w v', v = w ++ v' → w ≠ [] → (∀ c ∈ w, p c = true) → k false v' caps = none := by
  have hnone : ∀ w v', (∀ c ∈ w, p c = true) → runMany p caps k false (w ++ v') = none →
      k false v' caps = none := by
    intro w v' hw hrun
    by_contra hk
    have hsome : (runMany p caps k false (w ++ v')).isSome :=
      runMany_isSome hw (by rwa [Bool.false_and, Option.isSome_iff_ne_none])
    rw [hrun] at hsome
    cases hsome
  induction s generalizing start with
  | nil => exact ⟨[], [], start, rfl, by simp, h, fun w v' hw hne => by simp_all⟩
  | cons c s ih =>
    rw [runMany] at h
    split at h
    · next hc =>
      rcases Option.or_eq_some_iff.1 h with h | ⟨hrun, h⟩
      · obtain ⟨u, v, start', rfl, hu, h, hlongest⟩ := ih h
        exact ⟨c :: u, v, start', rfl, List.forall_mem_cons.2 ⟨hc, hu⟩, h, hlongest⟩
      · refine ⟨[], c :: s, start, rfl, by simp, h, fun w v' hsplit hne hw => ?_⟩
        obtain ⟨d, w, rfl⟩ := List.exists_cons_of_ne_nil hne
        obtain ⟨rfl, rfl⟩ := List.cons.inj hsplit
        exact hnone w v' (List.forall_mem_cons.1 hw).2 hrun
    · next hc =>
      refine ⟨[], c :: s, start, rfl, by simp, h, fun w v' hsplit hne hw => ?_⟩
      obtain ⟨d, w, rfl⟩ := List.exists_cons_of_ne_nil hne
      obtain ⟨rfl, -⟩ := List.cons.inj hsplit
      exact absurd (hw c List.mem_cons_self) hc

end Matches

/-- `re.match`: the captures of the first match that starts where the text does. -/
def matchStart (r : Regex) (s : List Char) : Option Captures :=
  run r true s [] fun _ _ caps => some caps

/-- A pattern between the two anchors matches the whole text, a final line feed apart. -/
lemma matchStart_anchored_iff {r : Regex} (hr : Unanchored r) {s : List Char} :
    (matchStart (.seq .bos (.seq r .eos)) s).isSome ↔
      ∃ u v caps, s = u ++ v ∧ Matches r u [] caps ∧ (v = [] ∨ v = ['\n']) := by
  let k : Cont Captures := fun _ s caps => if s = [] ∨ s = ['\n'] then some caps else none
  have hrun : matchStart (.seq .bos (.seq r .eos)) s = run r true s [] k := rfl
  rw [hrun]
  constructor
  · intro h
    obtain ⟨b, h⟩ := Option.isSome_iff_exists.1 h
    obtain ⟨u, v, start, caps, hs, hmatches, hk⟩ := run_sound h
    refine ⟨u, v, caps, hs, hmatches, ?_⟩
    by_contra hv
    cases (if_neg hv).symm.trans hk
  · rintro ⟨u, v, caps, rfl, hmatches, hv⟩
    refine run_isSome hr hmatches (fun start => ?_) true
    have hk : k start v caps = some caps := if_pos hv
    rw [hk, Option.isSome_some]

/-- A match found in a text: where it starts and ends, and its captures. -/
structure Found where
  start : ℕ
  stop : ℕ
  caps : Captures

/-- The match at a position, with the position `pos` counted from the start of the text. -/
def foundAt (r : Regex) (pos : ℕ) (s : List Char) : Option Found :=
  run r (pos == 0) s [] fun _ rest caps => some ⟨pos, pos + (s.length - rest.length), caps⟩

/-- `re.finditer` for a pattern that matches no empty text: the leftmost match,
then the matches after its end (`skip` characters of the last match are left). -/
def finditerFrom (r : Regex) : ℕ → ℕ → List Char → List Found
  | _, _, [] => []
  | skip + 1, pos, _ :: s => finditerFrom r skip (pos + 1) s
  | 0, pos, c :: s =>
      match foundAt r pos (c :: s) with
      | some m => m :: finditerFrom r (m.stop - m.start - 1) (pos + 1) s
      | none => finditerFrom r 0 (pos + 1) s

/-- `re.finditer`. -/
def finditer (r : Regex) (s : List Char) : List Found := finditerFrom r 0 0 s

end Regex
