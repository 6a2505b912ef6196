/-
The conversation of a call, as the smallest of its linkedids.

The generator takes the smallest text, and the linkedids are numbered: an epoch and a
sequence.  The two orders agree as long as the numbers have the same lengths.
-/
import Mathlib.Tactic.Ring
import CallLogd.Generation.Calls

namespace CallLogd

open Results

/-! ### Linkedids -/

/-- The number that is written by some digits. -/
def number (digits : List Char) : ℕ :=
  digits.foldl (fun n c => 10 * n + (c.toNat - '0'.toNat)) 0

/-- The digits before the dot. -/
def epochText (linkedid : String) : List Char := linkedid.toList.takeWhile (· ≠ '.')

/-- The digits after the dot. -/
def sequenceDigits (linkedid : String) : List Char := (linkedid.toList.dropWhile (· ≠ '.')).tail

/-- `CONVERSATION_ID_REGEX`: digits, a dot and digits. -/
structure IsLinkedid (linkedid : String) : Prop where
  text : linkedid.toList = epochText linkedid ++ '.' :: sequenceDigits linkedid
  epoch : epochText linkedid ≠ [] ∧ ∀ c ∈ epochText linkedid, c.isDigit = true
  sequence : sequenceDigits linkedid ≠ [] ∧ ∀ c ∈ sequenceDigits linkedid, c.isDigit = true

/-- The order of the epochs, then of the sequences, as numbers. -/
def Earlier (a b : String) : Prop :=
  number (epochText a) < number (epochText b) ∨
    number (epochText a) = number (epochText b) ∧
      number (sequenceDigits a) ≤ number (sequenceDigits b)

def IsEarliest (linkedids : Finset String) (linkedid : String) : Prop :=
  linkedid ∈ linkedids ∧ ∀ other ∈ linkedids, Earlier linkedid other

/-! ### Digits -/

/-- The second text goes on where the first one ends, or has a larger digit where they first
differ. -/
def DigitsBefore (s t : List Char) : Prop :=
  (∃ u, u ≠ [] ∧ t = s ++ u) ∨
    ∃ (p : List Char) (c d : Char) (u v : List Char), c < d ∧ s = p ++ c :: u ∧ t = p ++ d :: v

variable {s t u v : List Char}

lemma digitsBefore_iff : DigitsBefore s t ↔ s < t := by
  induction s generalizing t with
  | nil =>
    cases t with
    | nil => simp [DigitsBefore]
    | cons d t => simp [DigitsBefore]
  | cons c s ih =>
    cases t with
    | nil => simp [DigitsBefore]
    | cons d t =>
      rw [List.cons_lt_cons_iff, ← ih]
      constructor
      · rintro (⟨w, hw, hsplit⟩ | ⟨p, a, b, s', t', hlt, hs, ht⟩)
        · obtain ⟨rfl, rfl⟩ := List.cons.inj hsplit
          exact Or.inr ⟨rfl, Or.inl ⟨w, hw, rfl⟩⟩
        · cases p with
          | nil =>
            obtain ⟨rfl, -⟩ := List.cons.inj hs
            obtain ⟨rfl, -⟩ := List.cons.inj ht
            exact Or.inl hlt
          | cons e p =>
            obtain ⟨rfl, rfl⟩ := List.cons.inj hs
            obtain ⟨rfl, rfl⟩ := List.cons.inj ht
            exact Or.inr ⟨rfl, Or.inr ⟨p, a, b, s', t', hlt, rfl, rfl⟩⟩
      · rintro (hlt | ⟨rfl, ⟨w, hw, rfl⟩ | ⟨p, a, b, s', t', hlt, rfl, rfl⟩⟩)
        · exact Or.inr ⟨[], c, d, s, t, hlt, rfl, rfl⟩
        · exact Or.inl ⟨w, hw, rfl⟩
        · exact Or.inr ⟨c :: p, a, b, s', t', hlt, rfl, rfl⟩

lemma cons_le_cons {c d : Char} : c :: s ≤ d :: t ↔ c < d ∨ c = d ∧ s ≤ t := by
  rw [← not_lt, List.cons_lt_cons_iff, ← not_lt (b := s)]
  rcases lt_trichotomy c d with h | rfl | h
  · simp [h, h.not_gt, h.ne']
  · simp
  · simp [h, h.not_gt, h.ne']

/-- Texts with a dot are compared digit by digit, before the dot and then after it. -/
lemma append_dot_le_iff (hs : ∀ c ∈ s, '.' < c) (ht : ∀ c ∈ t, '.' < c) :
    s ++ '.' :: u ≤ t ++ '.' :: v ↔ s < t ∨ s = t ∧ u ≤ v := by
  induction s generalizing t with
  | nil =>
    cases t with
    | nil => simp [cons_le_cons]
    | cons d t => simp [cons_le_cons, ht d List.mem_cons_self]
  | cons c s ih =>
    cases t with
    | nil =>
      have hc := hs c List.mem_cons_self
      rw [List.nil_append, List.cons_append, cons_le_cons]
      simp [hc.not_gt, hc.ne']
    | cons d t =>
      have hrest := ih (fun c' hc' => hs c' (List.mem_cons_of_mem _ hc'))
        fun d' hd' => ht d' (List.mem_cons_of_mem _ hd')
      rw [List.cons_append, List.cons_append, cons_le_cons, hrest, List.cons_lt_cons_iff,
        List.cons.injEq]
      tauto

lemma foldl_number (n : ℕ) (s : List Char) :
    s.foldl (fun n c => 10 * n + (c.toNat - '0'.toNat)) n = n * 10 ^ s.length + number s := by
  induction s generalizing n with
  | nil => simp [number]
  | cons c s ih =>
    have hcons : number (c :: s) =
        (10 * 0 + (c.toNat - '0'.toNat)) * 10 ^ s.length + number s := ih _
    rw [List.foldl_cons, ih, hcons, List.length_cons, pow_succ]
    ring

lemma number_cons (c : Char) (s : List Char) :
    number (c :: s) = (c.toNat - '0'.toNat) * 10 ^ s.length + number s := by
  rw [number, List.foldl_cons, foldl_number, Nat.mul_zero, Nat.zero_add]

lemma toNat_of_isDigit {c : Char} (hc : c.isDigit = true) :
    '0'.toNat ≤ c.toNat ∧ c.toNat ≤ '0'.toNat + 9 := by
  simp only [Char.isDigit, Bool.and_eq_true, decide_eq_true_eq, ge_iff_le,
    UInt32.le_iff_toNat_le] at hc
  exact hc

lemma number_lt (hs : ∀ c ∈ s, c.isDigit = true) : number s < 10 ^ s.length := by
  induction s with
  | nil => simp [number]
  | cons c s ih =>
    have hrest := ih fun c' hc' => hs c' (List.mem_cons_of_mem _ hc')
    obtain ⟨-, hc⟩ := toNat_of_isDigit (hs c List.mem_cons_self)
    rw [number_cons, List.length_cons, pow_succ]
    have hdigit : c.toNat - '0'.toNat ≤ 9 := by omega
    calc (c.toNat - '0'.toNat) * 10 ^ s.length + number s
        < (c.toNat - '0'.toNat) * 10 ^ s.length + 10 ^ s.length := by omega
      _ = (c.toNat - '0'.toNat + 1) * 10 ^ s.length := by ring
      _ ≤ 10 * 10 ^ s.length := Nat.mul_le_mul_right _ (by omega)
      _ = 10 ^ s.length * 10 := Nat.mul_comm _ _

/-- Texts of equal length are in the order of their numbers. -/
lemma number_le_iff (hlength : s.length = t.length) (hs : ∀ c ∈ s, c.isDigit = true)
    (ht : ∀ c ∈ t, c.isDigit = true) : number s ≤ number t ↔ s ≤ t := by
  induction s generalizing t with
  | nil =>
    obtain rfl := List.length_eq_zero_iff.1 hlength.symm
    simp
  | cons c s ih =>
    cases t with
    | nil => cases hlength
    | cons d t =>
      have hlength' : s.length = t.length := Nat.succ.inj hlength
      have hs' := fun c' hc' => hs c' (List.mem_cons_of_mem _ hc')
      have ht' := fun d' hd' => ht d' (List.mem_cons_of_mem _ hd')
      have hc := toNat_of_isDigit (hs c List.mem_cons_self)
      have hd := toNat_of_isDigit (ht d List.mem_cons_self)
      have hslt := number_lt hs'
      have htlt := number_lt ht'
      rw [number_cons, number_cons, cons_le_cons, ← ih hlength' hs' ht', hlength']
      rw [hlength'] at hslt
      -- a larger first digit outweighs all the others
      have hweight : ∀ a b : ℕ, a < b → a * 10 ^ t.length + 10 ^ t.length ≤ b * 10 ^ t.length := by
        intro a b hab
        have hle := Nat.mul_le_mul_right (10 ^ t.length) (Nat.succ_le_of_lt hab)
        rwa [Nat.succ_mul] at hle
      rcases lt_trichotomy c d with hlt | rfl | hgt
      · have hdigits : c.toNat < d.toNat := UInt32.lt_iff_toNat_lt.1 hlt
        have hle := hweight (c.toNat - '0'.toNat) (d.toNat - '0'.toNat) (by omega)
        exact iff_of_true (by omega) (Or.inl hlt)
      · simp
      · have hdigits : d.toNat < c.toNat := UInt32.lt_iff_toNat_lt.1 hgt
        have hle := hweight (d.toNat - '0'.toNat) (c.toNat - '0'.toNat) (by omega)
        refine iff_of_false (by omega) ?_
        rintro (hlt | ⟨rfl, -⟩)
        · exact hgt.not_gt hlt
        · exact lt_irrefl _ hgt

/-! ### The conversation -/

/-- The epoch comes first, digit by digit, or it is the same and the sequence comes first or
is the same. -/
def Precedes (a b : String) : Prop :=
  DigitsBefore (epochText a) (epochText b) ∨ epochText a = epochText b ∧
    (DigitsBefore (sequenceDigits a) (sequenceDigits b) ∨ sequenceDigits a = sequenceDigits b)

variable {a b : String}

lemma precedes_iff (ha : IsLinkedid a) (hb : IsLinkedid b) : Precedes a b ↔ a ≤ b := by
  have hdot : ∀ c : Char, c.isDigit = true → '.' < c := by
    intro c hc
    have hzero := (toNat_of_isDigit hc).1
    exact UInt32.lt_iff_toNat_lt.2 (lt_of_lt_of_le (by decide) hzero)
  rw [String.le_iff_toList_le, ha.text, hb.text,
    append_dot_le_iff (fun c hc => hdot c (ha.epoch.2 c hc)) fun c hc => hdot c (hb.epoch.2 c hc),
    Precedes, digitsBefore_iff, digitsBefore_iff, le_iff_lt_or_eq]

/-- The generator takes the linkedid that precedes the others. -/
lemma min_eq_iff {linkedids : Finset String} (hform : ∀ l ∈ linkedids, IsLinkedid l)
    (ha : a ∈ linkedids) :
    linkedids.min.untopD "" = a ↔ ∀ l ∈ linkedids, Precedes a l := by
  have hne : linkedids.Nonempty := ⟨a, ha⟩
  rw [← Finset.coe_min' hne, WithTop.untopD_coe]
  constructor
  · rintro rfl l hl
    exact (precedes_iff (hform _ ha) (hform l hl)).2 (Finset.min'_le _ _ hl)
  · intro hfirst
    refine le_antisymm (Finset.min'_le _ _ ha) ?_
    have hmin := Finset.min'_mem _ hne
    exact (precedes_iff (hform a ha) (hform _ hmin)).1 (hfirst _ hmin)

/-- The conversation of a call log is the earliest linkedid of its group if and only if an
earliest one precedes the others digit by digit. -/
theorem conversation_isEarliest_iff (gen : CallLogsGenerator) (group : Finset String × List CEL)
    (cache : VoicemailCache) (log : CallLog) (hform : ∀ l ∈ group.1, IsLinkedid l)
    (hlog : (gen.callLogOfGroup group.1 group.2 cache).1 = .ok log) :
    (∃ l, log.conversationId = some l ∧ IsEarliest group.1 l) ↔
      ∃ l, IsEarliest group.1 l ∧ ∀ other ∈ group.1, Precedes l other := by
  obtain ⟨call, voicemail, hcall, hfinish⟩ := CallLogsGenerator.callLogOfGroup_eq_ok hlog
  rw [(CallLogsGenerator.keys_of_finishCall hcall hfinish).2]
  constructor
  · rintro ⟨l, hmin, hearliest⟩
    exact ⟨l, hearliest, (min_eq_iff hform hearliest.1).1 (Option.some.inj hmin)⟩
  · rintro ⟨l, hearliest, hfirst⟩
    exact ⟨l, congrArg some ((min_eq_iff hform hearliest.1).2 hfirst), hearliest⟩

/-- Numbers of equal lengths are in the order of their texts. -/
lemma Earlier.precedes (ha : IsLinkedid a) (hb : IsLinkedid b)
    (hepoch : (epochText a).length = (epochText b).length)
    (hsequence : epochText a = epochText b →
      (sequenceDigits a).length = (sequenceDigits b).length) (h : Earlier a b) :
    Precedes a b := by
  have hle := number_le_iff hepoch ha.epoch.2 hb.epoch.2
  have hge := number_le_iff hepoch.symm hb.epoch.2 ha.epoch.2
  rw [Precedes, digitsBefore_iff, digitsBefore_iff]
  rcases h with hlt | ⟨heq, hnumbers⟩
  · exact Or.inl (not_le.1 (hge.not.1 hlt.not_ge))
  · have hsame : epochText a = epochText b := le_antisymm (hle.1 heq.le) (hge.1 heq.ge)
    refine Or.inr ⟨hsame, le_iff_lt_or_eq.1 ?_⟩
    exact (number_le_iff (hsequence hsame) ha.sequence.2 hb.sequence.2).1 hnumbers

instance (l : String) : Decidable (IsLinkedid l) :=
  decidable_of_iff (l.toList = epochText l ++ '.' :: sequenceDigits l ∧
      (epochText l ≠ [] ∧ ∀ c ∈ epochText l, c.isDigit = true) ∧
      (sequenceDigits l ≠ [] ∧ ∀ c ∈ sequenceDigits l, c.isDigit = true))
    ⟨fun h => ⟨h.1, h.2.1, h.2.2⟩, fun h => ⟨h.1, h.2, h.3⟩⟩

instance (a b : String) : Decidable (Earlier a b) := inferInstanceAs (Decidable (_ ∨ _))

instance (linkedids : Finset String) (l : String) : Decidable (IsEarliest linkedids l) :=
  inferInstanceAs (Decidable (_ ∧ _))

/-- A call that another channel picks up: both linkedids have the channel. -/
def pickedUp (caller other : String) : List CEL :=
  shortCall 1 caller ++ (shortCall 3 other).map fun cel => { cel with uniqueid := caller }

theorem conversation_isEarliest_equalLengths : ∃ log,
    (CallLogsGenerator.simple.callLogOfGroup {"1386184858.11", "1386184858.12"}
      (pickedUp "1386184858.11" "1386184858.12") []).1 = .ok log ∧
    ∃ l, log.conversationId = some l ∧ IsEarliest {"1386184858.11", "1386184858.12"} l := by
  have hrun : ∃ log, (CallLogsGenerator.simple.callLogOfGroup {"1386184858.11", "1386184858.12"}
      (pickedUp "1386184858.11" "1386184858.12") []).1 = .ok log ∧
        log.conversationId = some "1386184858.11" :=
    exists_of_map_eq_ok (g := fun log : CallLog => log.conversationId) (by decide +kernel)
  obtain ⟨log, hlog, -⟩ := hrun
  have hform : ∀ l ∈ ({"1386184858.11", "1386184858.12"} : Finset String), IsLinkedid l := by
    decide
  have hearliest : IsEarliest {"1386184858.11", "1386184858.12"} "1386184858.11" := by decide
  refine ⟨log, hlog, (conversation_isEarliest_iff .simple
    ({"1386184858.11", "1386184858.12"}, pickedUp "1386184858.11" "1386184858.12") [] log hform
    hlog).2 ⟨"1386184858.11", hearliest, fun other hother => ?_⟩⟩
  exact (hearliest.2 other hother).precedes (hform _ hearliest.1) (hform other hother)
    (by revert other; decide) (by revert other; decide)

/-- The tenth channel of a second comes before the ninth. -/
theorem conversation_not_earliest : ∃ group ∈ groupCelsBySharedChannels
      (pickedUp "1386184858.9" "1386184858.10"), ∃ log,
    (CallLogsGenerator.simple.callLogOfGroup group.1 group.2 []).1 = .ok log ∧
      (∀ l ∈ group.1, IsLinkedid l) ∧
        ¬ ∃ l, log.conversationId = some l ∧ IsEarliest group.1 l := by
  have hrun : ∃ log, (CallLogsGenerator.simple.callLogOfGroup {"1386184858.9", "1386184858.10"}
      (pickedUp "1386184858.9" "1386184858.10") []).1 = .ok log ∧
        log.conversationId = some "1386184858.10" :=
    exists_of_map_eq_ok (g := fun log : CallLog => log.conversationId) (by decide +kernel)
  obtain ⟨log, hlog, hconversation⟩ := hrun
  refine ⟨({"1386184858.9", "1386184858.10"}, pickedUp "1386184858.9" "1386184858.10"),
    by decide +kernel, log, hlog, by decide, ?_⟩
  rintro ⟨l, hl, hearliest⟩
  obtain rfl := Option.some.inj (hconversation.symm.trans hl)
  exact absurd hearliest (by decide)

end CallLogd
