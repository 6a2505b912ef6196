/-
The payload of a forwarded call, which is read from its JSON text.

The pattern is applied to the text before it is decoded, so the characters of the values are
those that the encoder wrote.
-/
import CallLogd.Lib.JsonText
import CallLogd.Lib.Results
import CallLogd.Interpretor.Caller
import CallLogd.Interpretor.Intervals

namespace CallLogd

open Json Regex

/-! ### The text -/

/-- The value of the `extra` field. -/
def forwardText (number context name : List Char) : List Char :=
  "NUM:".toList ++ (number ++ ',' :: ("CONTEXT:".toList ++ (context ++ ',' ::
    ("NAME:".toList ++ name))))

/-- A value without commas, and without blanks at its ends. -/
structure IsForwardValue (value : List Char) : Prop where
  comma : ',' ∉ value
  head : value.head? ≠ some ' '
  last : value.getLast? ≠ some ' '

lemma IsForwardValue.encode {value : List Char} (h : IsForwardValue value) (e : Encoder) :
    IsForwardValue (e.encode value) where
  comma hmem := by
    rcases Encoder.mem_encode hmem with hescape | ⟨hvalue, -⟩
    · revert hescape
      decide
    · exact h.comma hvalue
  head hhead := h.head (Encoder.head?_of_head?_encode (by decide) hhead)
  last hlast := h.last (Encoder.getLast?_of_getLast?_encode (by decide) hlast)

/-- The blanks that the pattern skips. -/
def Blanks (s : List Char) : Prop := ∀ c ∈ s, (c == ' ') = true

/-! ### The pattern -/

/-- A comma, a label and a captured value. -/
def labelledField (label : String) (n : ℕ) (rest : Regex) : Regex :=
  seq (many (· == ' ')) <| seq (cls (· == ',')) <| seq (many (· == ' ')) <| seq (lit label) <|
  seq (many (· == ' ')) <| seq (group n (fewest dot)) rest

/-- The end of the pattern. -/
def forwardEnd : Regex := seq (many (· == ' ')) <| alt (cls (· == ',')) (lit "\"\x7d")

/-- The pattern after the number. -/
def forwardRest : Regex := labelledField "CONTEXT:" 2 (labelledField "NAME:" 3 forwardEnd)

/-- The pattern from the number on. -/
def numberRest : Regex := seq (group 1 (fewest dot)) forwardRest

/-- The pattern after its greedy start. -/
def labelRest : Regex := seq (lit "NUM:") (seq (many (· == ' ')) numberRest)

lemma extraUserFwdRegex_eq : extraUserFwdRegex = seq bos (seq (many dot) labelRest) := rfl

lemma matches_labelledField {label : String} {n : ℕ} {rest : Regex} {u : List Char}
    {caps caps' : Captures} : Matches (labelledField label n rest) u caps caps' ↔
      ∃ b₁ b₂ b₃ value u', u = b₁ ++ ',' :: (b₂ ++ (label.toList ++ (b₃ ++ (value ++ u')))) ∧
        Blanks b₁ ∧ Blanks b₂ ∧ Blanks b₃ ∧ (∀ c ∈ value, dot c = true) ∧
          Matches rest u' ((n, value) :: caps) caps' := by
  simp only [labelledField, Matches, matches_lit]
  constructor
  · rintro ⟨b₁, _, _, rfl, ⟨h₁, rfl⟩, _, _, _, rfl, ⟨⟨c, hc, rfl⟩, rfl⟩, b₂, _, _, rfl, ⟨h₂, rfl⟩,
      _, _, _, rfl, ⟨rfl, rfl⟩, b₃, _, _, rfl, ⟨h₃, rfl⟩, value, u', _, rfl, ⟨_, ⟨hv, rfl⟩, rfl⟩,
      hrest⟩
    obtain rfl := beq_iff_eq.1 hc
    exact ⟨b₁, b₂, b₃, value, u', rfl, h₁, h₂, h₃, hv, hrest⟩
  · rintro ⟨b₁, b₂, b₃, value, u', rfl, h₁, h₂, h₃, hv, hrest⟩
    exact ⟨b₁, _, caps, rfl, ⟨h₁, rfl⟩, [','], _, caps, rfl, ⟨⟨',', rfl, rfl⟩, rfl⟩, b₂, _, caps,
      rfl, ⟨h₂, rfl⟩, label.toList, _, caps, rfl, ⟨rfl, rfl⟩, b₃, _, caps, rfl, ⟨h₃, rfl⟩, value,
      u', _, rfl, ⟨caps, ⟨hv, rfl⟩, rfl⟩, hrest⟩

lemma matches_forwardEnd {u : List Char} {caps caps' : Captures} :
    Matches forwardEnd u caps caps' ↔ ∃ b, (u = b ++ [','] ∨ u = b ++ ['"', '\x7d']) ∧
      Blanks b ∧ caps' = caps := by
  have hend : "\"\x7d".toList = ['"', '\x7d'] := by decide
  simp only [forwardEnd, Matches, matches_lit, hend, beq_iff_eq]
  constructor
  · rintro ⟨b, _, _, rfl, ⟨hb, rfl⟩, ⟨⟨_, rfl, rfl⟩, rfl⟩ | ⟨rfl, rfl⟩⟩
    · exact ⟨b, Or.inl rfl, by simpa [Blanks] using hb, rfl⟩
    · exact ⟨b, Or.inr rfl, by simpa [Blanks] using hb, rfl⟩
  · rintro ⟨b, rfl | rfl, hb, rfl⟩
    · exact ⟨b, _, _, rfl, ⟨by simpa [Blanks] using hb, rfl⟩, Or.inl ⟨⟨_, rfl, rfl⟩, rfl⟩⟩
    · exact ⟨b, _, _, rfl, ⟨by simpa [Blanks] using hb, rfl⟩, Or.inr ⟨rfl, rfl⟩⟩

lemma unanchored_forwardRest : Unanchored forwardRest := by
  have hlit := unanchored_lit
  simp [forwardRest, labelledField, forwardEnd, Unanchored, hlit]

/-! ### Where the values are -/

/-- The first occurrence of a character is where it is. -/
lemma append_cons_inj {x₁ x₂ z₁ z₂ : List Char} {c : Char} (h₁ : c ∉ x₁) (h₂ : c ∉ x₂)
    (h : x₁ ++ c :: z₁ = x₂ ++ c :: z₂) : x₁ = x₂ ∧ z₁ = z₂ := by
  induction x₁ generalizing x₂ with
  | nil =>
    cases x₂ with
    | nil => exact ⟨rfl, (List.cons.inj h).2⟩
    | cons d x₂ => exact absurd ((List.cons.inj h).1 ▸ List.mem_cons_self) h₂
  | cons d x₁ ih =>
    cases x₂ with
    | nil => exact absurd ((List.cons.inj h).1 ▸ List.mem_cons_self) h₁
    | cons d' x₂ =>
      obtain ⟨rfl, htail⟩ := List.cons.inj h
      obtain ⟨rfl, hz⟩ := ih (fun hc => h₁ (List.mem_cons_of_mem _ hc))
        (fun hc => h₂ (List.mem_cons_of_mem _ hc)) htail
      exact ⟨rfl, hz⟩

/-- Blanks before a text that starts with none. -/
lemma eq_nil_of_head {b s t : List Char} (hb : Blanks b) (hs : s.head? ≠ some ' ')
    (h : s = b ++ t) : b = [] := by
  cases b with
  | nil => rfl
  | cons c b =>
    have hc : c = ' ' := beq_iff_eq.1 (hb c List.mem_cons_self)
    rw [h, hc] at hs
    exact absurd rfl hs

/-- Blanks after a text that ends with none. -/
lemma eq_nil_of_last {b s t : List Char} (hb : Blanks b) (hs : s.getLast? ≠ some ' ')
    (h : s = t ++ b) : b = [] := by
  by_contra hne
  obtain ⟨c, hc⟩ := Option.isSome_iff_exists.1 (List.getLast?_isSome.2 hne)
  have hblank : c = ' ' := beq_iff_eq.1 (hb c (List.mem_of_getLast? hc))
  rw [h, List.getLast?_append, hc, hblank] at hs
  exact hs rfl

/-- The comma of a field is the first one, if there are no more than the pattern needs. -/
lemma values_of_labelledField {label : String} {n k : ℕ} {rest : Regex}
    {first tail u v : List Char} {caps caps' : Captures} (pre : List Char) (hfirst : ',' ∉ first)
    (hlabel : ∀ s, (label.toList ++ s).head? ≠ some ' ')
    (hcount : (first ++ ',' :: (label.toList ++ tail)).count ',' = k + 1)
    (hrest : ∀ u' caps₁, Matches rest u' caps₁ caps' → k ≤ u'.count ',')
    (htext : first ++ ',' :: (label.toList ++ tail) = pre ++ (u ++ v))
    (h : Matches (labelledField label n rest) u caps caps') :
    ∃ b b' value u', Blanks b ∧ Blanks b' ∧ first = pre ++ b ∧
      tail = b' ++ (value ++ (u' ++ v)) ∧ Matches rest u' ((n, value) :: caps) caps' := by
  obtain ⟨b₁, b₂, b₃, value, u', rfl, h₁, h₂, h₃, -, hmatch⟩ := matches_labelledField.1 h
  have hsplit : first ++ ',' :: (label.toList ++ tail) =
      (pre ++ b₁) ++ ',' :: (b₂ ++ (label.toList ++ (b₃ ++ (value ++ (u' ++ v))))) := by
    rw [htext]
    simp
  have hpre : ',' ∉ pre ++ b₁ := by
    have hmany := hrest u' _ hmatch
    rw [hsplit, List.count_append] at hcount
    simp only [List.count_cons_self, List.count_append] at hcount
    rw [← List.count_eq_zero, List.count_append]
    omega
  obtain ⟨hfirst', hlabel'⟩ := append_cons_inj hfirst hpre hsplit
  obtain rfl := eq_nil_of_head h₂ (hlabel tail) hlabel'
  exact ⟨b₁, b₃, value, u', h₁, h₃, hfirst', List.append_cancel_left hlabel', hmatch⟩

/-- What the rest of the pattern captures in a text with two commas. -/
lemma captures_forwardRest {first context name pre u v : List Char} {caps caps' : Captures}
    (hfirst : ',' ∉ first) (hcontext : IsForwardValue context) (hname : ',' ∉ name)
    (htext : first ++ ',' :: ("CONTEXT:".toList ++ (context ++ ',' :: ("NAME:".toList ++
      (name ++ ['"', '\x7d'])))) = pre ++ (u ++ v))
    (h : Matches forwardRest u caps caps') : ∃ b b₁ b₂ name',
      Blanks b ∧ first = pre ++ b ∧ caps' = (3, name') :: (2, context) :: caps ∧
        Blanks b₁ ∧ Blanks b₂ ∧
          name ++ ['"', '\x7d'] = b₁ ++ (name' ++ (b₂ ++ (['"', '\x7d'] ++ v))) := by
  have hlabel : "CONTEXT:".toList = ['C', 'O', 'N', 'T', 'E', 'X', 'T', ':'] := by decide
  have hlabel' : "NAME:".toList = ['N', 'A', 'M', 'E', ':'] := by decide
  have hno : ∀ l : List Char, ',' ∉ l → l.count ',' = 0 := fun l => List.count_eq_zero_of_not_mem
  have hcount : (context ++ ',' :: ("NAME:".toList ++ (name ++ ['"', '\x7d']))).count ',' =
      0 + 1 := by
    simp [hlabel', hno _ hcontext.comma, hno _ hname]
  have hcount' : (first ++ ',' :: ("CONTEXT:".toList ++ (context ++ ',' :: ("NAME:".toList ++
      (name ++ ['"', '\x7d']))))).count ',' = 1 + 1 := by
    simp [hlabel, hlabel', hno _ hfirst, hno _ hcontext.comma, hno _ hname]
  have hfield : ∀ u' caps₁, Matches (labelledField "NAME:" 3 forwardEnd) u' caps₁ caps' →
      1 ≤ u'.count ',' := by
    intro u' caps₁ h
    obtain ⟨b₁, b₂, b₃, value, u'', rfl, -⟩ := matches_labelledField.1 h
    simp only [List.count_append, List.count_cons_self]
    omega
  obtain ⟨b, b', context', u', hb, hb', hfirst', htail, h⟩ :=
    values_of_labelledField pre hfirst (by simp [hlabel]) hcount' hfield htext h
  obtain ⟨b₀, b₁, name', u'', hb₀, hb₁, hcontext', hname', h⟩ :=
    values_of_labelledField (b' ++ context') hcontext.comma (by simp [hlabel']) hcount
      (fun _ _ _ => Nat.zero_le _) (by rw [htail, List.append_assoc]) h
  obtain ⟨b₂, hstop, hb₂, rfl⟩ := matches_forwardEnd.1 h
  -- the context has no blanks around it
  obtain rfl := eq_nil_of_last hb₀ hcontext.last hcontext'
  rw [List.append_nil] at hcontext'
  obtain rfl := eq_nil_of_head hb' hcontext.head hcontext'
  rw [List.nil_append] at hcontext'
  subst hcontext'
  rcases hstop with rfl | rfl
  · have hcomma : ',' ∈ name ++ ['"', '\x7d'] := by
      rw [hname']
      simp
    simp [hname] at hcomma
  · exact ⟨b, b₁, b₂, name', hb, hfirst', rfl, hb₁, hb₂, by simpa using hname'⟩

/-! ### The match -/

section Match

variable {first number context name : List Char}

/-- The text after the number. -/
def afterNumber (context name : List Char) : List Char :=
  ',' :: ("CONTEXT:".toList ++ (context ++ ',' :: ("NAME:".toList ++ (name ++ ['"', '\x7d']))))

lemma matches_afterNumber (hcontext : ∀ c ∈ context, dot c = true)
    (hname : ∀ c ∈ name, dot c = true) (caps : Captures) :
    Matches forwardRest (afterNumber context name) caps ((3, name) :: (2, context) :: caps) := by
  have hblanks : Blanks [] := by simp [Blanks]
  refine matches_labelledField.2 ⟨[], [], [], context, _, rfl, hblanks, hblanks, hblanks, hcontext,
    matches_labelledField.2 ⟨[], [], [], name, _, rfl, hblanks, hblanks, hblanks, hname, ?_⟩⟩
  exact matches_forwardEnd.2 ⟨[], Or.inr rfl, hblanks, rfl⟩

lemma matches_numberRest (hnumber : ∀ c ∈ number, dot c = true)
    (hcontext : ∀ c ∈ context, dot c = true) (hname : ∀ c ∈ name, dot c = true)
    (caps : Captures) : Matches numberRest (number ++ afterNumber context name) caps
      ((3, name) :: (2, context) :: (1, number) :: caps) :=
  ⟨number, _, _, rfl, ⟨caps, ⟨hnumber, rfl⟩, rfl⟩, matches_afterNumber hcontext hname _⟩

lemma matches_labelRest (hnumber : ∀ c ∈ number, dot c = true)
    (hcontext : ∀ c ∈ context, dot c = true) (hname : ∀ c ∈ name, dot c = true)
    (caps : Captures) : Matches labelRest ("NUM:".toList ++ (number ++ afterNumber context name))
      caps ((3, name) :: (2, context) :: (1, number) :: caps) :=
  ⟨_, _, caps, rfl, matches_lit.2 ⟨rfl, rfl⟩, [], _, caps, rfl, ⟨by simp, rfl⟩,
    matches_numberRest hnumber hcontext hname caps⟩

lemma unanchored_numberRest : Unanchored numberRest := ⟨trivial, unanchored_forwardRest⟩

lemma unanchored_labelRest : Unanchored labelRest :=
  ⟨unanchored_lit _, trivial, unanchored_numberRest⟩

lemma dots_afterNumber (h : ∀ c ∈ afterNumber context name, dot c = true) :
    (∀ c ∈ context, dot c = true) ∧ ∀ c ∈ name, dot c = true :=
  ⟨fun c hc => h c (by simp [afterNumber, hc]), fun c hc => h c (by simp [afterNumber, hc])⟩

/-- The engine goes on from every label before the first comma. -/
lemma run_labelRest_ne_none (hdot : ∀ c ∈ first ++ afterNumber context name, dot c = true)
    {before : List Char} (h : first = before ++ ("NUM:".toList ++ number)) (start : Bool) :
    run labelRest start ("NUM:".toList ++ (number ++ afterNumber context name)) []
      (fun _ _ caps => some caps) ≠ none := by
  obtain ⟨hcontext, hname⟩ := dots_afterNumber fun c hc => hdot c (List.mem_append_right _ hc)
  have hnumber : ∀ c ∈ number, dot c = true := fun c hc =>
    hdot c (List.mem_append_left _ (by simp [h, hc]))
  have hsome := run_isSome (k := fun _ _ caps => some caps) unanchored_labelRest
    (matches_labelRest hnumber hcontext hname []) (v := []) (fun _ => rfl) start
  rw [List.append_nil] at hsome
  exact Option.isSome_iff_ne_none.1 hsome

/-- The label that is found is the last one. -/
lemma afterLast_eq_of_longest (hdot : ∀ c ∈ first ++ afterNumber context name, dot c = true)
    {before v number : List Char} (hsplit : first ++ afterNumber context name = before ++ v)
    (hfirst : first = before ++ ("NUM:".toList ++ number))
    (hlongest : ∀ w v', v = w ++ v' → w ≠ [] → (∀ c ∈ w, dot c = true) →
      run labelRest false v' [] (fun _ _ caps => some caps) = none) :
    Text.afterLast "NUM:".toList first = number := by
  refine Text.afterLast_eq (by decide) hfirst fun before' number' hfirst' => ?_
  by_contra hlonger
  have hpre : before <+: before' := by
    have hbefore : before <+: first := ⟨_, hfirst.symm⟩
    exact List.prefix_of_prefix_length_le hbefore ⟨_, hfirst'.symm⟩ (by omega)
  obtain ⟨w, rfl⟩ := hpre
  have hw : w ≠ [] := by
    rintro rfl
    simp at hlonger
  have hv : v = w ++ ("NUM:".toList ++ (number' ++ afterNumber context name)) := by
    refine List.append_cancel_left (hsplit.symm.trans ?_)
    rw [hfirst']
    simp
  have hdots : ∀ c ∈ w, dot c = true := fun c hc =>
    hdot c (List.mem_append_left _ (by simp [hfirst', hc]))
  exact run_labelRest_ne_none hdot hfirst' false (hlongest w _ hv hw hdots)

lemma runMany_labelRest_isSome (hlabel : "NUM:".toList <:+: first)
    (hdot : ∀ c ∈ first ++ afterNumber context name, dot c = true) :
    (runMany dot [] (fun start s caps => run labelRest start s caps fun _ _ caps => some caps)
      true (first ++ afterNumber context name)).isSome := by
  obtain ⟨before, number, hlabel⟩ := hlabel
  have hfirst : first = before ++ ("NUM:".toList ++ number) := by
    rw [← hlabel, List.append_assoc]
  have htext : first ++ afterNumber context name =
      before ++ ("NUM:".toList ++ (number ++ afterNumber context name)) := by
    rw [hfirst]
    simp
  rw [htext]
  refine runMany_isSome (fun c hc => hdot c (List.mem_append_left _ (by simp [hfirst, hc]))) ?_
  exact Option.isSome_iff_ne_none.2 (run_labelRest_ne_none hdot hfirst _)

/-- The blanks after the label are all skipped. -/
lemma dropWhile_of_longest (hnumber : ∀ c ∈ number, dot c = true)
    (hdot : ∀ c ∈ afterNumber context name, dot c = true) {b v : List Char}
    (hb : ∀ c ∈ b, (c == ' ') = true) (hv : number ++ afterNumber context name = v)
    (hlongest : ∀ w v', v = w ++ v' → w ≠ [] → (∀ c ∈ w, (c == ' ') = true) →
      run numberRest false v' [] (fun _ _ caps => some caps) = none) :
    (b ++ number).dropWhile (· == ' ') = number := by
  rw [List.dropWhile_append_of_pos hb]
  cases number with
  | nil => rfl
  | cons c number =>
    refine List.dropWhile_cons_of_neg fun hc => ?_
    obtain ⟨hcontext, hname⟩ := dots_afterNumber hdot
    have hnone := hlongest [c] (number ++ afterNumber context name) hv.symm
      (List.cons_ne_nil _ _) (by simpa using hc)
    have hsome := run_isSome (k := fun _ _ caps => some caps) unanchored_numberRest
      (matches_numberRest (List.forall_mem_cons.1 hnumber).2 hcontext hname []) (v := [])
      (fun _ => rfl) false
    rw [List.append_nil, hnone] at hsome
    cases hsome

/-- What the pattern captures: the number follows the last label, and the name ends at a
quotation mark before a brace. -/
lemma matchStart_extraUserFwdRegex (hfirst : IsForwardValue first)
    (hlabel : "NUM:".toList <:+: first) (hcontext : IsForwardValue context)
    (hname : ',' ∉ name) (hdot : ∀ c ∈ first ++ afterNumber context name, dot c = true) :
    ∃ b₁ b₂ name' v, Blanks b₁ ∧ Blanks b₂ ∧
      name ++ ['"', '\x7d'] = b₁ ++ (name' ++ (b₂ ++ (['"', '\x7d'] ++ v))) ∧
      matchStart extraUserFwdRegex (first ++ afterNumber context name) =
        some [(3, name'), (2, context),
          (1, (Text.afterLast "NUM:".toList first).dropWhile (· == ' '))] := by
  have hmatch : matchStart extraUserFwdRegex (first ++ afterNumber context name) =
      runMany dot [] (fun start s caps => run labelRest start s caps fun _ _ caps => some caps)
        true (first ++ afterNumber context name) := by
    rw [extraUserFwdRegex_eq]
    rfl
  obtain ⟨caps, hcaps⟩ := Option.isSome_iff_exists.1 (runMany_labelRest_isSome hlabel hdot)
  obtain ⟨before, v, start', hsplit, -, hrun, hlongest⟩ := runMany_longest hcaps
  -- the label, and the blanks after it
  obtain ⟨u, v₁, start₁, caps₁, rfl, hlit, hrun⟩ := run_sound (r := lit "NUM:") hrun
  obtain ⟨rfl, rfl⟩ := matches_lit.1 hlit
  obtain ⟨b, v₂, start₂, rfl, hb, hrun, hlongest'⟩ := runMany_longest hrun
  -- the number, and what follows it
  obtain ⟨u, v₃, start₃, caps₂, rfl, hrest, hfound⟩ := run_sound (r := numberRest) hrun
  obtain rfl := Option.some.inj hfound
  obtain ⟨number, u, caps₃, rfl, ⟨caps₄, ⟨hnumber, rfl⟩, rfl⟩, hrest⟩ := hrest
  have htext : first ++ afterNumber context name =
      (before ++ ("NUM:".toList ++ (b ++ number))) ++ (u ++ v₃) := by
    rw [hsplit]
    simp
  obtain ⟨b', b₁, b₂, name', hb', hfirst', rfl, hb₁, hb₂, hname'⟩ :=
    captures_forwardRest hfirst.comma hcontext hname htext hrest
  obtain rfl := eq_nil_of_last hb' hfirst.last hfirst'
  rw [List.append_nil] at hfirst'
  refine ⟨b₁, b₂, name', v₃, hb₁, hb₂, hname', ?_⟩
  have hlast : Text.afterLast "NUM:".toList first = b ++ number :=
    afterLast_eq_of_longest hdot hsplit hfirst' hlongest
  have hafter : afterNumber context name = u ++ v₃ := List.append_cancel_left (hfirst' ▸ htext)
  have hdrop : (b ++ number).dropWhile (· == ' ') = number :=
    dropWhile_of_longest hnumber (fun c hc => hdot c (List.mem_append_right _ hc)) hb
      (by rw [hafter, List.append_assoc]) hlongest'
  rw [hmatch, hcaps, hlast, hdrop]

end Match

/-! ### The values that are kept -/

section Values

variable {e : Encoder} {number name : List Char}

/-- What the pattern takes for the number: the text after the last label. -/
def readNumber (e : Encoder) (number : List Char) : List Char :=
  (Text.afterLast "NUM:".toList ("NUM:".toList ++ e.encode number)).dropWhile (· == ' ')

lemma afterLast_label {s : List Char} (h : ¬ "NUM:".toList <:+: s) :
    Text.afterLast "NUM:".toList ("NUM:".toList ++ s) = s := by
  refine Text.afterLast_eq (by decide) (List.nil_append _).symm fun before t hsplit => ?_
  cases before with
  | nil => exact le_rfl
  | cons c before =>
    -- the label does not overlap itself
    have hlabel : "NUM:".toList = ['N', 'U', 'M', ':'] := by decide
    rw [hlabel] at h
    have hnone : ¬ ['N', 'U', 'M', ':'] <:+: 'U' :: 'M' :: ':' :: s := by
      simp [List.infix_cons_iff, h]
    rw [hlabel] at hsplit
    exact absurd ⟨before, t, by simpa using (List.cons.inj hsplit).2.symm⟩ hnone

lemma dropWhile_of_head {s : List Char} (h : s.head? ≠ some ' ') :
    s.dropWhile (· == ' ') = s := by
  cases s with
  | nil => rfl
  | cons c s => exact List.dropWhile_cons_of_neg fun hc => h (by rw [beq_iff_eq.1 hc]; rfl)

lemma readNumber_eq_iff (hnumber : number.head? ≠ some ' ') :
    readNumber e number = number ↔ e.Plain number ∧ ¬ "NUM:".toList <:+: number := by
  have hread : ¬ "NUM:".toList <:+: e.encode number → readNumber e number = e.encode number := by
    intro hnone
    have hhead : (e.encode number).head? ≠ some ' ' := fun h =>
      hnumber (Encoder.head?_of_head?_encode (by decide) h)
    rw [readNumber, afterLast_label hnone, dropWhile_of_head hhead]
  constructor
  · intro h
    by_cases hlabel : "NUM:".toList <:+: e.encode number
    · -- the number would have a label, which what is read has not
      obtain ⟨-, hnone⟩ := Text.afterLast_spec (by decide) hlabel
      have hocc := Encoder.infix_of_infix_encode (by decide) (by decide) hlabel
      rw [readNumber, Text.afterLast_append hlabel] at h
      have hsuffix := List.dropWhile_suffix (l := Text.afterLast "NUM:".toList (e.encode number))
        (· == ' ')
      rw [h] at hsuffix
      exact absurd (hocc.trans hsuffix.isInfix) hnone
    · have hencode : e.encode number = number := (hread hlabel).symm.trans h
      exact ⟨Encoder.encode_eq_self_iff.1 hencode, hencode ▸ hlabel⟩
  · rintro ⟨hplain, hlabel⟩
    have hencode := Encoder.encode_eq_self_iff.2 hplain
    rw [hread (by rwa [hencode]), hencode]

lemma count_quote_blanks {b : List Char} (hb : Blanks b) : b.count '"' = 0 := by
  refine List.count_eq_zero_of_not_mem fun hmem => ?_
  have hblank := hb '"' hmem
  revert hblank
  decide

/-- Between the blanks there is the whole text. -/
lemma eq_of_blanks {s t b₁ b₂ : List Char} (hs : IsForwardValue s) (h₁ : Blanks b₁)
    (h₂ : Blanks b₂) (h : s = b₁ ++ (t ++ b₂)) : t = s := by
  obtain rfl := eq_nil_of_head h₁ hs.head h
  obtain rfl := eq_nil_of_last h₂ hs.last h
  simpa using h.symm

/-- What follows the first quotation mark and brace has another quotation mark, or is empty. -/
lemma eq_nil_of_quote {s t v : List Char} (hv : v.count '"' = 0)
    (h : s ++ ['"', '\x7d'] = t ++ (['"', '\x7d'] ++ v)) : v = [] := by
  have hquote : '"' ∉ v := List.count_eq_zero.1 hv
  by_contra hne
  by_cases hlength : 2 ≤ v.length
  · have hsuffix : ['"', '\x7d'] <:+ v := List.suffix_of_suffix_length_le
      (List.suffix_append s _) ⟨t ++ ['"', '\x7d'], by rw [h, List.append_assoc]⟩ hlength
    exact hquote (hsuffix.subset List.mem_cons_self)
  · have hone : v.length = 1 := by
      have hpos := List.length_pos_iff.2 hne
      omega
    obtain ⟨c, rfl⟩ := List.length_eq_one_iff.1 hone
    -- the text would end with a brace twice
    have hlast := congrArg (fun l : List Char => l.dropLast.getLast?) h
    have hleft : (s ++ ['"', '\x7d']).dropLast = s ++ ['"'] := by
      rw [List.dropLast_append_of_ne_nil (by simp)]
      rfl
    have hright : (t ++ (['"', '\x7d'] ++ [c])).dropLast = t ++ ['"', '\x7d'] := by
      rw [List.dropLast_append_of_ne_nil (by simp)]
      rfl
    rw [hleft, hright] at hlast
    simp at hlast

/-- A name is read back if and only if it is written as it is: an escaped quotation mark would
be missing, or would end it. -/
lemma name_eq_iff {b₁ b₂ name' v : List Char} (hname : IsForwardValue name)
    (h₁ : Blanks b₁) (h₂ : Blanks b₂)
    (h : e.encode name ++ ['"', '\x7d'] = b₁ ++ (name' ++ (b₂ ++ (['"', '\x7d'] ++ v)))) :
    name' = name ↔ e.Plain name := by
  have hsplit : e.encode name ++ ['"', '\x7d'] =
      (b₁ ++ (name' ++ b₂)) ++ (['"', '\x7d'] ++ v) := by
    rw [h]
    simp
  have hpair : List.count '"' ['"', '\x7d'] = 1 := by decide
  have hcount := congrArg (List.count '"') hsplit
  simp only [List.count_append, count_quote_blanks h₁, count_quote_blanks h₂, hpair] at hcount
  constructor
  · rintro rfl
    have hwritten := Encoder.count_quote_encode (e := e) (s := name')
    obtain rfl := eq_nil_of_quote (by omega) hsplit
    have hencode : e.encode name' = b₁ ++ (name' ++ b₂) := List.append_cancel_right hsplit
    exact Encoder.encode_eq_self_iff.1 (eq_of_blanks (hname.encode e) h₁ h₂ hencode).symm
  · intro hplain
    have hno : name.count '"' = 0 := List.count_eq_zero.2 hplain.notMem_quote
    rw [Encoder.encode_eq_self_iff.2 hplain] at hsplit hcount
    have hquote : '"' ∉ b₁ ++ (name' ++ b₂) := by
      rw [← List.count_eq_zero]
      simp only [List.count_append, count_quote_blanks h₁, count_quote_blanks h₂]
      omega
    exact eq_of_blanks hname h₁ h₂ (append_cons_inj hplain.notMem_quote hquote hsplit).1

end Values

/-! ### Round trip -/

section RoundTrip

variable {e : Encoder} {number context name : List Char}

/-- The text of the payload before the first label. -/
def forwardOpening (blank : Bool) : List Char :=
  ['\x7b', '"'] ++ "extra".toList ++ ['"', ':'] ++ (if blank then [' '] else []) ++ ['"']

lemma objectText_forwardText (e : Encoder) (blank : Bool) (number context name : List Char) :
    e.objectText blank "extra".toList (forwardText number context name) =
      (forwardOpening blank ++ ("NUM:".toList ++ e.encode number)) ++
        afterNumber (e.encode context) (e.encode name) := by
  have hextra : e.encode "extra".toList = "extra".toList :=
    Encoder.encode_of_printable (by decide)
  have hnum : e.encode "NUM:".toList = "NUM:".toList := Encoder.encode_of_printable (by decide)
  have hcontext : e.encode "CONTEXT:".toList = "CONTEXT:".toList :=
    Encoder.encode_of_printable (by decide)
  have hname : e.encode "NAME:".toList = "NAME:".toList := Encoder.encode_of_printable (by decide)
  have hcomma : ∀ s, e.encode (',' :: s) = ',' :: e.encode s := by
    intro s
    rw [Encoder.encode_cons, e.keeps ',' (by decide) (by decide) (by decide)]
    rfl
  simp only [Encoder.objectText, forwardText, forwardOpening, afterNumber, Encoder.encode_append,
    hextra, hnum, hcontext, hname, hcomma, List.append_assoc, List.cons_append]

lemma extractCelExtra_objectText {x : Externals} (hnesting : 0 < x.jsonLimits.nesting)
    (e : Encoder) (blank : Bool) (number context name : List Char) :
    extractCelExtra x (some (String.ofList (e.objectText blank "extra".toList
      (forwardText number context name)))) =
        .ok (.obj [("extra", .str (String.ofList (forwardText number context name)))]) := by
  have hne : String.ofList (e.objectText blank "extra".toList
      (forwardText number context name)) ≠ "" := by
    simp [Encoder.objectText]
  rw [extractCelExtra, if_neg hne, Encoder.loads_objectText hnesting, String.ofList_toList]

lemma isForwardValue_first (blank : Bool) (hnumber : IsForwardValue number) :
    IsForwardValue (forwardOpening blank ++ ("NUM:".toList ++ number)) where
  comma := by
    have hopening : ',' ∉ forwardOpening blank := by
      cases blank <;> decide
    simp [hopening, hnumber.comma]
  head := by
    cases blank <;> simp [forwardOpening]
  last := by
    have hlabel : "NUM:".toList.getLast? = some ':' := by decide
    rw [List.getLast?_append, List.getLast?_append, hlabel]
    cases hlast : number.getLast? with
    | none => simp
    | some c =>
      intro hc
      exact hnumber.last (hlast.trans hc)

/-- No line feed is written. -/
lemma dot_objectText (e : Encoder) (blank : Bool) (number context name : List Char) :
    ∀ c ∈ (forwardOpening blank ++ ("NUM:".toList ++ e.encode number)) ++
      afterNumber (e.encode context) (e.encode name), dot c = true := by
  have hencode : ∀ s, '\n' ∉ e.encode s := by
    intro s hmem
    rcases Encoder.mem_encode hmem with hescape | ⟨-, -, hcontrol⟩
    · revert hescape
      decide
    · revert hcontrol
      decide
  have hopening : '\n' ∉ forwardOpening blank := by
    cases blank <;> decide
  have hnone : '\n' ∉ (forwardOpening blank ++ ("NUM:".toList ++ e.encode number)) ++
      afterNumber (e.encode context) (e.encode name) := by
    simp [afterNumber, hencode, hopening]
  intro c hc
  rw [dot, bne_iff_ne]
  rintro rfl
  exact hnone hc

/-- An extension of which nothing is shown. -/
def ExtensionFilter.Hides (f : ExtensionFilter) (exten : String) : Prop :=
  exten = "" ∨ exten ∈ f.extensions

lemma ExtensionFilter.filter_eq_filter_iff {f : ExtensionFilter} {exten exten' : String} :
    f.filter (some exten) = f.filter (some exten') ↔
      exten = exten' ∨ f.Hides exten ∧ f.Hides exten' := by
  have hshown : ∀ s, f.filter (some s) = some "" ↔ f.Hides s := by
    intro s
    by_cases h : s ∈ f.extensions <;> simp [ExtensionFilter.filter, Hides, h]
  have hkept : ∀ s, ¬ f.Hides s → f.filter (some s) = some s := by
    intro s hs
    exact if_neg fun h => hs (Or.inr h)
  constructor
  · intro h
    by_cases hs : f.Hides exten
    · exact Or.inr ⟨hs, (hshown exten').1 (h ▸ (hshown exten).2 hs)⟩
    · have hs' : ¬ f.Hides exten' := fun hs' =>
        hs ((hshown exten).1 (h.trans ((hshown exten').2 hs')))
      rw [hkept exten hs, hkept exten' hs'] at h
      exact Or.inl (Option.some.inj h)
  · rintro (rfl | ⟨hs, hs'⟩)
    · rfl
    · rw [(hshown exten).2 hs, (hshown exten').2 hs']

/-- The number is written as it is and has no label, or both it and what is read for it are
hidden. -/
def NumberKept (e : Encoder) (f : ExtensionFilter) (number : String) : Prop :=
  e.Plain number.toList ∧ ¬ "NUM:".toList <:+: number.toList ∨
    f.Hides (String.ofList (readNumber e number.toList)) ∧ f.Hides number

/-- The values of a first forward are those of its payload if and only if the encoder writes
them as they are. -/
theorem CallerCELInterpretor.interpretXivoUserFwd_iff (e : Encoder) (blank : Bool)
    (number context name : String) (cel : CEL) (call : RawCallLog)
    (hnumber : IsForwardValue number.toList) (hcontext : IsForwardValue context.toList)
    (hname : IsForwardValue name.toList)
    (hextra : cel.extra = some (String.ofList (e.objectText blank "extra".toList
      (forwardText number.toList context.toList name.toList))))
    (hfirst : call.interpretCallerXivoUserFwd = true) :
    (∃ call', interpretXivoUserFwd cel call = .ok call' ∧
      call'.requestedInternalExten = call.extensionFilter.filter (some number) ∧
      call'.requestedInternalContext = some context ∧ call'.requestedName = some name) ↔
    NumberKept e call.extensionFilter number ∧ e.Plain context.toList ∧ e.Plain name.toList := by
  obtain ⟨b₁, b₂, name', v, h₁, h₂, hend, hmatch⟩ := matchStart_extraUserFwdRegex
    (isForwardValue_first blank (hnumber.encode e)) ⟨forwardOpening blank, e.encode number.toList,
      List.append_assoc _ _ _⟩ (hcontext.encode e) (hname.encode e).comma
    (dot_objectText e blank number.toList context.toList name.toList)
  rw [Text.afterLast_append (List.prefix_append _ _).isInfix] at hmatch
  have hresult : (interpretXivoUserFwd cel call).map (fun call' => (call'.requestedInternalExten,
      call'.requestedInternalContext, call'.requestedName)) =
        .ok (call.extensionFilter.filter (String.ofList (readNumber e number.toList)),
          some (String.ofList (e.encode context.toList)), some (String.ofList name')) := by
    unfold interpretXivoUserFwd
    rw [hextra]
    dsimp only
    rw [String.toList_ofList, objectText_forwardText, hmatch]
    dsimp only
    rw [if_pos hfirst]
    rfl
  obtain ⟨call', hcall', hvalues⟩ := Results.exists_of_map_eq_ok hresult
  obtain ⟨hexten, hvalues⟩ := Prod.mk.inj hvalues
  obtain ⟨hcontext', hname'⟩ := Prod.mk.inj hvalues
  have hofList : ∀ (l : List Char) (s : String), String.ofList l = s ↔ l = s.toList := by
    intro l s
    exact ⟨fun h => by rw [← h, String.toList_ofList], fun h => by rw [h, String.ofList_toList]⟩
  simp only [hcall', Except.ok.injEq, exists_eq_left', hexten, hcontext', hname', Option.some.injEq]
  refine and_congr ?_ (and_congr ?_ ?_)
  · rw [ExtensionFilter.filter_eq_filter_iff, hofList, readNumber_eq_iff hnumber.head]
    rfl
  · rw [hofList, Encoder.encode_eq_self_iff]
  · rw [hofList, name_eq_iff hname h₁ h₂ hend]

end RoundTrip

namespace CallerCELInterpretor

/-- A call that is forwarded to a user. -/
def forwardEvent (name : String) : CEL :=
  { plainEvent 2 "1.1" "PJSIP/alice-00000001" .xivoUserFwd with
    extra := some (String.ofList (Encoder.minimal.objectText false "extra".toList
      (forwardText "100".toList "internal".toList name.toList))) }

instance (value : List Char) : Decidable (IsForwardValue value) :=
  decidable_of_iff (',' ∉ value ∧ value.head? ≠ some ' ' ∧ value.getLast? ≠ some ' ')
    ⟨fun h => ⟨h.1, h.2.1, h.2.2⟩, fun h => ⟨h.comma, h.head, h.last⟩⟩

theorem interpretXivoUserFwd_plainName : ∃ call',
    interpretXivoUserFwd (forwardEvent "Bob Marley") {} = .ok call' ∧
      call'.requestedInternalExten = ExtensionFilter.filter {} (some "100") ∧
      call'.requestedInternalContext = some "internal" ∧
      call'.requestedName = some "Bob Marley" :=
  (interpretXivoUserFwd_iff Encoder.minimal false "100" "internal" "Bob Marley"
    (forwardEvent "Bob Marley") {} (by decide) (by decide) (by decide) rfl rfl).2
    ⟨Or.inl ⟨by unfold Encoder.Plain; decide, by decide⟩, by unfold Encoder.Plain; decide,
      by unfold Encoder.Plain; decide⟩

/-- The escaped quotation marks are not decoded. -/
theorem interpretXivoUserFwd_quotedName :
    IsForwardValue "Bob \"Nesta\" Marley".toList ∧
      extractCelExtra .ascii (forwardEvent "Bob \"Nesta\" Marley").extra =
        .ok (.obj [("extra", .str "NUM:100,CONTEXT:internal,NAME:Bob \"Nesta\" Marley")]) ∧
      (interpretXivoUserFwd (forwardEvent "Bob \"Nesta\" Marley") {}).map (·.requestedName) =
        .ok (some "Bob \\\"Nesta\\\" Marley") ∧
      ¬ ∃ call', interpretXivoUserFwd (forwardEvent "Bob \"Nesta\" Marley") {} = .ok call' ∧
        call'.requestedInternalExten = ExtensionFilter.filter {} (some "100") ∧
        call'.requestedInternalContext = some "internal" ∧
        call'.requestedName = some "Bob \"Nesta\" Marley" := by
  have hname : (interpretXivoUserFwd (forwardEvent "Bob \"Nesta\" Marley") {}).map
      (·.requestedName) = .ok (some "Bob \\\"Nesta\\\" Marley") := by decide +kernel
  refine ⟨by decide, (extractCelExtra_objectText (by decide) _ _ _ _ _).trans ?_, hname, ?_⟩
  · decide
  rintro ⟨call', hcall', -, -, hname'⟩
  rw [hcall'] at hname
  have hsame := hname'.symm.trans (Except.ok.inj hname)
  revert hsame
  decide

end CallerCELInterpretor

end CallLogd
