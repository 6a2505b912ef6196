/-
The variables of a missed call, read back from their payload.

The payload is split at its commas, and each field at `": "`.  The names can be any texts:
they are percent-encoded, so that none of their characters is taken for a separator.
-/
import CallLogd.Interpretor.KeyPairs

namespace CallLogd

variable {x : Externals}

/-- The function `quote` encodes a name for `unquote`, without separators. -/
structure Quotes (x : Externals) (quote : String → String) (name : String) : Prop where
  unquote_quote : x.unquote (quote name) = name
  clean : ∀ c ∈ (quote name).toList, c ≠ ',' ∧ c ≠ ':' ∧ Text.isSpace c = false

/-- A text that can stand in a field as it is. -/
def IsFieldText (value : String) : Prop :=
  ',' ∉ value.toList ∧ ¬ [':', ' '] <:+: value.toList

/-- The blanks after the `i`-th comma. -/
def blanksAfter (spaced : ℕ → Bool) (i : ℕ) : String := if spaced i then " " else ""

/-- The payload of a missed call; `spaced i` tells whether a blank follows the `i`-th comma. -/
def missedCallText (quote : String → String) (spaced : ℕ → Bool) (v : UserMissedCall) : String :=
  String.ofList <| sequenceText ("wazo_tenant_uuid", v.wazoTenantUuid)
    [(blanksAfter spaced 0, "source_user_uuid", v.sourceUserUuid),
      (blanksAfter spaced 1, "destination_user_uuid", v.destinationUserUuid),
      (blanksAfter spaced 2, "destination_exten", v.destinationExten),
      (blanksAfter spaced 3, "source_name", quote v.sourceName),
      (blanksAfter spaced 4, "destination_name", quote v.destinationName)]

/-! ### Fields -/

/-- A label and a value that can be told apart. -/
def IsField (p : String × String) : Prop :=
  ',' ∉ p.1.toList ∧ ':' ∉ p.1.toList ∧ IsFieldText p.2

lemma Quotes.isFieldText {quote : String → String} {name : String} (h : Quotes x quote name) :
    IsFieldText (quote name) := by
  refine ⟨fun hmem => (h.clean ',' hmem).1 rfl, fun hocc => ?_⟩
  exact (h.clean ':' (hocc.subset (by decide))).2.1 rfl

lemma notMem_pairText {p : String × String} (h : IsField p) : ',' ∉ pairText p := by
  simp [pairText, h.1, h.2.2.1]

/-- The tokens of a sequence of fields. -/
lemma split_sequenceText (p : String × String) (ps : List (String × String × String))
    (hp : IsField p) (hps : ∀ q ∈ ps, ',' ∉ q.1.toList ∧ IsField q.2) :
    Text.split [','] (sequenceText p ps) =
      pairText p :: ps.map fun q => q.1.toList ++ pairText q.2 := by
  have hsplit : ∀ (ps : List (String × String × String)) (p : String × String)
      (before : List Char), ',' ∉ before → IsField p →
      (∀ q ∈ ps, ',' ∉ q.1.toList ∧ IsField q.2) →
        Text.split [','] (before ++ sequenceText p ps) =
          (before ++ pairText p) :: ps.map fun q => q.1.toList ++ pairText q.2 := by
    intro ps
    induction ps with
    | nil =>
      intro p before hbefore hp _
      refine Text.split_eq_singleton fun hocc => ?_
      have hmem : ',' ∈ before ++ pairText p := hocc.subset List.mem_cons_self
      exact (List.mem_append.1 hmem).elim hbefore (notMem_pairText hp)
    | cons q ps ih =>
      intro p before hbefore hp hps
      obtain ⟨hblanks, hq⟩ := hps q List.mem_cons_self
      have hfirst : ',' ∉ before ++ pairText p := fun hmem =>
        (List.mem_append.1 hmem).elim hbefore (notMem_pairText hp)
      have hrest := ih q.2 q.1.toList hblanks hq fun r hr => hps r (List.mem_cons_of_mem _ hr)
      rw [sequenceText, ← List.append_assoc, List.map_cons, ← hrest]
      exact Text.split_append hfirst
  exact hsplit ps p [] List.not_mem_nil hp hps

/-- The value of a token is what follows its label. -/
lemma labelledToken_eq {tokens : List String} {i : ℕ} {blanks : List Char} {p : String × String}
    (hget : tokens[i]? = some (String.ofList (blanks ++ pairText p))) (hblanks : ':' ∉ blanks)
    (hp : IsField p) : labelledToken tokens i = .ok p.2 := by
  have hlabel : ':' ∉ blanks ++ p.1.toList := fun hmem =>
    (List.mem_append.1 hmem).elim hblanks hp.2.1
  have hsplit : Text.split [':', ' '] (blanks ++ pairText p) =
      [blanks ++ p.1.toList, p.2.toList] := by
    have hassoc : blanks ++ pairText p = (blanks ++ p.1.toList) ++ ([':', ' '] ++ p.2.toList) := by
      simp [pairText]
    rw [hassoc]
    refine (Text.split_append hlabel).trans ?_
    rw [Text.split_eq_singleton hp.2.2.2]
  have hpieces : Text.splitString ": " (String.ofList (blanks ++ pairText p)) =
      [String.ofList (blanks ++ p.1.toList), p.2] := by
    have hseparator : ": ".toList = [':', ' '] := by decide
    rw [Text.splitString, hseparator, String.toList_ofList, hsplit]
    simp
  simp only [labelledToken, getIndex, hget, hpieces, bind, Except.bind]
  rfl

/-! ### Round trip -/

/-- The variables of a missed call are read back, whatever the names are. -/
theorem extractUserMissedCallVariables_missedCallText (x : Externals) (quote : String → String)
    (spaced : ℕ → Bool) (v : UserMissedCall) (fields : List (String × Json))
    (hsource : Quotes x quote v.sourceName) (hdestination : Quotes x quote v.destinationName)
    (htenant : IsFieldText v.wazoTenantUuid) (hsourceUser : IsFieldText v.sourceUserUuid)
    (hdestinationUser : IsFieldText v.destinationUserUuid)
    (hexten : IsFieldText v.destinationExten)
    (hfields : fields.lookup "extra" = some (.str (missedCallText quote spaced v))) :
    extractUserMissedCallVariables x (.obj fields) = .ok v := by
  have hfield : ∀ label value : String, ',' ∉ label.toList → ':' ∉ label.toList →
      IsFieldText value → IsField (label, value) := fun _ _ h h' h'' => ⟨h, h', h''⟩
  have h₀ := hfield "wazo_tenant_uuid" _ (by decide) (by decide) htenant
  have h₁ := hfield "source_user_uuid" _ (by decide) (by decide) hsourceUser
  have h₂ := hfield "destination_user_uuid" _ (by decide) (by decide) hdestinationUser
  have h₃ := hfield "destination_exten" _ (by decide) (by decide) hexten
  have h₄ := hfield "source_name" _ (by decide) (by decide) hsource.isFieldText
  have h₅ := hfield "destination_name" _ (by decide) (by decide) hdestination.isFieldText
  have hblanks : ∀ i, ',' ∉ (blanksAfter spaced i).toList ∧
      ':' ∉ (blanksAfter spaced i).toList := by
    intro i
    unfold blanksAfter
    cases spaced i <;> decide
  -- the tokens are the fields, with the blanks before them
  have htokens : Text.splitString "," (missedCallText quote spaced v) =
      [String.ofList ([] ++ pairText ("wazo_tenant_uuid", v.wazoTenantUuid)),
        String.ofList ((blanksAfter spaced 0).toList ++
          pairText ("source_user_uuid", v.sourceUserUuid)),
        String.ofList ((blanksAfter spaced 1).toList ++
          pairText ("destination_user_uuid", v.destinationUserUuid)),
        String.ofList ((blanksAfter spaced 2).toList ++
          pairText ("destination_exten", v.destinationExten)),
        String.ofList ((blanksAfter spaced 3).toList ++
          pairText ("source_name", quote v.sourceName)),
        String.ofList ((blanksAfter spaced 4).toList ++
          pairText ("destination_name", quote v.destinationName))] := by
    have hseparator : ",".toList = [','] := by decide
    rw [Text.splitString, missedCallText, hseparator, String.toList_ofList,
      split_sequenceText _ _ h₀]
    · rfl
    · simp only [List.forall_mem_cons]
      exact ⟨⟨(hblanks 0).1, h₁⟩, ⟨(hblanks 1).1, h₂⟩, ⟨(hblanks 2).1, h₃⟩, ⟨(hblanks 3).1, h₄⟩,
        ⟨(hblanks 4).1, h₅⟩, by simp⟩
  rw [extractUserMissedCallVariables]
  simp only [getItem, hfields, strMethod, bind, Except.bind, pure, Except.pure]
  rw [htokens]
  rw [labelledToken_eq (i := 0) rfl List.not_mem_nil h₀,
    labelledToken_eq (i := 1) rfl (hblanks 0).2 h₁, labelledToken_eq (i := 2) rfl (hblanks 1).2 h₂,
    labelledToken_eq (i := 3) rfl (hblanks 2).2 h₃, labelledToken_eq (i := 4) rfl (hblanks 3).2 h₄,
    labelledToken_eq (i := 5) rfl (hblanks 4).2 h₅]
  simp only [hsource.unquote_quote, hdestination.unquote_quote]

/-- A call from outside to a user that was missed. -/
def missedByKarl : UserMissedCall where
  wazoTenantUuid := "2c34c282"
  sourceUserUuid := ""
  destinationUserUuid := "de77813f"
  destinationExten := "1006"
  sourceName := "TREMBLAY, François: 1"
  destinationName := "Karl"

/-- The encoding of the names of the call. -/
def quoteName (name : String) : String :=
  if name = "TREMBLAY, François: 1" then "TREMBLAY%2C%20Fran%C3%A7ois%3A%201" else name

def unquoteName (text : String) : String :=
  if text = "TREMBLAY%2C%20Fran%C3%A7ois%3A%201" then "TREMBLAY, François: 1" else text

instance {x : Externals} {quote : String → String} {name : String} :
    Decidable (Quotes x quote name) :=
  decidable_of_iff (x.unquote (quote name) = name ∧
      ∀ c ∈ (quote name).toList, c ≠ ',' ∧ c ≠ ':' ∧ Text.isSpace c = false)
    ⟨fun h => ⟨h.1, h.2⟩, fun h => ⟨h.1, h.2⟩⟩

instance (value : String) : Decidable (IsFieldText value) :=
  inferInstanceAs (Decidable (_ ∧ _))

theorem extractUserMissedCallVariables_missedByKarl :
    extractUserMissedCallVariables { Externals.ascii with unquote := unquoteName }
        (.obj [("extra", .str (missedCallText quoteName (· == 2) missedByKarl))]) =
      .ok missedByKarl :=
  extractUserMissedCallVariables_missedCallText _ quoteName _ missedByKarl _ (by decide)
    (by decide) (by decide) (by decide) (by decide) (by decide) rfl

end CallLogd
