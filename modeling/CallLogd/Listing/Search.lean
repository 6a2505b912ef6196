/-
The search of call logs: the `search` filter of `_apply_filters`.

The text is put in a pattern as it is, without escaping its special characters.  So the
search is literal exactly if there are none (`search_literal_iff`).
-/
import CallLogd.Listing.Query

namespace CallLogd

/-- The folding of `ILIKE` identifies the special characters of a pattern with no other
character. -/
def TextRules.KeepsSpecials (rules : TextRules) : Prop :=
  ∀ c ∈ ['\\', '%', '_'], ∀ d, rules.fold d = rules.fold c → d = c

/-- A searched column of a call log contains a text. -/
def CallLog.ContainsText (rules : TextRules) (log : CallLog) (text : String) : Prop :=
  ∃ column ∈ log.searchedColumns, ∃ value, column = some value ∧
    Like.Contains rules.fold text value

/-- A stored call log of which only the name of the source is known. -/
def callLogFrom (sourceName : Option String) : StoredCallLog where
  id := 1
  log :=
    { tenantUuid := some "tenant", date := some 0, dateAnswer := none, dateEnd := none
      sourceName := sourceName, sourceExten := none, sourceInternalExten := none
      sourceInternalContext := none, sourceInternalName := none, requestedExten := none
      requestedContext := none, requestedInternalExten := none
      requestedInternalContext := none, requestedName := none, destinationName := Json.null
      destinationExten := none, destinationInternalExten := none
      destinationInternalContext := none, destinationLineIdentity := none, userField := none
      sourceLineIdentity := none, direction := .internal, destinationDetails := []
      conversationId := none, blocked := false, reachedVoicemail := false, participants := []
      celIds := [], recordings := [] }

namespace CDRService

variable {rules : TextRules} {search : String} {stored : StoredCallLog}

/-- A text that is not the name of a recording is searched for. -/
lemma daoParams_search (h : Regex.matchStart recordingFilenameRegex search.toList = none) :
    daoParams { search := some search } = { search := some search } := by
  have hread : (givenText (some search)).bind (fun search =>
      Regex.matchStart recordingFilenameRegex search.toList) = none := by
    rw [givenText, Option.filter_some]
    split
    · exact h
    · rfl
  rw [daoParams, readRecordingFilename_eq, hread]
  rfl

/-- Without other parameters, only the search decides. -/
lemma filters_search : CallLogDAO.filters rules { search := some search } stored =
    (givenText (some search)).all (CallLogDAO.matchesSearch rules stored.log) := by
  simp [CallLogDAO.filters, givenText]

/-- The search filters all the call logs as a literal text. -/
def SearchIsLiteral (rules : TextRules) (search : String) : Prop :=
  ∀ stored, CallLogDAO.filters rules (daoParams { search := some search }) stored = true ↔
    stored.log.ContainsText rules search

lemma matchesSearch_callLogFrom (text : String) :
    CallLogDAO.matchesSearch rules (callLogFrom (some text)).log search =
      Like.like rules.fold ("%" ++ search ++ "%") text := by
  simp [CallLogDAO.matchesSearch, callLogFrom, CallLog.searchedColumns,
    CallLog.destinationNameText]

lemma containsText_callLogFrom (text : String) :
    (callLogFrom (some text)).log.ContainsText rules search ↔
      Like.Contains rules.fold search text := by
  simp [CallLog.ContainsText, callLogFrom, CallLog.searchedColumns,
    CallLog.destinationNameText]

/-- A text without special characters is found in the columns that contain it. -/
lemma matchesSearch_iff (h : Like.NoSpecial search.toList) :
    CallLogDAO.matchesSearch rules stored.log search = true ↔
      stored.log.ContainsText rules search := by
  rw [CallLogDAO.matchesSearch, List.any_eq_true]
  refine exists_congr fun column => and_congr_right fun _ => ?_
  rw [Option.any_eq_true]
  refine exists_congr fun value => and_congr_right fun _ => ?_
  exact Like.like_between_iff h rules.fold value

/-- A search is literal exactly if its text is not empty and has no special character. -/
theorem search_literal_iff (hrules : rules.KeepsSpecials)
    (hsearch : Regex.matchStart recordingFilenameRegex search.toList = none) :
    SearchIsLiteral rules search ↔ search ≠ "" ∧ Like.NoSpecial search.toList := by
  rw [SearchIsLiteral, daoParams_search hsearch]
  simp only [filters_search]
  constructor
  · intro h
    have hne : search ≠ "" := by
      rintro rfl
      -- the empty text is no search, so a call log without names is selected
      obtain ⟨column, hcolumn, value, rfl, -⟩ := (h (callLogFrom none)).1 rfl
      simp [callLogFrom, CallLog.searchedColumns, CallLog.destinationNameText] at hcolumn
    have hgiven : givenText (some search) = some search := by
      rw [givenText, Option.filter_some, if_pos (by simpa using hne)]
    have hletter : rules.fold 'a' ≠ rules.fold '_' := fun heq =>
      absurd (hrules '_' (by decide) 'a' heq) (by decide)
    have hescape : rules.fold '\\' ≠ rules.fold '%' := fun heq =>
      absurd (hrules '%' (by decide) '\\' heq) (by decide)
    refine ⟨hne, Like.noSpecial_of_like_between_iff hletter hescape fun text => ?_⟩
    rw [← matchesSearch_callLogFrom, ← containsText_callLogFrom, ← h, hgiven, Option.all_some]
  · rintro ⟨hne, hspecial⟩ stored
    rw [givenText, Option.filter_some, if_pos (by simpa using hne), Option.all_some,
      matchesSearch_iff hspecial]

/-- The search for `100%` selects the source `1000`. -/
theorem not_searchIsLiteral_percent :
    Regex.matchStart recordingFilenameRegex "100%".toList = none ∧
      ¬ SearchIsLiteral .ascii "100%" := by
  have hsearch : Regex.matchStart recordingFilenameRegex "100%".toList = none := by
    decide +kernel
  refine ⟨hsearch, fun h => ?_⟩
  have hselected : (callLogFrom (some "1000")).log.ContainsText .ascii "100%" := by
    refine (h _).1 ?_
    rw [daoParams_search hsearch, filters_search]
    decide +kernel
  exact absurd ((containsText_callLogFrom "1000").1 hselected) (by decide)

lemma keepsSpecials_ascii : TextRules.ascii.KeepsSpecials := by
  have hspecial : ∀ c ∈ ['\\', '%', '_'], c.toLower = c ∧ (c.toNat < 97 ∨ 122 < c.toNat) := by
    decide
  intro c hc d hd
  change d.toLower = c.toLower at hd
  obtain ⟨hlower, hrange⟩ := hspecial c hc
  rw [hlower] at hd
  delta Char.toLower at hd
  split at hd
  · next h =>
    -- a capital letter becomes a small one
    have hge : 65 ≤ d.val.toNat := UInt32.le_iff_toNat_le.1 h.1
    have hle : d.val.toNat ≤ 90 := UInt32.le_iff_toNat_le.1 h.2
    have hnat : c.toNat = (d.val + 32).toNat := by rw [← hd]; rfl
    rw [UInt32.toNat_add] at hnat
    have hsmall : (32 : UInt32).toNat = 32 := rfl
    omega
  · exact hd

theorem search_literal_bob :
    SearchIsLiteral .ascii "bob" ↔ "bob" ≠ "" ∧ Like.NoSpecial "bob".toList :=
  search_literal_iff keepsSpecials_ascii (by decide +kernel)

end CDRService

end CallLogd
