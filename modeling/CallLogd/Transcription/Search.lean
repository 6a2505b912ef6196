/-
The listing of the transcriptions: `VoicemailTranscriptionDAO.find_all`.

The special characters of the text that is searched for are escaped, one after the other,
so the search is literal (`like_searchPattern_iff`).
-/
import CallLogd.Listing.Query
import CallLogd.Transcription.Store

namespace CallLogd

/-- A row with its time of creation, which the database sets and only the listing reads. -/
structure ListedTranscription extends VoicemailTranscription where
  createdAt : DateTime
deriving DecidableEq

/-- What the transcriptions can be sorted by. -/
inductive TranscriptionOrder where
  | createdAt
  | messageId
deriving DecidableEq, Repr

/-- The parameters of `find_all`. -/
structure TranscriptionParams where
  voicemailId : Option (List ℤ) := none
  start : Option DateTime := none
  stop : Option DateTime := none
  searchText : Option String := none
  order : TranscriptionOrder := .createdAt
  direction : OrderDirection := .desc
  offset : Option ℕ := none
  limit : Option ℕ := none

/-- What `find_all` returns. -/
structure TranscriptionList where
  items : List ListedTranscription
  total : ℕ
  filtered : ℕ

/-- The value of a transcription in a column. -/
def TranscriptionOrder.value (row : ListedTranscription) : TranscriptionOrder → SortValue
  | createdAt => some (.inl row.createdAt)
  | messageId => some (.inr row.attributes.messageId)

namespace VoicemailTranscriptionDAO

/-- The text that is searched for, with its special characters escaped. -/
def escapeSearch (searchText : String) : String :=
  String.ofList <| Text.replaceChar '_' ['\\', '_'] <| Text.replaceChar '%' ['\\', '%'] <|
    Text.replaceChar '\\' ['\\', '\\'] searchText.toList

/-- The pattern of a search. -/
def searchPattern (searchText : String) : String := "%" ++ escapeSearch searchText ++ "%"

variable (rules : TextRules) (tenantUuids : Option (List String)) (params : TranscriptionParams)

/-- The rows of the tenants. -/
def ofTenants (row : ListedTranscription) : Bool :=
  tenantUuids.all fun tenantUuids => row.attributes.tenantUuid ∈ tenantUuids

/-- The filters of `find_all`. -/
def filters (row : ListedTranscription) : Bool :=
  (params.voicemailId.all fun voicemailIds => row.attributes.voicemailId.any (· ∈ voicemailIds)) &&
  (params.start.all fun start => decide (start ≤ row.createdAt)) &&
  (params.stop.all fun stop => decide (row.createdAt < stop)) &&
  ((givenText params.searchText).all fun searchText =>
    Like.like rules.fold (searchPattern searchText) row.attributes.transcriptionText)

/-- The rows that are counted as filtered. -/
def filteredRows (rows : List ListedTranscription) : List ListedTranscription :=
  (rows.filter (ofTenants tenantUuids)).filter (filters rules params)

/-- `find_all`. -/
def findAll (rows : List ListedTranscription) : TranscriptionList :=
  let filtered := filteredRows rules tenantUuids params rows
  let ordered := filtered.mergeSort fun a b =>
    OrderDirection.le rules (some params.direction) (params.order.value a) (params.order.value b)
  let items := ordered.drop (params.offset.getD 0)
  { items := (params.limit.map items.take).getD items
    total := (rows.filter (ofTenants tenantUuids)).length
    filtered := filtered.length }

variable {rules tenantUuids params}

/-- The three replacements escape each special character once. -/
lemma escapeSearch_eq (searchText : String) :
    escapeSearch searchText = String.ofList (Like.escape searchText.toList) := by
  have hchar : ∀ c, Text.replaceChar '_' ['\\', '_'] (Text.replaceChar '%' ['\\', '%']
      (if c = '\\' then ['\\', '\\'] else [c])) = Like.escapeChar c := by
    intro c
    by_cases hescape : c = '\\'
    · subst hescape
      rfl
    by_cases hpercent : c = '%'
    · subst hpercent
      rfl
    by_cases hunderscore : c = '_'
    · subst hunderscore
      rfl
    simp [Text.replaceChar, Like.escapeChar, hescape, hpercent, hunderscore]
  rw [escapeSearch, Like.escape]
  simp only [Text.replaceChar, List.flatMap_assoc] at hchar ⊢
  rw [List.flatMap_congr fun c _ => hchar c]

/-- The search is literal: its pattern matches the texts that contain the text. -/
theorem like_searchPattern_iff (fold : Char → Char) (searchText text : String) :
    Like.like fold (searchPattern searchText) text = true ↔
      Like.Contains fold searchText text := by
  rw [searchPattern, escapeSearch_eq]
  exact Like.like_escape_iff fold searchText text

/-- The rows that a search filters are those whose text contains it. -/
lemma mem_filteredRows_search {rows : List ListedTranscription} {row : ListedTranscription}
    {searchText : String} :
    row ∈ filteredRows rules tenantUuids { params with searchText := some searchText } rows ↔
      row ∈ filteredRows rules tenantUuids { params with searchText := none } rows ∧
        Like.Contains rules.fold searchText row.attributes.transcriptionText := by
  have hsearch : ((givenText (some searchText)).all fun searchText =>
      Like.like rules.fold (searchPattern searchText) row.attributes.transcriptionText) = true ↔
        Like.Contains rules.fold searchText row.attributes.transcriptionText := by
    by_cases h : searchText = ""
    · -- no search, and the empty text is in any text
      subst h
      exact iff_of_true rfl List.nil_infix
    · rw [givenText, Option.filter_some, if_pos (by simpa using h), Option.all_some,
        searchPattern, escapeSearch_eq, Like.like_escape_iff]
  have hnone : ((givenText none).all fun searchText =>
      Like.like rules.fold (searchPattern searchText) row.attributes.transcriptionText) = true :=
    rfl
  simp only [filteredRows, List.mem_filter, filters, Bool.and_eq_true, hsearch, hnone]
  tauto

/-- Without a page, the items are the filtered rows. -/
lemma mem_items_findAll {rows : List ListedTranscription} {row : ListedTranscription}
    (hlimit : params.limit = none) (hoffset : params.offset = none) :
    row ∈ (findAll rules tenantUuids params rows).items ↔
      row ∈ filteredRows rules tenantUuids params rows := by
  rw [findAll, hlimit, hoffset]
  exact List.mem_mergeSort

/-- A search lists, of the rows that are listed without it, those whose text contains what is
searched for. -/
theorem mem_items_search {rows : List ListedTranscription} {row : ListedTranscription}
    (hlimit : params.limit = none) (hoffset : params.offset = none) (searchText : String) :
    row ∈ (findAll rules tenantUuids { params with searchText := some searchText } rows).items ↔
      row ∈ (findAll rules tenantUuids { params with searchText := none } rows).items ∧
        Like.Contains rules.fold searchText row.attributes.transcriptionText := by
  have hitems : ∀ searchText, row ∈
      (findAll rules tenantUuids { params with searchText := searchText } rows).items ↔
        row ∈ filteredRows rules tenantUuids { params with searchText := searchText } rows :=
    fun _ => mem_items_findAll hlimit hoffset
  rw [hitems, hitems]
  exact mem_filteredRows_search

end VoicemailTranscriptionDAO

end CallLogd
