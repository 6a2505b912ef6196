/-
The `number` filter of the listings.

A request gives digits, with a `_` before or after them for any text.  The schema accepts
these texts and no others, and the pattern that is made of one of them finds the call logs
whose source or destination it describes (`numbers_listed`).
-/
import CallLogd.Listing.Shown

namespace CallLogd

open CallLogDAO

/-- `NUMBER_REGEX`. -/
def numberRegex : Regex :=
  .seq .bos <| .seq (.seq (.alt (Regex.lit "_") .eps) <| .seq (Regex.many1 Char.isDigit) <|
    .alt (Regex.lit "_") .eps) .eos

/-- The request schema accepts a number. -/
def NumberAccepted (text : String) : Prop :=
  (Regex.matchStart numberRegex text.toList).isSome

instance (text : String) : Decidable (NumberAccepted text) :=
  inferInstanceAs (Decidable ((Regex.matchStart numberRegex text.toList).isSome = true))

/-! ### What a number stands for -/

/-- A number that is looked for.  The `$` of the schema lets a final line feed pass. -/
structure NumberQuery where
  anyBefore : Bool
  digits : List Char
  anyAfter : Bool
  lineFeed : Bool
  digits_ne_nil : digits ≠ []
  isDigit_of_mem : ∀ c ∈ digits, c.isDigit = true

namespace NumberQuery

/-- The characters that are there if a flag is set. -/
def flagged {α : Type*} (flag : Bool) (a : α) : List α := if flag then [a] else []

/-- The text of a number in a request. -/
def text (query : NumberQuery) : String :=
  String.ofList (flagged query.anyBefore '_' ++ (query.digits ++
    (flagged query.anyAfter '_' ++ flagged query.lineFeed '\n')))

/-- An extension is the digits, with a text before or after them only where it is asked for. -/
def Finds (query : NumberQuery) (exten : String) : Prop :=
  ∃ before after,
    exten.toList = before ++ (query.digits ++ (after ++ flagged query.lineFeed '\n')) ∧
    (query.anyBefore = false → before = []) ∧ (query.anyAfter = false → after = [])

/-- One of the extensions of a call log is found. -/
def FindsCall (query : NumberQuery) (log : CallLog) : Prop :=
  ∃ exten, (log.sourceExten = some exten ∨ log.destinationExten = some exten) ∧ query.Finds exten

end NumberQuery

/-- The request with another value of `number`. -/
def ListParams.withNumber (params : ListParams) (number : Option String) : ListParams :=
  { params with number := number }

section Numbers

variable {rules : TextRules} {params : ListParams} {db : Database} {stored : StoredCallLog}
  {query : NumberQuery} {text exten : String} {number : Option String} {u v : List Char}

/-! ### The schema -/

lemma matches_optional {caps caps' : Regex.Captures} :
    Regex.Matches (.alt (Regex.lit "_") .eps) u caps caps' ↔
      (∃ flag, u = NumberQuery.flagged flag '_') ∧ caps' = caps := by
  rw [Regex.Matches, Regex.matches_lit, Regex.Matches, ← or_and_right]
  refine and_congr_left fun _ => ⟨?_, ?_⟩
  · rintro (rfl | rfl)
    · exact ⟨true, rfl⟩
    · exact ⟨false, rfl⟩
  · rintro ⟨flag, rfl⟩
    cases flag
    · exact .inr rfl
    · exact .inl rfl

lemma numberAccepted_iff : NumberAccepted text ↔ ∃ query : NumberQuery, query.text = text := by
  have hr : Regex.Unanchored (.seq (.alt (Regex.lit "_") .eps) <|
      .seq (Regex.many1 Char.isDigit) <| .alt (Regex.lit "_") .eps) :=
    ⟨⟨Regex.unanchored_lit _, trivial⟩, ⟨trivial, trivial⟩, Regex.unanchored_lit _, trivial⟩
  rw [NumberAccepted, numberRegex, Regex.matchStart_anchored_iff hr]
  constructor
  · rintro ⟨u, v, caps, htext, ⟨before, rest, caps₁, rfl, hbefore, digits, after, caps₂, rfl,
      hdigits, hafter⟩, hv⟩
    obtain ⟨⟨anyBefore, rfl⟩, rfl⟩ := matches_optional.1 hbefore
    obtain ⟨⟨hne, hisDigit⟩, rfl⟩ := Regex.matches_many1.1 hdigits
    obtain ⟨⟨anyAfter, rfl⟩, rfl⟩ := matches_optional.1 hafter
    obtain ⟨lineFeed, rfl⟩ : ∃ flag, v = NumberQuery.flagged flag '\n' :=
      hv.elim (fun h => ⟨false, h⟩) fun h => ⟨true, h⟩
    refine ⟨⟨anyBefore, digits, anyAfter, lineFeed, hne, hisDigit⟩, ?_⟩
    rw [← String.ofList_toList (s := text), htext, NumberQuery.text]
    simp only [List.append_assoc]
  · rintro ⟨query, rfl⟩
    refine ⟨NumberQuery.flagged query.anyBefore '_' ++ (query.digits ++
        NumberQuery.flagged query.anyAfter '_'), NumberQuery.flagged query.lineFeed '\n', [], ?_,
      ⟨_, _, [], rfl, matches_optional.2 ⟨⟨_, rfl⟩, rfl⟩, _, _, [], rfl,
        Regex.matches_many1.2 ⟨⟨query.digits_ne_nil, query.isDigit_of_mem⟩, rfl⟩,
        matches_optional.2 ⟨⟨_, rfl⟩, rfl⟩⟩, ?_⟩
    · simp only [NumberQuery.text, String.toList_ofList, List.append_assoc]
    · cases query.lineFeed
      · exact .inl rfl
      · exact .inr rfl

/-! ### The pattern -/

lemma tokens_flagged (flag : Bool) (u : List Char) :
    Like.tokens (NumberQuery.flagged flag '%' ++ u) =
      (Like.tokens u).map (NumberQuery.flagged flag .anyText ++ ·) := by
  cases flag
  · exact Option.map_id'.symm
  · rfl

lemma matchTokens_flagged {flag : Bool} :
    Like.matchTokens id (NumberQuery.flagged flag .anyText) u = true ↔ (flag = false → u = []) := by
  cases flag
  · simp [NumberQuery.flagged, Like.matchTokens]
  · simp [NumberQuery.flagged]

lemma noSpecial_of_isDigit (h : ∀ c ∈ u, c.isDigit = true) : Like.NoSpecial u := by
  intro c hc
  refine ⟨?_, ?_, ?_⟩ <;>
  · rintro rfl
    exact absurd (h _ hc) (by decide)

/-- The `_` of a number become wildcards, and nothing else does. -/
lemma pattern_text : (query.text.toList.map fun c => if c = '_' then '%' else c) =
    NumberQuery.flagged query.anyBefore '%' ++ (query.digits ++
      (NumberQuery.flagged query.anyAfter '%' ++ NumberQuery.flagged query.lineFeed '\n')) := by
  have hflag : ∀ flag, (NumberQuery.flagged flag '_').map (fun c => if c = '_' then '%' else c) =
      NumberQuery.flagged flag '%' := fun flag => by cases flag <;> rfl
  have hfeed : ∀ flag, (NumberQuery.flagged flag '\n').map (fun c => if c = '_' then '%' else c) =
      NumberQuery.flagged flag '\n' := fun flag => by cases flag <;> rfl
  have hdigits : query.digits.map (fun c => if c = '_' then '%' else c) = query.digits.map id :=
    List.map_congr_left fun c hc =>
      if_neg (noSpecial_of_isDigit query.isDigit_of_mem c hc).2.2
  rw [NumberQuery.text, String.toList_ofList, List.map_append, List.map_append, List.map_append,
    hflag, hflag, hfeed, hdigits, List.map_id]

lemma tokens_text : Like.tokens (query.text.toList.map fun c => if c = '_' then '%' else c) =
    some (NumberQuery.flagged query.anyBefore .anyText ++ (query.digits.map .char ++
      (NumberQuery.flagged query.anyAfter .anyText ++
        (NumberQuery.flagged query.lineFeed '\n').map .char))) := by
  have hfeed : Like.tokens (NumberQuery.flagged query.lineFeed '\n') =
      some ((NumberQuery.flagged query.lineFeed '\n').map .char) := by
    cases query.lineFeed <;> rfl
  rw [pattern_text, tokens_flagged,
    Like.tokens_append_of_noSpecial (noSpecial_of_isDigit query.isDigit_of_mem), tokens_flagged,
    hfeed]
  rfl

/-- The pattern of a number finds the extensions that the number stands for. -/
lemma like_text_iff : Like.like id
    (String.ofList (query.text.toList.map fun c => if c = '_' then '%' else c)) exten = true ↔
      query.Finds exten := by
  rw [Like.like, String.toList_ofList, tokens_text, Option.any_some]
  simp only [Like.matchTokens_append, Like.matchTokens_chars, matchTokens_flagged, List.map_id]
  constructor
  · rintro ⟨before, rest, hexten, hbefore, digits, tail, rfl, rfl, after, feed, rfl, hafter, rfl⟩
    exact ⟨before, after, hexten, hbefore, hafter⟩
  · rintro ⟨before, after, hexten, hbefore, hafter⟩
    exact ⟨before, _, hexten, hbefore, _, _, rfl, rfl, after, _, rfl, hafter, rfl⟩

lemma matchesNumber_iff {log : CallLog} :
    matchesNumber log query.text = true ↔ query.FindsCall log := by
  simp only [matchesNumber, List.any_cons, List.any_nil, Bool.or_false, Bool.or_eq_true,
    Option.any_eq_true, like_text_iff, NumberQuery.FindsCall, ← exists_or, or_and_right]

/-! ### The listings -/

lemma text_ne_empty : query.text ≠ "" := by
  intro hempty
  have hlength := congrArg (fun text => text.toList) hempty
  simp only [NumberQuery.text, String.toList_ofList] at hlength
  exact query.digits_ne_nil (List.append_eq_nil_iff.1 (List.append_eq_nil_iff.1 hlength).2).1

namespace CDRService

lemma daoParams_withNumber :
    daoParams (params.withNumber number) = (daoParams params).withNumber number := by
  have hread : readRecordingFilename (params.withNumber number) =
      (readRecordingFilename params).withNumber number := by
    rw [readRecordingFilename_eq, readRecordingFilename_eq]
    show ((givenText params.search).bind fun search =>
      Regex.matchStart recordingFilenameRegex search.toList).elim _ _ = _
    cases (givenText params.search).bind fun search =>
      Regex.matchStart recordingFilenameRegex search.toList <;> rfl
  rw [daoParams, hread]
  show (if (readRecordingFilename params).userUuids = [] then _ else _) = _
  rw [daoParams]
  split <;> rfl

/-- The rows of a number are those of the request without it in which the number is found. -/
lemma mem_selected_withNumber :
    stored ∈ selected rules (params.withNumber (some query.text)) db ↔
      stored ∈ selected rules (params.withNumber none) db ∧ query.FindsCall stored.log := by
  have hgiven : givenText (some query.text) = some query.text :=
    Option.filter_eq_some_iff.2 ⟨rfl, decide_eq_true text_ne_empty⟩
  have hfilters : ∀ params : ListParams,
      filters rules (params.withNumber (some query.text)) stored =
        (filters rules (params.withNumber none) stored &&
          matchesNumber stored.log query.text) := by
    intro params
    simp only [filters, ListParams.withNumber, hgiven, Option.all_some]
    simp only [givenText, Option.filter_none, Option.all_none, Bool.and_true]
    ac_rfl
  rw [selected, selected, daoParams_withNumber, daoParams_withNumber, ← matchesNumber_iff]
  show stored ∈ listQuery rules ((setDefaultCallStatus (daoParams params)).withNumber
      (some query.text)) db ↔
    stored ∈ listQuery rules ((setDefaultCallStatus (daoParams params)).withNumber none) db ∧ _
  simp only [listQuery, List.mem_filter, hfilters, ← Bool.and_assoc, Bool.and_eq_true]
  exact and_assoc.symm

end CDRService

/-- The schema accepts digits, with a `_` before or after them or not, and nothing else.  The
listing of such a number has the call logs of the listing without it of which the number
stands for the source or the destination extension; the counts are of these, and the totals
do not change. -/
theorem numbers_listed :
    (∀ text, NumberAccepted text ↔ ∃ query : NumberQuery, query.text = text) ∧
    ∀ (query : NumberQuery) (all r : CDRList),
      CDRService.list rules (params.withNumber none) db = .ok all →
      CDRService.list rules (params.withNumber (some query.text)) db = .ok r →
      params.limit = none → params.offset = none →
        (∀ stored, stored ∈ r.items ↔ stored ∈ all.items ∧ query.FindsCall stored.log) ∧
        r.filtered = r.items.length ∧ r.total = all.total := by
  refine ⟨fun text => numberAccepted_iff, fun query all r hall hr hlimit hoffset => ⟨?_, ?_, ?_⟩⟩
  · intro stored
    rw [CDRService.mem_items_iff hr hlimit hoffset, CDRService.mem_items_iff hall hlimit hoffset,
      CDRService.mem_selected_withNumber]
  · rw [CDRService.filtered_eq hr]
    refine ((List.perm_ext_iff_of_nodup ?_ (CDRService.nodup_items hr).of_map).2 fun stored => ?_
      ).length_eq
    · exact db.callLogs_nodup.of_map.filter _
    · rw [CDRService.mem_selectedLogs, CDRService.mem_items_iff hr hlimit hoffset]
  · obtain ⟨_, -, hall⟩ := Results.exists_of_bind_eq_ok hall
    obtain ⟨_, -, hr⟩ := Results.exists_of_bind_eq_ok hr
    rw [← Except.ok.inj hall, ← Except.ok.inj hr, CDRService.daoParams_withNumber,
      CDRService.daoParams_withNumber]
    rfl

end Numbers

/-- Calls from `101`, from `1012` and to `5101`. -/
def threeExtensions : Database :=
  ((Database.empty.insertCallLog
    { ({} : RawCallLog).fillCallLog with sourceExten := some "101" }).insertCallLog
    { ({} : RawCallLog).fillCallLog with sourceExten := some "1012" }).insertCallLog
    { ({} : RawCallLog).fillCallLog with destinationExten := some "5101" }

theorem numbers_listed_threeExtensions :
    ∃ all r, CDRService.list .ascii (ListParams.withNumber {} none) threeExtensions = .ok all ∧
      CDRService.list .ascii (ListParams.withNumber {} (some "_101")) threeExtensions = .ok r ∧
      r.items.map (·.id) = [1, 3] ∧ r.filtered = r.items.length ∧ r.total = all.total := by
  let query : NumberQuery := ⟨true, "101".toList, false, false, by decide, by decide⟩
  obtain ⟨all, hall⟩ : ∃ all,
      CDRService.list .ascii (ListParams.withNumber {} none) threeExtensions = .ok all := ⟨_, rfl⟩
  obtain ⟨r, hr, hids⟩ : ∃ r, CDRService.list .ascii
      (ListParams.withNumber {} (some query.text)) threeExtensions = .ok r ∧
        r.items.map (·.id) = [1, 3] :=
    Results.exists_of_map_eq_ok (g := fun r : CDRList => r.items.map (·.id)) (by decide +kernel)
  obtain ⟨-, hcounts⟩ := numbers_listed.2 query all r hall hr rfl rfl
  exact ⟨all, r, hall, hr, hids, hcounts⟩

end CallLogd
