/-
The calls of some users.

The filter looks at all the source participants of a call log, of which one is shown.
-/
import CallLogd.Listing.Query

namespace CallLogd

open CallLogDAO

namespace CallLog

variable (log : CallLog) (userUuids : List String)

/-- The source or the destination that is shown is one of the users. -/
def ShownFor : Prop :=
  log.sourceUserUuid.any (· ∈ userUuids) ∨ log.destinationUserUuid.any (· ∈ userUuids)

/-- Some source participant is one of the users. -/
def HasSourceAmong : Prop := ∃ p ∈ log.participants, p.role = .source ∧ p.userUuid ∈ userUuids

end CallLog

/-- The request for some users, without a limit and an offset. -/
def ListParams.forUsers (params : ListParams) (userUuids : List String) : ListParams :=
  { params with userUuids := userUuids, terminalUserUuids := [], limit := none, offset := none }

variable {rules : TextRules} {params : ListParams} {db : Database} {stored : StoredCallLog}
  {log : CallLog} {userUuids : List String}

lemma matchesTerminalUsers_iff : matchesTerminalUsers log userUuids ↔
    log.HasSourceAmong userUuids ∨ log.destinationUserUuid.any (· ∈ userUuids) := by
  rw [matchesTerminalUsers, Bool.or_eq_true, CallLog.anyParticipant, List.any_eq_true]
  simp only [Bool.decide_and, Bool.and_eq_true, decide_eq_true_eq]
  rfl

/-- The source that is shown is a source participant. -/
lemma hasSourceAmong_of_sourceUserUuid (h : log.sourceUserUuid.any (· ∈ userUuids)) :
    log.HasSourceAmong userUuids := by
  obtain ⟨userUuid, hsource, hmem⟩ := (Option.any_eq_true _ _).1 h
  obtain ⟨p, hfind, rfl⟩ := Option.map_eq_some_iff.1 hsource
  refine ⟨p, List.mem_of_find?_eq_some hfind, ?_, of_decide_eq_true hmem⟩
  simpa using List.find?_some hfind

lemma filters_terminalUserUuids (hne : userUuids ≠ []) :
    filters rules { params with terminalUserUuids := userUuids } stored =
      (filters rules { params with terminalUserUuids := [] } stored &&
        matchesTerminalUsers stored.log userUuids) := by
  simp only [filters, hne, decide_false, Bool.false_or, decide_true, Bool.true_or, Bool.and_true]
  ac_rfl

variable (params) in
/-- The rows of a request for some users are those without the restriction whose source
or destination is one of them. -/
lemma mem_listQuery_terminalUserUuids (hne : userUuids ≠ []) :
    stored ∈ listQuery rules { params with terminalUserUuids := userUuids } db ↔
      stored ∈ listQuery rules { params with terminalUserUuids := [] } db ∧
        matchesTerminalUsers stored.log userUuids := by
  simp only [listQuery, List.mem_filter, filters_terminalUserUuids hne, Bool.and_eq_true]
  constructor
  · rintro ⟨hbase, hfilters, hrest, hterminal⟩
    exact ⟨⟨hbase, hfilters, hrest⟩, hterminal⟩
  · rintro ⟨⟨hbase, hfilters, hrest⟩, hterminal⟩
    exact ⟨hbase, hfilters, hrest, hterminal⟩

lemma readRecordingFilename_forUsers :
    CDRService.readRecordingFilename (params.forUsers userUuids) =
      (CDRService.readRecordingFilename params).forUsers userUuids := by
  have hsearch : (params.forUsers userUuids).search = params.search := rfl
  rw [CDRService.readRecordingFilename_eq, CDRService.readRecordingFilename_eq, hsearch]
  cases (givenText params.search).bind fun search =>
    Regex.matchStart recordingFilenameRegex search.toList <;> rfl

lemma daoParams_forUsers_nil : CDRService.daoParams (params.forUsers []) =
    (CDRService.readRecordingFilename params).forUsers [] := by
  rw [CDRService.daoParams, readRecordingFilename_forUsers]
  rfl

/-- The service only replaces the users. -/
lemma daoParams_forUsers (hne : userUuids ≠ []) :
    CDRService.daoParams (params.forUsers userUuids) =
      { (CDRService.readRecordingFilename params).forUsers [] with
        terminalUserUuids := userUuids } := by
  rw [CDRService.daoParams, readRecordingFilename_forUsers]
  exact if_neg hne

/-- What a request for some users selects, compared with what it selects without the
restriction. -/
lemma mem_selected_forUsers (hne : userUuids ≠ []) :
    stored ∈ CDRService.selected rules (params.forUsers userUuids) db ↔
      stored ∈ CDRService.selected rules (params.forUsers []) db ∧
        matchesTerminalUsers stored.log userUuids := by
  rw [CDRService.selected, CDRService.selected, daoParams_forUsers hne, daoParams_forUsers_nil]
  exact mem_listQuery_terminalUserUuids
    (setDefaultCallStatus ((CDRService.readRecordingFilename params).forUsers [])) hne

/-- The listing of some users agrees with the users that are shown if and only if every
call log that the other filters select and that has a source participant among them is
shown for them. -/
theorem items_forUsers_agree_iff {r : CDRList} (hne : userUuids ≠ [])
    (hr : CDRService.list rules (params.forUsers userUuids) db = .ok r) :
    (∀ stored, stored ∈ r.items ↔
        stored ∈ CDRService.selected rules (params.forUsers []) db ∧
          stored.log.ShownFor userUuids) ↔
      ∀ stored ∈ CDRService.selected rules (params.forUsers []) db,
        stored.log.HasSourceAmong userUuids → stored.log.ShownFor userUuids := by
  have hitems : ∀ stored, stored ∈ r.items ↔
      stored ∈ CDRService.selected rules (params.forUsers []) db ∧
        (stored.log.HasSourceAmong userUuids ∨
          stored.log.destinationUserUuid.any (· ∈ userUuids)) := by
    intro stored
    rw [CDRService.mem_items_iff hr rfl rfl, mem_selected_forUsers hne,
      matchesTerminalUsers_iff]
  simp only [hitems, CallLog.ShownFor]
  constructor
  · intro h stored hstored hsource
    exact ((h stored).1 ⟨hstored, .inl hsource⟩).2
  · intro h stored
    refine and_congr_right fun hstored => ⟨?_, Or.imp_left hasSourceAmong_of_sourceUserUuid⟩
    rintro (hsource | hdestination)
    · exact h stored hstored hsource
    · exact .inr hdestination

/-- A call log with the two users of a shared line as its sources. -/
def twoSources : CallLog :=
  { ({} : RawCallLog).fillCallLog with
    tenantUuid := some "f2d5b8d6-6a5c-4d0e-8f8b-1d9f2f1a7c10"
    date := some 0
    sourceExten := some "1001"
    participants :=
      [{ userUuid := "0a5bd3a4-6cf1-4a5a-9d6f-3a1f0f0c2d11", lineId := some 1, tags := [],
         role := .source },
       { userUuid := "7c9e6679-7425-40de-944b-e07fc1f90ae7", lineId := some 2, tags := [],
         role := .source }] }

/-- The request for the second one finds the call log. -/
lemma exists_list_twoSources :
    ∃ r, CDRService.list .ascii
        (({} : ListParams).forUsers ["7c9e6679-7425-40de-944b-e07fc1f90ae7"])
        (({} : Database).insertCallLog twoSources) = .ok r ∧
      r.items = [⟨1, twoSources⟩] :=
  Results.exists_of_map_eq_ok (g := CDRList.items) (by decide +kernel)

/-- It is found, and nothing shows that it is a call of this user. -/
theorem twoSources_not_agree :
    ∃ r, CDRService.list .ascii
        (({} : ListParams).forUsers ["7c9e6679-7425-40de-944b-e07fc1f90ae7"])
        (({} : Database).insertCallLog twoSources) = .ok r ∧
      ⟨1, twoSources⟩ ∈ r.items ∧
      ¬ twoSources.ShownFor ["7c9e6679-7425-40de-944b-e07fc1f90ae7"] := by
  obtain ⟨r, hr, hitems⟩ := exists_list_twoSources
  refine ⟨r, hr, hitems ▸ List.mem_singleton_self _, ?_⟩
  rw [CallLog.ShownFor]
  decide +kernel

/-- The request for both agrees with what is shown. -/
theorem items_forUsers_agree_twoSources :
    ∃ r, CDRService.list .ascii
        (({} : ListParams).forUsers ["0a5bd3a4-6cf1-4a5a-9d6f-3a1f0f0c2d11"])
        (({} : Database).insertCallLog twoSources) = .ok r ∧
      ∀ stored, stored ∈ r.items ↔
        stored ∈ CDRService.selected .ascii (({} : ListParams).forUsers [])
          (({} : Database).insertCallLog twoSources) ∧
        stored.log.ShownFor ["0a5bd3a4-6cf1-4a5a-9d6f-3a1f0f0c2d11"] := by
  have hlist : ∃ r, CDRService.list .ascii
      (({} : ListParams).forUsers ["0a5bd3a4-6cf1-4a5a-9d6f-3a1f0f0c2d11"])
      (({} : Database).insertCallLog twoSources) = .ok r ∧ r.total = 1 :=
    Results.exists_of_map_eq_ok (g := CDRList.total) (by decide +kernel)
  obtain ⟨r, hr, -⟩ := hlist
  refine ⟨r, hr, (items_forUsers_agree_iff (by decide) hr).2 fun stored hstored _ => ?_⟩
  obtain rfl : stored = ⟨1, twoSources⟩ := by
    have hmem := mem_callLogs_of_mem_listQuery hstored
    simpa [Database.insertCallLog, CallLog.columns] using hmem
  rw [CallLog.ShownFor]
  decide +kernel

end CallLogd
