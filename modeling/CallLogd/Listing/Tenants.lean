/-
The tenants of the call logs that are read.
-/
import CallLogd.Listing.Query

namespace CallLogd

open CallLogDAO

/-- A call log is of one of the tenants. -/
def StoredCallLog.OfTenants (tenantUuids : List String) (stored : StoredCallLog) : Prop :=
  ∃ tenantUuid ∈ tenantUuids, stored.log.tenantUuid = some tenantUuid

/-- The reads that are given a list of tenants return and count only call logs of
these. -/
structure TenantIsolation (rules : TextRules) (tenantUuids : List String) (params : ListParams)
    (cdrId : ℕ) (userUuids : List String) (db : Database) : Prop where
  getById : ∀ stored, getById rules cdrId (some tenantUuids) userUuids db = some stored →
    stored.OfTenants tenantUuids
  findAllInPeriod : ∀ rows,
    findAllInPeriod rules { params with tenantUuids := some tenantUuids } db = .ok rows →
      ∀ stored ∈ rows, stored.OfTenants tenantUuids
  total : ∀ stored ∈ totalQuery rules { params with tenantUuids := some tenantUuids } db,
    stored.OfTenants tenantUuids
  filtered : ∀ stored ∈ filteredQuery rules { params with tenantUuids := some tenantUuids } db,
    stored.OfTenants tenantUuids

/-- A call log has a participant among some users, if there are any to look for. -/
def CallLog.InvolvesUsers (log : CallLog) (userUuids : List String) : Prop :=
  userUuids = [] ∨ ∃ p ∈ log.participants, p.userUuid ∈ userUuids

variable {rules : TextRules} {params : ListParams} {db : Database} {stored : StoredCallLog}
  {tenantUuids userUuids : List String} {cdrId : ℕ}

/-- A list of tenants that is not empty is a filter. -/
lemma ofTenants_of_filters (h : filters rules params stored)
    (htenants : params.tenantUuids = some tenantUuids) (hne : tenantUuids ≠ []) :
    stored.OfTenants tenantUuids := by
  simp only [filters, Bool.and_eq_true] at h
  have htenant : (params.tenantUuids.filter (· ≠ [])).all fun tenantUuids =>
      stored.log.tenantUuid.any (· ∈ tenantUuids) := by
    tauto
  rw [htenants] at htenant
  simp only [Option.filter, hne, ne_eq, not_false_eq_true, decide_true, if_true,
    Option.all_some] at htenant
  obtain ⟨tenantUuid, hsome, hmem⟩ := (Option.any_eq_true _ _).1 htenant
  exact ⟨tenantUuid, of_decide_eq_true hmem, hsome⟩

lemma not_ofTenants_nil : ¬ stored.OfTenants [] := by
  rintro ⟨_, hmem, -⟩
  cases hmem

lemma userFilter_of_mem_listQuery (h : stored ∈ listQuery rules params db) :
    userFilter params stored = true := by
  have hfilters := (List.mem_filter.1 h).2
  simp only [Bool.and_eq_true] at hfilters
  exact hfilters.1.2

lemma filters_of_mem_listQuery (h : stored ∈ listQuery rules params db) :
    filters rules params stored = true := by
  have hfilters := (List.mem_filter.1 h).2
  simp only [Bool.and_eq_true] at hfilters
  exact hfilters.2

/-- An empty list of tenants is no filter of the total. -/
lemma mem_totalQuery_nil :
    stored ∈ totalQuery rules { params with tenantUuids := some [] } db ↔
      stored ∈ db.callLogs ∧ userFilter params stored = true := by
  have hfilters : ∀ stored, filters rules
      { tenantUuids := some [], meUserUuid := params.meUserUuid } stored =
        userFilter params stored := by
    intro stored
    simp [filters, userFilter, givenText, Option.filter]
  have huser : ∀ stored, userFilter { params with tenantUuids := some [] } stored =
      userFilter params stored := fun _ => rfl
  rw [totalQuery, List.mem_filter, hfilters, huser, Bool.and_self]

variable (rules) in
/-- An empty list of tenants is no filter of a single call log. -/
lemma getById_nil_eq_some_iff :
    (∃ stored, getById rules cdrId (some []) userUuids db = some stored) ↔
      ∃ stored ∈ db.callLogs, stored.id = cdrId ∧ stored.log.InvolvesUsers userUuids := by
  have hfilters : ∀ stored, filters rules { tenantUuids := some [], userUuids := userUuids }
      stored = true ↔ stored.log.InvolvesUsers userUuids := by
    intro stored
    simp only [filters, givenText, CallLog.InvolvesUsers, CallLog.anyParticipant, Option.filter]
    simp
    tauto
  rw [← Option.isSome_iff_exists, getById, List.find?_isSome]
  simp only [Bool.and_eq_true, hfilters, decide_eq_true_eq]
  exact exists_congr fun stored => and_congr_right fun _ => and_comm

/-- A non-empty list of tenants is a filter of all the reads. -/
lemma tenantIsolation_of_ne_nil (hne : tenantUuids ≠ []) :
    TenantIsolation rules tenantUuids params cdrId userUuids db where
  getById stored hfound := by
    have hfilters := List.find?_some hfound
    rw [Bool.and_eq_true] at hfilters
    exact ofTenants_of_filters hfilters.1 rfl hne
  findAllInPeriod rows hrows stored hmem := by
    have hquery := mem_listQuery_of_mem_findAllInPeriod hrows hmem
    exact ofTenants_of_filters (filters_of_mem_listQuery hquery) rfl hne
  total stored hmem := by
    have hfilters := (List.mem_filter.1 hmem).2
    rw [Bool.and_eq_true] at hfilters
    exact ofTenants_of_filters hfilters.2 rfl hne
  filtered stored hmem := ofTenants_of_filters (filters_of_mem_listQuery hmem) rfl hne

/-- Without tenants, isolation means that there is nothing to read. -/
lemma tenantIsolation_nil_iff :
    TenantIsolation rules [] params cdrId userUuids db ↔
      (∀ stored ∈ db.callLogs, ¬ userFilter params stored) ∧
        ∀ stored ∈ db.callLogs, stored.id = cdrId → ¬ stored.log.InvolvesUsers userUuids := by
  constructor
  · intro h
    refine ⟨fun stored hstored huser => ?_, fun stored hstored hid husers => ?_⟩
    · exact not_ofTenants_nil (h.total stored (mem_totalQuery_nil.2 ⟨hstored, huser⟩))
    · obtain ⟨found, hfound⟩ := (getById_nil_eq_some_iff rules).2
        ⟨stored, hstored, hid, husers⟩
      exact not_ofTenants_nil (h.getById found hfound)
  · rintro ⟨huser, hid⟩
    -- every query of a listing has the user filter
    have hlist : ∀ (params' : ListParams) (stored : StoredCallLog),
        params'.meUserUuid = params.meUserUuid → stored ∉ listQuery rules params' db := by
      intro params' stored hme hmem
      have hfilter := userFilter_of_mem_listQuery hmem
      rw [userFilter, hme] at hfilter
      exact huser stored (mem_callLogs_of_mem_listQuery hmem) hfilter
    refine ⟨fun stored hfound => ?_, fun rows hrows stored hmem => ?_, fun stored hmem => ?_,
      fun stored hmem => ?_⟩
    · obtain ⟨stored, hstored, heq, husers⟩ := (getById_nil_eq_some_iff rules).1 ⟨stored, hfound⟩
      exact absurd husers (hid stored hstored heq)
    · exact absurd (mem_listQuery_of_mem_findAllInPeriod hrows hmem) (hlist _ stored (by rfl))
    · obtain ⟨hstored, hfilter⟩ := mem_totalQuery_nil.1 hmem
      exact absurd hfilter (huser stored hstored)
    · exact absurd hmem (hlist (setDefaultCallStatus _) stored (by rfl))

/-- The reads are isolated unless the list of tenants is empty and there is something to
read. -/
theorem tenantIsolation_iff (rules : TextRules) (tenantUuids : List String) (params : ListParams)
    (cdrId : ℕ) (userUuids : List String) (db : Database) :
    TenantIsolation rules tenantUuids params cdrId userUuids db ↔
      tenantUuids ≠ [] ∨
        (∀ stored ∈ db.callLogs, ¬ userFilter params stored) ∧
          ∀ stored ∈ db.callLogs, stored.id = cdrId → ¬ stored.log.InvolvesUsers userUuids := by
  by_cases hne : tenantUuids = []
  · subst hne
    rw [tenantIsolation_nil_iff]
    exact (or_iff_right fun h => h rfl).symm
  · exact iff_of_true (tenantIsolation_of_ne_nil hne) (.inl hne)

/-- A call log of a tenant. -/
def tenantCallLog : CallLog :=
  { ({} : RawCallLog).fillCallLog with
    tenantUuid := some "f2d5b8d6-6a5c-4d0e-8f8b-1d9f2f1a7c10"
    date := some 0
    sourceExten := some "1001" }

/-- A request for no tenant reads the call logs of all of them. -/
theorem not_tenantIsolation_nil :
    ∃ db : Database, ¬ TenantIsolation .ascii [] {} 1 [] db ∧
      findAllInPeriod .ascii { tenantUuids := some [] } db = .ok [⟨1, tenantCallLog⟩] := by
  refine ⟨({} : Database).insertCallLog tenantCallLog, fun h => ?_, by decide +kernel⟩
  have hfound := h.getById ⟨1, tenantCallLog⟩ (by decide +kernel)
  exact not_ofTenants_nil hfound

end CallLogd
