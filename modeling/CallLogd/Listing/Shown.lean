/-
What a listing filters and sorts by is what it shows.

The status, the duration and whether a call was answered are computed by the schema, and
mirrored by expressions of the database.  The two agree: the listings of the statuses share
out the default listing (`listings_withStatus`), and a listing is in the order of the values
that it shows (`items_sorted`).
-/
import CallLogd.Listing.Pagination
import CallLogd.Listing.Schema

namespace CallLogd

open Sequences Calendar

/-! ### Statuses -/

/-- The request with another value of `call_status`. -/
def ListParams.withStatus (params : ListParams) (status : Option StatusFilter) : ListParams :=
  { params with callStatus := status }

section Status

variable {rules : TextRules} {params : ListParams} {db : Database} {status : CallStatus}
  {filter : Option StatusFilter} {stored : StoredCallLog} {r : CDRList}

/-- The predicate of a status is true of the call logs to which the schema gives it. -/
lemma selects_status_iff (log : CallLog) :
    StatusFilter.selects log (.status status) = true ↔ log.marshmallowCallStatus = status := by
  cases hblocked : log.blocked <;> cases hvoicemail : log.reachedVoicemail <;>
    cases hanswered : log.dateAnswer <;> cases status <;>
      simp [StatusFilter.selects, CallLog.statusAnswered, CallLog.statusBlocked,
        CallLog.statusVoicemail, CallLog.statusUnknown, CallLog.notBlocked,
        CallLog.marshmallowCallStatus, CallLog.marshmallowAnswered, hblocked, hvoicemail,
        hanswered]

lemma selects_default_iff (log : CallLog) :
    StatusFilter.selects log .default = true ↔ log.marshmallowCallStatus ≠ .blocked := by
  rw [Ne, ← selects_status_iff]
  simp [StatusFilter.selects, CallLog.notBlocked, CallLog.statusBlocked]

lemma get?_dump_call_status {formats : SchemaFormats} {cdr : Dict String Json}
    (h : CDRSchema.dump formats [] stored = .ok cdr) :
    Dict.get? cdr "call_status" = some (.str stored.log.marshmallowCallStatus.text) := by
  obtain ⟨details, -, hcdr⟩ := Results.exists_of_bind_eq_ok h
  obtain rfl := Except.ok.inj hcdr
  exact (Dict.get?_filter (p := fun key => decide (key ∉ ([] : List String)))).trans rfl

namespace CDRService

lemma daoParams_withStatus :
    daoParams (params.withStatus filter) = (daoParams params).withStatus filter := by
  have hread : readRecordingFilename (params.withStatus filter) =
      (readRecordingFilename params).withStatus filter := by
    rw [readRecordingFilename_eq, readRecordingFilename_eq]
    show ((givenText params.search).bind fun search =>
      Regex.matchStart recordingFilenameRegex search.toList).elim _ _ = _
    cases (givenText params.search).bind fun search =>
      Regex.matchStart recordingFilenameRegex search.toList <;> rfl
  rw [daoParams, hread]
  show (if (readRecordingFilename params).userUuids = [] then _ else _) = _
  rw [daoParams]
  split <;> rfl

/-- The other filters do not look at the status. -/
lemma exists_selected_eq (rules : TextRules) (params : ListParams) (db : Database) :
    ∃ p : StoredCallLog → Bool, ∀ filter : Option StatusFilter, ∀ stored,
      stored ∈ selected rules (params.withStatus filter) db ↔
        stored ∈ CallLogDAO.baseRows (daoParams params) db ∧ p stored = true ∧
          (filter.getD .default).selects stored.log = true := by
  refine ⟨fun stored =>
    (((givenText (daoParams params).requestedInternalExten).all fun exten =>
        stored.log.requestedInternalExten = some exten) &&
      ((givenText (daoParams params).requestedInternalContext).all fun context =>
        stored.log.requestedInternalContext = some context) &&
      CallLogDAO.userFilter (daoParams params) stored) &&
      CallLogDAO.filters rules ((daoParams params).withStatus none) stored,
    fun filter stored => ?_⟩
  have hstatus : CallLogDAO.setDefaultCallStatus (daoParams (params.withStatus filter)) =
      (daoParams params).withStatus (some (filter.getD .default)) := by
    rw [daoParams_withStatus]
    cases filter <;> rfl
  have hfilters : CallLogDAO.filters rules
      ((daoParams params).withStatus (some (filter.getD .default))) stored =
        (CallLogDAO.filters rules ((daoParams params).withStatus none) stored &&
          (filter.getD .default).selects stored.log) := by
    show (_ && (filter.getD .default).selects stored.log) = ((_ && true) && _)
    rw [Bool.and_true]
    rfl
  have hquery : selected rules (params.withStatus filter) db =
      (CallLogDAO.baseRows (daoParams params) db).filter fun stored =>
        ((givenText (daoParams params).requestedInternalExten).all fun exten =>
            stored.log.requestedInternalExten = some exten) &&
          ((givenText (daoParams params).requestedInternalContext).all fun context =>
            stored.log.requestedInternalContext = some context) &&
          CallLogDAO.userFilter (daoParams params) stored &&
          CallLogDAO.filters rules ((daoParams params).withStatus (some (filter.getD .default)))
            stored := by
    rw [selected, hstatus]
    rfl
  rw [hquery, List.mem_filter, hfilters, ← Bool.and_assoc, Bool.and_eq_true]

/-- The count is that of the call logs that are selected. -/
lemma filtered_eq (h : CDRService.list rules params db = .ok r) :
    r.filtered = (selectedLogs rules params db).length := by
  obtain ⟨callLogs, -, hr⟩ := Results.exists_of_bind_eq_ok h
  have hfiltered : r.filtered = (((selected rules params db).map (·.id)).dedup).length := by
    rw [← Except.ok.inj hr]
    rfl
  have hlength : (((selected rules params db).map (·.id)).dedup).length =
      (listed rules params .id db).length := length_dedup_selected
  rw [hfiltered, hlength, listed_perm.length_eq]

lemma selectedLogs_withStatus (rules : TextRules) (params : ListParams) (db : Database) :
    ∃ rows : List StoredCallLog, ∀ filter : Option StatusFilter,
      selectedLogs rules (params.withStatus filter) db =
        rows.filter fun stored => (filter.getD .default).selects stored.log := by
  classical
  obtain ⟨p, hp⟩ := exists_selected_eq rules params db
  refine ⟨db.callLogs.filter fun stored =>
    stored ∈ CallLogDAO.baseRows (daoParams params) db ∧ p stored = true, fun filter => ?_⟩
  rw [List.filter_filter, selectedLogs]
  refine List.filter_congr fun stored hstored => ?_
  have hmem : stored ∈ selectedLogs rules (params.withStatus filter) db ↔ _ :=
    mem_selectedLogs.trans (hp filter stored)
  rw [selectedLogs, List.mem_filter, and_iff_right hstored] at hmem
  rw [Bool.eq_iff_iff, hmem, Bool.and_eq_true, decide_eq_true_eq, ← and_assoc]
  exact and_comm

/-- A call log that is not blocked has one of the other statuses. -/
lemma length_filter_default (rows : List StoredCallLog) :
    (rows.filter fun stored => StatusFilter.default.selects stored.log).length =
      (rows.filter fun stored => (StatusFilter.status .answered).selects stored.log).length +
      (rows.filter fun stored => (StatusFilter.status .voicemail).selects stored.log).length +
      (rows.filter fun stored => (StatusFilter.status .unknown).selects stored.log).length := by
  induction rows with
  | nil => rfl
  | cons stored rows ih =>
      simp only [List.filter_cons, selects_status_iff, selects_default_iff]
      cases stored.log.marshmallowCallStatus <;> simp [ih] <;> omega

end CDRService

/-- The listings of the statuses: each shows its status only, no call log is in two of them,
and those of the statuses other than `blocked` share out the default listing, as their
counts do. -/
theorem listings_withStatus {all : CDRList} {r : CallStatus → CDRList}
    (hall : CDRService.list rules (params.withStatus none) db = .ok all)
    (hr : ∀ status,
      CDRService.list rules (params.withStatus (some (.status status))) db = .ok (r status)) :
    (∀ formats status, ∀ stored ∈ (r status).items, ∀ cdr,
      CDRSchema.dump formats [] stored = .ok cdr →
        Dict.get? cdr "call_status" = some (.str status.text)) ∧
    (∀ status status' stored, stored ∈ (r status).items → stored ∈ (r status').items →
      status = status') ∧
    (params.limit = none → params.offset = none → ∀ stored,
      stored ∈ all.items ↔ ∃ status ≠ CallStatus.blocked, stored ∈ (r status).items) ∧
    all.filtered =
      (r .answered).filtered + (r .voicemail).filtered + (r .unknown).filtered := by
  obtain ⟨p, hp⟩ := CDRService.exists_selected_eq rules params db
  have hstatus : ∀ status, ∀ stored ∈ (r status).items,
      stored.log.marshmallowCallStatus = status := by
    intro status stored hstored
    have hselected := CallLogDAO.mem_listQuery_of_mem_findAllInPeriod
      (CDRService.findAllInPeriod_of_list (hr status)) hstored
    exact (selects_status_iff _).1 ((hp _ _).1 hselected).2.2
  refine ⟨fun formats status stored hstored cdr hcdr => ?_, fun status status' stored h h' => ?_,
    fun hlimit hoffset stored => ?_, ?_⟩
  · rw [get?_dump_call_status hcdr, hstatus status stored hstored]
  · exact (hstatus status stored h).symm.trans (hstatus status' stored h')
  · have hmem : ∀ status, stored ∈ (r status).items ↔
        stored ∈ CallLogDAO.baseRows (CDRService.daoParams params) db ∧ p stored = true ∧
          stored.log.marshmallowCallStatus = status := fun status => by
      rw [CDRService.mem_items_iff (hr status) hlimit hoffset, hp, Option.getD_some,
        selects_status_iff]
    rw [CDRService.mem_items_iff hall hlimit hoffset, hp, Option.getD_none, selects_default_iff]
    simp only [hmem]
    constructor
    · rintro ⟨hrow, hselected, hne⟩
      exact ⟨_, hne, hrow, hselected, rfl⟩
    · rintro ⟨status, hne, hrow, hselected, rfl⟩
      exact ⟨hrow, hselected, hne⟩
  · obtain ⟨rows, hrows⟩ := CDRService.selectedLogs_withStatus rules params db
    rw [CDRService.filtered_eq hall, CDRService.filtered_eq (hr .answered),
      CDRService.filtered_eq (hr .voicemail), CDRService.filtered_eq (hr .unknown), hrows, hrows,
      hrows, hrows]
    exact CDRService.length_filter_default rows

end Status

/-- A call log that was answered, one that reached a voicemail and one that was blocked. -/
def threeStatuses : Database :=
  { Database.empty with
    callLogs :=
      [⟨1, { ({} : RawCallLog).fillCallLog with
          date := some 0, dateAnswer := some second, dateEnd := some (31 * second) }⟩,
        ⟨2, { ({} : RawCallLog).fillCallLog with date := some 0, reachedVoicemail := true }⟩,
        ⟨3, { ({} : RawCallLog).fillCallLog with date := some 0, blocked := true }⟩]
    nextCallLogId := 4
    callLogs_nodup := by decide
    callLogs_lt := by decide
    callLogs_pos := by decide
    nextCallLogId_pos := by decide }

theorem listings_withStatus_threeStatuses :
    ∃ (all : CDRList) (r : CallStatus → CDRList),
      CDRService.list .ascii {} threeStatuses = .ok all ∧
      (∀ stored, stored ∈ all.items ↔
        ∃ status ≠ CallStatus.blocked, stored ∈ (r status).items) ∧
      all.filtered =
        (r .answered).filtered + (r .voicemail).filtered + (r .unknown).filtered := by
  obtain ⟨all, hall⟩ : ∃ all, CDRService.list .ascii {} threeStatuses = .ok all := ⟨_, rfl⟩
  have hr : ∀ status, ∃ r, CDRService.list .ascii
      (ListParams.withStatus {} (some (.status status))) threeStatuses = .ok r :=
    fun status => ⟨_, rfl⟩
  choose r hr using hr
  obtain ⟨-, -, hmem, hfiltered⟩ := listings_withStatus hall hr
  exact ⟨all, r, hall, hmem rfl rfl, hfiltered⟩

/-! ### Sorting -/

/-- The rank of a status in a listing. -/
def CallStatus.rank : CallStatus → ℤ
  | unknown => 1
  | blocked => 2
  | voicemail => 3
  | answered => 4

/-- What a listing shows in the field that it is sorted by. -/
def OrderField.shownValue (stored : StoredCallLog) : OrderField → SortValue
  | marshmallowDuration => stored.log.shownDuration.map .inl
  | marshmallowAnswered => some (.inl (if stored.log.marshmallowAnswered then 1 else 0))
  | marshmallowCallStatus => some (.inl stored.log.marshmallowCallStatus.rank)
  | requestedUserUuid => textValue stored.log.requestedUserUuid
  | field => field.value stored

section Sorting

variable {rules : TextRules} {params : ListParams} {db : Database} {field : OrderField}
  {direction : OrderDirection} {a b : StoredCallLog} {r : CDRList}

lemma statusRank_eq (log : CallLog) : log.statusRank = log.marshmallowCallStatus.rank := by
  cases hblocked : log.blocked <;> cases hvoicemail : log.reachedVoicemail <;>
    cases hanswered : log.dateAnswer <;>
      simp [CallLog.statusRank, CallLog.statusAnswered, CallLog.statusBlocked,
        CallLog.statusVoicemail, CallLog.notBlocked, CallLog.marshmallowCallStatus,
        CallLog.marshmallowAnswered, CallStatus.rank, hblocked, hvoicemail, hanswered]

/-- Rounding and the cut at zero keep the order of the durations. -/
lemma shownDuration_mono {d e : ℤ} (h : d ≤ e) : max (d / second) 0 ≤ max (e / second) 0 :=
  max_le_max_right 0 (Int.ediv_le_ediv (by decide) h)

/-- A value that comes first is shown first. -/
lemma leNullsFirst_shownValue (h : rules.leNullsFirst (field.value a) (field.value b)) :
    rules.leNullsFirst (field.shownValue a) (field.shownValue b) := by
  cases field
  case marshmallowDuration =>
    have hvalue : ∀ stored : StoredCallLog, OrderField.value stored .marshmallowDuration =
        stored.log.marshmallowDuration.map .inl := fun stored => rfl
    rw [hvalue, hvalue] at h
    rw [OrderField.shownValue, OrderField.shownValue, CallLog.shownDuration,
      CallLog.shownDuration]
    cases ha : a.log.marshmallowDuration with
    | none => rfl
    | some d =>
        cases hb : b.log.marshmallowDuration with
        | none =>
            rw [ha, hb] at h
            cases h
        | some e =>
            rw [ha, hb] at h
            exact decide_eq_true (shownDuration_mono (of_decide_eq_true h))
  case marshmallowAnswered =>
    rw [OrderField.value, OrderField.value, timeValue, timeValue] at h
    rw [OrderField.shownValue, OrderField.shownValue, CallLog.marshmallowAnswered,
      CallLog.marshmallowAnswered]
    cases ha : a.log.dateAnswer <;> cases hb : b.log.dateAnswer <;>
      simp_all [TextRules.leNullsFirst, TextRules.leValue]
  case marshmallowCallStatus =>
    simpa only [OrderField.value, OrderField.shownValue, statusRank_eq] using h
  all_goals exact h

lemma le_shownValue
    (h : OrderDirection.le rules (some direction) (field.value a) (field.value b)) :
    OrderDirection.le rules (some direction) (field.shownValue a) (field.shownValue b) := by
  cases direction with
  | asc => exact leNullsFirst_shownValue h
  | desc => exact leNullsFirst_shownValue h

/-- A listing is in the order of what it shows: whatever field it is sorted by, with null
first if it increases, and last if it decreases. -/
theorem items_sorted (hfield : params.order = some field)
    (hdirection : params.direction = some direction)
    (hr : CDRService.list rules params db = .ok r) :
    r.items.Pairwise fun a b =>
      OrderDirection.le rules (some direction) (field.shownValue a) (field.shownValue b) := by
  obtain ⟨ordered, hordered, window, hwindow, hitems⟩ :=
    CallLogDAO.findAllInPeriod_eq_ok (CDRService.findAllInPeriod_of_list hr)
  have horder : (CallLogDAO.setDefaultCallStatus (CDRService.daoParams params)).order =
      some field := CDRService.daoParams_order.1.trans hfield
  have hdirection' : (CallLogDAO.setDefaultCallStatus (CDRService.daoParams params)).direction =
      params.direction := CDRService.daoParams_order.2.1
  have hsorted : ordered.Pairwise fun a b => CDRService.rowLe rules params field a b := by
    simp only [CallLogDAO.orderedRows, horder, hdirection'] at hordered
    split at hordered
    · cases hordered
    · exact Except.ok.inj hordered ▸ CDRService.pairwise_mergeSort_rowLe _
  rw [hitems]
  refine ((hsorted.sublist hwindow).sublist (uniqueBy_sublist _ _)).imp fun {a b} hab => ?_
  rw [CDRService.rowLe, hdirection] at hab
  exact le_shownValue hab

end Sorting

theorem items_sorted_threeStatuses :
    ∃ r : CDRList, CDRService.list .ascii
        { order := some .marshmallowDuration, direction := some .desc } threeStatuses = .ok r ∧
      r.items.Pairwise fun a b => OrderDirection.le .ascii (some .desc)
        (OrderField.shownValue a .marshmallowDuration)
        (OrderField.shownValue b .marshmallowDuration) := by
  obtain ⟨r, hr⟩ : ∃ r, CDRService.list .ascii
      { order := some .marshmallowDuration, direction := some .desc } threeStatuses = .ok r :=
    ⟨_, rfl⟩
  exact ⟨r, hr, items_sorted rfl rfl hr⟩

end CallLogd
