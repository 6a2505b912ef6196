/-
Listings from an id on, in the life of the service.

The id of a call log tells what was created after it.  Generations, deletions, purges and
removals come between two listings, in any order, transaction by transaction; a client
that goes on behind the last call log that it was given still gets each call log once
(`listed_once`).
-/
import CallLogd.Lib.Cursor
import CallLogd.Listing.Pagination
import CallLogd.Media.Life

namespace CallLogd

open Sequences Transactions

/-! ### The listing -/

/-- The conditions of `_list_query` on a row. -/
def CallLogDAO.listFilter (rules : TextRules) (params : ListParams) (stored : StoredCallLog) :
    Bool :=
  ((givenText params.requestedInternalExten).all fun exten =>
    stored.log.requestedInternalExten = some exten) &&
  ((givenText params.requestedInternalContext).all fun context =>
    stored.log.requestedInternalContext = some context) &&
  userFilter params stored && filters rules params stored

lemma CallLogDAO.listQuery_eq {rules : TextRules} {params : ListParams} {db : Database} :
    listQuery rules params db = (baseRows params db).filter (listFilter rules params) := rfl

/-- A request with another first id. -/
def ListParams.withStartId (startId : Option ℤ) (params : ListParams) : ListParams :=
  { params with startId := startId }

/-- The request for the call logs from an id on, in their order. -/
def ListParams.fromId (startId : ℕ) (limit : Option ℕ) (params : ListParams) : ListParams :=
  { params.withStartId (some startId) with
    order := some .id
    direction := some .asc
    distinctPeer := false
    limit := limit
    offset := none }

namespace CDRService

variable {rules : TextRules} {params : ListParams} {db : Database} {stored : StoredCallLog}
  {startId : Option ℤ} {n : ℕ} {limit : Option ℕ} {r : CDRList}

/-- The filters of a request but its first id. -/
def wants (rules : TextRules) (params : ListParams) (stored : StoredCallLog) : Bool :=
  CallLogDAO.listFilter rules
    ((CallLogDAO.setDefaultCallStatus (daoParams params)).withStartId none) stored

/-- The first id and the order are not read from the other parameters. -/
lemma daoParams_fromId :
    daoParams (params.fromId n limit) = (daoParams params).fromId n limit := by
  have hread : readRecordingFilename (params.fromId n limit) =
      (readRecordingFilename params).fromId n limit := by
    rw [readRecordingFilename_eq, readRecordingFilename_eq]
    change Option.elim ((givenText params.search).bind _) _ _ = _
    cases (givenText params.search).bind _ <;> rfl
  rw [daoParams, daoParams, hread]
  show (if (readRecordingFilename params).userUuids = [] then _ else _) = _
  split <;> rfl

lemma listFilter_withStartId :
    CallLogDAO.listFilter rules (params.withStartId startId) stored =
      (CallLogDAO.listFilter rules (params.withStartId none) stored &&
        startId.all fun startId => startId = 0 ∨ startId ≤ (stored.id : ℤ)) := by
  simp only [CallLogDAO.listFilter, CallLogDAO.filters, CallLogDAO.userFilter,
    ListParams.withStartId, Option.all_none, Bool.and_true]
  ac_rfl

/-- The paths of its recordings do not decide whether a call log is wanted. -/
lemma wants_of_fades {stored' : StoredCallLog} (h : stored.Fades stored') :
    wants rules params stored' = wants rules params stored := by
  obtain ⟨recordings, rfl, hempty⟩ := h.exists_withRecordings
  have hfilters : ∀ params, CallLogDAO.filters rules params (stored.withRecordings recordings) =
      CallLogDAO.filters rules params stored := by
    intro params
    rw [CallLogDAO.filters, CallLogDAO.filters, StoredCallLog.recordings_withRecordings, hempty]
    rfl
  rw [wants, wants, CallLogDAO.listFilter, CallLogDAO.listFilter, hfilters]
  rfl

lemma mem_selectedLogs_fromId : stored ∈ selectedLogs rules (params.fromId n limit) db ↔
    stored ∈ db.callLogs ∧ wants rules params stored ∧ n ≤ stored.id := by
  have hbase : CallLogDAO.baseRows
      (CallLogDAO.setDefaultCallStatus (daoParams (params.fromId n limit))) db = db.callLogs := by
    rw [daoParams_fromId]
    rfl
  have hfilter : CallLogDAO.listFilter rules
      (CallLogDAO.setDefaultCallStatus (daoParams (params.fromId n limit))) stored =
        CallLogDAO.listFilter rules ((CallLogDAO.setDefaultCallStatus
          (daoParams params)).withStartId (some (n : ℤ))) stored := by
    rw [daoParams_fromId]
    rfl
  rw [mem_selectedLogs, selected, CallLogDAO.listQuery_eq, hbase, List.mem_filter, hfilter,
    listFilter_withStartId, Bool.and_eq_true]
  refine and_congr_right fun _ => and_congr_right fun _ => ?_
  rw [Option.all_some, decide_eq_true_eq]
  omega

lemma distinct_id : OrderField.Distinct rules (some .asc) db.callLogs .id := by
  intro a ha b hb hab hba
  have hab : (a.id : ℤ) ≤ b.id := of_decide_eq_true hab
  have hba : (b.id : ℤ) ≤ a.id := of_decide_eq_true hba
  exact List.inj_on_of_nodup_map db.callLogs_nodup ha hb
    (Nat.le_antisymm (Int.ofNat_le.1 hab) (Int.ofNat_le.1 hba))

/-- The ids of the call logs from an id on. -/
def idsFrom (rules : TextRules) (params : ListParams) (n : ℕ) (db : Database) : List ℕ :=
  (listed rules (params.fromId n none) .id db).map (·.id)

lemma sorted_idsFrom : (idsFrom rules params n db).Pairwise (· < ·) := by
  have hnodup : ((listed rules (params.fromId n none) .id db).map (·.id)).Nodup := nodup_listed
  refine ((List.pairwise_map.1 hnodup).and (pairwise_mergeSort_rowLe _)).map _ ?_
  rintro a b ⟨hne, hle⟩
  have hle : (a.id : ℤ) ≤ b.id := of_decide_eq_true hle
  exact lt_of_le_of_ne (Int.ofNat_le.1 hle) hne

lemma mem_idsFrom {k : ℕ} : k ∈ idsFrom rules params n db ↔
    (∃ stored ∈ db.callLogs, wants rules params stored ∧ stored.id = k) ∧ n ≤ k := by
  rw [idsFrom, (listed_perm.map _).mem_iff, List.mem_map]
  simp only [mem_selectedLogs_fromId]
  constructor
  · rintro ⟨stored, ⟨hstored, hwants, hn⟩, rfl⟩
    exact ⟨⟨stored, hstored, hwants, rfl⟩, hn⟩
  · rintro ⟨⟨stored, hstored, hwants, rfl⟩, hn⟩
    exact ⟨stored, ⟨hstored, hwants, hn⟩, rfl⟩

/-- The items from an id on: all of them, or the first ones. -/
lemma ids_of_list_fromId (h : CDRService.list rules (params.fromId n limit) db = .ok r) :
    r.items.map (·.id) = match limit with
      | some (m + 1) => (idsFrom rules params n db).take (m + 1)
      | _ => idsFrom rules params n db := by
  have hpage : CDRService.list rules ((params.fromId n none).page limit none) db = .ok r := h
  have hitems := items_of_list_page rfl distinct_id hpage
  have hrows : ∀ l, Repetitions.repeated (rowCount (params.fromId n none) db) l = l :=
    fun l => List.flatMap_singleton' l
  have hunique : ∀ l : List StoredCallLog, (l.map (·.id)).Nodup → uniqueBy (·.id) l = l :=
    fun l hl => (congrArg _ (hrows l)).symm.trans
      (Repetitions.uniqueBy_repeated hl fun _ _ => Nat.one_pos)
  rw [hrows] at hitems
  have hnodup : ((listed rules (params.fromId n none) .id db).map (·.id)).Nodup := nodup_listed
  rw [idsFrom]
  cases limit with
  | none =>
      rw [hitems]
      exact congrArg _ (hunique _ hnodup)
  | some m =>
      cases m with
      | zero =>
          rw [hitems]
          exact congrArg _ (hunique _ hnodup)
      | succ m =>
          rw [hitems]
          refine (congrArg _ (hunique _ ?_)).trans List.map_take
          exact hnodup.sublist ((List.take_sublist _ _).map _)

variable (rules params n limit db) in
/-- Such a listing does not fail. -/
lemma exists_list_fromId : ∃ r, CDRService.list rules (params.fromId n limit) db = .ok r := by
  have hpage : ∃ r, CDRService.list rules ((params.fromId n none).page limit none) db = .ok r :=
    exists_list_page limit none rfl rfl
  exact hpage

/-! ### A client that goes on -/

/-- What a client wants of the tables. -/
def view (rules : TextRules) (params : ListParams) (w : World) : Cursor.View where
  keys := { k | ∃ stored ∈ w.tables.db.callLogs, wants rules params stored ∧ stored.id = k }
  bound := w.tables.db.nextCallLogId
  lt_bound := by
    rintro _ ⟨stored, hstored, -, rfl⟩
    exact w.tables.db.callLogs_lt stored hstored

lemma view_grows {w w' : World} (h : w.tables.db.Later w'.tables.db) :
    (view rules params w).Grows (view rules params w') where
  bound_le := h.nextCallLogId
  old := by
    rintro _ ⟨stored', hstored', hwants, rfl⟩ hlt
    obtain ⟨stored, hstored, hfades⟩ :=
      (h.callLogs stored' hstored').resolve_right (Nat.not_le.2 hlt)
    refine ⟨stored, hstored, (wants_of_fades hfades).symm.trans hwants, ?_⟩
    obtain ⟨f, -, rfl⟩ := hfades
    rfl

/-- A listing from an id on is a page. -/
lemma page_of_list {w : World}
    (h : CDRService.list rules (params.fromId n limit) w.tables.db = .ok r) :
    Cursor.Page (view rules params w).keys n (r.items.map (·.id)) := by
  have hall : Cursor.Page (view rules params w).keys n (idsFrom rules params n w.tables.db) :=
    ⟨sorted_idsFrom, fun k hk => mem_idsFrom.1 hk, fun k hk hn => .inl (mem_idsFrom.2 ⟨hk, hn⟩)⟩
  rw [ids_of_list_fromId h]
  cases limit with
  | none => exact hall
  | some m =>
      cases m with
      | zero => exact hall
      | succ m => exact hall.take (m + 1)

/-- The service goes on, or a client lists the call logs from its position on and then goes on
behind the last one. -/
inductive ClientStep (rules : TextRules) (params : ListParams) :
    World × Cursor.Reader → World × Cursor.Reader → Prop
  | life {removed : List String} {w w' : World} {c : Cursor.Reader} (h : LifeStep w removed w') :
      ClientStep rules params (w, c) (w', c)
  | list {w : World} {c : Cursor.Reader} {limit : Option ℕ} {r : CDRList}
      (h : CDRService.list rules (params.fromId c.position limit) w.tables.db = .ok r) :
      ClientStep rules params (w, c) (w, c.next (r.items.map (·.id)))

/-- A client that has not listed anything. -/
def newClient : Cursor.Reader := ⟨0, []⟩

lemma once_of_clientSteps {w₀ w : World} {c : Cursor.Reader}
    (h : Relation.ReflTransGen (ClientStep rules params) (w₀, newClient) (w, c)) :
    c.Once (view rules params w) := by
  have hnew : newClient.Once (view rules params w₀) :=
    ⟨List.Pairwise.nil, nofun, Nat.zero_le _, fun _ _ hlt => absurd hlt (Nat.not_lt_zero _)⟩
  have hreaches : Relation.ReflTransGen (Cursor.Step (view rules params)
      fun w w' : World => w.tables.db.Later w'.tables.db) (w₀, newClient) (w, c) := by
    refine h.lift id ?_
    rintro _ _ (hlife | hlist)
    · exact .change hlife.later
    · exact .read (page_of_list hlist)
  have hgrows : ∀ w w' : World, w.tables.db.Later w'.tables.db →
      (view rules params w).Grows (view rules params w') := fun _ _ => view_grows
  exact Cursor.once_of_reaches hgrows hreaches hnew

/-- However the service goes on between its listings, a client gets call logs in the order of
their ids and none of them twice.  Of those that are stored, it has got the ones that it wants
before its position; a listing of all the others completes them. -/
theorem listed_once (rules : TextRules) (params : ListParams) {w₀ w : World} {c : Cursor.Reader}
    (h : Relation.ReflTransGen (ClientStep rules params) (w₀, newClient) (w, c)) :
    c.read.Pairwise (· < ·) ∧
    (∀ stored ∈ w.tables.db.callLogs, wants rules params stored →
      (stored.id ∈ c.read ↔ stored.id < c.position)) ∧
    ∀ r, CDRService.list rules (params.fromId c.position none) w.tables.db = .ok r →
      ∀ stored ∈ w.tables.db.callLogs, wants rules params stored →
        (c.read ++ r.items.map (·.id)).count stored.id = 1 := by
  have honce := once_of_clientSteps h
  refine ⟨honce.sorted, fun stored hstored hwants => ⟨honce.lt stored.id, fun hlt => ?_⟩,
    fun r hr stored hstored hwants => ?_⟩
  · exact honce.read stored.id ⟨stored, hstored, hwants, rfl⟩ hlt
  · have hnext := honce.next (page_of_list hr)
    have hnodup : (c.read ++ r.items.map (·.id)).Nodup :=
      hnext.sorted.imp fun hlt => ne_of_lt hlt
    refine List.count_eq_one_of_mem hnodup ?_
    rw [List.mem_append]
    by_cases hlt : stored.id < c.position
    · exact .inl (honce.read stored.id ⟨stored, hstored, hwants, rfl⟩ hlt)
    · rw [ids_of_list_fromId hr]
      exact .inr (mem_idsFrom.2 ⟨⟨stored, hstored, hwants, rfl⟩, Nat.not_lt.1 hlt⟩)

/-- A call log that has nothing but a tenant and a date. -/
def datedCall : CallLog :=
  { ({} : RawCallLog).fillCallLog with
    tenantUuid := some "f2d5b8d6-6a5c-4d0e-8f8b-1d9f2f1a7c10"
    date := some 0 }

/-- The tables with one of them. -/
def oneCall : World where
  tables := {
    db := (Database.empty.insertTenants (CallLogsWriter.tenantUuids [datedCall])).insertCallLog
      datedCall }
  files := ∅

/-- A generation is about to create another one. -/
def anotherCall : CallLogsCreation := ⟨[datedCall], ∅⟩

/-- Its next transaction. -/
def createAnotherCall : Dao Phase := do
  return .created anotherCall (← CallLogDAO.createFromList false anotherCall.newCallLogs)

/-- It has created another one. -/
def twoCalls : World :=
  { oneCall with tables := { oneCall.tables with
      db := (run createAnotherCall oneCall.tables.db).2 } }

/-- The first call log is listed, then the second one is created. -/
lemma clientSteps_twoCalls :
    Relation.ReflTransGen (ClientStep .ascii {}) (oneCall, newClient) (twoCalls, ⟨2, [1]⟩) := by
  have hselected : selectedLogs .ascii (({} : ListParams).fromId 0 none) oneCall.tables.db =
      [⟨1, datedCall⟩] := by
    decide +kernel
  obtain ⟨r, hr⟩ := exists_list_fromId .ascii {} oneCall.tables.db 0 none
  have hids : r.items.map (·.id) = [1] := by
    rw [ids_of_list_fromId hr, idsFrom, listed, hselected, List.mergeSort_singleton]
    rfl
  have hlist : ClientStep .ascii {} (oneCall, newClient) (oneCall, ⟨2, [1]⟩) := by
    have hstep : ClientStep .ascii {} (oneCall, newClient)
        (oneCall, newClient.next (r.items.map (·.id))) := .list hr
    rwa [hids] at hstep
  have hnext : (Phase.tenantsCreated anotherCall).next ⟨.simple, .fromLinkedId "1.1"⟩ =
      some (.createCallLogs, createAnotherCall) := rfl
  exact (Relation.ReflTransGen.single hlist).tail (.life (.service (.transaction hnext oneCall)))

theorem listed_once_twoCalls : ∃ r : CDRList, CDRService.list .ascii
      (({} : ListParams).fromId 2 none) twoCalls.tables.db = .ok r ∧
    ([1] ++ r.items.map StoredCallLog.id).count 2 = 1 := by
  obtain ⟨r, hr⟩ := exists_list_fromId .ascii {} twoCalls.tables.db 2 none
  have hstored : (⟨2, datedCall⟩ : StoredCallLog) ∈ twoCalls.tables.db.callLogs := by
    decide +kernel
  have hwants : wants .ascii {} ⟨2, datedCall⟩ := by
    decide +kernel
  exact ⟨r, hr, (listed_once .ascii {} clientSteps_twoCalls).2.2 r hr _ hstored hwants⟩

end CDRService

end CallLogd
