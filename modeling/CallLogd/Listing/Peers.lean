/-
The calls of a user, one for each peer.

The sub-query keeps the greatest identifier of each user and peer before the filters are
applied, whatever the dates are.
-/
import CallLogd.Listing.Query

namespace CallLogd

open CallLogDAO

/-- A call log is one of a user with a peer. -/
def StoredCallLog.HasPeer (userUuid peer : String) (stored : StoredCallLog) : Prop :=
  ∃ p ∈ stored.log.participants, p.userUuid = userUuid ∧ p.peerExten stored.log = some peer

/-- The date of a call log is not before that of another one. -/
def StoredCallLog.AtLeastAsRecent (stored other : StoredCallLog) : Prop :=
  ∀ date ∈ other.log.date, ∃ date' ∈ stored.log.date, date ≤ date'

/-- A call log is the last one of one of its participants with this participant's peer,
in the order of the identifiers. -/
def StoredCallLog.IsLastOfPair (db : Database) (stored : StoredCallLog) : Prop :=
  ∃ p ∈ stored.log.participants, ∀ other ∈ db.callLogs, ∀ q ∈ other.log.participants,
    peerKey (other, q) = peerKey (stored, p) → other.id ≤ stored.id

instance (stored other : StoredCallLog) : Decidable (stored.AtLeastAsRecent other) :=
  inferInstanceAs (Decidable (∀ date ∈ _, ∃ date' ∈ _, _))

instance (db : Database) (stored : StoredCallLog) : Decidable (stored.IsLastOfPair db) :=
  inferInstanceAs (Decidable (∃ _ ∈ _, ∀ _ ∈ _, ∀ _ ∈ _, _ → _))

/-- The request of a user for one call of each peer, without a limit and an offset. -/
def ListParams.distinctPeers (params : ListParams) (userUuid : String) : ListParams :=
  { params with
    meUserUuid := some userUuid
    distinctPeer := true
    limit := none
    offset := none }

/-- The request of a user for all the calls. -/
def ListParams.allCalls (params : ListParams) (userUuid : String) : ListParams :=
  { params.distinctPeers userUuid with distinctPeer := false }

/-- There is one item for each peer of the matching calls of a user, and it is the most
recent one of these. -/
structure OneRecentCallPerPeer (userUuid : String) (items matching : List StoredCallLog) :
    Prop where
  nodup : (items.map (·.id)).Nodup
  one : ∀ peer, (∃ m ∈ matching, m.HasPeer userUuid peer) →
    ∃ s, (∀ stored, stored ∈ items ∧ stored.HasPeer userUuid peer ↔ stored = s) ∧
      ∀ m ∈ matching, m.HasPeer userUuid peer → s.AtLeastAsRecent m

variable {rules : TextRules} {params : ListParams} {db : Database} {stored : StoredCallLog}
  {userUuid : String}

lemma mem_participantRows {row : StoredCallLog × CallLogParticipant} :
    row ∈ participantRows db ↔ row.1 ∈ db.callLogs ∧ row.2 ∈ row.1.log.participants := by
  obtain ⟨stored, p⟩ := row
  simp only [participantRows, List.mem_flatMap, List.mem_map, Prod.mk.injEq]
  constructor
  · rintro ⟨_, hmem, _, hp, rfl, rfl⟩
    exact ⟨hmem, hp⟩
  · rintro ⟨hmem, hp⟩
    exact ⟨stored, hmem, p, hp, rfl, rfl⟩

/-- The identifiers of the sub-query are those of the last call logs of the pairs. -/
lemma mem_maxIds (hstored : stored ∈ db.callLogs) :
    stored.id ∈ maxIds db ↔ stored.IsLastOfPair db := by
  simp only [maxIds, List.mem_filterMap, List.mem_dedup, List.mem_map]
  constructor
  · rintro ⟨key, -, hmax⟩
    obtain ⟨hmem, hle⟩ := List.max?_eq_some_iff.1 hmax
    obtain ⟨⟨other, p⟩, hrow, hid⟩ := List.mem_map.1 hmem
    obtain ⟨hrow, hkey⟩ := List.mem_filter.1 hrow
    obtain ⟨hother, hp⟩ := mem_participantRows.1 hrow
    obtain rfl : other = stored := List.inj_on_of_nodup_map db.callLogs_nodup hother hstored hid
    refine ⟨p, hp, fun other' hother' q hq heq => hle _ (List.mem_map.2 ⟨(other', q), ?_, rfl⟩)⟩
    exact List.mem_filter.2 ⟨mem_participantRows.2 ⟨hother', hq⟩,
      decide_eq_true (heq.trans (of_decide_eq_true hkey))⟩
  · rintro ⟨p, hp, hle⟩
    refine ⟨peerKey (stored, p), ⟨_, mem_participantRows.2 ⟨hstored, hp⟩, rfl⟩,
      List.max?_eq_some_iff.2 ⟨List.mem_map.2 ⟨(stored, p), ?_, rfl⟩, fun id hid => ?_⟩⟩
    · exact List.mem_filter.2 ⟨mem_participantRows.2 ⟨hstored, hp⟩, decide_eq_true rfl⟩
    · obtain ⟨⟨other, q⟩, hrow, rfl⟩ := List.mem_map.1 hid
      obtain ⟨hrow, hkey⟩ := List.mem_filter.1 hrow
      obtain ⟨hother, hq⟩ := mem_participantRows.1 hrow
      exact hle other hother q hq (of_decide_eq_true hkey)

variable (params) in
/-- The sub-query intersects the calls that the filters select. -/
lemma mem_listQuery_distinctPeer :
    stored ∈ listQuery rules { params with distinctPeer := true } db ↔
      stored ∈ listQuery rules { params with distinctPeer := false } db ∧
        stored.IsLastOfPair db := by
  simp only [listQuery, List.mem_filter, mem_baseRows, forall_const, Bool.false_eq_true,
    false_implies, and_true]
  constructor
  · rintro ⟨⟨hmem, hid⟩, hfilters⟩
    exact ⟨⟨hmem, hfilters⟩, (mem_maxIds hmem).1 hid⟩
  · rintro ⟨⟨hmem, hfilters⟩, hlast⟩
    exact ⟨⟨hmem, (mem_maxIds hmem).2 hlast⟩, hfilters⟩

variable (params) in
/-- The service leaves `distinct` to the DAO. -/
lemma daoParams_distinctPeer (b : Bool) :
    CDRService.daoParams { params with distinctPeer := b } =
      { CDRService.daoParams params with distinctPeer := b } := by
  have hread : CDRService.readRecordingFilename { params with distinctPeer := b } =
      { CDRService.readRecordingFilename params with distinctPeer := b } := by
    have hsearch : ({ params with distinctPeer := b } : ListParams).search = params.search := rfl
    rw [CDRService.readRecordingFilename_eq, CDRService.readRecordingFilename_eq, hsearch]
    cases (givenText params.search).bind fun search =>
      Regex.matchStart recordingFilenameRegex search.toList <;> rfl
  rw [CDRService.daoParams, hread, CDRService.daoParams]
  dsimp only
  split <;> rfl

/-- What the request for one call of each peer selects, compared with what it selects
without this restriction. -/
lemma mem_selected_distinctPeers :
    stored ∈ CDRService.selected rules (params.distinctPeers userUuid) db ↔
      stored ∈ CDRService.selected rules (params.allCalls userUuid) db ∧
        stored.IsLastOfPair db := by
  have hdistinct : CDRService.daoParams (params.distinctPeers userUuid) =
      { CDRService.daoParams (params.distinctPeers userUuid) with distinctPeer := true } :=
    daoParams_distinctPeer (params.distinctPeers userUuid) true
  have hall : CDRService.daoParams (params.allCalls userUuid) =
      { CDRService.daoParams (params.distinctPeers userUuid) with distinctPeer := false } :=
    daoParams_distinctPeer (params.distinctPeers userUuid) false
  rw [CDRService.selected, CDRService.selected, hall, hdistinct]
  exact mem_listQuery_distinctPeer
    (setDefaultCallStatus (CDRService.daoParams (params.distinctPeers userUuid)))

/-- The listing has the most recent call of a user with each peer if and only if, for
each of them, exactly one of the matching calls is the last one of a pair, and no
matching call with the peer is more recent. -/
theorem oneRecentCallPerPeer_iff {r : CDRList}
    (hr : CDRService.list rules (params.distinctPeers userUuid) db = .ok r) :
    OneRecentCallPerPeer userUuid r.items
        (CDRService.selected rules (params.allCalls userUuid) db) ↔
      ∀ peer, (∃ m ∈ CDRService.selected rules (params.allCalls userUuid) db,
          m.HasPeer userUuid peer) →
        ∃ s ∈ CDRService.selected rules (params.allCalls userUuid) db,
          s.HasPeer userUuid peer ∧ s.IsLastOfPair db ∧
          ∀ m ∈ CDRService.selected rules (params.allCalls userUuid) db,
            m.HasPeer userUuid peer → s.AtLeastAsRecent m ∧ (m.IsLastOfPair db → m = s) := by
  have hitems : ∀ stored, stored ∈ r.items ↔
      stored ∈ CDRService.selected rules (params.allCalls userUuid) db ∧
        stored.IsLastOfPair db := by
    intro stored
    rw [CDRService.mem_items_iff hr rfl rfl, mem_selected_distinctPeers]
  constructor
  · intro h peer hpeer
    obtain ⟨s, hone, hrecent⟩ := h.one peer hpeer
    obtain ⟨hmem, hs⟩ := (hone s).2 rfl
    obtain ⟨hselected, hlast⟩ := (hitems s).1 hmem
    refine ⟨s, hselected, hs, hlast, fun m hm hmpeer => ⟨hrecent m hm hmpeer, fun hmlast => ?_⟩⟩
    exact (hone m).1 ⟨(hitems m).2 ⟨hm, hmlast⟩, hmpeer⟩
  · intro h
    refine ⟨CDRService.nodup_items hr, fun peer hpeer => ?_⟩
    obtain ⟨s, hselected, hs, hlast, hall⟩ := h peer hpeer
    refine ⟨s, fun stored => ⟨?_, ?_⟩, fun m hm hmpeer => (hall m hm hmpeer).1⟩
    · rintro ⟨hmem, hpeer⟩
      obtain ⟨hstored, hstoredlast⟩ := (hitems stored).1 hmem
      exact (hall stored hstored hpeer).2 hstoredlast
    · rintro rfl
      exact ⟨(hitems stored).2 ⟨hselected, hlast⟩, hs⟩

/-- A call of a user to the extension `1002`. -/
def callTo1002 (date : DateTime) : CallLog :=
  { ({} : RawCallLog).fillCallLog with
    tenantUuid := some "f2d5b8d6-6a5c-4d0e-8f8b-1d9f2f1a7c10"
    date := some date
    requestedExten := some "1002"
    participants :=
      [{ userUuid := "0a5bd3a4-6cf1-4a5a-9d6f-3a1f0f0c2d11", lineId := some 1, tags := [],
         role := .source }] }

/-- Two calls to the same peer. -/
def twoCalls : Database :=
  (Database.empty.insertCallLog (callTo1002 5)).insertCallLog (callTo1002 10)

/-- The requests of the user, with and without an end date before the second call. -/
lemma exists_list_twoCalls :
    (∃ r, CDRService.list .ascii (({ endDate := some 7 } : ListParams).distinctPeers
        "0a5bd3a4-6cf1-4a5a-9d6f-3a1f0f0c2d11") twoCalls = .ok r ∧ r.items = []) ∧
      ∃ r, CDRService.list .ascii (({} : ListParams).distinctPeers
        "0a5bd3a4-6cf1-4a5a-9d6f-3a1f0f0c2d11") twoCalls = .ok r ∧
        r.items = [⟨2, callTo1002 10⟩] :=
  ⟨Results.exists_of_map_eq_ok (g := CDRList.items) (by decide +kernel),
    Results.exists_of_map_eq_ok (g := CDRList.items) (by decide +kernel)⟩

/-- The first call matches, and the second one, which does not, is kept instead. -/
theorem twoCalls_not_oneRecentCallPerPeer :
    ∃ r, CDRService.list .ascii (({ endDate := some 7 } : ListParams).distinctPeers
        "0a5bd3a4-6cf1-4a5a-9d6f-3a1f0f0c2d11") twoCalls = .ok r ∧
      ¬ OneRecentCallPerPeer "0a5bd3a4-6cf1-4a5a-9d6f-3a1f0f0c2d11" r.items
        (CDRService.selected .ascii (({ endDate := some 7 } : ListParams).allCalls
          "0a5bd3a4-6cf1-4a5a-9d6f-3a1f0f0c2d11") twoCalls) := by
  obtain ⟨⟨r, hr, hitems⟩, -⟩ := exists_list_twoCalls
  refine ⟨r, hr, fun h => ?_⟩
  have hselected : CDRService.selected .ascii (({ endDate := some 7 } : ListParams).allCalls
      "0a5bd3a4-6cf1-4a5a-9d6f-3a1f0f0c2d11") twoCalls = [⟨1, callTo1002 5⟩] := by
    decide +kernel
  rw [hselected, hitems] at h
  obtain ⟨s, hone, -⟩ := h.one "1002" ⟨_, List.mem_singleton_self _, _,
    List.mem_singleton_self _, rfl, rfl⟩
  exact List.not_mem_nil ((hone s).2 rfl).1

/-- Without an end date the second call is the one that is listed. -/
theorem twoCalls_oneRecentCallPerPeer :
    ∃ r, CDRService.list .ascii (({} : ListParams).distinctPeers
        "0a5bd3a4-6cf1-4a5a-9d6f-3a1f0f0c2d11") twoCalls = .ok r ∧
      OneRecentCallPerPeer "0a5bd3a4-6cf1-4a5a-9d6f-3a1f0f0c2d11" r.items
        (CDRService.selected .ascii (({} : ListParams).allCalls
          "0a5bd3a4-6cf1-4a5a-9d6f-3a1f0f0c2d11") twoCalls) := by
  obtain ⟨-, r, hr, hitems⟩ := exists_list_twoCalls
  refine ⟨r, hr, (oneRecentCallPerPeer_iff hr).2 fun peer hpeer => ?_⟩
  have hselected : CDRService.selected .ascii (({} : ListParams).allCalls
      "0a5bd3a4-6cf1-4a5a-9d6f-3a1f0f0c2d11") twoCalls =
        [⟨1, callTo1002 5⟩, ⟨2, callTo1002 10⟩] := by
    decide +kernel
  rw [hselected] at hpeer ⊢
  -- both calls have the same peer
  have hall : ∀ m ∈ ([⟨1, callTo1002 5⟩, ⟨2, callTo1002 10⟩] : List StoredCallLog),
      (⟨2, callTo1002 10⟩ : StoredCallLog).AtLeastAsRecent m ∧
        (m.IsLastOfPair twoCalls → m = ⟨2, callTo1002 10⟩) := by
    decide +kernel
  have hpeers : ∀ m ∈ ([⟨1, callTo1002 5⟩, ⟨2, callTo1002 10⟩] : List StoredCallLog),
      ∀ p ∈ m.log.participants, p.peerExten m.log = some "1002" := by
    decide +kernel
  obtain ⟨m, hm, p, hp, -, hexten⟩ := hpeer
  obtain rfl : peer = "1002" := Option.some.inj (hexten.symm.trans (hpeers m hm p hp))
  exact ⟨⟨2, callTo1002 10⟩, by simp, ⟨_, List.mem_singleton_self _, rfl, rfl⟩,
    by decide +kernel, fun m hm _ => hall m hm⟩

end CallLogd
