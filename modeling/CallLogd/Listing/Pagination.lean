/-
Pages of a listing.

The limit and the offset count the rows that the join returns, of which the session
returns each call log once, and a limit of zero is no limit.  So a page is a window on
the listing if no call log is repeated that moves one of its ends.
-/
import CallLogd.Lib.Repetitions
import CallLogd.Listing.Query

namespace CallLogd

open Sequences Repetitions

/-! ### The order -/

section Order

variable {rules : TextRules} {direction : Option OrderDirection} {a b c : SortValue}

lemma TextRules.leValue_total (a b : ℤ ⊕ String) : rules.leValue a b ∨ rules.leValue b a := by
  cases a with
  | inl a =>
    cases b with
    | inl b => simpa [leValue] using Int.le_total a b
    | inr t => exact .inl rfl
  | inr s =>
    cases b with
    | inl b => exact .inr rfl
    | inr t => simpa [leValue] using rules.le_total s t

lemma TextRules.leValue_trans {a b c : ℤ ⊕ String} (hab : rules.leValue a b)
    (hbc : rules.leValue b c) : rules.leValue a c := by
  cases a <;> cases b <;> cases c <;> simp only [leValue, decide_eq_true_eq] at hab hbc ⊢
  case inl.inl.inl => exact hab.trans hbc
  case inr.inr.inr => exact rules.le_trans _ _ _ hab hbc
  all_goals simp at hab hbc

lemma TextRules.leNullsFirst_trans (hab : rules.leNullsFirst a b)
    (hbc : rules.leNullsFirst b c) : rules.leNullsFirst a c := by
  cases a <;> cases b <;> cases c <;> simp only [leNullsFirst] at hab hbc ⊢
  case some.some.some => exact leValue_trans hab hbc
  all_goals simp at hab hbc

lemma OrderDirection.le_total : OrderDirection.le rules direction a b ∨
    OrderDirection.le rules direction b a := by
  cases direction with
  | none => cases a <;> cases b <;> simp [OrderDirection.le, TextRules.leNullsLast,
      TextRules.leValue_total]
  | some direction => cases direction <;> cases a <;> cases b <;> simp [OrderDirection.le,
      TextRules.leNullsFirst, TextRules.leValue_total]

lemma OrderDirection.le_trans (hab : OrderDirection.le rules direction a b)
    (hbc : OrderDirection.le rules direction b c) : OrderDirection.le rules direction a c := by
  cases direction with
  | none =>
    cases a <;> cases b <;> cases c <;>
      simp only [OrderDirection.le, TextRules.leNullsLast] at hab hbc ⊢
    case some.some.some => exact TextRules.leValue_trans hab hbc
    all_goals simp at hab hbc
  | some direction =>
    cases direction with
    | asc => exact TextRules.leNullsFirst_trans hab hbc
    | desc => exact TextRules.leNullsFirst_trans hbc hab

end Order

/-- The column tells the call logs apart: no two of them have the same place in the
order. -/
def OrderField.Distinct (rules : TextRules) (direction : Option OrderDirection)
    (callLogs : List StoredCallLog) (field : OrderField) : Prop :=
  ∀ a ∈ callLogs, ∀ b ∈ callLogs,
    OrderDirection.le rules direction (field.value a) (field.value b) →
      OrderDirection.le rules direction (field.value b) (field.value a) → a = b

/-- The request for a page. -/
def ListParams.page (params : ListParams) (limit offset : Option ℕ) : ListParams :=
  { params with limit := limit, offset := offset }

namespace CDRService

variable (rules : TextRules) (params : ListParams) (field : OrderField) (db : Database)

/-! ### The listing -/

/-- The rows that a listing has of a call log that it selects. -/
def rowCount (stored : StoredCallLog) : ℕ :=
  if params.distinctPeer then (CallLogDAO.maxIds db).count stored.id else 1

/-- The order of a listing. -/
def rowLe (a b : StoredCallLog) : Bool :=
  OrderDirection.le rules params.direction (field.value a) (field.value b)

/-- The call logs that are selected. -/
def selectedLogs : List StoredCallLog :=
  db.callLogs.filter fun stored => stored.id ∈ (selected rules params db).map (·.id)

/-- The call logs that are selected, in order. -/
def listed : List StoredCallLog :=
  (selectedLogs rules params db).mergeSort (rowLe rules params field)

/-- The page is a window on the call logs that are listed. -/
def PageFits (offset limit : ℕ) : Prop :=
  Fits (rowCount params db) (listed rules params field db) offset limit

variable {rules params field db} {limit offset : Option ℕ} {all r : CDRList}
  {rows : List StoredCallLog} {stored : StoredCallLog} {k n : ℕ}

lemma readRecordingFilename_page : readRecordingFilename (params.page limit offset) =
    (readRecordingFilename params).page limit offset := by
  rw [readRecordingFilename_eq, readRecordingFilename_eq]
  change Option.elim ((givenText params.search).bind _) _ _ = _
  cases (givenText params.search).bind _ <;> rfl

/-- The page is not read from the other parameters. -/
lemma daoParams_page :
    daoParams (params.page limit offset) = (daoParams params).page limit offset := by
  simp only [daoParams, readRecordingFilename_page]
  change (if (readRecordingFilename params).userUuids = [] then _ else _) = _
  split <;> rfl

lemma daoParams_order : (daoParams params).order = params.order ∧
    (daoParams params).direction = params.direction ∧
    (daoParams params).distinctPeer = params.distinctPeer := by
  have hread : (readRecordingFilename params).order = params.order ∧
      (readRecordingFilename params).direction = params.direction ∧
      (readRecordingFilename params).distinctPeer = params.distinctPeer := by
    rw [readRecordingFilename]
    split <;> exact ⟨rfl, rfl, rfl⟩
  rw [daoParams]
  split <;> exact hread

variable (limit offset) in
lemma selected_page : selected rules (params.page limit offset) db = selected rules params db := by
  rw [selected, selected, daoParams_page]
  rfl

/-! ### The rows -/

lemma mem_callLogs_of_mem_selected (h : stored ∈ selected rules params db) :
    stored ∈ db.callLogs := CallLogDAO.mem_callLogs_of_mem_listQuery h

lemma mem_selectedLogs : stored ∈ selectedLogs rules params db ↔
    stored ∈ selected rules params db := by
  rw [selectedLogs, List.mem_filter, decide_eq_true_eq]
  constructor
  · rintro ⟨hstored, hid⟩
    obtain ⟨other, hother, hid⟩ := List.mem_map.1 hid
    exact List.inj_on_of_nodup_map db.callLogs_nodup (mem_callLogs_of_mem_selected hother)
      hstored hid ▸ hother
  · exact fun h => ⟨mem_callLogs_of_mem_selected h, List.mem_map_of_mem h⟩

lemma nodup_selectedLogs : ((selectedLogs rules params db).map (·.id)).Nodup :=
  db.callLogs_nodup.sublist (List.filter_sublist.map _)

lemma baseRows_eq : CallLogDAO.baseRows (CallLogDAO.setDefaultCallStatus (daoParams params)) db =
    repeated (rowCount params db) db.callLogs := by
  have hdistinct : (CallLogDAO.setDefaultCallStatus (daoParams params)).distinctPeer =
      params.distinctPeer := daoParams_order.2.2
  rw [CallLogDAO.baseRows, hdistinct, repeated]
  split
  · next h => simp only [rowCount, h, if_true]
  · next h => simp [rowCount, h]

/-- A query returns each call log that it selects as often as the join does. -/
lemma selected_eq : selected rules params db =
    repeated (rowCount params db) (selectedLogs rules params db) := by
  obtain ⟨p, hp⟩ : ∃ p, selected rules params db =
      repeated (rowCount params db) (db.callLogs.filter p) := by
    rw [selected, CallLogDAO.listQuery, baseRows_eq, filter_repeated]
    exact ⟨_, rfl⟩
  have hlogs : selectedLogs rules params db =
      (db.callLogs.filter p).filter fun stored => 0 < rowCount params db stored := by
    rw [List.filter_filter, selectedLogs]
    refine List.filter_congr fun stored hstored => ?_
    have hmem : stored ∈ selectedLogs rules params db ↔ stored ∈ selected rules params db :=
      mem_selectedLogs
    rw [hp, mem_repeated, List.mem_filter, selectedLogs, List.mem_filter] at hmem
    simp only [hstored, true_and] at hmem
    rw [Bool.eq_iff_iff, hmem, Bool.and_eq_true, decide_eq_true_eq, and_comm]
  rw [hlogs, repeated_filter_pos, hp]

lemma listed_perm : (listed rules params field db).Perm (selectedLogs rules params db) :=
  List.mergeSort_perm _ _

lemma nodup_listed : ((listed rules params field db).map (·.id)).Nodup :=
  (listed_perm.map _).nodup_iff.2 nodup_selectedLogs

lemma rowCount_pos : ∀ stored ∈ listed rules params field db, 0 < rowCount params db stored := by
  intro stored hstored
  have hselected := mem_selectedLogs.1 (listed_perm.mem_iff.1 hstored)
  rw [selected_eq] at hselected
  exact (mem_repeated.1 hselected).2

/-- The number of the rows' identifiers is that of the call logs. -/
lemma length_dedup_selected : (((selected rules params db).map (·.id)).dedup).length =
    (listed rules params field db).length := by
  have hlength : ((listed rules params field db).map (·.id)).length =
      (listed rules params field db).length := List.length_map _
  rw [← hlength]
  refine List.Perm.length_eq ?_
  rw [List.perm_ext_iff_of_nodup (List.nodup_dedup _) nodup_listed]
  intro id
  rw [List.mem_dedup, (listed_perm.map _).mem_iff, List.mem_map, List.mem_map]
  simp only [mem_selectedLogs]

lemma pairwise_mergeSort_rowLe (l : List StoredCallLog) :
    (l.mergeSort (rowLe rules params field)).Pairwise fun a b => rowLe rules params field a b := by
  refine List.pairwise_mergeSort (fun a b c hab hbc => ?_) (fun a b => ?_) l
  · exact OrderDirection.le_trans hab hbc
  · rw [Bool.or_eq_true]
    exact OrderDirection.le_total

/-- The rows in order are those of the call logs in order. -/
lemma orderedRows_eq (hfield : params.order = some field)
    (hkeys : field.Distinct rules params.direction db.callLogs)
    (h : CallLogDAO.orderedRows rules (CallLogDAO.setDefaultCallStatus (daoParams params)) db =
      .ok rows) : rows = repeated (rowCount params db) (listed rules params field db) := by
  have horder : (CallLogDAO.setDefaultCallStatus (daoParams params)).order = some field :=
    daoParams_order.1.trans hfield
  have hdirection : (CallLogDAO.setDefaultCallStatus (daoParams params)).direction =
      params.direction := daoParams_order.2.1
  have hperm : rows.Perm (selected rules params db) := CallLogDAO.orderedRows_perm h
  have hsorted : rows.Pairwise fun a b => rowLe rules params field a b := by
    simp only [CallLogDAO.orderedRows, horder, hdirection] at h
    split at h
    · cases h
    · exact Except.ok.inj h ▸ pairwise_mergeSort_rowLe _
  -- rows that are sorted by a column that tells them apart are in one order only
  refine List.Perm.eq_of_pairwise ?_ hsorted ?_ ?_
  · intro a b ha hb hab hba
    have hlogs : ∀ stored ∈ rows, stored ∈ db.callLogs :=
      fun stored hstored => mem_callLogs_of_mem_selected (hperm.mem_iff.1 hstored)
    have hb : b ∈ rows := by
      rw [hperm.mem_iff, selected_eq]
      exact (repeated_perm listed_perm).mem_iff.1 hb
    exact hkeys a (hlogs a ha) b (hlogs b hb) hab hba
  · refine pairwise_repeated (fun a => ?_) (pairwise_mergeSort_rowLe _)
    have htotal : rowLe rules params field a a ∨ rowLe rules params field a a :=
      OrderDirection.le_total
    exact htotal.elim id id
  · rw [selected_eq] at hperm
    exact hperm.trans (repeated_perm listed_perm).symm

/-! ### Pages -/

/-- The items of a page: the window on the rows, each call log once. -/
lemma items_of_list_page (hfield : params.order = some field)
    (hkeys : field.Distinct rules params.direction db.callLogs)
    (hr : CDRService.list rules (params.page limit offset) db = .ok r) :
    r.items = uniqueBy (·.id) (match limit with
      | some (n + 1) => ((repeated (rowCount params db)
          (listed rules params field db)).drop (offset.getD 0)).take (n + 1)
      | _ => (repeated (rowCount params db) (listed rules params field db)).drop
          (offset.getD 0)) := by
  have hfind := findAllInPeriod_of_list hr
  rw [daoParams_page] at hfind
  obtain ⟨rows, hrows, hitems⟩ := Results.exists_of_bind_eq_ok hfind
  obtain rfl := orderedRows_eq hfield hkeys hrows
  rw [← Except.ok.inj hitems]
  rfl

variable (limit offset) in
/-- The database answers if it can sort by the column. -/
lemma exists_list_page (hfield : params.order = some field)
    (hfails : field.fails (selected rules params db) = false) :
    ∃ r, CDRService.list rules (params.page limit offset) db = .ok r := by
  have horder : (CallLogDAO.setDefaultCallStatus (daoParams (params.page limit offset))).order =
      some field := by
    rw [daoParams_page]
    exact daoParams_order.1.trans hfield
  have hrows : ∃ rows, CallLogDAO.orderedRows rules
      (CallLogDAO.setDefaultCallStatus (daoParams (params.page limit offset))) db = .ok rows := by
    rw [← selected_page limit offset, selected] at hfails
    simp only [CallLogDAO.orderedRows, horder, hfails]
    exact ⟨_, rfl⟩
  obtain ⟨rows, hrows⟩ := hrows
  rw [CDRService.list, CallLogDAO.countInPeriod]
  simp only [CallLogDAO.findAllInPeriod, hrows]
  exact ⟨_, rfl⟩

lemma filtered_of_list (hr : CDRService.list rules (params.page limit offset) db = .ok r) :
    r.filtered = (listed rules params field db).length := by
  obtain ⟨callLogs, -, hr⟩ := Results.exists_of_bind_eq_ok hr
  rw [← Except.ok.inj hr, ← length_dedup_selected, ← selected_page limit offset]
  rfl

/-- Without a page, the call logs are listed. -/
lemma items_of_list (hfield : params.order = some field)
    (hkeys : field.Distinct rules params.direction db.callLogs)
    (hall : CDRService.list rules (params.page none none) db = .ok all) :
    all.items = listed rules params field db := by
  rw [items_of_list_page hfield hkeys hall]
  exact uniqueBy_repeated nodup_listed rowCount_pos

/-- A page is a window on the listing if, and only if, it starts behind all the rows, or it
has a limit and no call log is repeated that moves one of its ends. -/
theorem page_window_iff (hfield : params.order = some field)
    (hkeys : field.Distinct rules params.direction db.callLogs)
    (hall : CDRService.list rules (params.page none none) db = .ok all)
    (hr : CDRService.list rules (params.page (some n) (some k)) db = .ok r) :
    (r.items = (all.items.drop k).take n ∧ (all.items.map (·.id)).Nodup ∧
      r.filtered = all.items.length) ↔ PageFits rules params field db k n := by
  have hrest : (all.items.map (·.id)).Nodup ∧ r.filtered = all.items.length := by
    rw [items_of_list hfield hkeys hall]
    exact ⟨nodup_listed, filtered_of_list hr⟩
  rw [and_iff_left hrest, items_of_list hfield hkeys hall, items_of_list_page hfield hkeys hr,
    PageFits]
  cases n with
  | zero =>
    -- the limit is not applied
    rw [List.take_zero]
    exact uniqueBy_drop_repeated_eq_nil_iff
  | succ n => exact window_repeated_iff nodup_listed rowCount_pos (Nat.succ_pos n)

/-- A call of two users of a shared line to the extension `1002`. -/
def sharedLineCall : CallLog :=
  { ({} : RawCallLog).fillCallLog with
    tenantUuid := some "f2d5b8d6-6a5c-4d0e-8f8b-1d9f2f1a7c10"
    date := some 0
    requestedExten := some "1002"
    participants :=
      [{ userUuid := "0a5bd3a4-6cf1-4a5a-9d6f-3a1f0f0c2d11", lineId := some 1, tags := [],
         role := .source },
       { userUuid := "7c9e6679-7425-40de-944b-e07fc1f90ae7", lineId := some 1, tags := [],
         role := .source }] }

/-- The listing of one call for each peer, the last calls first. -/
def peerListing : ListParams :=
  { order := some .date, direction := some .desc, distinctPeer := true }

lemma listed_sharedLineCall : listed .ascii peerListing .date
    (({} : Database).insertCallLog sharedLineCall) = [⟨1, sharedLineCall⟩] := by
  have hselected : selectedLogs .ascii peerListing
      (({} : Database).insertCallLog sharedLineCall) = [⟨1, sharedLineCall⟩] := by
    decide +kernel
  rw [listed, hselected, List.mergeSort_singleton]

lemma distinct_sharedLineCall : OrderField.Distinct .ascii peerListing.direction
    (({} : Database).insertCallLog sharedLineCall).callLogs .date := by
  intro a ha b hb _ _
  simp only [Database.insertCallLog, List.nil_append, List.mem_singleton] at ha hb
  rw [ha, hb]

lemma exists_list_sharedLineCall (limit offset : Option ℕ) :
    ∃ r, CDRService.list .ascii (peerListing.page limit offset)
      (({} : Database).insertCallLog sharedLineCall) = .ok r :=
  exists_list_page limit offset rfl rfl

/-- The first page is a window on the listing. -/
theorem page_window_sharedLineCall :
    ∃ all r, CDRService.list .ascii (peerListing.page none none)
        (({} : Database).insertCallLog sharedLineCall) = .ok all ∧
      CDRService.list .ascii (peerListing.page (some 1) (some 0))
        (({} : Database).insertCallLog sharedLineCall) = .ok r ∧
      r.items = (all.items.drop 0).take 1 ∧ (all.items.map (·.id)).Nodup ∧
        r.filtered = all.items.length := by
  obtain ⟨all, hall⟩ := exists_list_sharedLineCall none none
  obtain ⟨r, hr⟩ := exists_list_sharedLineCall (some 1) (some 0)
  refine ⟨all, r, hall, hr, (page_window_iff rfl distinct_sharedLineCall hall hr).2 ?_⟩
  rw [PageFits, listed_sharedLineCall]
  decide +kernel

/-- A limit of zero does not limit the items. -/
theorem zeroLimit_not_window :
    ∃ all r, CDRService.list .ascii (peerListing.page none none)
        (({} : Database).insertCallLog sharedLineCall) = .ok all ∧
      CDRService.list .ascii (peerListing.page (some 0) (some 0))
        (({} : Database).insertCallLog sharedLineCall) = .ok r ∧
      ¬ (r.items = (all.items.drop 0).take 0 ∧ (all.items.map (·.id)).Nodup ∧
        r.filtered = all.items.length) := by
  obtain ⟨all, hall⟩ := exists_list_sharedLineCall none none
  obtain ⟨r, hr⟩ := exists_list_sharedLineCall (some 0) (some 0)
  have hitems : r.items = [⟨1, sharedLineCall⟩] := by
    rw [items_of_list_page rfl distinct_sharedLineCall hr, listed_sharedLineCall]
    decide +kernel
  refine ⟨all, r, hall, hr, fun h => ?_⟩
  rw [hitems] at h
  exact absurd h.1 (by simp)

end CDRService

end CallLogd
