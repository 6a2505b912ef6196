/-
The statistics of all the queues: `QueueStatisticsService.list`.

The rows of all the queues come from one query, and are put together with the queues by
their numbers.  Where no bounds are given, the list has none; a request for one queue puts
in the time of the oldest row and tomorrow.  If the numbers tell the queues apart and these
bounds leave out no call, the list has for each queue what a request for this queue alone
returns for the period (`list_items`).
-/
import CallLogd.Lib.Dict
import CallLogd.Statistics.Additivity
import CallLogd.Statistics.AgentTotals

namespace CallLogd

open Clocks

/-! ### Queries -/

namespace QueueStatDAO

variable (order : RowOrder) (tables : StatTables) (tenantUuids : Option (List String))
  (qosThreshold : Option ℕ) (z : TimeZone) (filters : TimeFilters)
  (from_ until_ : Option LocalTime)

/-- The queues of some tenants that are not deleted. -/
def visibleQueues : List StatQueue :=
  tables.statQueues.filter fun queue => !queue.deleted && addTenantFilter tenantUuids queue

/-- `get_stat_queues`. -/
def getStatQueues : List StatQueue := order.order (visibleQueues tables tenantUuids)

/-- The rows of a queue that the filters select. -/
def queueRows (queue : StatQueue) : List StatQueuePeriodic :=
  tables.statQueuePeriodics.filter fun row =>
    row.statQueueId = queue.id && addIntervalQuery z filters from_ until_ row.time

/-- `_queue_stat_query`, before the rows are grouped. -/
def queueStatQuery : List (StatQueue × StatQueuePeriodic) :=
  (visibleQueues tables tenantUuids).flatMap fun queue =>
    (queueRows tables z filters from_ until_ queue).map fun row => (queue, row)

/-- The row of a group: the number of the queue, and its sums with what is added to them. -/
def groupRow (rows : List (StatQueue × StatQueuePeriodic)) : ℕ × IntervalStats :=
  let queueId := (rows.map (·.1.queueId)).min?.getD 0
  (queueId, extraStats tables qosThreshold queueId z filters from_ until_
    (statRow (rows.map Prod.snd)))

/-- `get_interval`. -/
def getInterval : List (ℕ × IntervalStats) :=
  (order.groups (·.2.statQueueId)
    (queueStatQuery tables tenantUuids z filters from_ until_)).map fun (_, rows) =>
      groupRow tables qosThreshold z filters from_ until_ rows

end QueueStatDAO

/-! ### Service -/

/-- The arguments of `list`. The times are on the clock of the time zone. -/
structure QueueListParams where
  tenantUuids : Option (List String)
  timezone : TimeZone
  from_ : Option LocalTime := none
  until_ : Option LocalTime := none
  filters : TimeFilters := {}
  qosThreshold : Option ℕ := none

/-- The same arguments for one queue. -/
def QueueListParams.ofQueue (params : QueueListParams) (queueId : ℕ) : StatisticsParams where
  tenantUuids := params.tenantUuids
  queueId := queueId
  timezone := params.timezone
  from_ := params.from_
  until_ := params.until_
  filters := params.filters
  qosThreshold := params.qosThreshold

namespace QueueStatisticsService

open QueueStatDAO StatisticsService

section List

variable (order : RowOrder) (tables : StatTables) (params : QueueListParams)

/-- The item of a queue in a list. -/
def listItem (now : ℤ) (queue : StatQueue) : StatisticsItem where
  from_ := params.from_.or ((findOldestTime tables queue.queueId).map params.timezone.fromutc)
  until_ := some (params.until_.getD (getTomorrow params.timezone now))
  queueId := queue.queueId
  queueName := queue.name
  tenantUuid := queue.tenantUuid
  stats := Dict.get? (Dict.ofItems (getInterval order tables params.tenantUuids
    params.qosThreshold params.timezone params.filters params.from_ params.until_)) queue.queueId

/-- `list`, when it is `now`. -/
def list (now : ℤ) : Statistics :=
  let statQueues := Dict.ofItems
    ((getStatQueues order tables params.tenantUuids).map fun queue => (queue.queueId, queue))
  let items := statQueues.map fun (_, queue) => listItem order tables params now queue
  { items, total := items.length }

end List

end QueueStatisticsService

/-! ### The rows of a queue -/

/-- The number of a queue that is not deleted is not that of another one. -/
def StatTables.DistinctNumbers (tables : StatTables) : Prop :=
  ((tables.statQueues.filter fun queue => !queue.deleted).map (·.queueId)).Nodup

instance (tables : StatTables) : Decidable tables.DistinctNumbers :=
  inferInstanceAs (Decidable (List.Nodup _))

namespace QueueStatDAO

/-- The sums over the rows of a queue, with what is added to them. -/
def queueStats (tables : StatTables) (qosThreshold : Option ℕ) (z : TimeZone)
    (filters : TimeFilters) (from_ until_ : Option LocalTime) (queue : StatQueue) :
    IntervalStats :=
  extraStats tables qosThreshold queue.queueId z filters from_ until_
    (statRow (queueRows tables z filters from_ until_ queue))

variable {order : RowOrder} {tables : StatTables} {tenantUuids : Option (List String)}
  {qosThreshold : Option ℕ} {z : TimeZone} {filters : TimeFilters}
  {from_ until_ : Option LocalTime} {queue queue' : StatQueue} {queueId : ℕ}
  {stats : IntervalStats} {row : StatQueuePeriodic}

lemma mem_visibleQueues : queue ∈ visibleQueues tables tenantUuids ↔
    queue ∈ tables.statQueues ∧ queue.deleted = false ∧ addTenantFilter tenantUuids queue := by
  rw [visibleQueues, List.mem_filter, Bool.and_eq_true, Bool.not_eq_true']

/-- Queues that are visible are told apart by their numbers. -/
lemma eq_of_queueId_eq (hnumbers : tables.DistinctNumbers)
    (h : queue ∈ visibleQueues tables tenantUuids)
    (h' : queue' ∈ visibleQueues tables tenantUuids) (heq : queue.queueId = queue'.queueId) :
    queue = queue' := by
  obtain ⟨hmem, hlive, -⟩ := mem_visibleQueues.1 h
  obtain ⟨hmem', hlive', -⟩ := mem_visibleQueues.1 h'
  refine List.inj_on_of_nodup_map hnumbers ?_ ?_ heq
  · exact List.mem_filter.2 ⟨hmem, by rw [hlive]; rfl⟩
  · exact List.mem_filter.2 ⟨hmem', by rw [hlive']; rfl⟩

/-- The only queue with the number of a visible one. -/
lemma liveQueues_eq_singleton (hnumbers : tables.DistinctNumbers)
    (h : queue ∈ visibleQueues tables tenantUuids) :
    liveQueues tables tenantUuids queue.queueId = [queue] := by
  have hnodup : (liveQueues tables tenantUuids queue.queueId).Nodup :=
    (List.Nodup.of_map _ tables.statQueues_nodup).filter _
  refine List.perm_singleton.1 ((List.perm_ext_iff_of_nodup hnodup (List.nodup_singleton _)).2
    fun other => ?_)
  rw [List.mem_singleton, liveQueues, List.mem_filter, Bool.and_eq_true, Bool.and_eq_true,
    decide_eq_true_eq, Bool.not_eq_true']
  constructor
  · rintro ⟨hmem, ⟨hnumber, hlive⟩, htenant⟩
    exact eq_of_queueId_eq hnumbers (mem_visibleQueues.2 ⟨hmem, hlive, htenant⟩) h hnumber
  · rintro rfl
    obtain ⟨hmem, hlive, htenant⟩ := mem_visibleQueues.1 h
    exact ⟨hmem, ⟨rfl, hlive⟩, htenant⟩

lemma mem_queueRows : row ∈ queueRows tables z filters from_ until_ queue ↔
    row ∈ tables.statQueuePeriodics ∧ row.statQueueId = queue.id ∧
      addIntervalQuery z filters from_ until_ row.time := by
  rw [queueRows, List.mem_filter, Bool.and_eq_true, decide_eq_true_eq]

lemma getStatQueue_eq (hnumbers : tables.DistinctNumbers)
    (h : queue ∈ visibleQueues tables tenantUuids) :
    getStatQueue order tables tenantUuids queue.queueId = some queue := by
  rw [getStatQueue, liveQueues_eq_singleton hnumbers h, List.perm_singleton.1 (order.perm [queue])]
  rfl

/-- The sums over the rows of one queue, if there are any. -/
lemma getIntervalByQueue_eq (hnumbers : tables.DistinctNumbers)
    (h : queue ∈ visibleQueues tables tenantUuids) :
    getIntervalByQueue order tables tenantUuids qosThreshold queue.queueId z filters from_ until_ =
      if queueRows tables z filters from_ until_ queue = [] then none
      else some (queueStats tables qosThreshold z filters from_ until_ queue) := by
  have hselected : selected tables tenantUuids queue.queueId z filters from_ until_ =
      queueRows tables z filters from_ until_ queue := by
    rw [selected, liveQueues_eq_singleton hnumbers h]
    exact List.flatMap_singleton _ _
  have hone : ∀ row ∈ queueRows tables z filters from_ until_ queue,
      row.statQueueId = queue.id := fun row hrow => (mem_queueRows.1 hrow).2.1
  rw [getIntervalByQueue, hselected]
  by_cases hnil : queueRows tables z filters from_ until_ queue = []
  · rw [if_pos hnil, hnil, firstGroup_nil]
    rfl
  · rw [if_neg hnil, firstGroup_of_forall hnil hone]
    rfl

lemma mem_queueStatQuery :
    (queue, row) ∈ queueStatQuery tables tenantUuids z filters from_ until_ ↔
      queue ∈ visibleQueues tables tenantUuids ∧
        row ∈ queueRows tables z filters from_ until_ queue := by
  rw [queueStatQuery, List.mem_flatMap]
  constructor
  · rintro ⟨queue, hqueue, hmem⟩
    obtain ⟨row, hrow, heq⟩ := List.mem_map.1 hmem
    obtain ⟨rfl, rfl⟩ := Prod.mk.inj heq
    exact ⟨hqueue, hrow⟩
  · rintro ⟨hqueue, hrow⟩
    exact ⟨queue, hqueue, List.mem_map_of_mem hrow⟩

/-- The rows of a group are those of its queue. -/
lemma filter_queueStatQuery (h : queue ∈ visibleQueues tables tenantUuids) :
    (queueStatQuery tables tenantUuids z filters from_ until_).filter
        (·.2.statQueueId = queue.id) =
      (queueRows tables z filters from_ until_ queue).map fun row => (queue, row) := by
  obtain ⟨before, after, hsplit⟩ := List.append_of_mem h
  have hids : ((before ++ queue :: after).map (·.id)).Nodup :=
    hsplit ▸ tables.statQueues_nodup.sublist (List.filter_sublist.map _)
  rw [List.map_append, List.map_cons] at hids
  have hother : ∀ queues : List StatQueue, (∀ other ∈ queues, other.id ≠ queue.id) →
      (queues.flatMap fun queue => (queueRows tables z filters from_ until_ queue).map
        fun row => (queue, row)).filter (·.2.statQueueId = queue.id) = [] := by
    intro queues hne
    refine List.filter_eq_nil_iff.2 fun entry hentry => ?_
    obtain ⟨other, hmem, hentry⟩ := List.mem_flatMap.1 hentry
    obtain ⟨row, hrow, rfl⟩ := List.mem_map.1 hentry
    rw [decide_eq_true_eq]
    exact (mem_queueRows.1 hrow).2.1 ▸ hne other hmem
  have hself : ((queueRows tables z filters from_ until_ queue).map
      fun row => (queue, row)).filter (·.2.statQueueId = queue.id) =
        (queueRows tables z filters from_ until_ queue).map fun row => (queue, row) := by
    refine List.filter_eq_self.2 fun entry hentry => ?_
    obtain ⟨row, hrow, rfl⟩ := List.mem_map.1 hentry
    exact decide_eq_true (mem_queueRows.1 hrow).2.1
  rw [queueStatQuery, hsplit, List.flatMap_append, List.flatMap_cons, List.filter_append,
    List.filter_append, hself, hother before fun other hmem heq => ?_,
    hother after fun other hmem heq => ?_, List.append_nil, List.nil_append]
  · exact (List.nodup_cons.1 hids.of_append_right).1 (heq ▸ List.mem_map_of_mem hmem)
  · exact List.disjoint_of_nodup_append hids (List.mem_map_of_mem hmem)
      (heq ▸ List.mem_cons_self)

lemma groupRow_queueRows (hne : queueRows tables z filters from_ until_ queue ≠ []) :
    groupRow tables qosThreshold z filters from_ until_
        ((queueRows tables z filters from_ until_ queue).map fun row => (queue, row)) =
      (queue.queueId, queueStats tables qosThreshold z filters from_ until_ queue) := by
  have hnumber : (((queueRows tables z filters from_ until_ queue).map
      fun row => (queue, row)).map (·.1.queueId)).min?.getD 0 = queue.queueId := by
    have hmin : ((queueRows tables z filters from_ until_ queue).map
        fun _ => queue.queueId).min? = some queue.queueId := by
      rw [List.map_const']
      exact List.min?_replicate_of_pos (List.length_pos_iff.2 hne)
    rw [List.map_map]
    exact congrArg (Option.getD · 0) hmin
  have hrows : ((queueRows tables z filters from_ until_ queue).map
      fun row => (queue, row)).map Prod.snd = queueRows tables z filters from_ until_ queue := by
    rw [List.map_map]
    exact List.map_id _
  rw [groupRow, hnumber, hrows, queueStats]

/-- The groups are those of the queues that have rows. -/
lemma mem_getInterval :
    (queueId, stats) ∈ getInterval order tables tenantUuids qosThreshold z filters from_ until_ ↔
      ∃ queue ∈ visibleQueues tables tenantUuids, queue.queueId = queueId ∧
        queueRows tables z filters from_ until_ queue ≠ [] ∧
        queueStats tables qosThreshold z filters from_ until_ queue = stats := by
  set rows := queueStatQuery tables tenantUuids z filters from_ until_ with hrows
  have hgroups : getInterval order tables tenantUuids qosThreshold z filters from_ until_ =
      (order.order (rows.map (·.2.statQueueId)).dedup).map fun id =>
        groupRow tables qosThreshold z filters from_ until_
          (rows.filter (·.2.statQueueId = id)) :=
    List.map_map
  have hgroup : ∀ queue ∈ visibleQueues tables tenantUuids,
      queueRows tables z filters from_ until_ queue ≠ [] →
        groupRow tables qosThreshold z filters from_ until_
            (rows.filter (·.2.statQueueId = queue.id)) =
          (queue.queueId, queueStats tables qosThreshold z filters from_ until_ queue) := by
    intro queue hqueue hne
    rw [hrows, filter_queueStatQuery hqueue, groupRow_queueRows hne]
  rw [hgroups, List.mem_map]
  simp only [(order.perm _).mem_iff, List.mem_dedup, List.mem_map]
  constructor
  · rintro ⟨_, ⟨⟨queue, row⟩, hmem, rfl⟩, heq⟩
    obtain ⟨hqueue, hrow⟩ := mem_queueStatQuery.1 hmem
    have hne := List.ne_nil_of_mem hrow
    rw [show row.statQueueId = queue.id from (mem_queueRows.1 hrow).2.1,
      hgroup queue hqueue hne] at heq
    obtain ⟨hnumber, hstats⟩ := Prod.mk.inj heq
    exact ⟨queue, hqueue, hnumber, hne, hstats⟩
  · rintro ⟨queue, hqueue, rfl, hne, rfl⟩
    obtain ⟨row, hrow⟩ := List.exists_mem_of_ne_nil _ hne
    refine ⟨queue.id, ⟨(queue, row), mem_queueStatQuery.2 ⟨hqueue, hrow⟩,
      (mem_queueRows.1 hrow).2.1⟩, hgroup queue hqueue hne⟩

/-- The sums of a list are those of its queues. -/
lemma get?_getInterval (hnumbers : tables.DistinctNumbers)
    (h : queue ∈ visibleQueues tables tenantUuids) :
    Dict.get? (Dict.ofItems
        (getInterval order tables tenantUuids qosThreshold z filters from_ until_))
        queue.queueId =
      getIntervalByQueue order tables tenantUuids qosThreshold queue.queueId z filters from_
        until_ := by
  rw [getIntervalByQueue_eq hnumbers h]
  by_cases hnil : queueRows tables z filters from_ until_ queue = []
  · rw [if_pos hnil]
    refine Dict.get?_ofItems_eq_none ?_
    rintro ⟨queueId, stats⟩ hitem rfl
    obtain ⟨other, hother, hnumber, hne, -⟩ := mem_getInterval.1 hitem
    obtain rfl := eq_of_queueId_eq hnumbers hother h hnumber
    exact hne hnil
  · rw [if_neg hnil]
    refine Dict.get?_ofItems_of_unique (mem_getInterval.2 ⟨queue, h, rfl, hnil, rfl⟩) ?_
    intro stats hitem
    obtain ⟨other, hother, hnumber, -, rfl⟩ := mem_getInterval.1 hitem
    rw [eq_of_queueId_eq hnumbers hother h hnumber]

end QueueStatDAO

/-! ### A list and the requests for its queues -/

/-- No call of a queue is before the oldest row of the queues with its number. -/
def StatTables.StartsWithRows (tables : StatTables) : Prop :=
  ∀ queue ∈ tables.statQueues, ∀ call ∈ tables.statCallOnQueues,
    call.statQueueId = some queue.id →
      ∀ oldest ∈ QueueStatDAO.findOldestTime tables queue.queueId, oldest ≤ call.time

instance (tables : StatTables) : Decidable tables.StartsWithRows :=
  inferInstanceAs (Decidable (∀ queue ∈ _, ∀ call ∈ _, _ = _ → ∀ oldest ∈ _, _))

/-- Neither a row nor a call is from some instant on. -/
def StatTables.EndsBefore (tables : StatTables) (t : ℤ) : Prop :=
  (∀ row ∈ tables.statQueuePeriodics, row.time < t) ∧
    ∀ call ∈ tables.statCallOnQueues, call.time < t

instance (tables : StatTables) (t : ℤ) : Decidable (tables.EndsBefore t) :=
  inferInstanceAs (Decidable (_ ∧ _))

namespace QueueStatisticsService

open QueueStatDAO StatisticsService

variable {order : RowOrder} {tables : StatTables} {params : QueueListParams} {now : ℤ}
  {queue : StatQueue} {queueId : ℕ} {time : ℤ}

/-- The rows of a queue are looked through for the oldest time. -/
lemma exists_findOldestTime_le {row : StatQueuePeriodic}
    (hqueue : queue ∈ visibleQueues tables params.tenantUuids)
    (hrow : row ∈ tables.statQueuePeriodics) (hid : row.statQueueId = queue.id) :
    ∀ oldest ∈ findOldestTime tables queue.queueId, oldest ≤ row.time := by
  intro oldest holdest
  refine (List.min?_eq_some_iff.1 holdest).2 row.time (List.mem_map_of_mem ?_)
  obtain ⟨hmem, hlive, -⟩ := mem_visibleQueues.1 hqueue
  refine List.mem_flatMap.2 ⟨queue, List.mem_filter.2 ⟨hmem, ?_⟩,
    List.mem_filter.2 ⟨hrow, decide_eq_true hid⟩⟩
  rw [hlive, decide_eq_true rfl]
  rfl

/-- The bounds that a request for one queue puts in leave out only what is before the oldest
row, or from tomorrow on. -/
lemma addIntervalQuery_bounds
    (hfrom : params.from_ = none → ∀ oldest ∈ findOldestTime tables queueId, oldest ≤ time)
    (huntil : params.until_ = none →
      time < params.timezone.instant (getTomorrow params.timezone now)) :
    addIntervalQuery params.timezone params.filters
        (params.from_.or ((findOldestTime tables queueId).map params.timezone.fromutc))
        (some (params.until_.getD (getTomorrow params.timezone now))) time =
      addIntervalQuery params.timezone params.filters params.from_ params.until_ time := by
  have hstart : (params.from_.or ((findOldestTime tables queueId).map
      params.timezone.fromutc)).all (params.timezone.instant · ≤ time) =
        params.from_.all (params.timezone.instant · ≤ time) := by
    cases hbound : params.from_ with
    | some from_ => rfl
    | none =>
        rw [Option.none_or, Option.all_none, Option.all_map, Option.all_eq_true]
        intro oldest holdest
        rw [TimeZone.instant_fromutc, decide_eq_true_eq]
        exact hfrom hbound oldest holdest
  have hstop : (some (params.until_.getD (getTomorrow params.timezone now))).all
      (time < params.timezone.instant ·) =
        params.until_.all (time < params.timezone.instant ·) := by
    cases hbound : params.until_ with
    | some until_ => rfl
    | none => exact decide_eq_true (huntil hbound)
  rw [addIntervalQuery, addIntervalQuery, hstart, hstop]

/-- They do not leave out rows. -/
lemma queueRows_bounds (hqueue : queue ∈ visibleQueues tables params.tenantUuids)
    (huntil : params.until_ = none →
      tables.EndsBefore (params.timezone.instant (getTomorrow params.timezone now))) :
    queueRows tables params.timezone params.filters
        (params.from_.or ((findOldestTime tables queue.queueId).map params.timezone.fromutc))
        (some (params.until_.getD (getTomorrow params.timezone now))) queue =
      queueRows tables params.timezone params.filters params.from_ params.until_ queue := by
  refine List.filter_congr fun row hrow => ?_
  by_cases hid : row.statQueueId = queue.id
  · rw [addIntervalQuery_bounds (fun _ => exists_findOldestTime_le hqueue hrow hid)
      fun hbound => (huntil hbound).1 row hrow]
  · rw [decide_eq_false hid, Bool.false_and, Bool.false_and]

/-- Nor calls, if the calls start with the rows. -/
lemma queueCalls_bounds (hfrom : params.from_ = none → tables.StartsWithRows)
    (huntil : params.until_ = none →
      tables.EndsBefore (params.timezone.instant (getTomorrow params.timezone now))) :
    queueCalls tables none queueId params.timezone params.filters
        (params.from_.or ((findOldestTime tables queueId).map params.timezone.fromutc))
        (some (params.until_.getD (getTomorrow params.timezone now))) =
      queueCalls tables none queueId params.timezone params.filters params.from_
        params.until_ := by
  refine List.flatMap_congr fun queue hqueue => List.filter_congr fun call hcall => ?_
  obtain ⟨hqueue, hnumber⟩ := List.mem_filter.1 hqueue
  rw [Bool.and_eq_true, decide_eq_true_eq] at hnumber
  by_cases hid : call.statQueueId = some queue.id
  · rw [addIntervalQuery_bounds
      (fun hbound => hnumber.1 ▸ hfrom hbound queue hqueue call hcall hid)
      fun hbound => (huntil hbound).2 call hcall]
  · rw [decide_eq_false hid, Bool.false_and, Bool.false_and]

/-- So the sums are the same, and what is added to them. -/
lemma queueStats_bounds (hqueue : queue ∈ visibleQueues tables params.tenantUuids)
    (hfrom : params.from_ = none → tables.StartsWithRows)
    (huntil : params.until_ = none →
      tables.EndsBefore (params.timezone.instant (getTomorrow params.timezone now))) :
    queueStats tables params.qosThreshold params.timezone params.filters
        (params.from_.or ((findOldestTime tables queue.queueId).map params.timezone.fromutc))
        (some (params.until_.getD (getTomorrow params.timezone now))) queue =
      queueStats tables params.qosThreshold params.timezone params.filters params.from_
        params.until_ queue := by
  simp only [queueStats, extraStats, getAnsweredOnQos, getTotalWaitTime,
    queueRows_bounds hqueue huntil, queueCalls_bounds hfrom huntil]

/-- If the numbers tell the queues apart, no call is before the rows of its queue where no
start is given, and nothing is from tomorrow on where no end is given, a list has for each
queue the item that a request for this queue alone returns for the period. -/
theorem list_items (order : RowOrder) (hnumbers : tables.DistinctNumbers)
    (hfrom : params.from_ = none → tables.StartsWithRows)
    (huntil : params.until_ = none →
      tables.EndsBefore (params.timezone.instant (getTomorrow params.timezone now))) :
    List.Forall₂ (fun queue item =>
        QueueStatisticsService.get order tables (params.ofQueue queue.queueId) now =
          .ok { items := [item], total := 1 })
      (getStatQueues order tables params.tenantUuids)
      (QueueStatisticsService.list order tables params now).items := by
  have hmem : ∀ queue ∈ getStatQueues order tables params.tenantUuids,
      queue ∈ visibleQueues tables params.tenantUuids := fun queue =>
    (order.perm _).mem_iff.1
  have hkeys : (((getStatQueues order tables params.tenantUuids).map
      fun queue => (queue.queueId, queue)).map Prod.fst).Nodup := by
    rw [List.map_map]
    refine List.Nodup.map_on (fun queue hqueue other hother hnumber => ?_) ?_
    · exact eq_of_queueId_eq hnumbers (hmem queue hqueue) (hmem other hother) hnumber
    · exact (order.perm _).nodup_iff.2 ((List.Nodup.of_map _ tables.statQueues_nodup).filter _)
  have hitems : (QueueStatisticsService.list order tables params now).items =
      (getStatQueues order tables params.tenantUuids).map (listItem order tables params now) := by
    rw [QueueStatisticsService.list, Dict.ofItems_of_nodup hkeys]
    exact List.map_map
  rw [hitems, List.forall₂_map_right_iff, List.forall₂_same]
  intro queue hqueue
  have hvisible := hmem queue hqueue
  have hqueue : getStatQueue order tables (params.ofQueue queue.queueId).tenantUuids
      (params.ofQueue queue.queueId).queueId = some queue := getStatQueue_eq hnumbers hvisible
  have hstats : (listItem order tables params now queue).stats =
      (QueueStatisticsService.item order tables (params.ofQueue queue.queueId) queue
        (params.from_.or ((findOldestTime tables queue.queueId).map params.timezone.fromutc))
        (some (params.until_.getD (getTomorrow params.timezone now)))).stats := by
    refine (get?_getInterval hnumbers hvisible).trans ?_
    refine Eq.trans ?_ (getIntervalByQueue_eq hnumbers hvisible).symm
    rw [getIntervalByQueue_eq hnumbers hvisible]
    exact if_congr (Iff.of_eq (congrArg (· = []) (queueRows_bounds hvisible huntil).symm)) rfl
      (congrArg some (queueStats_bounds hvisible hfrom huntil).symm)
  have hitem : QueueStatisticsService.item order tables (params.ofQueue queue.queueId) queue
        (params.from_.or ((findOldestTime tables queue.queueId).map params.timezone.fromutc))
        (some (params.until_.getD (getTomorrow params.timezone now))) =
      listItem order tables params now queue :=
    congrArg (fun stats => { listItem order tables params now queue with stats := stats })
      hstats.symm
  rw [QueueStatisticsService.get, hqueue, ← hitem]
  rfl

/-- Two queues, one of which had a call, which waited for 20 s. -/
def twoQueues : StatTables where
  statQueues := lateCall.statQueues ++
    [{ id := 2, queueId := 2, name := "other", tenantUuid := "t" }]
  statQueuePeriodics := lateCall.statQueuePeriodics
  statCallOnQueues := [{
    time := 1602005460 * Calendar.second
    waittime := some 20
    status := .answered
    statQueueId := some 1 }]
  statQueues_nodup := by decide

/-- A list without bounds. -/
def wholeList : QueueListParams where
  tenantUuids := some ["t"]
  timezone := .utc

theorem list_items_twoQueues :
    let items := (QueueStatisticsService.list .byTable twoQueues wholeList
      (1602005400 * Calendar.second)).items
    items.map (fun item =>
        (item.queueId, Counter.received.value item, item.stats.bind (·.averageWaitingTime))) =
      [(1, 1, some (Float.Model.ofNat 20)), (2, 0, none)] ∧
    List.Forall₂ (fun queue item =>
        QueueStatisticsService.get .byTable twoQueues (wholeList.ofQueue queue.queueId)
          (1602005400 * Calendar.second) = .ok { items := [item], total := 1 })
      twoQueues.statQueues items := by
  refine ⟨by decide +kernel, ?_⟩
  refine list_items .byTable ?_ ?_ ?_
  · decide
  · exact fun _ => by decide +kernel
  · exact fun _ => by decide +kernel

end QueueStatisticsService

end CallLogd
