/-
The quality of service of a queue: its calls by the time that they waited.

The thresholds of the request cut the waiting times into buckets, which share out the
calls of each item.
-/
import CallLogd.Lib.Sequences
import CallLogd.Statistics.Calls

namespace CallLogd

open Clocks Sequences Steps

/-! ### Buckets -/

namespace StatisticsService

/-- The buckets that `_generate_qos_interval` yields after the threshold `prev`. -/
def qosIntervalsFrom (prev : ℕ) : List ℕ → List (ℕ × Option ℕ)
  | [] => [(prev, none)]
  | current :: thresholds => (prev, some current) :: qosIntervalsFrom current thresholds

/-- `_generate_qos_interval`. -/
def generateQosInterval : List ℕ → List (ℕ × Option ℕ)
  | [] => [(0, none)]
  | prev :: thresholds => (0, some prev) :: qosIntervalsFrom prev thresholds

end StatisticsService

namespace QueueStatisticsQoSRequestSchema

/-- `sort_qos_thresholds`. -/
def sortQosThresholds (qosThresholds : List ℕ) : List ℕ := sortedBy id qosThresholds

end QueueStatisticsQoSRequestSchema

namespace QueueStatDAO

/-- The filters of `_qos_interval_query` on the waiting time, which a null value fails. -/
def qosFilter (qosMin qosMax : Option ℕ) (waittime : Option ℕ) : Bool :=
  (qosMin.all fun qosMin => waittime.any (qosMin ≤ ·)) &&
    qosMax.all fun qosMax => waittime.any (· < qosMax)

/-- The calls that `_qos_interval_query` counts, but for their waiting time. -/
def callsOfQueue (tables : CallTables) (queueId : ℕ) (status : QueueCallStatus)
    (tenantUuids : Option (List String)) (z : TimeZone) (filters : TimeFilters)
    (from_ until_ : Option LocalTime) : List StatCallOnQueue :=
  (queueCalls tables.toStatTables tenantUuids queueId z filters from_ until_).filter
    (·.status = status)

/-- `_qos_interval_query`. -/
def qosIntervalQuery (tables : CallTables) (queueId : ℕ) (status : QueueCallStatus)
    (qosMin qosMax : Option ℕ) (tenantUuids : Option (List String)) (z : TimeZone)
    (filters : TimeFilters) (from_ until_ : Option LocalTime) : ℕ :=
  (callsOfQueue tables queueId status tenantUuids z filters from_ until_).countP fun call =>
    qosFilter qosMin qosMax call.waittime

end QueueStatDAO

/-- A bucket of the quality of service. -/
structure QosStats where
  min_ : ℕ
  max_ : Option ℕ
  answered : ℕ
  abandoned : ℕ
deriving DecidableEq, Repr

structure QosItem where
  from_ : Option LocalTime
  until_ : Option LocalTime
  queueId : ℕ
  queueName : String
  tenantUuid : String
  qualityOfService : List QosStats
deriving DecidableEq

structure QosStatistics where
  items : List QosItem
  total : ℕ
deriving DecidableEq

namespace QueueStatisticsService

open QueueStatDAO StatisticsService

variable (order : RowOrder) (tables : CallTables) (params : StatisticsParams)
  (qosThresholds : List ℕ)

/-- A bucket of an item, by `get_qos_interval_by_queue`. -/
def qosStats (from_ until_ : Option LocalTime) (bucket : ℕ × Option ℕ) : QosStats :=
  let count status := qosIntervalQuery tables params.queueId status (some bucket.1) bucket.2
    params.tenantUuids params.timezone params.filters from_ until_
  { min_ := bucket.1
    max_ := bucket.2
    answered := count .answered
    abandoned := count .abandoned }

def qosItem (queue : StatQueue) (from_ until_ : Option LocalTime) : QosItem where
  from_ := from_
  until_ := until_
  queueId := params.queueId
  queueName := queue.name
  tenantUuid := queue.tenantUuid
  qualityOfService :=
    (generateQosInterval qosThresholds).map (qosStats tables params from_ until_)

/-- `get_qos`, when it is `now`. -/
def getQos (now : ℤ) : Except StatisticsError QosStatistics := do
  let some queue := getStatQueue order tables.toStatTables params.tenantUuids params.queueId
    | .error (.queueNotFound params.queueId)
  let z := params.timezone
  let from_ := params.from_.or
    ((findOldestTime tables.toStatTables params.queueId).map z.fromutc)
  let until_ := params.until_.getD (getTomorrow z now)
  let windows ← windows z params.filters params.interval from_ until_
  let items := windows.map fun (start, stop) =>
    qosItem tables params qosThresholds queue start stop
  return { items, total := items.length }

end QueueStatisticsService

/-! ### Waiting times -/

section

open StatisticsService

/-- A waiting time is in a bucket. -/
def inBucket (waittime : ℕ) (bucket : ℕ × Option ℕ) : Bool :=
  bucket.1 ≤ waittime && bucket.2.all (waittime < ·)

variable {w prev : ℕ} {thresholds : List ℕ}

/-- The buckets after a threshold start there. -/
lemma countP_qosIntervalsFrom_of_lt (hsorted : (prev :: thresholds).Pairwise (· ≤ ·))
    (hw : w < prev) : (qosIntervalsFrom prev thresholds).countP (inBucket w) = 0 := by
  induction thresholds generalizing prev with
  | nil => simp [qosIntervalsFrom, inBucket, hw]
  | cons current thresholds ih =>
    obtain ⟨hprev, hrest⟩ := List.pairwise_cons.1 hsorted
    have hcurrent : w < current := hw.trans_le (hprev current List.mem_cons_self)
    have hout : inBucket w (prev, some current) = false := by
      simp [inBucket, hw]
    rw [qosIntervalsFrom, List.countP_cons, ih hrest hcurrent, hout]
    rfl

lemma countP_qosIntervalsFrom_of_le (hsorted : (prev :: thresholds).Pairwise (· ≤ ·))
    (hw : prev ≤ w) : (qosIntervalsFrom prev thresholds).countP (inBucket w) = 1 := by
  induction thresholds generalizing prev with
  | nil => simp [qosIntervalsFrom, inBucket, hw]
  | cons current thresholds ih =>
    have hrest := (List.pairwise_cons.1 hsorted).2
    rw [qosIntervalsFrom, List.countP_cons]
    by_cases hcurrent : w < current
    · have hin : inBucket w (prev, some current) = true := by
        simp [inBucket, hw, hcurrent]
      rw [countP_qosIntervalsFrom_of_lt hrest hcurrent, hin]
      rfl
    · have hout : inBucket w (prev, some current) = false := by
        simp [inBucket, hcurrent]
      rw [ih hrest (not_lt.1 hcurrent), hout]
      rfl

/-- A waiting time is in exactly one bucket, however often a threshold is given. -/
lemma countP_generateQosInterval (hsorted : thresholds.Pairwise (· ≤ ·)) (w : ℕ) :
    (generateQosInterval thresholds).countP (inBucket w) = 1 := by
  cases thresholds with
  | nil => simp [generateQosInterval, inBucket]
  | cons prev thresholds =>
    rw [generateQosInterval, List.countP_cons]
    by_cases hprev : w < prev
    · have hin : inBucket w (0, some prev) = true := by
        simp [inBucket, hprev]
      rw [countP_qosIntervalsFrom_of_lt hsorted hprev, hin]
      rfl
    · have hout : inBucket w (0, some prev) = false := by
        simp [inBucket, hprev]
      rw [countP_qosIntervalsFrom_of_le hsorted (not_lt.1 hprev), hout]
      rfl

lemma countP_qosFilter (hsorted : thresholds.Pairwise (· ≤ ·)) (waittime : Option ℕ) :
    (generateQosInterval thresholds).countP
        (fun bucket => QueueStatDAO.qosFilter (some bucket.1) bucket.2 waittime) =
      if waittime.isSome then 1 else 0 := by
  cases waittime with
  | none => simp [QueueStatDAO.qosFilter]
  | some w =>
    have hfilter : (fun bucket : ℕ × Option ℕ =>
        QueueStatDAO.qosFilter (some bucket.1) bucket.2 (some w)) = inBucket w := by
      funext bucket
      simp [QueueStatDAO.qosFilter, inBucket]
    rw [hfilter, countP_generateQosInterval hsorted w]
    rfl

end

/-! ### Calls -/

section

open QueueStatDAO QueueStatisticsService QueueStatisticsQoSRequestSchema StatisticsService

variable {order : RowOrder} {tables : CallTables} {params : StatisticsParams}
  {qosThresholds : List ℕ} {now : ℤ} {statistics : QosStatistics}

/-- The calls of an item with a status of which the waiting time is known. -/
def QosItem.waited (tables : CallTables) (params : StatisticsParams) (item : QosItem)
    (status : QueueCallStatus) : ℕ :=
  (callsOfQueue tables params.queueId status params.tenantUuids params.timezone params.filters
    item.from_ item.until_).countP (·.waittime.isSome)

lemma sum_qosIntervalQuery (hsorted : qosThresholds.Pairwise (· ≤ ·)) (status : QueueCallStatus)
    (from_ until_ : Option LocalTime) :
    ((generateQosInterval qosThresholds).map fun bucket =>
      qosIntervalQuery tables params.queueId status (some bucket.1) bucket.2 params.tenantUuids
        params.timezone params.filters from_ until_).sum =
      (callsOfQueue tables params.queueId status params.tenantUuids params.timezone params.filters
        from_ until_).countP (·.waittime.isSome) :=
  sum_countP_parts fun call _ => countP_qosFilter hsorted call.waittime

lemma exists_qosItem_of_mem
    (h : getQos order tables params qosThresholds now = .ok statistics) {item : QosItem}
    (hitem : item ∈ statistics.items) : ∃ queue from_ until_,
      item = qosItem tables params qosThresholds queue from_ until_ := by
  unfold getQos at h
  split at h
  case h_2 => cases h
  case h_1 queue hqueue =>
    cases hwindows : windows params.timezone params.filters params.interval
        (params.from_.or
          ((findOldestTime tables.toStatTables params.queueId).map params.timezone.fromutc))
        (params.until_.getD (getTomorrow params.timezone now)) with
    | error e =>
      simp only [hwindows] at h
      cases h
    | ok windows =>
      simp only [hwindows] at h
      obtain rfl := Except.ok.inj h
      obtain ⟨⟨start, stop⟩, -, rfl⟩ := List.mem_map.1 hitem
      exact ⟨queue, start, stop, rfl⟩

/-- The buckets share out the waiting times, and so the calls of each item. -/
theorem qosIntervals_partition (qosThresholds : List ℕ) :
    (∀ w, (generateQosInterval (sortQosThresholds qosThresholds)).countP (inBucket w) = 1) ∧
    ∀ (order : RowOrder) (tables : CallTables) (params : StatisticsParams) (now : ℤ)
      (statistics : QosStatistics),
      getQos order tables params (sortQosThresholds qosThresholds) now = .ok statistics →
      ∀ item ∈ statistics.items,
        (item.qualityOfService.map (·.answered)).sum = item.waited tables params .answered ∧
          (item.qualityOfService.map (·.abandoned)).sum = item.waited tables params .abandoned := by
  have hsorted : (sortQosThresholds qosThresholds).Pairwise (· ≤ ·) := pairwise_sortedBy id _
  refine ⟨fun w => countP_generateQosInterval hsorted w, ?_⟩
  intro order tables params now statistics h item hitem
  obtain ⟨queue, from_, until_, rfl⟩ := exists_qosItem_of_mem h hitem
  simp only [qosItem, List.map_map, Function.comp_def, qosStats, QosItem.waited]
  exact ⟨sum_qosIntervalQuery hsorted .answered from_ until_,
    sum_qosIntervalQuery hsorted .abandoned from_ until_⟩

/-- A queue with two answered calls, one of which has no waiting time. -/
def answeredTwice : CallTables where
  statQueues := [⟨1, 10, "support", "54eb71f8", false⟩]
  statQueuePeriodics := []
  statQueues_nodup := List.nodup_singleton _
  statAgents := []
  statAgentPeriodics := []
  statCallOnQueues :=
    [{ time := 5, waittime := some 1, status := .answered, statQueueId := some 1 },
      { time := 6, status := .answered, statQueueId := some 1 }]
  statAgents_nodup := by decide

theorem qosIntervals_partition_answeredTwice : ∃ statistics,
    getQos .byTable answeredTwice { tenantUuids := none, queueId := 10, timezone := .utc }
        (sortQosThresholds [1, 0, 1]) 0 = .ok statistics ∧
      ∀ item ∈ statistics.items, (item.qualityOfService.map (·.answered)).sum =
          item.waited answeredTwice { tenantUuids := none, queueId := 10, timezone := .utc }
            .answered ∧
        (item.qualityOfService.map (·.abandoned)).sum =
          item.waited answeredTwice { tenantUuids := none, queueId := 10, timezone := .utc }
            .abandoned :=
  ⟨_, rfl, (qosIntervals_partition [1, 0, 1]).2 .byTable answeredTwice _ 0 _ rfl⟩

end

end CallLogd
