/-
The statistics of a queue.

They are sums over the rows of `stat_queue_periodic`: over the rows of each interval of
a period that is kept, and over those of the whole period.  The quality of service and
the average waiting time are taken from the calls in `stat_call_on_queue`.
-/
import CallLogd.Lib.Double
import CallLogd.Statistics.Periods

namespace CallLogd

open Clocks Steps

/-! ### Tables -/

/-- A row of `stat_queue`. -/
structure StatQueue where
  id : ℕ
  queueId : ℕ
  name : String
  tenantUuid : String
  deleted : Bool := false
deriving DecidableEq, Repr

/-- A row of `stat_queue_periodic`: the calls of a queue in the hour from `time`. -/
structure StatQueuePeriodic where
  statQueueId : ℕ
  time : ℤ
  answered : ℤ := 0
  abandoned : ℤ := 0
  total : ℤ := 0
  full : ℤ := 0
  closed : ℤ := 0
  joinempty : ℤ := 0
  leaveempty : ℤ := 0
  divertCaRatio : ℤ := 0
  divertWaittime : ℤ := 0
  timeout : ℤ := 0
deriving DecidableEq, Repr

/-- The values of `status`. -/
inductive QueueCallStatus where
  | full
  | closed
  | joinempty
  | leaveempty
  | divertCaRatio
  | divertWaittime
  | answered
  | abandoned
  | timeout
deriving DecidableEq, Repr

/-- A row of `stat_call_on_queue`, with durations in seconds. -/
structure StatCallOnQueue where
  time : ℤ
  talktime : Option ℤ := none
  waittime : Option ℕ := none
  status : QueueCallStatus
  statQueueId : Option ℕ := none
  statAgentId : Option ℕ := none
deriving DecidableEq, Repr

structure StatTables where
  statQueues : List StatQueue
  statQueuePeriodics : List StatQueuePeriodic
  statCallOnQueues : List StatCallOnQueue := []
  statQueues_nodup : (statQueues.map (·.id)).Nodup

/-- The same queues and calls with other rows. -/
def StatTables.withPeriodics (tables : StatTables) (rows : List StatQueuePeriodic) : StatTables :=
  { tables with statQueuePeriodics := rows }

/-- The order in which the database returns rows that no clause orders. -/
structure RowOrder where
  order : ∀ {α : Type}, List α → List α
  perm : ∀ {α : Type} (rows : List α), (order rows).Perm rows

def RowOrder.byTable : RowOrder where
  order rows := rows
  perm rows := .refl rows

/-! ### Queries -/

/-- The sums over the rows of a queue, without the columns of the queue, which the
service replaces. -/
structure StatRow where
  answered : ℤ
  abandoned : ℤ
  total : ℤ
  full : ℤ
  closed : ℤ
  joinempty : ℤ
  leaveempty : ℤ
  divertCaRatio : ℤ
  divertWaittime : ℤ
  timeout : ℤ
deriving DecidableEq, Repr

/-- The calls to which the rate of answered calls relates. -/
def StatRow.answeredRateTotal (stats : StatRow) : ℤ :=
  stats.answered + stats.abandoned + stats.full + stats.leaveempty + stats.joinempty +
    stats.timeout

/-- The calls to which the average waiting time relates. -/
def StatRow.waitedCall (stats : StatRow) : ℤ :=
  stats.answered + stats.abandoned + stats.leaveempty + stats.timeout

/-- The sums, with what `_get_extra_stats` adds. -/
structure IntervalStats extends StatRow where
  qos : Option Float.Model
  answeredRate : Option Float.Model
  averageWaitingTime : Option Float.Model
  blocking : ℤ
  saturated : ℤ
deriving DecidableEq, Repr

namespace QueueStatDAO

/-- `_add_tenant_filter`. -/
def addTenantFilter (tenantUuids : Option (List String)) (queue : StatQueue) : Bool :=
  match tenantUuids with
  | none => true
  | some tenantUuids => queue.tenantUuid ∈ tenantUuids

/-- The queues with a number that are not deleted. -/
def liveQueues (tables : StatTables) (tenantUuids : Option (List String)) (queueId : ℕ) :
    List StatQueue :=
  tables.statQueues.filter fun queue =>
    queue.queueId = queueId && !queue.deleted && addTenantFilter tenantUuids queue

/-- The filters of `_add_interval_query` on the hour and on the day of the week. -/
def passes (z : TimeZone) (filters : TimeFilters) (time : ℤ) : Bool :=
  let dateTime := z.fromutc time
  (match filters.startTime, filters.endTime with
    | some startTime, some endTime => startTime ≤ dateTime.hour && dateTime.hour ≤ endTime
    | _, _ => true) &&
  filters.weekDays.all fun weekDays => dateTime.isoweekday ∈ weekDays

/-- `_add_interval_query`, without the filter on the tenants. -/
def addIntervalQuery (z : TimeZone) (filters : TimeFilters) (from_ until_ : Option LocalTime)
    (time : ℤ) : Bool :=
  from_.all (z.instant · ≤ time) && until_.all (time < z.instant ·) && passes z filters time

/-- `find_oldest_time`. -/
def findOldestTime (tables : StatTables) (queueId : ℕ) : Option ℤ :=
  let rows := (liveQueues tables none queueId).flatMap fun queue =>
    tables.statQueuePeriodics.filter (·.statQueueId = queue.id)
  (rows.map (·.time)).min?

/-- `get_stat_queue`. -/
def getStatQueue (order : RowOrder) (tables : StatTables) (tenantUuids : Option (List String))
    (queueId : ℕ) : Option StatQueue :=
  (order.order (liveQueues tables tenantUuids queueId)).head?

/-- The sums of `_queue_stat_query`. -/
def statRow (rows : List StatQueuePeriodic) : StatRow where
  answered := (rows.map (·.answered)).sum
  abandoned := (rows.map (·.abandoned)).sum
  total := (rows.map (·.total)).sum
  full := (rows.map (·.full)).sum
  closed := (rows.map (·.closed)).sum
  joinempty := (rows.map (·.joinempty)).sum
  leaveempty := (rows.map (·.leaveempty)).sum
  divertCaRatio := (rows.map (·.divertCaRatio)).sum
  divertWaittime := (rows.map (·.divertWaittime)).sum
  timeout := (rows.map (·.timeout)).sum

/-- The calls of the queues with a number, deleted or not, that the filters select. -/
def queueCalls (tables : StatTables) (tenantUuids : Option (List String)) (queueId : ℕ)
    (z : TimeZone) (filters : TimeFilters) (from_ until_ : Option LocalTime) :
    List StatCallOnQueue :=
  (tables.statQueues.filter fun queue =>
      queue.queueId = queueId && addTenantFilter tenantUuids queue).flatMap fun queue =>
    tables.statCallOnQueues.filter fun call =>
      call.statQueueId = some queue.id && addIntervalQuery z filters from_ until_ call.time

section Extra

variable (tables : StatTables) (qosThreshold : Option ℕ) (queueId : ℕ) (z : TimeZone)
  (filters : TimeFilters) (from_ until_ : Option LocalTime) (stats : StatRow)

/-- `_get_answered_on_qos`. It is not given the tenants. -/
def getAnsweredOnQos : Option ℕ :=
  qosThreshold.map fun qosThreshold =>
    (queueCalls tables none queueId z filters from_ until_).countP fun call =>
      call.status = .answered && call.waittime.any (· ≤ qosThreshold)

/-- `_get_total_wait_time`. It is not given the tenants. -/
def getTotalWaitTime : ℕ :=
  ((queueCalls tables none queueId z filters from_ until_).filterMap (·.waittime)).sum

/-- `100.0 * part / total`, with two digits. -/
def percentage (part total : ℤ) : Float.Model :=
  Double.round (Float.Model.ofInt 100 * Float.Model.ofInt part / Float.Model.ofInt total) 2

/-- `_get_extra_stats`. -/
def extraStats : IntervalStats where
  toStatRow := stats
  qos :=
    if 0 < stats.answered then
      (getAnsweredOnQos tables qosThreshold queueId z filters from_ until_).map fun answeredOnQos =>
        percentage answeredOnQos stats.answered
    else none
  answeredRate :=
    if 0 < stats.answeredRateTotal then some (percentage stats.answered stats.answeredRateTotal)
    else none
  averageWaitingTime :=
    if 0 < stats.waitedCall then
      let totalWaitTime := getTotalWaitTime tables queueId z filters from_ until_
      some (Double.round (Float.Model.ofNat totalWaitTime / Float.Model.ofInt stats.waitedCall) 2)
    else none
  blocking := stats.joinempty + stats.leaveempty
  saturated := stats.full + stats.divertWaittime + stats.divertCaRatio

end Extra

/-- The first row of the groups by queue. -/
def firstGroup (order : RowOrder) (rows : List StatQueuePeriodic) : Option StatRow :=
  (order.order (rows.map (·.statQueueId)).dedup).head?.map fun statQueueId =>
    statRow (rows.filter (·.statQueueId = statQueueId))

/-- The joined rows that the filters select. -/
def selected (tables : StatTables) (tenantUuids : Option (List String)) (queueId : ℕ)
    (z : TimeZone) (filters : TimeFilters) (from_ until_ : Option LocalTime) :
    List StatQueuePeriodic :=
  (liveQueues tables tenantUuids queueId).flatMap fun queue =>
    tables.statQueuePeriodics.filter fun row =>
      row.statQueueId = queue.id && addIntervalQuery z filters from_ until_ row.time

/-- `get_interval_by_queue`. -/
def getIntervalByQueue (order : RowOrder) (tables : StatTables)
    (tenantUuids : Option (List String)) (qosThreshold : Option ℕ) (queueId : ℕ) (z : TimeZone)
    (filters : TimeFilters) (from_ until_ : Option LocalTime) : Option IntervalStats :=
  (firstGroup order (selected tables tenantUuids queueId z filters from_ until_)).map
    (extraStats tables qosThreshold queueId z filters from_ until_)

end QueueStatDAO

/-! ### Service -/

/-- The arguments of `get`. The times are on the clock of the time zone. -/
structure StatisticsParams where
  tenantUuids : Option (List String)
  queueId : ℕ
  timezone : TimeZone
  from_ : Option LocalTime := none
  until_ : Option LocalTime := none
  interval : Option Interval := none
  filters : TimeFilters := {}
  qosThreshold : Option ℕ := none

/-- An item of the statistics. It has no sums if there were no rows. -/
structure StatisticsItem where
  from_ : Option LocalTime
  until_ : Option LocalTime
  queueId : ℕ
  queueName : String
  tenantUuid : String
  stats : Option IntervalStats
deriving DecidableEq

structure Statistics where
  items : List StatisticsItem
  total : ℕ
deriving DecidableEq

namespace QueueStatisticsService

open QueueStatDAO StatisticsService

variable (order : RowOrder) (tables : StatTables) (params : StatisticsParams)

/-- The item of an interval or of the whole period. -/
def item (queue : StatQueue) (from_ until_ : Option LocalTime) : StatisticsItem where
  from_ := from_
  until_ := until_
  queueId := params.queueId
  queueName := queue.name
  tenantUuid := queue.tenantUuid
  stats := getIntervalByQueue order tables params.tenantUuids params.qosThreshold params.queueId
    params.timezone params.filters from_ until_

/-- `get`, when it is `now`. -/
def get (now : ℤ) : Except StatisticsError Statistics := do
  let some queue := getStatQueue order tables params.tenantUuids params.queueId
    | .error (.queueNotFound params.queueId)
  let z := params.timezone
  let from_ := params.from_.or ((findOldestTime tables params.queueId).map z.fromutc)
  let until_ := params.until_.getD (getTomorrow z now)
  let intervals ←
    match params.interval, from_ with
    | some interval, some start =>
        (generateInterval z interval start until_).map fun intervals =>
          intervals.filter fun (start, stop) => keeps params.filters interval start stop
    | _, _ => .ok []
  let items := intervals.map (fun (start, stop) =>
    item order tables params queue (some start) (some stop)) ++
      [item order tables params queue from_ (some until_)]
  return { items, total := items.length }

end QueueStatisticsService

/-! ### Counters -/

/-- The counters of an item as they are serialized. -/
inductive Counter where
  | received
  | answered
  | abandoned
  | closed
  | notAnswered
  | saturated
  | blocked
deriving DecidableEq, Repr

namespace Counter

/-- The serialized counter. Its default is 0. -/
def value (item : StatisticsItem) (counter : Counter) : ℤ :=
  match item.stats with
  | none => 0
  | some stats =>
      match counter with
      | received => stats.total
      | answered => stats.answered
      | abandoned => stats.abandoned
      | closed => stats.closed
      | notAnswered => stats.timeout
      | saturated => stats.saturated
      | blocked => stats.blocking

/-- What a row adds to a counter. -/
def ofRow (row : StatQueuePeriodic) : Counter → ℤ
  | received => row.total
  | answered => row.answered
  | abandoned => row.abandoned
  | closed => row.closed
  | notAnswered => row.timeout
  | saturated => row.full + row.divertWaittime + row.divertCaRatio
  | blocked => row.joinempty + row.leaveempty

end Counter

/-- The counters of the intervals add up to those of the last item. -/
def Statistics.AddsUp (statistics : Statistics) : Prop :=
  ∀ counter : Counter, (statistics.items.dropLast.map counter.value).sum =
    (statistics.items.getLast?.map counter.value).getD 0

end CallLogd
