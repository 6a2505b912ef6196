/-
The statistics of an agent: the calls that were answered, and their shares by queue.

The totals are looked for only where the agent has a row of `stat_agent_periodic`, while
the shares come from the calls themselves.
-/
import CallLogd.Statistics.Calls

namespace CallLogd

open Clocks Steps

/-! ### Queries -/

/-- The sums over the rows of `stat_agent_periodic`. -/
structure AgentTimes where
  loginTime : ℤ
  pauseTime : ℤ
  wrapupTime : ℤ
deriving DecidableEq, Repr

/-- The answered calls and the time that they took. -/
structure AnsweredCalls where
  answered : ℕ
  conversationTime : ℤ
deriving DecidableEq, Repr

structure AgentStats extends AgentTimes, AnsweredCalls
deriving DecidableEq, Repr

structure AgentQueueStats extends AgentStats where
  queueId : ℕ
deriving DecidableEq, Repr

namespace AgentStatDAO

variable (order : RowOrder) (tables : CallTables) (tenantUuids : Option (List String))
  (agentId : ℕ) (z : TimeZone) (filters : TimeFilters) (from_ until_ : Option LocalTime)

/-- `_add_tenant_filter`. -/
def addTenantFilter (agent : StatAgent) : Bool :=
  match tenantUuids with
  | none => true
  | some tenantUuids => agent.tenantUuid ∈ tenantUuids

/-- `_add_interval_query`, without the filter on the tenants. -/
def addIntervalQuery (time : ℤ) : Bool := QueueStatDAO.addIntervalQuery z filters from_ until_ time

/-- The agents with a number that are not deleted. -/
def liveAgents : List StatAgent :=
  tables.statAgents.filter fun agent =>
    agent.agentId = agentId && !agent.deleted && addTenantFilter tenantUuids agent

/-- `find_oldest_time`. -/
def findOldestTime : Option ℤ :=
  let rows := (liveAgents tables none agentId).flatMap fun agent =>
    tables.statAgentPeriodics.filter (·.statAgentId = agent.id)
  (rows.map (·.time)).min?

/-- `get_stat_agent`. -/
def getStatAgent : Option StatAgent :=
  (order.order (liveAgents tables tenantUuids agentId)).head?

/-- The rows of the agent that the filters select. -/
def periodicRows : List StatAgentPeriodic :=
  (liveAgents tables tenantUuids agentId).flatMap fun agent =>
    tables.statAgentPeriodics.filter fun row =>
      row.statAgentId = agent.id && addIntervalQuery z filters from_ until_ row.time

def agentTimes (rows : List StatAgentPeriodic) : AgentTimes where
  loginTime := (rows.map (·.loginTime)).sum
  pauseTime := (rows.map (·.pauseTime)).sum
  wrapupTime := (rows.map (·.wrapupTime)).sum

/-- The first row of `_agent_stat_query`. -/
def agentStatQuery : Option AgentTimes :=
  let rows := (periodicRows tables tenantUuids agentId z filters from_ until_).filter
    (·.statQueueId.isNone)
  (order.groups (·.statAgentId) rows).head?.map fun (_, rows) => agentTimes rows

/-- A row of a table with the queue that it refers to. -/
def joinStatQueue {ρ : Type} (statQueueId : ρ → Option ℕ) (rows : List ρ) : List (ℕ × ρ) :=
  rows.flatMap fun row =>
    (tables.statQueues.filter fun queue => statQueueId row = some queue.id).map fun queue =>
      (queue.queueId, row)

/-- `_agent_queue_stat_query`. -/
def agentQueueStatQuery : List (ℕ × AgentTimes) :=
  let rows := joinStatQueue tables (·.statQueueId)
    (periodicRows tables tenantUuids agentId z filters from_ until_)
  (order.groups Prod.fst rows).map fun (queueId, rows) => (queueId, agentTimes (rows.map Prod.snd))

/-- The answered calls of the agents with a number, deleted or not, that the filters select. -/
def answeredRows : List StatCallOnQueue :=
  (tables.statAgents.filter fun agent =>
      agent.agentId = agentId && addTenantFilter tenantUuids agent).flatMap fun agent =>
    tables.statCallOnQueues.filter fun call => call.statAgentId = some agent.id &&
      call.status = .answered && addIntervalQuery z filters from_ until_ call.time

def answeredCalls (rows : List StatCallOnQueue) : AnsweredCalls where
  answered := rows.length
  conversationTime := (rows.map fun call => call.talktime.getD 0).sum

/-- `_get_answered_and_talk_time`. -/
def getAnsweredAndTalkTime : AnsweredCalls :=
  answeredCalls (answeredRows tables tenantUuids agentId z filters from_ until_)

/-- `_get_answered_and_talk_time_per_queue`. -/
def getAnsweredAndTalkTimePerQueue : List (ℕ × AnsweredCalls) :=
  let rows := joinStatQueue tables (·.statQueueId)
    (answeredRows tables tenantUuids agentId z filters from_ until_)
  (order.groups Prod.fst rows).map fun (queueId, rows) =>
    (queueId, answeredCalls (rows.map Prod.snd))

/-- `get_interval_by_agent`. -/
def getIntervalByAgent : Option AgentStats :=
  (agentStatQuery order tables tenantUuids agentId z filters from_ until_).map fun times =>
    { toAgentTimes := times
      -- the tenants are not among the filters that are passed on
      toAnsweredCalls := getAnsweredAndTalkTime tables none agentId z filters from_ until_ }

/-- `get_per_queue_intervals_for_agent`. -/
def getPerQueueIntervalsForAgent : List AgentQueueStats :=
  let rows := agentQueueStatQuery order tables tenantUuids agentId z filters from_ until_
  let answeredByQueue :=
    getAnsweredAndTalkTimePerQueue order tables tenantUuids agentId z filters from_ until_
  let results := rows.map fun (queueId, times) =>
    { toAgentTimes := times
      toAnsweredCalls := (answeredByQueue.lookup queueId).getD ⟨0, 0⟩
      queueId : AgentQueueStats }
  -- the queues on which the agent only answered calls
  results ++ (answeredByQueue.filter fun (queueId, _) => queueId ∉ rows.map Prod.fst).map
    fun (queueId, calls) =>
      { toAgentTimes := ⟨0, 0, 0⟩
        toAnsweredCalls := calls
        queueId : AgentQueueStats }

end AgentStatDAO

/-! ### Service -/

/-- The arguments of `get`. The times are on the clock of the time zone. -/
structure AgentStatisticsParams where
  tenantUuids : Option (List String)
  agentId : ℕ
  timezone : TimeZone
  from_ : Option LocalTime := none
  until_ : Option LocalTime := none
  interval : Option Interval := none
  filters : TimeFilters := {}

/-- An item of the statistics. It has no totals if there were no rows. -/
structure AgentItem where
  from_ : Option LocalTime
  until_ : Option LocalTime
  agentId : ℕ
  agentNumber : String
  tenantUuid : String
  stats : Option AgentStats
  queues : List AgentQueueStats
deriving DecidableEq

structure AgentStatistics where
  items : List AgentItem
  total : ℕ
deriving DecidableEq

namespace AgentStatisticsService

open AgentStatDAO StatisticsService

variable (order : RowOrder) (tables : CallTables) (params : AgentStatisticsParams)

/-- The item of an interval or of the whole period. -/
def item (agent : StatAgent) (from_ until_ : Option LocalTime) : AgentItem where
  from_ := from_
  until_ := until_
  agentId := params.agentId
  agentNumber := agent.number
  tenantUuid := agent.tenantUuid
  stats := getIntervalByAgent order tables params.tenantUuids params.agentId params.timezone
    params.filters from_ until_
  queues := getPerQueueIntervalsForAgent order tables params.tenantUuids params.agentId
    params.timezone params.filters from_ until_

/-- The bounds of the items, when it is `now`. -/
def bounds (now : ℤ) : Except StatisticsError (List (Option LocalTime × Option LocalTime)) :=
  let z := params.timezone
  windows z params.filters params.interval
    (params.from_.or ((findOldestTime tables params.agentId).map z.fromutc))
    (params.until_.getD (getTomorrow z now))

/-- `get`, when it is `now`. -/
def get (now : ℤ) : Except StatisticsError AgentStatistics := do
  let some agent := getStatAgent order tables params.tenantUuids params.agentId
    | .error (.agentNotFound params.agentId)
  let bounds ← bounds tables params now
  let items := bounds.map fun (start, stop) => item order tables params agent start stop
  return { items, total := items.length }

end AgentStatisticsService

namespace AgentItem

/-- The serialized counters. Their default is 0. -/
def answered (item : AgentItem) : ℕ := (item.stats.map (·.answered)).getD 0

def conversationTime (item : AgentItem) : ℤ := (item.stats.map (·.conversationTime)).getD 0

/-- The totals of an item are the sums over its queues, each of which comes once. -/
structure Agrees (item : AgentItem) : Prop where
  answered : item.answered = (item.queues.map (·.answered)).sum
  conversationTime : item.conversationTime = (item.queues.map (·.conversationTime)).sum
  queues_nodup : (item.queues.map (·.queueId)).Nodup

end AgentItem

end CallLogd
