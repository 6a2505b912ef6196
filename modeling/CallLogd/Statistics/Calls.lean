/-
The agents who answer the calls of the queues.

A request for statistics is answered for each interval of its period that is kept, and
for the whole period; what is asked of the tables for each of these differs.
-/
import CallLogd.Statistics.Queues

namespace CallLogd

open Clocks StatisticsService

/-! ### Tables -/

/-- A row of `stat_agent`. -/
structure StatAgent where
  id : ℕ
  agentId : ℕ
  number : String
  tenantUuid : String
  deleted : Bool := false
deriving DecidableEq, Repr

/-- A row of `stat_agent_periodic`: what an agent did in the hour from `time`, in seconds.
It is about one queue, or about all of them. -/
structure StatAgentPeriodic where
  time : ℤ
  statAgentId : ℕ
  statQueueId : Option ℕ := none
  loginTime : ℤ := 0
  pauseTime : ℤ := 0
  wrapupTime : ℤ := 0
deriving DecidableEq, Repr

structure CallTables extends StatTables where
  statAgents : List StatAgent
  statAgentPeriodics : List StatAgentPeriodic
  statAgents_nodup : (statAgents.map (·.id)).Nodup

/-- The rows of a query by a key (`group_by`). -/
def RowOrder.groups {κ ρ : Type} [DecidableEq κ] (order : RowOrder) (key : ρ → κ)
    (rows : List ρ) : List (κ × List ρ) :=
  (order.order (rows.map key).dedup).map fun k => (k, rows.filter (key · = k))

namespace StatisticsService

/-- The intervals of a period that are kept, and the period itself. -/
def windows (z : TimeZone) (filters : TimeFilters) (interval : Option Interval)
    (from_ : Option LocalTime) (until_ : LocalTime) :
    Except StatisticsError (List (Option LocalTime × Option LocalTime)) := do
  let intervals ←
    match interval, from_ with
    | some interval, some start =>
        (generateInterval z interval start until_).map fun intervals =>
          intervals.filter fun (start, stop) => keeps filters interval start stop
    | _, _ => .ok []
  return intervals.map (fun (start, stop) => (some start, some stop)) ++ [(from_, some until_)]

end StatisticsService

end CallLogd
