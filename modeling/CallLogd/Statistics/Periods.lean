/-
The periods of the statistics of the support center.

The statistics of a period are given for each hour, day or month of it. The hours are
counted in UTC; the days and the months are counted on the clock of the time zone.
-/
import CallLogd.Lib.Clocks
import CallLogd.Lib.Steps

namespace CallLogd

open Clocks Steps

/-- The values of `interval`. -/
inductive Interval where
  | hour
  | day
  | month
deriving DecidableEq, Repr

/-- The exceptions of the support center, with their details. -/
inductive StatisticsError where
  /-- `AgentNotFoundException`, status 404. -/
  | agentNotFound (agentId : ℕ)
  /-- `QueueNotFoundException`, status 404. -/
  | queueNotFound (queueId : ℕ)
  /-- `RangeTooLargeException`, status 400. -/
  | rangeTooLarge (details : String)
deriving DecidableEq, Repr

/-- The filters on the time of the day, by its hour, and on the day of the week. -/
structure TimeFilters where
  startTime : Option ℕ := none
  endTime : Option ℕ := none
  weekDays : Option (List ℕ) := some [1, 2, 3, 4, 5, 6, 7]

namespace StatisticsService

/-- `relativedelta(hours=1)`, on instants. -/
def hours : Stepper ℤ where
  key := id
  step t := t + Calendar.hour
  lt_step t := lt_add_of_pos_right t Calendar.hour_pos

/-- `relativedelta(days=1)`. Readings of one clock are compared by what it shows. -/
def days : Stepper LocalTime where
  key := LocalTime.wall
  step := LocalTime.addDay
  lt_step t := lt_add_of_pos_right t.wall Calendar.day_pos

/-- `relativedelta(months=1)`. -/
def months : Stepper LocalTime where
  key := LocalTime.wall
  step := LocalTime.addMonth
  lt_step t := Calendar.lt_addMonth t.wall

section

variable (z : TimeZone) (interval : Interval) (from_ until_ : LocalTime)

/-- `_generate_subinterval`. -/
def generateSubinterval : List (LocalTime × LocalTime) :=
  match interval with
  | .hour =>
      (hours.parts (z.instant from_) (z.instant until_)).map fun (start, stop) =>
        (z.fromutc start, z.fromutc stop)
  | .day => days.parts from_ until_
  | .month => months.parts from_ until_

/-- `_generate_interval`. -/
def generateInterval : Except StatisticsError (List (LocalTime × LocalTime)) :=
  if interval = .hour ∧ from_.addMonth.wall < until_.wall then
    .error (.rangeTooLarge "Maximum of 1 month for interval by hour")
  else .ok (generateSubinterval z interval from_ until_)

variable {z interval from_ until_}

lemma generateInterval_of_le (h : interval = .hour → until_.wall ≤ from_.addMonth.wall) :
    generateInterval z interval from_ until_ =
      .ok (generateSubinterval z interval from_ until_) := by
  rw [generateInterval, if_neg]
  rintro ⟨hhour, hlt⟩
  exact absurd hlt (not_lt.2 (h hhour))

end

/-- `_get_tomorrow`. -/
def getTomorrow (z : TimeZone) (now : ℤ) : LocalTime := (z.fromutc now).tomorrow

/-- `_datetime_in_week_days`. -/
def datetimeInWeekDays (dateTime : LocalTime) (weekDays : List ℕ) : Bool :=
  dateTime.isoweekday ∈ weekDays

/-- `_datetime_in_interval`. -/
def datetimeInInterval (dateTime : LocalTime) (startTime endTime : ℕ) : Bool :=
  startTime ≤ dateTime.hour && dateTime.hour ≤ endTime

/-- The tests by which an interval is left out of the statistics. -/
def keeps (filters : TimeFilters) (interval : Interval) (start stop : LocalTime) : Bool :=
  let hoursKept :=
    match filters.startTime, filters.endTime with
    | some startTime, some endTime =>
        datetimeInInterval start startTime endTime && datetimeInInterval stop startTime endTime
    | _, _ => true
  let daysKept :=
    match filters.weekDays with
    | none | some [] => true
    | some weekDays => datetimeInWeekDays start weekDays
  match interval with
  | .hour => hoursKept && daysKept
  | .day => daysKept
  | .month => true

end StatisticsService

/-! ### The steps of a period -/

namespace Interval

open StatisticsService

variable (z : TimeZone) (interval : Interval) (from_ until_ : LocalTime) (k : ℕ)

/-- The `k`-th hour, day or month from the start of the period starts before its end. -/
def Starts : Prop :=
  match interval with
  | .hour => hours.Starts (z.instant from_) (z.instant until_) k
  | .day => days.Starts from_ until_ k
  | .month => months.Starts from_ until_ k

/-- The start of the period, `k` hours, days or months later. -/
def start : LocalTime :=
  match interval with
  | .hour => z.fromutc (hours.mark (z.instant from_) k)
  | .day => days.mark from_ k
  | .month => months.mark from_ k

/-- An hour, day or month after that, but not after the end of the period unless this is
the first step. -/
def stop : LocalTime :=
  match interval with
  | .hour => z.fromutc (hours.stop (z.instant from_) (z.instant until_) k)
  | .day => days.stop from_ until_ k
  | .month => months.stop from_ until_ k

/-- The instants of the `k`-th step. -/
def InStep (t : ℤ) : Prop :=
  z.instant (interval.start z from_ k) ≤ t ∧ t < z.instant (interval.stop z from_ until_ k)

instance (t : ℤ) : Decidable (interval.InStep z from_ until_ k t) :=
  inferInstanceAs (Decidable (_ ∧ _))

theorem exists_generateSubinterval_eq : ∃ n, (∀ k, k < n ↔ interval.Starts z from_ until_ k) ∧
    generateSubinterval z interval from_ until_ =
      (List.range n).map fun k => (interval.start z from_ k, interval.stop z from_ until_ k) := by
  cases interval with
  | hour =>
    obtain ⟨n, hn, hparts⟩ := hours.exists_parts_eq (z.instant from_) (z.instant until_)
    refine ⟨n, hn, ?_⟩
    rw [generateSubinterval, hparts, List.map_map]
    rfl
  | day => exact days.exists_parts_eq from_ until_
  | month => exact months.exists_parts_eq from_ until_

end Interval

end CallLogd
