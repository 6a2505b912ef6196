/-
When the intervals of a period cover it.

They follow one another, but the first one is not cut off at the end of the period, and
days and months are counted on a clock that is sometimes put forward or back.
-/
import CallLogd.Statistics.Periods

namespace CallLogd

open Clocks Steps StatisticsService

lemma TimeZone.fromutc_injective (z : TimeZone) : Function.Injective z.fromutc :=
  Function.LeftInverse.injective z.instant_fromutc

section

variable (z : TimeZone) (interval : Interval) (from_ until_ : LocalTime)

/-- The intervals cover the period: they are not empty, each starts where the previous one
ends, the first starts and the last ends with the period, and none goes beyond it. -/
def TilesPeriod (intervals : List (LocalTime × LocalTime)) : Prop :=
  Tiles z.instant (z.instant from_) (z.instant until_) intervals

/-- The period is as long as one interval, and no change of the clock comes between the
readings at which days or months start. -/
def Interval.Fits : Prop :=
  match interval with
  | .hour => z.instant from_ + Calendar.hour ≤ z.instant until_
  | .day => days.Fits z.instant from_ until_
  | .month => months.Fits z.instant from_ until_

end

section

variable {z : TimeZone} {interval : Interval} {from_ until_ : LocalTime}

lemma tilesPeriod_generateSubinterval_iff (hlt : z.instant from_ < z.instant until_) :
    TilesPeriod z from_ until_ (generateSubinterval z interval from_ until_) ↔
      interval.Fits z from_ until_ := by
  cases interval with
  | hour =>
    -- the hours are counted in instants, and shown on the clock afterwards
    have htime : z.instant ∘ z.fromutc = hours.key := funext z.instant_fromutc
    rw [TilesPeriod, generateSubinterval, tiles_map_iff (TimeZone.fromutc_injective z), htime]
    have hhours : hours.key (z.instant from_) < hours.key (z.instant until_) := hlt
    exact (Stepper.tiles_parts_iff hhours).trans
      (Stepper.fits_iff_of_time_eq fun t => (add_zero _).symm)
  | day => exact Stepper.tiles_parts_iff hlt
  | month => exact Stepper.tiles_parts_iff hlt

/-- On a clock that is never changed, only the length of the first interval matters. -/
lemma fits_fixed_iff {offset : ℤ} : interval.Fits (TimeZone.fixed offset) from_ until_ ↔
    match interval with
    | .hour => from_.wall + Calendar.hour ≤ until_.wall
    | .day => from_.addDay.wall ≤ until_.wall
    | .month => from_.addMonth.wall ≤ until_.wall := by
  have hinstant : ∀ t, (TimeZone.fixed offset).instant t = t.wall + -offset := fun _ => rfl
  cases interval with
  | hour =>
    rw [Interval.Fits, hinstant, hinstant]
    constructor <;> intro h <;> omega
  | day => exact Stepper.fits_iff_of_time_eq hinstant
  | month => exact Stepper.fits_iff_of_time_eq hinstant

/-- The intervals of a period cover it when the period is as long as the first of them and
the clock is not changed in a way that shows; and only then. -/
theorem generateInterval_tiles_iff (hlt : z.instant from_ < z.instant until_)
    (hrange : interval = .hour → until_.wall ≤ from_.addMonth.wall) :
    (∃ intervals, generateInterval z interval from_ until_ = .ok intervals ∧
      TilesPeriod z from_ until_ intervals) ↔ interval.Fits z from_ until_ := by
  rw [generateInterval_of_le hrange, ← tilesPeriod_generateSubinterval_iff hlt]
  constructor
  · rintro ⟨intervals, hok, htiles⟩
    obtain rfl := Except.ok.inj hok
    exact htiles
  · intro htiles
    exact ⟨_, rfl, htiles⟩

end

/-- Eastern daylight time. -/
def edt : TimeZone := .fixed (-4 * Calendar.hour)

/-- A time of the tenth of October 2020. -/
def october10 (hour : ℤ) : LocalTime :=
  ⟨1602288000 * Calendar.second + hour * Calendar.hour, false⟩

theorem generateInterval_tiles_hours : ∃ intervals,
    generateInterval edt .hour (october10 0) (october10 12) = .ok intervals ∧
      TilesPeriod edt (october10 0) (october10 12) intervals :=
  (generateInterval_tiles_iff (by decide +kernel) fun _ => by decide +kernel).2
    (fits_fixed_iff.2 (by decide +kernel))

/-- The first half of a day is given the statistics of the whole day. -/
theorem halfDay_not_tiles : ¬∃ intervals,
    generateInterval edt .day (october10 0) (october10 12) = .ok intervals ∧
      TilesPeriod edt (october10 0) (october10 12) intervals := by
  rintro ⟨intervals, hok, htiles⟩
  rw [generateInterval_of_le (by simp)] at hok
  obtain rfl := Except.ok.inj hok
  have hfits := (tilesPeriod_generateSubinterval_iff (by decide +kernel)).1 htiles
  exact absurd (fits_fixed_iff.1 hfits) (by decide +kernel)

end CallLogd
