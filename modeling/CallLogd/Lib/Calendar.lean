/-
The proleptic Gregorian calendar, as Python's `datetime` computes it.

Days are counted by their ordinals: day 1 is the first of January of year 1. A reading
of a wall clock is a number of microseconds since the first of January 1970 on that
clock, so that two readings on the same day differ by less than `day`.
-/
import Mathlib.Tactic

namespace Calendar

def isLeap (year : ℤ) : Bool :=
  year % 4 = 0 && (year % 100 ≠ 0 || year % 400 = 0)

def daysInMonth (leap : Bool) (month : ℕ) : ℕ :=
  match month with
  | 2 => if leap then 29 else 28
  | 4 | 6 | 9 | 11 => 30
  | _ => 31

/-- The days of a year before the first day of a month. -/
def daysBeforeMonth (leap : Bool) : ℕ → ℕ
  | 0 | 1 => 0
  | month + 2 => daysBeforeMonth leap (month + 1) + daysInMonth leap (month + 1)

/-- The days before the first of January of a year. -/
def daysBeforeYear (year : ℤ) : ℤ :=
  let y := year - 1
  y * 365 + y / 4 - y / 100 + y / 400

def daysInYear (leap : Bool) : ℕ := if leap then 366 else 365

lemma daysBeforeYear_succ (year : ℤ) :
    daysBeforeYear (year + 1) = daysBeforeYear year + daysInYear (isLeap year) := by
  have hleap : isLeap year = true ↔
      year % 4 = 0 ∧ (year % 100 ≠ 0 ∨ year % 400 = 0) := by
    simp [isLeap]
  simp only [daysBeforeYear, daysInYear]
  by_cases h : isLeap year = true
  · have := hleap.1 h
    simp only [h, if_true]
    omega
  · have : ¬(year % 4 = 0 ∧ (year % 100 ≠ 0 ∨ year % 400 = 0)) := fun h' => h (hleap.2 h')
    simp only [h]
    simp only [Bool.false_eq_true, if_false]
    omega

lemma daysBeforeMonth_succ (leap : Bool) {month : ℕ} (h : 1 ≤ month) :
    daysBeforeMonth leap (month + 1) = daysBeforeMonth leap month + daysInMonth leap month := by
  obtain ⟨m, rfl⟩ := Nat.exists_eq_add_of_le' h
  rfl

lemma one_le_daysInMonth (leap : Bool) (month : ℕ) : 1 ≤ daysInMonth leap month := by
  unfold daysInMonth
  split <;> cases leap <;> simp

/-- The month of a day of the year, counted from 0. -/
def monthOfYearDay (leap : Bool) (yearDay : ℕ) : ℕ :=
  -- a first guess, which is at most one month too late
  let month := (yearDay + 50) / 32
  if yearDay < daysBeforeMonth leap month then month - 1 else month

lemma monthOfYearDay_spec : ∀ leap : Bool, ∀ yearDay < daysInYear leap,
    (1 ≤ monthOfYearDay leap yearDay ∧ monthOfYearDay leap yearDay ≤ 12) ∧
      daysBeforeMonth leap (monthOfYearDay leap yearDay) ≤ yearDay ∧
      yearDay < daysBeforeMonth leap (monthOfYearDay leap yearDay) +
        daysInMonth leap (monthOfYearDay leap yearDay) := by
  decide +kernel

/-- The year of an ordinal and its day of that year, counted from 0. -/
def yearDay (ordinal : ℤ) : ℤ × ℕ :=
  let n := ordinal - 1
  let n400 := n / 146097
  let n := n % 146097
  let n100 := n / 36524
  let n := n % 36524
  let n4 := n / 1461
  let n := n % 1461
  let n1 := n / 365
  let n := n % 365
  let year := n400 * 400 + 1 + n100 * 100 + n4 * 4 + n1
  -- the last day of a cycle of four or of four hundred years
  if n1 = 4 ∨ n100 = 4 then (year - 1, 365) else (year, n.toNat)

/-- A year by its place in the cycles of 400, 100 and 4 years. -/
lemma isLeap_cycle {a b c d : ℤ} (hb : 0 ≤ b ∧ b ≤ 3) (hc : 0 ≤ c ∧ c ≤ 24)
    (hd : 0 ≤ d ∧ d ≤ 3) :
    isLeap (a * 400 + 1 + b * 100 + c * 4 + d) = true ↔ d = 3 ∧ (c ≠ 24 ∨ b = 3) := by
  simp only [isLeap, Bool.and_eq_true, Bool.or_eq_true, decide_eq_true_eq]
  omega

lemma daysBeforeYear_cycle {a b c d : ℤ} (hb : 0 ≤ b ∧ b ≤ 3) (hc : 0 ≤ c ∧ c ≤ 24)
    (hd : 0 ≤ d ∧ d ≤ 3) :
    daysBeforeYear (a * 400 + 1 + b * 100 + c * 4 + d) =
      a * 146097 + b * 36524 + c * 1461 + d * 365 := by
  simp only [daysBeforeYear]
  omega

lemma yearDay_spec (ordinal : ℤ) :
    daysBeforeYear (yearDay ordinal).1 + (yearDay ordinal).2 + 1 = ordinal ∧
      (yearDay ordinal).2 < daysInYear (isLeap (yearDay ordinal).1) := by
  simp only [yearDay]
  obtain ⟨a, n400, ha, hn400, ha', hn400'⟩ : ∃ a n400, ordinal - 1 = a * 146097 + n400 ∧
      (0 ≤ n400 ∧ n400 < 146097) ∧ (ordinal - 1) / 146097 = a ∧
      (ordinal - 1) % 146097 = n400 := ⟨_, _, by omega, by omega, rfl, rfl⟩
  obtain ⟨b, n100, hb, hn100, hb', hn100'⟩ : ∃ b n100, n400 = b * 36524 + n100 ∧
      (0 ≤ n100 ∧ n100 < 36524) ∧ n400 / 36524 = b ∧ n400 % 36524 = n100 :=
    ⟨_, _, by omega, by omega, rfl, rfl⟩
  obtain ⟨c, n4, hc, hn4, hc', hn4'⟩ : ∃ c n4, n100 = c * 1461 + n4 ∧
      (0 ≤ n4 ∧ n4 < 1461) ∧ n100 / 1461 = c ∧ n100 % 1461 = n4 :=
    ⟨_, _, by omega, by omega, rfl, rfl⟩
  obtain ⟨d, n, hd, hn, hd', hn'⟩ : ∃ d n, n4 = d * 365 + n ∧
      (0 ≤ n ∧ n < 365) ∧ n4 / 365 = d ∧ n4 % 365 = n :=
    ⟨_, _, by omega, by omega, rfl, rfl⟩
  rw [ha', hn400', hb', hn100', hc', hn4', hd', hn']
  have hcycle : 0 ≤ c ∧ c ≤ 24 := by omega
  split
  case isTrue h =>
    -- the last day of a leap year: the fourth year, or the last year, of its cycle
    obtain ⟨b', c', hb₃, hc₃, hlast, hord⟩ : ∃ b' c' : ℤ, (0 ≤ b' ∧ b' ≤ 3) ∧
        (0 ≤ c' ∧ c' ≤ 24) ∧ (c' ≠ 24 ∨ b' = 3) ∧
        (a * 400 + 1 + b * 100 + c * 4 + d - 1 = a * 400 + 1 + b' * 100 + c' * 4 + 3 ∧
          ordinal = a * 146097 + b' * 36524 + c' * 1461 + 3 * 365 + 365 + 1) := by
      rcases h with h | h
      · exact ⟨b, c, by omega, by omega, by omega, by omega⟩
      · exact ⟨3, 24, by omega, by omega, by omega, by omega⟩
    have hleap := (isLeap_cycle (a := a) hb₃ hc₃ (d := 3) (by omega)).2 ⟨rfl, hlast⟩
    have hyear := daysBeforeYear_cycle (a := a) hb₃ hc₃ (d := 3) (by omega)
    rw [hord.1]
    constructor
    · show daysBeforeYear _ + ((365 : ℕ) : ℤ) + 1 = ordinal
      rw [hyear, hord.2]
      omega
    · show 365 < daysInYear _
      rw [hleap]
      decide
  case isFalse h =>
    have hb₃ : 0 ≤ b ∧ b ≤ 3 := by omega
    have hd₃ : 0 ≤ d ∧ d ≤ 3 := by omega
    have hyear := daysBeforeYear_cycle (a := a) hb₃ hcycle hd₃
    have hpos : 365 ≤ daysInYear (isLeap (a * 400 + 1 + b * 100 + c * 4 + d)) := by
      unfold daysInYear
      split <;> omega
    constructor
    · show daysBeforeYear (a * 400 + 1 + b * 100 + c * 4 + d) + (n.toNat : ℤ) + 1 = ordinal
      rw [hyear]
      omega
    · show n.toNat < daysInYear (isLeap (a * 400 + 1 + b * 100 + c * 4 + d))
      omega

/-- A date of the calendar. -/
@[ext] structure Date where
  year : ℤ
  month : ℕ
  day : ℕ
  month_mem : 1 ≤ month ∧ month ≤ 12
  day_mem : 1 ≤ day ∧ day ≤ daysInMonth (isLeap year) month
deriving DecidableEq

namespace Date

def toOrdinal (d : Date) : ℤ :=
  daysBeforeYear d.year + daysBeforeMonth (isLeap d.year) d.month + d.day

def ofOrdinal (ordinal : ℤ) : Date where
  year := (yearDay ordinal).1
  month := monthOfYearDay (isLeap (yearDay ordinal).1) (yearDay ordinal).2
  day := (yearDay ordinal).2 - daysBeforeMonth (isLeap (yearDay ordinal).1)
    (monthOfYearDay (isLeap (yearDay ordinal).1) (yearDay ordinal).2) + 1
  month_mem := (monthOfYearDay_spec _ _ (yearDay_spec ordinal).2).1
  day_mem := by
    have := (monthOfYearDay_spec _ _ (yearDay_spec ordinal).2).2
    omega

@[simp] lemma toOrdinal_ofOrdinal (ordinal : ℤ) : (ofOrdinal ordinal).toOrdinal = ordinal := by
  have hday := (yearDay_spec ordinal).1
  have hmonth := (monthOfYearDay_spec _ _ (yearDay_spec ordinal).2).2
  simp only [toOrdinal, ofOrdinal]
  omega

/-- The same day of the next month, or the last day of that month if it has no such day. -/
def addMonth (d : Date) : Date :=
  let year := if d.month = 12 then d.year + 1 else d.year
  let month := if d.month = 12 then 1 else d.month + 1
  { year, month
    day := min d.day (daysInMonth (isLeap year) month)
    month_mem := by
      have := d.month_mem
      show 1 ≤ (if d.month = 12 then 1 else d.month + 1) ∧
        (if d.month = 12 then 1 else d.month + 1) ≤ 12
      split <;> omega
    day_mem := by
      have hday := d.day_mem.1
      have hlast := one_le_daysInMonth (isLeap year) month
      exact ⟨le_min hday hlast, min_le_right _ _⟩ }

lemma daysBeforeMonth_twelve (leap : Bool) : daysBeforeMonth leap 12 + 31 = daysInYear leap := by
  cases leap <;> rfl

lemma toOrdinal_lt_addMonth (d : Date) : d.toOrdinal < d.addMonth.toOrdinal := by
  have hday := d.day_mem
  have hnext := d.addMonth.day_mem.1
  by_cases h : d.month = 12
  · have hyear : d.addMonth.year = d.year + 1 := if_pos h
    have hmonth : d.addMonth.month = 1 := if_pos h
    have hlast : daysInMonth (isLeap d.year) 12 = 31 := rfl
    have hbefore := daysBeforeMonth_twelve (isLeap d.year)
    rw [h, hlast] at hday
    rw [toOrdinal, toOrdinal, hyear, hmonth, h, daysBeforeYear_succ, ← hbefore]
    show _ < _ + ((daysBeforeMonth (isLeap (d.year + 1)) 1 : ℕ) : ℤ) + _
    push_cast
    omega
  · have hyear : d.addMonth.year = d.year := if_neg h
    have hmonth : d.addMonth.month = d.month + 1 := if_neg h
    rw [toOrdinal, toOrdinal, hyear, hmonth, daysBeforeMonth_succ _ d.month_mem.1]
    push_cast
    omega

end Date

/-- A microsecond is the unit of the readings. -/
def second : ℤ := 1000000

def hour : ℤ := 3600 * second

def day : ℤ := 24 * hour

lemma hour_pos : 0 < hour := by decide

lemma day_pos : 0 < day := by decide

/-- The ordinal of the first of January 1970. -/
def epochOrdinal : ℤ := 719163

def ordinalOf (wall : ℤ) : ℤ := wall / day + epochOrdinal

def hourOf (wall : ℤ) : ℕ := (wall / hour % 24).toNat

/-- The day of the week, from Monday, 1, to Sunday, 7. -/
def isoweekday (wall : ℤ) : ℕ :=
  if ordinalOf wall % 7 = 0 then 7 else (ordinalOf wall % 7).toNat

/-- The same time of the day, a month later. -/
def addMonth (wall : ℤ) : ℤ :=
  ((Date.ofOrdinal (ordinalOf wall)).addMonth.toOrdinal - epochOrdinal) * day + wall % day

lemma lt_addMonth (wall : ℤ) : wall < addMonth wall := by
  have hlt := (Date.ofOrdinal (ordinalOf wall)).toOrdinal_lt_addMonth
  rw [Date.toOrdinal_ofOrdinal, ordinalOf] at hlt
  have hsplit := Int.mul_ediv_add_emod wall day
  have hdays : wall / day + 1 ≤
      (Date.ofOrdinal (ordinalOf wall)).addMonth.toOrdinal - epochOrdinal := by
    rw [ordinalOf]
    omega
  have hmul := mul_le_mul_of_nonneg_right hdays day_pos.le
  have := day_pos
  rw [addMonth]
  linarith

-- the thirty-first of January 2024
example : addMonth (1706659200 * second) = 1709164800 * second := by decide +kernel

end Calendar
