/-
Doubles: the exact values of the finite ones, decimals, and the `round` and `repr` of Python.
-/
import Mathlib.Algebra.Order.Floor.Defs
import Mathlib.Data.Int.Log
import Mathlib.Data.Rat.Floor

/-- A double is shown by its bits. -/
instance Double.instRepr : Repr Float.Model where
  reprPrec x := reprPrec x.toBits

namespace Double

/-- The exact value of a double, if it is finite. -/
def value (x : Float.Model) : Option ℚ :=
  match x.unpack with
  | .zero _ => some 0
  | .finite .positive m e _ => some (m * (2 : ℚ) ^ e)
  | .finite .negative m e _ => some (-(m * (2 : ℚ) ^ e))
  | .infinity _ | .notANumber => none

/-- The double nearest to `± m * 10 ^ e`. -/
def ofDecimal (neg : Bool) (m : ℕ) (e : ℤ) : Float.Model :=
  if neg then (Float.Model.ofScientific m e).neg else Float.Model.ofScientific m e

/-- The integer nearest to a number, and the even one of two. -/
def nearest (q : ℚ) : ℤ :=
  let below := ⌊q⌋
  if q - below < 1 / 2 then below
  else if 1 / 2 < q - below then below + 1
  else below + below % 2

/-- `round(x, digits)`: the decimal nearest to the exact value, as a double. -/
def round (x : Float.Model) (digits : ℕ) : Float.Model :=
  match value x with
  | none | some 0 => x
  | some q => ofDecimal (q < 0) (nearest (|q| * 10 ^ digits)).toNat (-digits)

/-- Ties are between exact values: 0.125 is one, and 2.675 is below the decimal. -/
example : round (ofDecimal false 125 (-3)) 2 = ofDecimal false 12 (-2) ∧
    round (ofDecimal false 2675 (-3)) 2 = ofDecimal false 267 (-2) := by
  decide +kernel

/-- The digits of `repr`, as `m * 10 ^ e`: of the decimals that are read as the double with
the value `q`, which is positive, one with the fewest digits, and the nearest one of these. -/
def shortest (q : ℚ) (x : Float.Model) : Option (ℕ × ℤ) :=
  (List.range 17).findSome? fun (k : ℕ) =>
    let e := Int.log 10 q - (k : ℤ)
    let near := (nearest (q * 10 ^ (-e))).toNat
    -- the double below a power of two is so near that the nearest decimal can be read as it
    ([near, near + 1, near - 1].find? fun m => ofDecimal false m e == x).map fun m =>
      -- one more than a row of nines
      if m = (10 : ℕ) ^ (k + 1 : ℕ) then (1, e + k + 1) else (m, e)

/-- `m * 10 ^ e` without an exponent, with `decimals` decimals at least. -/
def positional (m : ℕ) (e : ℤ) (decimals : ℕ) : List Char :=
  let decimals := max decimals (-e).toNat
  let digits := Nat.toDigits 10 (m * 10 ^ (e + decimals).toNat)
  let digits := List.replicate (decimals + 1 - digits.length) '0' ++ digits
  let whole := digits.take (digits.length - decimals)
  if decimals = 0 then whole else whole ++ '.' :: digits.drop (digits.length - decimals)

/-- The number that `repr` writes, without its exponent: where `repr` has one, from `1e16` on
and below `1e-4`, it has no `.0`. -/
def written (x : Float.Model) : Option (List Char) := do
  let q ← value x
  if q = 0 then return "0.0".toList
  let (m, e) ← shortest |q| (if q < 0 then x.neg else x)
  let digits := positional m e (if 1 / 10 ^ 4 ≤ |q| ∧ |q| < 10 ^ 16 then 1 else 0)
  return if q < 0 then '-' :: digits else digits

/-- An integer, a power of ten that is not a double, and a number with an exponent. -/
example : written (ofDecimal true 3 0) = some "-3.0".toList ∧
    written (ofDecimal false 1 23) = some "100000000000000000000000".toList ∧
    written (ofDecimal false 25 (-6)) = some "0.000025".toList := by
  decide +kernel

end Double
