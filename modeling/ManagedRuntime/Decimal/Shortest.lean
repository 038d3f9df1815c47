/-
  Shortest decimals
  =================
  A double stands for all the reals that round to it, an interval around it that
  contains its ends exactly if the mantissa is even.  Its shortest decimal is the one
  with the fewest digits in that interval, and of several of that length the one
  nearest to the double, with an even last digit if two are equally near.

  All comparisons are made between natural numbers (`Decimal.compareBinary`).
-/
namespace ManagedRuntime

/-- The number `digits * 10 ^ exponent`. -/
structure Decimal where
  digits : Nat
  exponent : Int
  deriving DecidableEq, Repr

/-- A double above zero, `mantissa * 2 ^ exponent`. -/
structure Binary where
  mantissa : Nat
  exponent : Int
  /-- Whether the next smaller double is half as far away as the next larger. -/
  narrowBelow : Bool
  deriving DecidableEq, Repr

/-- The number of fractions that a double can have between two powers of two. -/
def fractionLimit : Nat := 4503599627370496

/-- The double with the given bits, the sign left out. -/
def Binary.ofBits (bits : Nat) : Binary :=
  let fraction := bits % fractionLimit
  match bits / fractionLimit with
  | 0 => { mantissa := fraction, exponent := -1074, narrowBelow := false }
  | scale + 1 => {
      mantissa := fractionLimit + fraction
      exponent := (scale : Int) - 1074
      narrowBelow := fraction = 0 && 0 < scale }

namespace Decimal

def compareBinary (decimal : Decimal) (mantissa : Nat) (exponent : Int) : Ordering :=
  compare
    (decimal.digits * Nat.pow 10 decimal.exponent.toNat * Nat.pow 2 (-exponent).toNat)
    (mantissa * Nat.pow 2 exponent.toNat * Nat.pow 10 (-decimal.exponent).toNat)

def roundsTo (decimal : Decimal) (double : Binary) : Bool :=
  let low := 4 * double.mantissa - if double.narrowBelow then 1 else 2
  let high := 4 * double.mantissa + 2
  match decimal.compareBinary low (double.exponent - 2),
    decimal.compareBinary high (double.exponent - 2) with
  | .gt, .lt => true
  | .eq, _ | _, .eq => double.mantissa % 2 = 0
  | _, _ => false

def withoutZeros (decimal : Decimal) : Decimal :=
  if decimal.digits ≠ 0 ∧ decimal.digits % 10 = 0 then
    withoutZeros { digits := decimal.digits / 10, exponent := decimal.exponent + 1 }
  else decimal
termination_by decimal.digits

end Decimal

namespace Binary

def quotient (double : Binary) : Nat × Nat :=
  (double.mantissa * Nat.pow 2 double.exponent.toNat, Nat.pow 2 (-double.exponent).toNat)

/-- The least exponent of a power of ten above the double. -/
def magnitude (double : Binary) : Int :=
  let (number, unit) := double.quotient
  if unit ≤ number then (Nat.toDigits 10 (number / unit)).length
  else -((List.range 324).find? fun zeros => unit ≤ number * Nat.pow 10 (zeros + 1)).getD 324

/-- The decimals next to the double among those that end at a power of ten. -/
def neighbours (double : Binary) (exponent : Int) : Decimal × Decimal :=
  let (number, unit) := double.quotient
  let floor := number * Nat.pow 10 (-exponent).toNat / (unit * Nat.pow 10 exponent.toNat)
  ({ digits := floor, exponent }, { digits := floor + 1, exponent })

/-- The nearest decimal that ends at a power of ten and rounds to the double. -/
def nearest? (double : Binary) (exponent : Int) : Option Decimal :=
  let (below, above) := double.neighbours exponent
  match below.roundsTo double, above.roundsTo double with
  | true, false => some below
  | false, true => some above
  | false, false => none
  | true, true =>
    let middle : Decimal := { digits := 2 * below.digits + 1, exponent }
    match middle.compareBinary double.mantissa (double.exponent + 1) with
    | .gt => some below
    | .lt => some above
    | .eq => some (if below.digits % 2 = 0 then below else above)

def exact (double : Binary) : Decimal where
  digits := double.mantissa * Nat.pow 2 double.exponent.toNat * Nat.pow 5 (-double.exponent).toNat
  exponent := -((-double.exponent).toNat : Int)

/-- The decimal with the fewest digits that rounds to the double. -/
def shortest (double : Binary) : Decimal :=
  let found := (List.range 17).findSome? fun (more : Nat) =>
    double.nearest? (double.magnitude - 1 - more)
  (found.getD double.exact).withoutZeros

end Binary

end ManagedRuntime
