/-
  Doubles in text
  ===============
  A double is written with its shortest decimal: positionally if the leading digit
  has a place from the fifth behind the point to the sixteenth in front of it, and
  otherwise with an exponent of ten.  At least one digit stands behind the point of
  a positional number.

  A double is read from the digits that fit into a word; further digits count only
  for their place.  The word is then multiplied or divided by a power of ten.
-/
import ManagedRuntime.Decimal.Shortest
import ManagedRuntime.Word

namespace ManagedRuntime

/-! ### Writing -/

def Decimal.text (decimal : Decimal) : List Char :=
  let digits := Nat.toDigits 10 decimal.digits
  let point : Int := digits.length + decimal.exponent
  if 0 ≤ decimal.exponent ∧ point ≤ 16 then
    digits ++ List.replicate decimal.exponent.toNat '0' ++ ['.', '0']
  else if 0 < point ∧ point ≤ 16 then
    digits.take point.toNat ++ '.' :: digits.drop point.toNat
  else if -5 < point ∧ point ≤ 0 then
    '0' :: '.' :: List.replicate (-point).toNat '0' ++ digits
  else
    let places := digits.drop 1
    let sign := if 0 < point then '+' else '-'
    digits.take 1 ++ (if places.isEmpty then [] else '.' :: places) ++
      'e' :: sign :: Nat.toDigits 10 (point - 1).natAbs

def doubleText (value : Float) : List Char :=
  let bits := value.toBits.toNat
  let magnitude := bits % (wordLimit / 2)
  let sign := if bits = magnitude then [] else ['-']
  sign ++ if magnitude = 0 then ['0', '.', '0'] else (Binary.ofBits magnitude).shortest.text

/-! ### Reading -/

/-- Appends digits to a number as long as it stays a word, and counts them. -/
def appendDigits (number : Nat) : List Nat → Nat × Nat
  | [] => (number, 0)
  | digit :: digits =>
    if number * 10 + digit < wordLimit then
      let (number, count) := appendDigits (number * 10 + digit) digits
      (number, count + 1)
    else (number, 0)

/-- Multiplies a double by a power of ten, in steps of at most 308 places.  A product
    out of range is none. -/
def scaleByTens? (value : Float) (exponent : Int) : Option Float :=
  if exponent.natAbs ≤ 308 then
    let power := Float.ofScientific 1 false exponent.natAbs
    if exponent < 0 then some (value / power)
    else if (value * power).isInf then none else some (value * power)
  else if value == 0.0 then some value
  else if exponent < 0 then
    scaleByTens? (value / Float.ofScientific 1 false 308) (exponent + 308)
  else none
termination_by exponent.natAbs

/-- The double that is written with some digits in front of the point and behind it. -/
def readDouble? (negative : Bool) (whole places : List Nat) (exponent : Int) : Option Float :=
  let (number, inFront) := appendDigits 0 whole
  let (number, behind) := appendDigits number places
  let shift : Int := exponent + (whole.length - inFront : Nat) - behind
  (scaleByTens? (Float.ofNat number) shift).map fun value => if negative then -value else value

end ManagedRuntime
