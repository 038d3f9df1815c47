/-
  Byte counts
  ===========
  A byte count is written as a decimal number with an optional binary suffix, `k`,
  `m` or `g` in either case.  Blanks may stand around the whole and in front of the
  suffix.
-/
import ManagedRuntime.Text.Blank
import ManagedRuntime.Word

namespace ManagedRuntime

inductive NumberError where
  | empty
  | invalidDigit
  | overflow
  deriving DecidableEq, Repr

def NumberError.message : NumberError → String
  | .empty => "cannot parse integer from empty string"
  | .invalidDigit => "invalid digit found in string"
  | .overflow => "number too large to fit in target type"

def digit? (c : Char) : Option Nat :=
  if c.isDigit then some (c.toNat - '0'.toNat) else none

def appendDigit (number : Nat) (c : Char) : Except NumberError Nat :=
  match digit? c with
  | none => .error .invalidDigit
  | some digit =>
    if number * 10 + digit < wordLimit then .ok (number * 10 + digit) else .error .overflow

/-- A word in decimal digits, with a plus sign or without. -/
def readWord : List Char → Except NumberError Nat
  | [] => .error .empty
  | ['+'] => .error .invalidDigit
  | '+' :: digits => digits.foldlM appendDigit 0
  | digits => digits.foldlM appendDigit 0

inductive ByteCountError where
  | notANumber (reason : NumberError)
  | tooLarge
  deriving DecidableEq, Repr

/-- The unit that a suffix stands for, in bytes. -/
def suffixUnit? (c : Char) : Option Nat :=
  match c.toLower with
  | 'k' => some kibibyte
  | 'm' => some mebibyte
  | 'g' => some gibibyte
  | _ => none

/-- The digits and the unit of a trimmed byte count. -/
def splitSuffix (text : List Char) : List Char × Nat :=
  match text.getLast?.bind suffixUnit? with
  | some unit => (text.dropLast, unit)
  | none => (text, 1)

/-- Reads a byte count that has no blanks at its ends. -/
def readByteCount (text : List Char) : Except ByteCountError Nat :=
  let (digits, unit) := splitSuffix text
  match readWord (Text.trim digits) with
  | .error reason => .error (.notANumber reason)
  | .ok number =>
    match mulWord? number unit with
    | some bytes => .ok bytes
    | none => .error .tooLarge

end ManagedRuntime
