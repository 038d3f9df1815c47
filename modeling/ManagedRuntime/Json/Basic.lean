/-
  JSON values
  ===========
  The form of requests and answers.  A number is an integer where it is written as
  one that fits into 64 bits, with a sign or without, and a double otherwise.

  Requests leave out what has its usual value, so the look-ups below always answer:
  what is missing, or is of another sort, reads as null, zero, an empty text or an
  empty list.
-/
import ManagedRuntime.Word

namespace ManagedRuntime

inductive Json where
  | null
  | bool (value : Bool)
  | integer (value : Int)
  | double (value : Float)
  | text (value : String)
  | list (items : List Json)
  /-- Members by key. -/
  | object (members : List (String × Json))

namespace Json

def isNull : Json → Bool
  | .null => true
  | _ => false

def field (json : Json) (key : String) : Json :=
  match json with
  | .object members => (members.lookup key).getD .null
  | _ => .null

/-- The number of a value that is an integer in 64 bits with a sign. -/
def toInt? : Json → Option Int
  | .integer value => if value < (wordLimit / 2 : Nat) then some value else none
  | _ => none

def toInt (json : Json) : Int :=
  json.toInt?.getD 0

def toNat? : Json → Option Nat
  | .integer (.ofNat value) => some value
  | _ => none

def toNat (json : Json) : Nat :=
  json.toNat?.getD 0

def items : Json → List Json
  | .list items => items
  | _ => []

def natAt (json : Json) (key : String) : Nat :=
  (json.field key).toNat

def textAt (json : Json) (key : String) : String :=
  match json.field key with
  | .text value => value
  | _ => ""

def flagAt (json : Json) (key : String) : Bool :=
  match json.field key with
  | .bool value => value
  | _ => false

def itemsAt (json : Json) (key : String) : List Json :=
  (json.field key).items

end Json

end ManagedRuntime
