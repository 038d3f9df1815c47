/-
  Reading JSON
  ============
  Each reader takes what it reads from the front of a text and answers with the rest.
  The members of an object are put in the order of their keys, and of several with
  one key the last one counts.
-/
import ManagedRuntime.Decimal.Double
import ManagedRuntime.Json.Basic

namespace ManagedRuntime.Json

/-- What a reader makes of a text. -/
abbrev Read (β : Type) := Option (β × List Char)

def skipBlanks (chars : List Char) : List Char :=
  chars.dropWhile fun c => c = ' ' || c = '\n' || c = '\t' || c = '\r'

/-! ### Texts -/

def hexDigit? (c : Char) : Option Nat :=
  if c.isDigit then some (c.toNat - '0'.toNat)
  else if 'a' ≤ c ∧ c ≤ 'f' then some (c.toNat - 'a'.toNat + 10)
  else if 'A' ≤ c ∧ c ≤ 'F' then some (c.toNat - 'A'.toNat + 10)
  else none

def unit? (digits : List Char) : Option Nat :=
  digits.foldlM (fun unit c => (hexDigit? c).map (unit * 16 + ·)) 0

/-- The character that a letter stands for behind a backslash. -/
def unescape? : Char → Option Char
  | '"' => some '"'
  | '\\' => some '\\'
  | '/' => some '/'
  | 'b' => some '\x08'
  | 'f' => some '\x0c'
  | 'n' => some '\n'
  | 'r' => some '\r'
  | 't' => some '\t'
  | _ => none

/-- The character that a unit ends, and the unit that has to follow first half a pair. -/
def joinUnits? (high : Option Nat) (unit : Nat) : Option (Option Char × Option Nat) :=
  let isHigh := 0xD800 ≤ unit && unit < 0xDC00
  let isLow := 0xDC00 ≤ unit && unit < 0xE000
  match high with
  | some high =>
    if isLow then
      some (some (.ofNat (0x10000 + (high - 0xD800) * 0x400 + (unit - 0xDC00))), none)
    else none
  | none =>
    if isHigh then some (none, some unit)
    else if isLow then none
    else some (some (.ofNat unit), none)

/-- Reads up to the closing quote.  The characters read so far are given in reverse,
    and after them the first half of a pair of units, if one was read last. -/
def readText (before : List Char) (high : Option Nat) : List Char → Read String
  | [] => none
  | '"' :: rest =>
    if high.isSome then none else some (String.ofList before.reverse, rest)
  | '\\' :: 'u' :: a :: b :: c :: d :: rest =>
    match (unit? [a, b, c, d]).bind (joinUnits? high) with
    | some (some char, high) => readText (char :: before) high rest
    | some (none, high) => readText before high rest
    | none => none
  | '\\' :: letter :: rest =>
    match unescape? letter with
    | some char => if high.isSome then none else readText (char :: before) none rest
    | none => none
  | char :: rest =>
    if high.isSome || char.toNat < 32 || char = '\\' then none
    else readText (char :: before) none rest

/-! ### Numbers -/

def readDigits (chars : List Char) : List Nat × List Char :=
  ((chars.takeWhile (·.isDigit)).map (·.toNat - '0'.toNat), chars.dropWhile (·.isDigit))

def numberOfDigits (digits : List Nat) : Nat :=
  digits.foldl (fun number digit => number * 10 + digit) 0

def readPlaces : List Char → Read (Option (List Nat))
  | '.' :: rest =>
    match readDigits rest with
    | ([], _) => none
    | (places, rest) => some (some places, rest)
  | chars => some (none, chars)

def readExponent (chars : List Char) : Read (Option Int) :=
  match chars with
  | mark :: rest =>
    if mark = 'e' || mark = 'E' then
      let (negative, rest) := match rest with
        | '+' :: rest => (false, rest)
        | '-' :: rest => (true, rest)
        | rest => (false, rest)
      match readDigits rest with
      | ([], _) => none
      | (digits, rest) =>
        let number := numberOfDigits digits
        some (some (if negative then -number else number), rest)
    else some (none, chars)
  | [] => some (none, [])

/-- The value of a number that is written without a point and an exponent. -/
def wholeNumber? (negative : Bool) (digits : List Nat) : Option Json :=
  let number := numberOfDigits digits
  if negative then
    if 0 < number ∧ number ≤ wordLimit / 2 then some (.integer (-number))
    else (readDouble? true digits [] 0).map .double
  else if number < wordLimit then some (.integer number)
  else (readDouble? false digits [] 0).map .double

def readNumber (chars : List Char) : Option (Json × List Char) := do
  let (negative, chars) := match chars with
    | '-' :: rest => (true, rest)
    | chars => (false, chars)
  let (whole, chars) := readDigits chars
  if whole.isEmpty || (whole.head? = some 0 && 1 < whole.length) then none
  let (places, chars) ← readPlaces chars
  let (exponent, chars) ← readExponent chars
  if places.isNone && exponent.isNone then
    return (← wholeNumber? negative whole, chars)
  else
    return (.double (← readDouble? negative whole (places.getD []) (exponent.getD 0)), chars)

/-! ### Values -/

/-- Adds a member in the order of the keys, in place of one with the same key. -/
def insertMember (key : String) (value : Json) : List (String × Json) → List (String × Json)
  | [] => [(key, value)]
  | (other, old) :: members =>
    if key < other then (key, value) :: (other, old) :: members
    else if key = other then (key, value) :: members
    else (other, old) :: insertMember key value members

mutual

/-- Reads a value.  The fuel bounds how deep the three readers call each other, which
    is at most twice for each character. -/
def readValue : (fuel : Nat) → List Char → Read Json
  | 0, _ => none
  | fuel + 1, chars =>
    match skipBlanks chars with
    | 'n' :: 'u' :: 'l' :: 'l' :: rest => some (.null, rest)
    | 't' :: 'r' :: 'u' :: 'e' :: rest => some (.bool true, rest)
    | 'f' :: 'a' :: 'l' :: 's' :: 'e' :: rest => some (.bool false, rest)
    | '"' :: rest => (readText [] none rest).map fun (value, rest) => (.text value, rest)
    | '[' :: rest =>
      match skipBlanks rest with
      | ']' :: rest => some (.list [], rest)
      | rest => readItems fuel [] rest
    | '\x7b' :: rest =>
      match skipBlanks rest with
      | '\x7d' :: rest => some (.object [], rest)
      | rest => readMembers fuel [] rest
    | rest => readNumber rest

/-- Reads the items of a list up to its end.  Those before are given in reverse. -/
def readItems : (fuel : Nat) → List Json → List Char → Read Json
  | 0, _, _ => none
  | fuel + 1, before, chars =>
    match readValue fuel chars with
    | none => none
    | some (item, rest) =>
      match skipBlanks rest with
      | ',' :: rest => readItems fuel (item :: before) rest
      | ']' :: rest => some (.list (item :: before).reverse, rest)
      | _ => none

def readMembers : (fuel : Nat) → List (String × Json) → List Char → Read Json
  | 0, _, _ => none
  | fuel + 1, before, chars =>
    match skipBlanks chars with
    | '"' :: rest =>
      match readText [] none rest with
      | none => none
      | some (key, rest) =>
        match skipBlanks rest with
        | ':' :: rest =>
          match readValue fuel rest with
          | none => none
          | some (value, rest) =>
            let members := insertMember key value before
            match skipBlanks rest with
            | ',' :: rest => readMembers fuel members rest
            | '\x7d' :: rest => some (.object members, rest)
            | _ => none
        | _ => none
    | _ => none

end

def read? (text : String) : Option Json :=
  let chars := text.toList
  match readValue (2 * chars.length + 2) chars with
  | some (value, rest) => if (skipBlanks rest).isEmpty then some value else none
  | none => none

end ManagedRuntime.Json
