/-
  Writing JSON
  ============
  The compact text of a value, with nothing between its parts.  Inside quotes, a
  quote, a backslash and the control characters are escaped, by a letter where there
  is one for it; every other character stands for itself.
-/
import ManagedRuntime.Decimal.Double
import ManagedRuntime.Json.Basic

namespace ManagedRuntime.Json

def escapeLetter? : Char → Option Char
  | '"' => some '"'
  | '\\' => some '\\'
  | '\x08' => some 'b'
  | '\t' => some 't'
  | '\n' => some 'n'
  | '\x0c' => some 'f'
  | '\r' => some 'r'
  | _ => none

def escaped (c : Char) : List Char :=
  match escapeLetter? c with
  | some letter => ['\\', letter]
  | none =>
    if c.toNat < 32 then
      ['\\', 'u', '0', '0', Nat.digitChar (c.toNat / 16), Nat.digitChar (c.toNat % 16)]
    else [c]

def quoted (value : String) : String :=
  String.ofList ('"' :: value.toList.flatMap escaped ++ ['"'])

mutual

/-- Writes a value behind a text. -/
def append (out : String) : Json → String
  | .null => out ++ "null"
  | .bool value => out ++ if value then "true" else "false"
  | .integer value => out ++ toString value
  | .double value => out ++ String.ofList (doubleText value)
  | .text value => out ++ quoted value
  | .list [] => out ++ "[]"
  | .list (item :: items) => appendItems (append (out ++ "[") item) items ++ "]"
  | .object [] => out ++ "\x7b\x7d"
  | .object ((key, value) :: members) =>
    appendMembers (append (out ++ "\x7b" ++ quoted key ++ ":") value) members ++ "\x7d"

def appendItems (out : String) : List Json → String
  | [] => out
  | item :: items => appendItems (append (out ++ ",") item) items

def appendMembers (out : String) : List (String × Json) → String
  | [] => out
  | (key, value) :: members =>
    appendMembers (append (out ++ "," ++ quoted key ++ ":") value) members

end

def render (json : Json) : String :=
  json.append ""

end ManagedRuntime.Json
