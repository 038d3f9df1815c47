/-
  Quoted text
  ===========
  Text in double quotes, for messages that name a text as it was given.  Quotes,
  backslashes and the common controls are written with a backslash; whatever else
  cannot be seen is written as its code point in braces.
-/
import ManagedRuntime.Text.Visible

namespace ManagedRuntime.Text

def hexDigits (c : Char) : List Char :=
  Nat.toDigits 16 c.toNat

def escape (c : Char) : List Char :=
  if c = '\x00' then ['\\', '0']
  else if c = '\t' then ['\\', 't']
  else if c = '\r' then ['\\', 'r']
  else if c = '\n' then ['\\', 'n']
  else if c = '\\' || c = '"' then ['\\', c]
  else if isVisible c then [c]
  else ['\\', 'u', '\x7b'] ++ hexDigits c ++ ['\x7d']

def quote (text : List Char) : List Char :=
  '"' :: text.flatMap escape ++ ['"']

end ManagedRuntime.Text
