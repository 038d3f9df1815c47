/-
  Element kinds
  =============
  What an array may hold: one of eight primitive kinds, or references.  Each kind
  has a tag, by which compiled code asks for it, a width and an alignment.

  An array instance starts with its class word and its 32-bit length, twelve bytes
  in all; the elements follow at the next offset that the kind's alignment allows
  (`Kind.elementsOffset`).
-/
import ManagedRuntime.Word

namespace ManagedRuntime

def pointerSize : Nat := 8

/-- Bytes of the class word that every object starts with. -/
def classWordSize : Nat := pointerSize

/-- Bytes of a reference slot: a dispatch table pointer and an object pointer. -/
def slotSize : Nat := 2 * pointerSize

/-- Where the header of an array ends: after the class word and the length. -/
def arrayHeaderEnd : Nat := classWordSize + 4

inductive Primitive where
  | boolean
  | byte
  | short
  | char
  | int
  | long
  | float
  | double
  deriving DecidableEq, Repr

inductive Kind where
  | primitive (kind : Primitive)
  | reference
  deriving DecidableEq, Repr

namespace Primitive

/-- All primitive kinds, in the order of their tags. -/
def all : List Primitive :=
  [.boolean, .byte, .short, .char, .int, .long, .float, .double]

def tag : Primitive → Nat
  | .boolean => 0
  | .byte => 1
  | .short => 2
  | .char => 3
  | .int => 4
  | .long => 5
  | .float => 6
  | .double => 7

def name : Primitive → String
  | .boolean => "boolean"
  | .byte => "byte"
  | .short => "short"
  | .char => "char"
  | .int => "int"
  | .long => "long"
  | .float => "float"
  | .double => "double"

/-- Bytes of one value; values are aligned to their width. -/
def size : Primitive → Nat
  | .boolean | .byte => 1
  | .short | .char => 2
  | .int | .float => 4
  | .long | .double => 8

end Primitive

namespace Kind

def all : List Kind :=
  Primitive.all.map .primitive ++ [.reference]

def tag : Kind → Nat
  | .primitive kind => kind.tag
  | .reference => 8

def ofTag? (tag : Nat) : Option Kind :=
  all.find? (·.tag == tag)

def name : Kind → String
  | .primitive kind => kind.name
  | .reference => "Object"

def size : Kind → Nat
  | .primitive kind => kind.size
  | .reference => slotSize

/-- A reference slot is aligned like a pointer, all else to its width. -/
def align : Kind → Nat
  | .primitive kind => kind.size
  | .reference => pointerSize

def isReference : Kind → Bool
  | .primitive _ => false
  | .reference => true

def elementsOffset (kind : Kind) : Nat :=
  nextMultiple arrayHeaderEnd kind.align

theorem align_pos (kind : Kind) : 0 < kind.align := by
  cases kind with
  | primitive kind => cases kind <;> decide
  | reference => decide

theorem arrayHeaderEnd_le_elementsOffset (kind : Kind) :
    arrayHeaderEnd ≤ kind.elementsOffset :=
  le_nextMultiple kind.align_pos

theorem classWordSize_le_elementsOffset (kind : Kind) : classWordSize ≤ kind.elementsOffset :=
  Nat.le_trans (by decide) kind.arrayHeaderEnd_le_elementsOffset

end Kind

end ManagedRuntime
