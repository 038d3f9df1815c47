/-
  Pointers in an object
  =====================
  A pointer takes eight bytes and is stored whole.  It is found at the offset of its
  first byte only, and storing over any of its bytes destroys all of it.

  Pointers that share no byte start in different words, so each is filed under the
  word in which it starts.  The laws speak of offsets alone: `at?_outside` and
  `at?_place` say which pointer is found at each offset after a change.
-/
import ManagedRuntime.Class.Basic
import ManagedRuntime.Heap.Roots
import ManagedRuntime.Object.KeyRange

namespace ManagedRuntime

inductive Pointer where
  | object (id : ObjectId)
  | classOf (id : ClassId)
  | table (table : DispatchTable)
  deriving DecidableEq, Repr

/-- A pointer with the offset of its first byte. -/
structure PlacedPointer where
  offset : Nat
  target : Pointer
  deriving DecidableEq, Repr

/-- Whether a pointer has a byte among the `count` from an offset on. -/
def PlacedPointer.touches (placed : PlacedPointer) (offset count : Nat) : Bool :=
  offset < placed.offset + pointerSize && placed.offset < offset + count

/-- The pointers of an object, by the number of the word in which each starts. -/
structure Pointers where
  byWord : Std.TreeMap Nat PlacedPointer := ∅

namespace Pointers

def at? (pointers : Pointers) (offset : Nat) : Option Pointer :=
  pointers.byWord[offset / pointerSize]?.bind fun placed =>
    if placed.offset = offset then some placed.target else none

/-- The pointers without those that have a byte among the `count` from an offset on. -/
def outside (pointers : Pointers) (offset count : Nat) : Pointers :=
  let first := (offset + 1 - pointerSize) / pointerSize
  let last := (offset + count - 1) / pointerSize
  ⟨discard (·.touches offset count) pointers.byWord first (last + 1 - first)⟩

/-- Puts a pointer at an offset, in place of those that share a byte with it. -/
def place (pointers : Pointers) (offset : Nat) (target : Pointer) : Pointers where
  byWord := (pointers.outside offset pointerSize).byWord.insert (offset / pointerSize)
    { offset, target }

theorem at?_outside (pointers : Pointers) (offset count other : Nat) :
    (pointers.outside offset count).at? other =
      if other + pointerSize ≤ offset ∨ offset + count ≤ other then pointers.at? other
      else none := by
  have hword : other < offset + count → offset < other + pointerSize →
      (offset + 1 - pointerSize) / pointerSize ≤ other / pointerSize ∧
        other / pointerSize < (offset + 1 - pointerSize) / pointerSize +
          ((offset + count - 1) / pointerSize + 1 - (offset + 1 - pointerSize) / pointerSize) := by
    unfold pointerSize; omega
  simp only [at?, outside, getElem?_discard, PlacedPointer.touches]
  cases pointers.byWord[other / pointerSize]? with
  | none => grind
  | some placed => grind

theorem at?_place (pointers : Pointers) (offset other : Nat) (target : Pointer) :
    (pointers.place offset target).at? other =
      if other = offset then some target
      else if other + pointerSize ≤ offset ∨ offset + pointerSize ≤ other then
        pointers.at? other
      else none := by
  have houtside := pointers.at?_outside offset pointerSize other
  have hword : offset / pointerSize = other / pointerSize →
      ¬(other + pointerSize ≤ offset ∨ offset + pointerSize ≤ other) := by
    unfold pointerSize; omega
  simp only [place, at?, Std.TreeMap.getElem?_insert, Nat.compare_eq_eq] at houtside ⊢
  grind

end Pointers

end ManagedRuntime
