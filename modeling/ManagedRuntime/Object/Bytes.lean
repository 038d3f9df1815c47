/-
  Object storage
  ==============
  The data of an object is a row of bytes addressed by offset, all zero at first.
  Numbers are stored as bytes, and pointers whole.  The bytes of a pointer read as
  zero, and so do those that are left of one that was partly stored over.

  Each way of storing is pinned by what is read afterwards: the bytes and the
  pointers outside the range are what they were, and inside it there is only what
  was stored (`byteAt_storeBytes`, `pointerAt?_storeBytes`, `byteAt_setPointer`,
  `pointerAt?_setPointer`).
-/
import ManagedRuntime.Object.Pointers

namespace ManagedRuntime

/-- The data of an object. -/
structure Storage where
  /-- How many bytes there are. -/
  size : Nat
  /-- The bytes of numbers; all others are zero. -/
  bytes : Std.TreeMap Nat UInt8 := ∅
  pointers : Pointers := {}

namespace Storage

/-! ### Bytes and pointers -/

def byteAt (storage : Storage) (offset : Nat) : UInt8 :=
  storage.bytes[offset]?.getD 0

def pointerAt? (storage : Storage) (offset : Nat) : Option Pointer :=
  storage.pointers.at? offset

def storeBytes (storage : Storage) (offset : Nat) (bytes : List UInt8) : Storage :=
  { storage with
    bytes := insertFrom storage.bytes offset bytes
    pointers := storage.pointers.outside offset bytes.length }

/-- Writes a pointer, or the zero bytes of null. -/
def setPointer (storage : Storage) (offset : Nat) (pointer : Option Pointer) : Storage :=
  { storage with
    bytes := discard (fun _ => true) storage.bytes offset pointerSize
    pointers := match pointer with
      | none => storage.pointers.outside offset pointerSize
      | some target => storage.pointers.place offset target }

theorem byteAt_storeBytes (storage : Storage) (offset other : Nat) (bytes : List UInt8) :
    (storage.storeBytes offset bytes).byteAt other =
      if offset ≤ other then (bytes[other - offset]?).getD (storage.byteAt other)
      else storage.byteAt other := by
  simp only [byteAt, storeBytes, getElem?_insertFrom]
  grind

/-- A pointer survives where none of its bytes is written. -/
theorem pointerAt?_storeBytes (storage : Storage) (offset other : Nat) (bytes : List UInt8) :
    (storage.storeBytes offset bytes).pointerAt? other =
      if other + pointerSize ≤ offset ∨ offset + bytes.length ≤ other then
        storage.pointerAt? other
      else none :=
  storage.pointers.at?_outside offset bytes.length other

theorem byteAt_setPointer (storage : Storage) (offset other : Nat) (pointer : Option Pointer) :
    (storage.setPointer offset pointer).byteAt other =
      if offset ≤ other ∧ other < offset + pointerSize then 0 else storage.byteAt other := by
  simp only [byteAt, setPointer, getElem?_discard]
  grind

theorem pointerAt?_setPointer (storage : Storage) (offset other : Nat)
    (pointer : Option Pointer) :
    (storage.setPointer offset pointer).pointerAt? other =
      if other = offset then pointer
      else if other + pointerSize ≤ offset ∨ offset + pointerSize ≤ other then
        storage.pointerAt? other
      else none := by
  cases pointer with
  | none =>
    rw [pointerAt?, setPointer, Pointers.at?_outside, ← pointerAt?]
    by_cases hsame : other = offset
    · rw [if_pos hsame, if_neg (by unfold pointerSize; omega)]
    · rw [if_neg hsame]
  | some target => exact storage.pointers.at?_place offset other target

/-! ### Rows of bytes -/

def load (storage : Storage) (offset count : Nat) : List UInt8 :=
  (List.range count).map fun i => storage.byteAt (offset + i)

/-- Loading reads only the bytes of its range. -/
theorem load_congr {first second : Storage} {offset count : Nat}
    (h : ∀ i, i < count → first.byteAt (offset + i) = second.byteAt (offset + i)) :
    first.load offset count = second.load offset count :=
  List.map_congr_left fun i hi => h i (List.mem_range.1 hi)

/-- What was stored is loaded again. -/
theorem load_storeBytes (storage : Storage) (offset : Nat) (bytes : List UInt8) :
    (storage.storeBytes offset bytes).load offset bytes.length = bytes := by
  apply List.ext_getElem (by simp [load])
  intro i hi hlt
  simp [load, byteAt_storeBytes, hlt]

/-- Storing behind or in front of a range leaves what is loaded from it alone. -/
theorem load_storeBytes_of_disjoint (storage : Storage) {offset other count : Nat}
    {bytes : List UInt8} (h : other + count ≤ offset ∨ offset + bytes.length ≤ other) :
    (storage.storeBytes offset bytes).load other count = storage.load other count := by
  apply load_congr
  intro i hi
  rw [byteAt_storeBytes]
  grind

theorem load_setPointer_of_disjoint (storage : Storage) {offset other count : Nat}
    {pointer : Option Pointer}
    (h : other + count ≤ offset ∨ offset + pointerSize ≤ other) :
    (storage.setPointer offset pointer).load other count = storage.load other count := by
  apply load_congr
  intro i hi
  rw [byteAt_setPointer, if_neg (by omega)]

end Storage

end ManagedRuntime
