/-
  Stored values
  =============
  What one element of an array or one reference field holds, and how it stands in
  the storage of an object.  A primitive value other than a truth value is the bit
  pattern of its width, stored least significant byte first; a reference slot is a
  dispatch table pointer followed by an object pointer.  Reading a place gives back
  what was written there last (`read_write`), whatever is written to other places
  (`read_write_of_disjoint`).
-/
import ManagedRuntime.Object.Bytes

namespace ManagedRuntime

/-! ### Values -/

/-- A reference with the dispatch table of the object it refers to. -/
structure ReferenceSlot where
  table : Option DispatchTable
  object : Ref
  deriving DecidableEq, Repr

def ReferenceSlot.null : ReferenceSlot where
  table := none
  object := none

/-- The values of a primitive kind: truth values, or bit patterns of its width. -/
abbrev Primitive.Value : Primitive → Type
  | .boolean => Bool
  | .byte => BitVec 8
  | .short => BitVec 16
  | .char => BitVec 16
  | .int => BitVec 32
  | .long => BitVec 64
  | .float => BitVec 32
  | .double => BitVec 64

abbrev Kind.Value : Kind → Type
  | .primitive kind => kind.Value
  | .reference => ReferenceSlot

namespace Primitive

def toBits : (kind : Primitive) → kind.Value → Nat
  | .boolean, value => value.toNat
  | .byte, value => value.toNat
  | .short, value => value.toNat
  | .char, value => value.toNat
  | .int, value => value.toNat
  | .long, value => value.toNat
  | .float, value => value.toNat
  | .double, value => value.toNat

def ofBits : (kind : Primitive) → Nat → kind.Value
  | .boolean, number => number != 0
  | .byte, number => .ofNat 8 number
  | .short, number => .ofNat 16 number
  | .char, number => .ofNat 16 number
  | .int, number => .ofNat 32 number
  | .long, number => .ofNat 64 number
  | .float, number => .ofNat 32 number
  | .double, number => .ofNat 64 number

theorem ofBits_toBits (kind : Primitive) (value : kind.Value) :
    kind.ofBits (kind.toBits value) = value := by
  cases kind <;> simp only [toBits, ofBits, BitVec.ofNat_toNat, BitVec.setWidth_eq]
  cases value <;> rfl

end Primitive

/-! ### Numbers in storage -/

def byteRange : (count : Nat) → Nat
  | 0 => 1
  | count + 1 => 256 * byteRange count

theorem Primitive.toBits_lt (kind : Primitive) (value : kind.Value) :
    kind.toBits value < byteRange kind.size := by
  cases kind with
  | boolean => cases value <;> decide
  | _ => exact BitVec.isLt value

/-- The `count` low bytes of a number, least significant first. -/
def numberBytes (number : Nat) : (count : Nat) → List UInt8
  | 0 => []
  | count + 1 => .ofNat number :: numberBytes (number / 256) count

def numberOf : List UInt8 → Nat
  | [] => 0
  | value :: bytes => value.toNat + 256 * numberOf bytes

theorem length_numberBytes (number count : Nat) : (numberBytes number count).length = count := by
  induction count generalizing number with
  | zero => rfl
  | succ count ih => rw [numberBytes, List.length_cons, ih]

theorem numberOf_numberBytes {number count : Nat} (h : number < byteRange count) :
    numberOf (numberBytes number count) = number := by
  induction count generalizing number with
  | zero =>
    obtain rfl : number = 0 := Nat.lt_one_iff.1 h
    rfl
  | succ count ih =>
    have hrest : number / 256 < byteRange count := by
      rw [byteRange] at h; omega
    simp only [numberBytes, numberOf, ih hrest, UInt8.toNat_ofNat']
    omega

namespace Storage

/-! ### Reference slots in storage -/

def refAt (storage : Storage) (offset : Nat) : Ref :=
  match storage.pointerAt? offset with
  | some (.object id) => some id
  | _ => none

def tableAt? (storage : Storage) (offset : Nat) : Option DispatchTable :=
  match storage.pointerAt? offset with
  | some (.table table) => some table
  | _ => none

def slotAt (storage : Storage) (offset : Nat) : ReferenceSlot where
  table := storage.tableAt? offset
  object := storage.refAt (offset + pointerSize)

def setSlot (storage : Storage) (offset : Nat) (slot : ReferenceSlot) : Storage :=
  (storage.setPointer offset (slot.table.map .table)).setPointer (offset + pointerSize)
    (slot.object.map .object)

/-- The pointers after a slot was written: its own two, and those that it does not
    touch. -/
theorem pointerAt?_setSlot (storage : Storage) (offset other : Nat) (slot : ReferenceSlot) :
    (storage.setSlot offset slot).pointerAt? other =
      if other = offset then slot.table.map .table
      else if other = offset + pointerSize then slot.object.map .object
      else if other + pointerSize ≤ offset ∨ offset + slotSize ≤ other then
        storage.pointerAt? other
      else none := by
  simp only [setSlot, pointerAt?_setPointer]
  unfold slotSize pointerSize
  grind

theorem slotAt_setSlot (storage : Storage) (offset : Nat) (slot : ReferenceSlot) :
    (storage.setSlot offset slot).slotAt offset = slot := by
  obtain ⟨table, object⟩ := slot
  have hnext : offset + pointerSize ≠ offset := by unfold pointerSize; omega
  simp only [slotAt, tableAt?, refAt, pointerAt?_setSlot, if_pos, if_neg hnext]
  cases table <;> cases object <;> rfl

/-- A slot is read from two pointers. -/
theorem slotAt_congr {first second : Storage} {offset : Nat}
    (htable : first.pointerAt? offset = second.pointerAt? offset)
    (hobject : first.pointerAt? (offset + pointerSize) = second.pointerAt? (offset + pointerSize)) :
    first.slotAt offset = second.slotAt offset := by
  simp only [slotAt, tableAt?, refAt, htable, hobject]

/-! ### Places -/

def read (storage : Storage) : (kind : Kind) → (offset : Nat) → kind.Value
  | .primitive kind, offset => kind.ofBits (numberOf (storage.load offset kind.size))
  | .reference, offset => storage.slotAt offset

def write (storage : Storage) : (kind : Kind) → (offset : Nat) → kind.Value → Storage
  | .primitive kind, offset, value =>
    storage.storeBytes offset (numberBytes (kind.toBits value) kind.size)
  | .reference, offset, slot => storage.setSlot offset slot

theorem size_write (storage : Storage) (kind : Kind) (offset : Nat) (value : kind.Value) :
    (storage.write kind offset value).size = storage.size := by
  cases kind <;> simp only [write, setSlot, setPointer, storeBytes]

theorem read_write (storage : Storage) (kind : Kind) (offset : Nat) (value : kind.Value) :
    (storage.write kind offset value).read kind offset = value := by
  cases kind with
  | primitive kind =>
    have hload := storage.load_storeBytes offset (numberBytes (kind.toBits value) kind.size)
    rw [length_numberBytes] at hload
    simp only [write, read, hload, numberOf_numberBytes (kind.toBits_lt value), kind.ofBits_toBits]
  | reference => exact storage.slotAt_setSlot offset value

/-- A pointer survives a write that touches none of its bytes. -/
theorem pointerAt?_write_of_disjoint (storage : Storage) {kind : Kind} {offset other : Nat}
    {value : kind.Value} (h : other + pointerSize ≤ offset ∨ offset + kind.size ≤ other) :
    (storage.write kind offset value).pointerAt? other = storage.pointerAt? other := by
  cases kind with
  | primitive kind =>
    change _ ∨ offset + kind.size ≤ other at h
    rw [write, pointerAt?_storeBytes, length_numberBytes, if_pos h]
  | reference =>
    change _ ∨ offset + slotSize ≤ other at h
    rw [write, pointerAt?_setSlot]
    unfold slotSize pointerSize at *
    grind

/-- What is loaded from a range survives a write outside of it. -/
theorem load_write_of_disjoint (storage : Storage) {kind : Kind} {offset other count : Nat}
    {value : kind.Value} (h : other + count ≤ offset ∨ offset + kind.size ≤ other) :
    (storage.write kind offset value).load other count = storage.load other count := by
  cases kind with
  | primitive kind =>
    apply load_storeBytes_of_disjoint
    rwa [length_numberBytes]
  | reference =>
    change _ ∨ offset + (pointerSize + pointerSize) ≤ other at h
    rw [write, setSlot, load_setPointer_of_disjoint _ (by omega),
      load_setPointer_of_disjoint _ (by omega)]

/-- A value is read from its own bytes only. -/
theorem read_write_of_disjoint (storage : Storage) {kind : Kind} {offset other : Nat}
    {value : kind.Value} (place : Kind)
    (h : other + place.size ≤ offset ∨ offset + kind.size ≤ other) :
    (storage.write kind offset value).read place other = storage.read place other := by
  cases place with
  | primitive place =>
    change other + place.size ≤ _ ∨ _ at h
    simp only [read, load_write_of_disjoint storage h]
  | reference =>
    change other + (pointerSize + pointerSize) ≤ _ ∨ _ at h
    exact slotAt_congr (pointerAt?_write_of_disjoint storage (by omega))
      (pointerAt?_write_of_disjoint storage (by omega))

end Storage

end ManagedRuntime
