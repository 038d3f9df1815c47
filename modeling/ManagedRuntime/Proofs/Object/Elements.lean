/-
  Elements of arrays
  ==================
  A new array has the length that was asked for, as long as this is a length at all, and every
  element is zero.  A store to one element is not seen in the others.
-/
import ManagedRuntime.Proofs.Object.Shape

namespace ManagedRuntime

/-- The lengths that arrays can have are below two to the power 31. -/
def lengthLimit : Nat :=
  2147483648

/-- What the elements of a new array hold. -/
def Kind.zero : (kind : Kind) → kind.Value
  | .primitive kind => kind.ofBits 0
  | .reference => .null

namespace Kind

def element (kind : Kind) (index : Nat) : Extent where
  start := kind.elementsOffset + index * kind.size
  stop := kind.elementsOffset + index * kind.size + kind.size

variable (kind : Kind) {index other : Nat}

theorem element_aligned (index : Nat) : kind.align ∣ (kind.element index).start := by
  have hsize : kind.align ∣ kind.size := by
    cases kind with
    | primitive kind => exact Nat.dvd_refl _
    | reference => decide
  exact Nat.dvd_add (nextMultiple_dvd ..) (Nat.dvd_mul_left_of_dvd hsize index)

theorem arrayHeaderEnd_le_element (index : Nat) : arrayHeaderEnd ≤ (kind.element index).start :=
  Nat.le_trans kind.arrayHeaderEnd_le_elementsOffset (Nat.le_add_right ..)

theorem element_stop_le (h : index < other) :
    (kind.element index).stop ≤ kind.elementsOffset + other * kind.size := by
  change kind.elementsOffset + index * kind.size + kind.size ≤ _
  rw [Nat.add_assoc, ← Nat.succ_mul]
  exact Nat.add_le_add_left (Nat.mul_le_mul_right _ h) _

theorem elements_apart (h : index ≠ other) : (kind.element index).Apart (kind.element other) := by
  rcases Nat.lt_or_gt_of_ne h with hlt | hgt
  · exact .inl (kind.element_stop_le hlt)
  · exact .inr (kind.element_stop_le hgt)

end Kind

namespace Storage

variable {classes : Hierarchy} {storage : Storage} {kind : Kind} {id : ClassId} {cls : Class}
variable {type : ElementType} {offset : Nat}

/-! ### Zeroed storage -/

theorem numberOf_replicate_zero (count : Nat) : numberOf (List.replicate count 0) = 0 := by
  induction count with
  | zero => rfl
  | succ count ih =>
    rw [List.replicate_succ, numberOf, ih]
    rfl

theorem read_setClass_zeroed (size : Nat) (id : ClassId) (kind : Kind)
    (h : classWordSize ≤ offset) : ((zeroed size).setClass id).read kind offset = kind.zero := by
  cases kind with
  | primitive kind =>
    have hload : ((zeroed size).setClass id).load offset kind.size =
        List.replicate kind.size 0 :=
      load_eq_replicate fun i _ => byteAt_setClass_zeroed size id (offset + i)
    rw [read, hload, numberOf_replicate_zero, Kind.zero]
  | reference =>
    unfold classWordSize pointerSize at h
    rw [read, slotAt, tableAt?, refAt, pointerAt?_setClass_zeroed size id (by omega),
      pointerAt?_setClass_zeroed size id (by omega)]
    rfl

/-! ### New arrays -/

/-- Storage as a new array has it. -/
def newArray (size : Nat) (id : ClassId) (length : Nat) : Storage :=
  ((zeroed size).setClass id).setLength length

theorem classId?_newArray {size : Nat} (h : classWordSize ≤ size) (id : ClassId) (length : Nat) :
    (newArray size id length).classId? = some id :=
  (classId?_setLength ..).trans (classId?_setClass h id)

theorem length_newArray {length : Nat} (hlength : length < lengthLimit) (size : Nat)
    (id : ClassId) : (newArray size id length).length = length := by
  unfold lengthLimit at hlength
  have hbits : (BitVec.ofNat 32 length).toNat = length := by
    rw [BitVec.toNat_ofNat]
    omega
  rw [newArray, Storage.length, setLength, read_write, BitVec.toInt_eq_toNat_cond, hbits]
  omega

theorem read_newArray (size : Nat) (id : ClassId) (length : Nat) (kind : Kind)
    (h : arrayHeaderEnd ≤ offset) : (newArray size id length).read kind offset = kind.zero := by
  unfold arrayHeaderEnd at h
  rw [newArray, setLength, read_write_of_disjoint _ kind (.inr h)]
  apply read_setClass_zeroed
  omega

/-! ### Elements -/

theorem elementOffset?_of_shape (hid : storage.classId? = some id)
    (hget : classes.get? id = some cls) (hshape : cls.shape = .array type) (kind : Kind)
    (index : Int) :
    storage.elementOffset? classes kind index =
      if type.kind = kind ∧ 0 ≤ index ∧ index < storage.length then
        some (type.kind.element index.toNat).start
      else none := by
  simp only [elementOffset?, class?, hid, Option.bind_some, hget, bind, Class.elementKind?,
    Class.elementType?, Class.elementsOffset, hshape, Option.map_some, Option.some.injEq]
  split
  · rename_i hinside
    rw [hinside.1]
    rfl
  · rfl

theorem elementOffset?_of_array (hid : storage.classId? = some id)
    (hget : classes.get? id = some cls) (hshape : cls.shape = .array type) {index : Nat}
    (hindex : (index : Int) < storage.length) :
    storage.elementOffset? classes type.kind index =
      some (type.kind.elementsOffset + index * type.kind.size) := by
  rw [elementOffset?_of_shape hid hget hshape, if_pos ⟨rfl, Int.natCast_nonneg index, hindex⟩]
  rfl

theorem element?_of_array (hid : storage.classId? = some id) (hget : classes.get? id = some cls)
    (hshape : cls.shape = .array type) {index : Nat} (hindex : (index : Int) < storage.length) :
    storage.element? classes type.kind index =
      some (storage.read type.kind (type.kind.elementsOffset + index * type.kind.size)) := by
  rw [element?, elementOffset?_of_array hid hget hshape hindex, Option.map_some]

theorem element?_newArray {size length : Nat} (hword : classWordSize ≤ size)
    (hlength : length < lengthLimit)
    (hget : classes.get? id = some cls) (hshape : cls.shape = .array type) {index : Nat}
    (hindex : index < length) :
    (newArray size id length).element? classes type.kind index = some type.kind.zero := by
  have hlt : (index : Int) < (newArray size id length).length := by
    rw [length_newArray hlength]
    exact Int.ofNat_lt.2 hindex
  rw [element?_of_array (classId?_newArray hword id length) hget hshape hlt, read_newArray]
  exact Nat.le_trans type.kind.arrayHeaderEnd_le_elementsOffset (Nat.le_add_right ..)

/-- Elements of one array do not overlap. -/
theorem element?_write_of_ne {index other : Int}
    (hoffset : storage.elementOffset? classes kind index = some offset) (hne : other ≠ index)
    (value : kind.Value) :
    (storage.write kind offset value).element? classes kind other =
      storage.element? classes kind other := by
  have hplace := isPlace_of_elementOffset? hoffset
  rw [element?, hplace.elementOffset?_write, element?]
  rcases hother : storage.elementOffset? classes kind other with _ | place
  · rfl
  rw [Option.map_some, Option.map_some]
  obtain ⟨_, _, _, -, -, -, -, hindex, -, rfl⟩ := exists_of_elementOffset? hoffset
  obtain ⟨_, _, _, -, -, -, -, hother, -, rfl⟩ := exists_of_elementOffset? hother
  apply congrArg some
  apply read_write_of_disjoint
  have hnat : other.toNat ≠ index.toNat := by omega
  exact kind.elements_apart hnat

end Storage

end ManagedRuntime
