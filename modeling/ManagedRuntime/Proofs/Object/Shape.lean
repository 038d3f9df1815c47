/-
  The shape of objects
  ====================
  What storage has to be like for the collector and the accessors to see the same in it
  (`Storage.Shaped`).  It has room for what its class lays out, and every word that the collector
  takes for a reference holds a pointer to an object or nothing at all (`Storage.RefWord`): no
  byte of a number, and no part of another pointer.

  A store through an accessor keeps this.  It hits the very slot that the collector looks at, or
  it hits no byte of it: slots of one object are apart, and the elements of other kinds stand in
  arrays in which the collector looks nowhere.
-/
import ManagedRuntime.Proofs.Class.Layout
import ManagedRuntime.Proofs.Object.References

namespace ManagedRuntime

namespace Hierarchy

variable {classes : Hierarchy} {id element : ClassId} {cls : Class}

/-! ### Sorts of classes -/

theorem isArray_eq_false (h : classes.isInstances id) : classes.isArray id = false := by
  obtain ⟨cls, hget, hkind⟩ := exists_of_isInstances h
  simp [isArray, hget, hkind]

theorem isInstances_of_shape {size : Nat} {fields : FieldLayout} (hget : classes.get? id = some cls)
    (hshape : cls.shape = .instances size fields) :
    classes.isInstances id ∧ classes.instanceSize id = size := by
  constructor
  · simp [isInstances, hget, Class.kind, hshape]
  · simp [instanceSize, hget, Class.instanceSize, hshape]

theorem isArray_of_shape {type : ElementType} (hget : classes.get? id = some cls)
    (hshape : cls.shape = .array type) : classes.isArray id := by
  simp [isArray, hget, Class.kind, hshape]

theorem elementClass?_of_shape {type : ElementType} (hget : classes.get? id = some cls)
    (hshape : cls.shape = .array type) :
    classes.elementClass? id = match type with
      | .primitive _ => none
      | .references element => some element := by
  cases type <;> simp [elementClass?, hget, Class.elementClass?, hshape]

theorem exists_of_elementClass? (h : classes.elementClass? id = some element) :
    ∃ cls, classes.get? id = some cls ∧ cls.shape = .array (.references element) := by
  obtain ⟨cls, hget, helement⟩ := Option.bind_eq_some_iff.1 h
  unfold Class.elementClass? at helement
  split at helement
  · rename_i hshape
    cases helement
    exact ⟨cls, hget, hshape⟩
  · cases helement

end Hierarchy

namespace Storage

variable {classes old new : Hierarchy} {storage : Storage} {kind : Kind} {id : ClassId}
variable {cls : Class}
variable {offset other : Nat}

/-! ### Words that hold references -/

/-- The word at an offset holds a pointer to an object, or it is null. -/
structure RefWord (storage : Storage) (offset : Nat) : Prop where
  /-- No byte of it belongs to a number. -/
  load_eq : storage.load offset pointerSize = List.replicate pointerSize 0
  /-- No byte of it belongs to a pointer that starts elsewhere. -/
  alone : ∀ other, other ≠ offset → other < offset + pointerSize → offset < other + pointerSize →
    storage.pointerAt? other = none
  object : ∀ target, storage.pointerAt? offset = some target → ∃ id, target = .object id

theorem pointerAt?_zeroed (size offset : Nat) : (zeroed size).pointerAt? offset = none := by
  simp [pointerAt?, zeroed, Pointers.at?]

theorem byteAt_zeroed (size offset : Nat) : (zeroed size).byteAt offset = 0 := by
  simp [byteAt, zeroed]

theorem load_eq_replicate {count : Nat}
    (h : ∀ i, i < count → storage.byteAt (offset + i) = 0) :
    storage.load offset count = List.replicate count 0 := by
  rw [load, List.map_congr_left fun i hi => h i (List.mem_range.1 hi), List.map_const',
    List.length_range]

theorem byteAt_setClass_zeroed (size : Nat) (id : ClassId) (offset : Nat) :
    ((zeroed size).setClass id).byteAt offset = 0 := by
  rw [setClass, byteAt_setPointer, byteAt_zeroed, ite_self]

theorem pointerAt?_setClass_zeroed (size : Nat) (id : ClassId) (h : offset ≠ 0) :
    ((zeroed size).setClass id).pointerAt? offset = none := by
  rw [setClass, pointerAt?_setPointer, if_neg h, pointerAt?_zeroed, ite_self]

theorem refWord_setClass_zeroed (size : Nat) (id : ClassId) (h : classWordSize ≤ offset) :
    ((zeroed size).setClass id).RefWord offset := by
  unfold classWordSize pointerSize at h
  constructor
  · exact load_eq_replicate fun i _ => byteAt_setClass_zeroed size id _
  · intro other _ _ hover
    unfold pointerSize at hover
    exact pointerAt?_setClass_zeroed size id (by omega)
  · intro target htarget
    rw [pointerAt?_setClass_zeroed size id (by omega)] at htarget
    cases htarget

/-- A store that hits no byte of the word leaves it alone. -/
theorem RefWord.write (h : storage.RefWord other) (value : kind.Value)
    (hdisjoint : other + pointerSize ≤ offset ∨ offset + kind.size ≤ other) :
    (storage.write kind offset value).RefWord other := by
  constructor
  · rw [load_write_of_disjoint storage hdisjoint]
    exact h.load_eq
  · intro place hne hlow hhigh
    have hold := h.alone place hne hlow hhigh
    cases kind with
    | primitive kind =>
      rw [Storage.write, pointerAt?_storeBytes, hold, ite_self]
    | reference =>
      -- the pointers of the new slot lie in the slot, and so outside of the word
      change _ ∨ offset + slotSize ≤ other at hdisjoint
      have htable : place ≠ offset := by
        unfold slotSize at hdisjoint
        omega
      have hobject : place ≠ offset + pointerSize := by
        unfold slotSize at hdisjoint
        omega
      rw [Storage.write, pointerAt?_setSlot, if_neg htable, if_neg hobject, hold, ite_self]
  · intro target htarget
    rw [pointerAt?_write_of_disjoint storage hdisjoint] at htarget
    exact h.object target htarget

theorem refWord_setSlot (storage : Storage) (offset : Nat) (slot : ReferenceSlot) :
    (storage.setSlot offset slot).RefWord (offset + pointerSize) := by
  constructor
  · apply load_eq_replicate
    intro i hi
    rw [setSlot, byteAt_setPointer, if_pos (by omega)]
  · intro other hne hlow hhigh
    have htable : other ≠ offset := by omega
    rw [pointerAt?_setSlot, if_neg htable, if_neg hne, if_neg]
    unfold slotSize
    omega
  · intro target htarget
    rw [pointerAt?_setSlot, if_neg (by unfold pointerSize; omega), if_pos rfl] at htarget
    obtain ⟨object, -, rfl⟩ := Option.map_eq_some_iff.1 htarget
    exact ⟨object, rfl⟩

/-! ### Room -/

/-- Storage has room for an instance of a class, or for as many elements as its length says. -/
def HasRoomFor (storage : Storage) (cls : Class) : Prop :=
  match cls.shape with
  | .instances size _ => size ≤ storage.size
  | .interface => False
  | .array element =>
    element.kind.elementsOffset + storage.length.toNat * element.kind.size ≤ storage.size

/-- What has room for an object of a class has room for its class word. -/
theorem HasRoomFor.classWordSize_le (hroom : storage.HasRoomFor cls)
    (hclasses : classes.WellFormed) (hget : classes.get? id = some cls) :
    classWordSize ≤ storage.size := by
  unfold HasRoomFor at hroom
  cases hshape : cls.shape with
  | instances size fields =>
    rw [hshape] at hroom
    obtain ⟨hword, hsize⟩ := hclasses.fields_within id cls hget size fields hshape
    exact Nat.le_trans hword (Nat.le_trans hsize hroom)
  | interface =>
    rw [hshape] at hroom
    exact hroom.elim
  | array type =>
    rw [hshape] at hroom
    exact Nat.le_trans type.kind.classWordSize_le_elementsOffset
      (Nat.le_trans (Nat.le_add_right ..) hroom)

theorem length_setClass_zeroed (size : Nat) (id : ClassId) :
    ((zeroed size).setClass id).length = 0 := by
  have hload : ((zeroed size).setClass id).load classWordSize Primitive.int.size =
      List.replicate Primitive.int.size 0 :=
    load_eq_replicate fun i _ => byteAt_setClass_zeroed size id (classWordSize + i)
  rw [length, read, hload]
  decide

theorem toNat_length_setLength_le (storage : Storage) (length : Nat) :
    (storage.setLength length).length.toNat ≤ length := by
  have hbits : (BitVec.ofNat 32 length).toNat ≤ length := by
    rw [BitVec.toNat_ofNat]
    exact Nat.mod_le ..
  rw [Storage.length, setLength, read_write, BitVec.toInt_eq_toNat_cond]
  split
  · omega
  · omega

/-! ### Where the collector looks -/

theorem elementsOffset_reference : Kind.reference.elementsOffset = 16 :=
  rfl

theorem mem_slotOffsets_iff (hid : storage.classId? = some id)
    (harray : classes.isArray id = false) :
    offset ∈ storage.slotOffsets classes ↔ ∃ level ∈ classes.chain id,
      ∃ index < (classes.fields level).count,
        offset = ((classes.fields level).slot index).start + pointerSize := by
  simp only [slotOffsets, hid, harray, Bool.false_eq_true, if_false, List.mem_flatMap, blockOffsets,
    List.mem_map, List.mem_range]
  constructor
  · rintro ⟨level, hlevel, index, hindex, rfl⟩
    exact ⟨level, hlevel, index, hindex, rfl⟩
  · rintro ⟨level, hlevel, index, hindex, rfl⟩
    exact ⟨level, hlevel, index, hindex, rfl⟩

theorem slotOffsets_of_array {type : ElementType} (hid : storage.classId? = some id)
    (hget : classes.get? id = some cls) (hshape : cls.shape = .array type) :
    storage.slotOffsets classes = match type with
      | .primitive _ => []
      | .references _ => blockOffsets Kind.reference.elementsOffset storage.length.toNat := by
  simp only [slotOffsets, hid, Hierarchy.isArray_of_shape hget hshape, if_true,
    Hierarchy.elementClass?_of_shape hget hshape]
  cases type <;> rfl

/-- Every slot that the collector reads from lies behind the class word and in the object. -/
theorem HasRoomFor.slot_within (hroom : storage.HasRoomFor cls) (hclasses : classes.Made)
    (hid : storage.classId? = some id) (hget : classes.get? id = some cls)
    (hoffset : offset ∈ storage.slotOffsets classes) :
    classWordSize + pointerSize ≤ offset ∧ offset + pointerSize ≤ storage.size := by
  unfold HasRoomFor at hroom
  cases hshape : cls.shape with
  | instances size fields =>
    obtain ⟨hinstances, hsize⟩ := Hierarchy.isInstances_of_shape hget hshape
    rw [hshape] at hroom
    obtain ⟨level, hlevel, index, hindex, rfl⟩ :=
      (mem_slotOffsets_iff hid (Hierarchy.isArray_eq_false hinstances)).1 hoffset
    obtain ⟨hstart, hstop⟩ := hclasses.slot_within hinstances hlevel hindex
    rw [hsize] at hstop
    constructor
    · exact Nat.add_le_add_right hstart _
    · exact Nat.le_trans (Nat.le_of_eq (Nat.add_assoc ..)) (Nat.le_trans hstop hroom)
  | interface =>
    rw [hshape] at hroom
    exact hroom.elim
  | array type =>
    rw [slotOffsets_of_array hid hget hshape] at hoffset
    rw [hshape] at hroom
    cases type with
    | primitive kind => cases hoffset
    | references element =>
      obtain ⟨index, hindex, rfl⟩ := List.mem_map.1 hoffset
      rw [List.mem_range] at hindex
      change Kind.reference.elementsOffset + storage.length.toNat * slotSize ≤ storage.size at hroom
      rw [elementsOffset_reference] at hroom ⊢
      unfold slotSize classWordSize pointerSize at *
      omega

/-! ### Shaped storage -/

/-- Storage as the objects of a machine have it. -/
structure Shaped (storage : Storage) (classes : Hierarchy) : Prop where
  /-- Nothing is stored before there is a class. -/
  blank : storage.classId? = none → storage = zeroed storage.size
  room : ∀ id, storage.classId? = some id →
    ∃ cls, classes.get? id = some cls ∧ storage.HasRoomFor cls
  words : ∀ offset ∈ storage.slotOffsets classes, storage.RefWord offset

theorem shaped_zeroed (classes : Hierarchy) (size : Nat) : (zeroed size).Shaped classes where
  blank _ := rfl
  room id hid := by
    rw [classId?_zeroed] at hid
    cases hid
  words offset hoffset := by
    rw [slotOffsets, classId?_zeroed] at hoffset
    cases hoffset

/-- With a class, what is asked is room for it and that its slots hold references. -/
theorem shaped_of_classId? (hid : storage.classId? = some id) (hget : classes.get? id = some cls)
    (hroom : storage.HasRoomFor cls)
    (hwords : ∀ offset ∈ storage.slotOffsets classes, storage.RefWord offset) :
    storage.Shaped classes where
  blank hnone := by
    rw [hid] at hnone
    cases hnone
  room other hother := by
    rw [hid] at hother
    cases hother
    exact ⟨cls, hget, hroom⟩
  words := hwords

theorem shaped_setClass_zeroed (hclasses : classes.Made) {size : Nat}
    (hget : classes.get? id = some cls) (hroom : ((zeroed size).setClass id).HasRoomFor cls) :
    ((zeroed size).setClass id).Shaped classes := by
  have hword : classWordSize ≤ size := hroom.classWordSize_le hclasses.wellFormed hget
  have hid : ((zeroed size).setClass id).classId? = some id := classId?_setClass hword id
  apply shaped_of_classId? hid hget hroom
  intro offset hoffset
  obtain ⟨hstart, -⟩ := hroom.slot_within hclasses hid hget hoffset
  exact refWord_setClass_zeroed size id (Nat.le_trans (Nat.le_add_right ..) hstart)

theorem shaped_setLength (hclasses : classes.Made) {size length : Nat} {type : ElementType}
    (hget : classes.get? id = some cls) (hshape : cls.shape = .array type)
    (hsize : type.kind.elementsOffset + length * type.kind.size ≤ size) :
    (((zeroed size).setClass id).setLength length).Shaped classes := by
  have hword : classWordSize ≤ size :=
    Nat.le_trans type.kind.classWordSize_le_elementsOffset
      (Nat.le_trans (Nat.le_add_right ..) hsize)
  have hid : (((zeroed size).setClass id).setLength length).classId? = some id :=
    (classId?_setLength ..).trans (classId?_setClass hword id)
  have hroom : (((zeroed size).setClass id).setLength length).HasRoomFor cls := by
    have hlength := toNat_length_setLength_le ((zeroed size).setClass id) length
    have helements := Nat.mul_le_mul_right type.kind.size hlength
    rw [HasRoomFor, hshape]
    rw [setLength] at helements ⊢
    rw [size_write]
    exact Nat.le_trans (Nat.add_le_add_left helements _) hsize
  apply shaped_of_classId? hid hget hroom
  intro offset hoffset
  obtain ⟨hstart, -⟩ := hroom.slot_within hclasses hid hget hoffset
  unfold classWordSize pointerSize at hstart
  apply (refWord_setClass_zeroed size id _).write
  · right
    change 8 + 4 ≤ offset
    omega
  · change 8 ≤ offset
    omega

theorem Shaped.formed (h : storage.Shaped classes) : storage.Formed classes where
  lt_size id hid := by
    obtain ⟨cls, hget, -⟩ := h.room id hid
    exact Hierarchy.lt_size_of_get? hget
  blank hnone offset := by
    rw [h.blank hnone]
    exact refAt_zeroed _ offset

theorem Shaped.extend (h : storage.Shaped old) (hold : old.WellFormed)
    (hgrown : old.Extends new) : storage.Shaped new where
  blank := h.blank
  room id hid := by
    obtain ⟨cls, hget, hroom⟩ := h.room id hid
    exact ⟨cls, hgrown.get?_of_some hget, hroom⟩
  words := by
    rw [h.formed.slotOffsets_extend hold hgrown]
    exact h.words

theorem Shaped.slot_within (h : storage.Shaped classes) (hclasses : classes.Made)
    (hoffset : offset ∈ storage.slotOffsets classes) :
    classWordSize + pointerSize ≤ offset ∧ offset + pointerSize ≤ storage.size := by
  cases hid : storage.classId? with
  | none =>
    rw [slotOffsets, hid] at hoffset
    cases hoffset
  | some id =>
    obtain ⟨cls, hget, hroom⟩ := h.room id hid
    exact hroom.slot_within hclasses hid hget hoffset

/-! ### Stores -/

theorem Shaped.write (h : storage.Shaped classes) (hplace : storage.IsPlace classes offset)
    (value : kind.Value)
    (hwords : ∀ other ∈ storage.slotOffsets classes,
      (storage.write kind offset value).RefWord other) :
    (storage.write kind offset value).Shaped classes := by
  obtain ⟨id, hid⟩ := Option.isSome_iff_exists.1 hplace.classId
  obtain ⟨cls, hget, hroom⟩ := h.room id hid
  have hclass := (classId?_write hplace.le_offset value).trans hid
  apply shaped_of_classId? hclass hget
  · unfold HasRoomFor at hroom ⊢
    cases hshape : cls.shape with
    | instances size fields =>
      rw [hshape] at hroom
      exact Nat.le_trans hroom (Nat.le_of_eq (size_write ..).symm)
    | interface =>
      rw [hshape] at hroom
      exact hroom
    | array type =>
      rw [hshape] at hroom
      have hheader := hplace.header_le id hid (Hierarchy.isArray_of_shape hget hshape)
      dsimp only
      rw [length_write hheader, size_write]
      exact hroom
  · rw [hplace.slotOffsets_write]
    exact hwords

theorem Shaped.isInstances (h : storage.Shaped classes) (hid : storage.classId? = some id)
    (harray : classes.isArray id = false) : classes.isInstances id := by
  obtain ⟨cls, hget, hroom⟩ := h.room id hid
  unfold HasRoomFor at hroom
  cases hshape : cls.shape with
  | instances size fields => exact (Hierarchy.isInstances_of_shape hget hshape).1
  | interface =>
    rw [hshape] at hroom
    exact hroom.elim
  | array type =>
    rw [Hierarchy.isArray_of_shape hget hshape] at harray
    cases harray

/-- A field is the slot that the collector looks at, or it is apart from it. -/
theorem Shaped.write_field (h : storage.Shaped classes) (hclasses : classes.Made) {owner : ClassId}
    {index : Nat} (hoffset : storage.fieldOffset? classes owner index = some offset)
    (slot : ReferenceSlot) : (storage.write .reference offset slot).Shaped classes := by
  apply h.write (isPlace_of_fieldOffset? hclasses.wellFormed hoffset)
  obtain ⟨id, hid, harray, howner, hindex, rfl⟩ := exists_of_fieldOffset? hoffset
  have hinstances := h.isInstances hid harray
  intro other hother
  obtain ⟨level, hlevel, index', hindex', rfl⟩ :=
    (mem_slotOffsets_iff hid harray).1 hother
  by_cases hsame : (owner, index) = (level, index')
  · cases hsame
    exact storage.refWord_setSlot _ slot
  · have hapart := hclasses.slots_apart hinstances howner hlevel hindex hindex' hsame
    apply (h.words _ hother).write
    unfold Extent.Apart FieldLayout.slot FieldLayout.offsetOf at hapart
    unfold FieldLayout.slot FieldLayout.offsetOf
    unfold slotSize at *
    change _ ∨ _ + (2 * pointerSize) ≤ _
    dsimp only at hapart ⊢
    omega

/-- An element is the slot that the collector looks at, or it is apart from it, or the collector
    looks nowhere. -/
theorem Shaped.write_element (h : storage.Shaped classes) {index : Int}
    (hoffset : storage.elementOffset? classes kind index = some offset) (value : kind.Value) :
    (storage.write kind offset value).Shaped classes := by
  apply h.write (isPlace_of_elementOffset? hoffset)
  obtain ⟨id, cls, type, hid, hget, hshape, rfl, -, -, rfl⟩ := exists_of_elementOffset? hoffset
  intro other hother
  have hword := h.words other hother
  rw [slotOffsets_of_array hid hget hshape] at hother
  cases type with
  | primitive kind => cases hother
  | references element =>
    obtain ⟨index', -, rfl⟩ := List.mem_map.1 hother
    by_cases hsame : index.toNat = index'
    · rw [hsame]
      exact storage.refWord_setSlot _ value
    · apply hword.write
      change Kind.reference.elementsOffset + index' * slotSize + pointerSize + pointerSize ≤
          Kind.reference.elementsOffset + index.toNat * slotSize ∨
        Kind.reference.elementsOffset + index.toNat * slotSize + slotSize ≤
          Kind.reference.elementsOffset + index' * slotSize + pointerSize
      unfold slotSize pointerSize
      omega

/-! ### Reading back -/

theorem IsPlace.fieldOffset?_write (h : storage.IsPlace classes offset) (value : kind.Value)
    (owner : ClassId) (index : Nat) :
    (storage.write kind offset value).fieldOffset? classes owner index =
      storage.fieldOffset? classes owner index := by
  rw [fieldOffset?, classId?_write h.le_offset, fieldOffset?]

theorem IsPlace.elementOffset?_write (h : storage.IsPlace classes offset) (value : kind.Value)
    (other : Kind) (index : Int) :
    (storage.write kind offset value).elementOffset? classes other index =
      storage.elementOffset? classes other index := by
  unfold elementOffset? class?
  rw [classId?_write h.le_offset]
  obtain ⟨id, hid⟩ := Option.isSome_iff_exists.1 h.classId
  rw [hid, Option.bind_some]
  cases hget : classes.get? id with
  | none => simp only [bind, Option.bind_none]
  | some cls =>
    simp only [bind, Option.bind_some]
    by_cases hkind : cls.elementKind? = some other
    · have harray : classes.isArray id := by
        cases hshape : cls.shape with
        | array type => exact Hierarchy.isArray_of_shape hget hshape
        | _ => simp [Class.elementKind?, Class.elementType?, hshape] at hkind
      rw [length_write (h.header_le id hid harray)]
    · rw [if_neg fun hinside => hkind hinside.1, if_neg fun hinside => hkind hinside.1]

theorem field?_write (hclasses : classes.WellFormed) {owner : ClassId} {index : Nat}
    (hoffset : storage.fieldOffset? classes owner index = some offset) (slot : ReferenceSlot) :
    (storage.write .reference offset slot).field? classes owner index = some slot := by
  have hplace := isPlace_of_fieldOffset? hclasses hoffset
  rw [field?, hplace.fieldOffset?_write, hoffset, Option.map_some]
  exact congrArg some (storage.slotAt_setSlot offset slot)

theorem element?_write {index : Int}
    (hoffset : storage.elementOffset? classes kind index = some offset) (value : kind.Value) :
    (storage.write kind offset value).element? classes kind index = some value := by
  have hplace := isPlace_of_elementOffset? hoffset
  rw [element?, hplace.elementOffset?_write, hoffset, Option.map_some, read_write]

/-! ### What the collector sees -/

/-- In an instance it sees the fields of its classes, from its own class to the root. -/
theorem refs_of_instances (hid : storage.classId? = some id) (hinstances : classes.isInstances id) :
    (storage.refs classes).map some = (classes.chain id).flatMap fun level =>
      (List.range (classes.fields level).count).map fun index =>
        (storage.field? classes level index).map (·.object) := by
  have harray := Hierarchy.isArray_eq_false hinstances
  simp only [refs, hid, harray, Bool.false_eq_true, if_false, List.map_flatMap]
  rw [List.flatMap_def, List.flatMap_def]
  apply congrArg List.flatten
  apply List.map_congr_left
  intro level hlevel
  rw [slotRefs, List.map_map]
  apply List.map_congr_left
  intro index hindex
  rw [List.mem_range] at hindex
  simp [field?, fieldOffset?, hid, harray, hlevel, FieldLayout.slotOffset?, hindex, slotAt,
    FieldLayout.offsetOf]

/-- In an array of references it sees the elements. -/
theorem refs_of_references {element : ClassId} (hid : storage.classId? = some id)
    (helement : classes.elementClass? id = some element) :
    (storage.refs classes).map some = (List.range storage.length.toNat).map fun index : Nat =>
      (storage.element? classes .reference index).map (·.object) := by
  obtain ⟨cls, hget, hshape⟩ := Hierarchy.exists_of_elementClass? helement
  simp only [refs, hid, Hierarchy.isArray_of_shape hget hshape, if_true, helement, slotRefs,
    List.map_map]
  apply List.map_congr_left
  intro index hindex
  rw [List.mem_range] at hindex
  have hlt : (index : Int) < storage.length := by omega
  have hoffset : storage.elementOffset? classes .reference index =
      some (Kind.reference.elementsOffset + index * slotSize) := by
    simp [elementOffset?, class?, hid, hget, Class.elementKind?, Class.elementType?,
      Class.elementsOffset, hshape, ElementType.kind, hlt, Kind.size]
  simp [element?, hoffset, read, slotAt]

end Storage

end ManagedRuntime
