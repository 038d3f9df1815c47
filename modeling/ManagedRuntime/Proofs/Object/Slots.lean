/-
  Reference slots
  ===============
  The reference slots of an object are its reference fields and, in an array of references, its
  elements (`Storage.HasSlot`).  New classes make no difference to them.  The slots of a new object
  are null, and a store changes the one slot that it goes to.
-/
import ManagedRuntime.Proofs.Object.Elements

namespace ManagedRuntime

/-- The reference slot that a value is, for the values that are one. -/
def Kind.slot? : (kind : Kind) → kind.Value → Option ReferenceSlot
  | .primitive _, _ => none
  | .reference, slot => some slot

namespace Storage

variable {classes old new : Hierarchy} {storage : Storage} {kind : Kind} {id : ClassId}
variable {slot stored : ReferenceSlot} {offset : Nat}

/-- A field or an element of an object holds a slot. -/
inductive HasSlot (storage : Storage) (classes : Hierarchy) (slot : ReferenceSlot) : Prop where
  | field (owner : ClassId) (index : Nat) :
      storage.field? classes owner index = some slot → HasSlot storage classes slot
  | element (index : Int) :
      storage.element? classes .reference index = some slot → HasSlot storage classes slot

theorem HasSlot.object_mem_refs (h : storage.HasSlot classes slot) :
    slot.object ∈ storage.refs classes := by
  cases h with
  | field owner index hfield => exact object_mem_refs_of_field? hfield
  | element index helement => exact object_mem_refs_of_element? helement

theorem fieldOffset?_of_chain {owner : ClassId} {index : Nat} (hid : storage.classId? = some id)
    (harray : classes.isArray id = false) (howner : owner ∈ classes.chain id)
    (hindex : index < (classes.fields owner).count) :
    storage.fieldOffset? classes owner index = some ((classes.fields owner).offsetOf index) := by
  simp [fieldOffset?, hid, harray, howner, FieldLayout.slotOffset?, hindex]

/-- An instance has all fields of all classes in its chain. -/
theorem exists_field? {owner : ClassId} {index : Nat} (hid : storage.classId? = some id)
    (hinstances : classes.isInstances id) (howner : owner ∈ classes.chain id)
    (hindex : index < (classes.fields owner).count) :
    ∃ slot, storage.field? classes owner index = some slot := by
  have harray := Hierarchy.isArray_eq_false hinstances
  rw [field?, fieldOffset?_of_chain hid harray howner hindex]
  exact ⟨_, rfl⟩

/-- An array of references has all elements below its length. -/
theorem exists_element? {element : ClassId} {index : Nat} (hid : storage.classId? = some id)
    (helement : classes.elementClass? id = some element) (hindex : (index : Int) < storage.length) :
    ∃ slot, storage.element? classes .reference index = some slot := by
  obtain ⟨cls, hget, hshape⟩ := Hierarchy.exists_of_elementClass? helement
  exact ⟨_, element?_of_array hid hget hshape hindex⟩

/-! ### New classes -/

theorem Formed.fieldOffset?_extend (h : storage.Formed old) (hold : old.WellFormed)
    (hgrown : old.Extends new) (owner : ClassId) (index : Nat) :
    storage.fieldOffset? new owner index = storage.fieldOffset? old owner index := by
  unfold fieldOffset?
  cases hid : storage.classId? with
  | none => rfl
  | some id =>
    have hlt := h.lt_size id hid
    simp only [bind, Option.bind_some, hgrown.isArray_eq hlt, hgrown.chain_eq hold hlt]
    split
    · rfl
    · rename_i hinstance
      have howner : owner ∈ old.chain id := by
        simp only [Bool.or_eq_true, not_or, Bool.not_eq_true', Bool.not_eq_false,
          List.contains_iff_mem] at hinstance
        exact hinstance.2
      rw [hgrown.fields_eq (hold.lt_size_of_mem_chain hlt howner)]

theorem Formed.elementOffset?_extend (h : storage.Formed old) (hgrown : old.Extends new)
    (kind : Kind) (index : Int) :
    storage.elementOffset? new kind index = storage.elementOffset? old kind index := by
  unfold elementOffset? class?
  cases hid : storage.classId? with
  | none => rfl
  | some id =>
    rw [Option.bind_some, Option.bind_some, hgrown.get?_eq id (h.lt_size id hid)]

theorem HasSlot.of_extend (hslot : storage.HasSlot new slot) (h : storage.Formed old)
    (hold : old.WellFormed) (hgrown : old.Extends new) : storage.HasSlot old slot := by
  cases hslot with
  | field owner index hfield =>
    rw [field?, h.fieldOffset?_extend hold hgrown] at hfield
    exact .field owner index hfield
  | element index helement =>
    rw [element?, h.elementOffset?_extend hgrown] at helement
    exact .element index helement

/-! ### New objects -/

theorem not_hasSlot_zeroed (classes : Hierarchy) (size : Nat) (slot : ReferenceSlot) :
    ¬(zeroed size).HasSlot classes slot := by
  intro h
  have hmem := h.object_mem_refs
  rw [refs_zeroed] at hmem
  cases hmem

theorem pointerAt?_newArray (size : Nat) (id : ClassId) (length : Nat) (h : offset ≠ 0) :
    (newArray size id length).pointerAt? offset = none := by
  rw [newArray, setLength, Storage.write, pointerAt?_storeBytes,
    pointerAt?_setClass_zeroed size id h, ite_self]

/-- Where no pointers are stored behind the class word, all slots are null. -/
theorem HasSlot.eq_null (hslot : storage.HasSlot classes slot) (hclasses : classes.WellFormed)
    (hblank : ∀ offset, offset ≠ 0 → storage.pointerAt? offset = none) : slot = .null := by
  obtain ⟨offset, hplace, rfl⟩ : ∃ offset, storage.IsPlace classes offset ∧
      slot = storage.slotAt offset := by
    cases hslot with
    | field owner index hfield =>
      obtain ⟨offset, hoffset, rfl⟩ := Option.map_eq_some_iff.1 hfield
      exact ⟨offset, isPlace_of_fieldOffset? hclasses hoffset, rfl⟩
    | element index helement =>
      obtain ⟨offset, hoffset, rfl⟩ := Option.map_eq_some_iff.1 helement
      exact ⟨offset, isPlace_of_elementOffset? hoffset, rfl⟩
  have hstart := hplace.le_offset
  unfold classWordSize pointerSize at hstart
  rw [slotAt, tableAt?, refAt, hblank offset (by omega), hblank (offset + pointerSize) (by omega)]
  rfl

/-! ### Stores -/

/-- No object has both fields and elements. -/
theorem not_field_and_element {owner : ClassId} {place : Nat} {index : Int} {field : Nat}
    (hfield : storage.fieldOffset? classes owner field = some place)
    (helement : storage.elementOffset? classes kind index = some offset) : False := by
  obtain ⟨id, hid, harray, -⟩ := exists_of_fieldOffset? hfield
  obtain ⟨id', cls, type, hid', hget, hshape, -⟩ := exists_of_elementOffset? helement
  obtain rfl : id = id' := Option.some.inj (hid.symm.trans hid')
  rw [Hierarchy.isArray_of_shape hget hshape] at harray
  cases harray

/-- Fields of one instance do not overlap. -/
theorem field?_write_of_ne (hclasses : classes.Made)
    (hsort : ∀ id, storage.classId? = some id → classes.isArray id = false → classes.isInstances id)
    {owner other : ClassId} {index index' : Nat}
    (hoffset : storage.fieldOffset? classes owner index = some offset)
    (hne : (owner, index) ≠ (other, index')) :
    (storage.write .reference offset stored).field? classes other index' =
      storage.field? classes other index' := by
  have hplace := isPlace_of_fieldOffset? hclasses.wellFormed hoffset
  rw [field?, hplace.fieldOffset?_write, field?]
  rcases hother : storage.fieldOffset? classes other index' with _ | place
  · rw [Option.map_none, Option.map_none]
  rw [Option.map_some, Option.map_some]
  obtain ⟨id, hid, harray, howner, hindex, rfl⟩ := exists_of_fieldOffset? hoffset
  obtain ⟨id', hid', -, hlevel, hindex', rfl⟩ := exists_of_fieldOffset? hother
  obtain rfl : id = id' := Option.some.inj (hid.symm.trans hid')
  have hapart := hclasses.slots_apart (hsort id hid harray) howner hlevel hindex hindex' hne
  unfold Extent.Apart FieldLayout.slot FieldLayout.offsetOf at hapart
  dsimp only at hapart
  apply congrArg some
  apply storage.read_write_of_disjoint .reference
  exact hapart.symm

/-- A store to a field changes that field and no other. -/
theorem HasSlot.of_write_field
    (hslot : (storage.write .reference offset stored).HasSlot classes slot)
    (h : storage.Shaped classes) (hclasses : classes.Made) {owner : ClassId} {index : Nat}
    (hoffset : storage.fieldOffset? classes owner index = some offset) :
    slot = stored ∨ storage.HasSlot classes slot := by
  cases hslot with
  | field other index' hfield =>
    by_cases hsame : (owner, index) = (other, index')
    · cases hsame
      rw [field?_write hclasses.wellFormed hoffset] at hfield
      exact .inl (Option.some.inj hfield).symm
    · rw [field?_write_of_ne hclasses (fun _ => h.isInstances) hoffset hsame] at hfield
      exact .inr (.field other index' hfield)
  | element index' helement =>
    have hplace := isPlace_of_fieldOffset? hclasses.wellFormed hoffset
    obtain ⟨place, hother, -⟩ := Option.map_eq_some_iff.1 helement
    rw [hplace.elementOffset?_write] at hother
    exact (not_field_and_element hoffset hother).elim

/-- A store to an element of an array of references changes that element and no other. -/
theorem HasSlot.of_write_element
    (hslot : (storage.write .reference offset stored).HasSlot classes slot) {index : Int}
    (hoffset : storage.elementOffset? classes .reference index = some offset) :
    slot = stored ∨ storage.HasSlot classes slot := by
  cases hslot with
  | field owner index' hfield =>
    obtain ⟨place, hother, -⟩ := Option.map_eq_some_iff.1 hfield
    rw [(isPlace_of_elementOffset? hoffset).fieldOffset?_write] at hother
    exact (not_field_and_element hother hoffset).elim
  | element index' helement =>
    by_cases hsame : index' = index
    · subst hsame
      rw [element?_write hoffset] at helement
      exact .inl (Option.some.inj helement).symm
    · rw [element?_write_of_ne hoffset hsame] at helement
      exact .inr (.element index' helement)

/-- An array of primitive elements has no slots, whatever is stored into it. -/
theorem not_hasSlot_of_write_primitive {primitive : Primitive} {index : Int}
    (hoffset : storage.elementOffset? classes (.primitive primitive) index = some offset)
    (value : primitive.Value) (slot : ReferenceSlot) :
    ¬(storage.write (.primitive primitive) offset value).HasSlot classes slot := by
  have hplace := isPlace_of_elementOffset? hoffset
  intro hslot
  cases hslot with
  | field owner index' hfield =>
    obtain ⟨place, hother, -⟩ := Option.map_eq_some_iff.1 hfield
    rw [hplace.fieldOffset?_write] at hother
    exact not_field_and_element hother hoffset
  | element index' helement =>
    obtain ⟨place, hother, -⟩ := Option.map_eq_some_iff.1 helement
    rw [hplace.elementOffset?_write] at hother
    obtain ⟨id, cls, type, hid, hget, hshape, hkind, -⟩ := exists_of_elementOffset? hoffset
    obtain ⟨id', cls', type', hid', hget', hshape', hkind', -⟩ := exists_of_elementOffset? hother
    obtain rfl : id = id' := Option.some.inj (hid.symm.trans hid')
    obtain rfl : cls = cls' := Option.some.inj (hget.symm.trans hget')
    cases hshape.symm.trans hshape'
    cases hkind.symm.trans hkind'

end Storage

end ManagedRuntime
