/-
  References in storage
  =====================
  Where the collector looks for references in an object (`Storage.slotOffsets`), and what
  it finds there after a store.  A store to a field or an element leaves the class word
  and the length alone, so the collector looks in the same places as before; in them
  it finds what was there, nothing, or what was stored.

  Storage without a class holds no reference at all (`Storage.Formed`).  So it holds none
  when it is given a class, whatever the layout of that class.
-/
import ManagedRuntime.Object.Access
import ManagedRuntime.Proofs.Class.Growth

namespace ManagedRuntime

/-- The reference that a value of a kind has in it; null for numbers. -/
def Kind.refOf : (kind : Kind) → kind.Value → Ref
  | .primitive _, _ => none
  | .reference, slot => slot.object

namespace Storage

variable {classes old new : Hierarchy} {storage changed : Storage} {kind : Kind} {ref : Ref}
variable {offset other : Nat}

/-! ### Single references -/

theorem refAt_congr (h : changed.pointerAt? offset = storage.pointerAt? offset) :
    changed.refAt offset = storage.refAt offset := by
  rw [refAt, h, refAt]

theorem refAt_of_pointerAt?_none (h : storage.pointerAt? offset = none) :
    storage.refAt offset = none := by
  unfold refAt
  rw [h]

theorem refAt_zeroed (size offset : Nat) : (zeroed size).refAt offset = none := by
  apply refAt_of_pointerAt?_none
  simp [pointerAt?, zeroed, Pointers.at?]

theorem classId?_zeroed (size : Nat) : (zeroed size).classId? = none := by
  simp [classId?, pointerAt?, zeroed, Pointers.at?]

/-- After a store a place refers to what it did before, to nothing, or to what was stored. -/
theorem refAt_write (storage : Storage) (kind : Kind) (offset : Nat) (value : kind.Value)
    (other : Nat) :
    (storage.write kind offset value).refAt other = storage.refAt other ∨
      (storage.write kind offset value).refAt other = none ∨
      (storage.write kind offset value).refAt other = kind.refOf value := by
  cases kind with
  | primitive kind =>
    have hpointer := storage.pointerAt?_storeBytes offset other
      (numberBytes (kind.toBits value) kind.size)
    split at hpointer
    · exact .inl (refAt_congr hpointer)
    · exact .inr (.inl (refAt_of_pointerAt?_none hpointer))
  | reference =>
    obtain ⟨table, object⟩ := value
    have hpointer := storage.pointerAt?_setSlot offset other ⟨table, object⟩
    split at hpointer
    · refine .inr (.inl ?_)
      simp only [write, refAt, hpointer]
      cases table <;> rfl
    split at hpointer
    · refine .inr (.inr ?_)
      simp only [write, refAt, hpointer]
      cases object <;> rfl
    split at hpointer
    · exact .inl (refAt_congr hpointer)
    · exact .inr (.inl (refAt_of_pointerAt?_none hpointer))

theorem refAt_setClass (storage : Storage) (id : ClassId) (other : Nat) :
    (storage.setClass id).refAt other = storage.refAt other ∨
      (storage.setClass id).refAt other = none := by
  have hpointer := storage.pointerAt?_setPointer 0 other (some (.classOf id))
  split at hpointer
  · refine .inr ?_
    simp only [setClass, refAt, hpointer]
  split at hpointer
  · exact .inl (refAt_congr hpointer)
  · exact .inr (refAt_of_pointerAt?_none hpointer)

theorem refAt_setLength (storage : Storage) (length other : Nat) :
    (storage.setLength length).refAt other = storage.refAt other ∨
      (storage.setLength length).refAt other = none := by
  obtain hsame | hnone | hnone :=
    storage.refAt_write (.primitive .int) classWordSize (.ofNat 32 length) other
  · exact .inl hsame
  · exact .inr hnone
  · exact .inr hnone

/-! ### The class word and the length -/

theorem size_setClass (storage : Storage) (id : ClassId) :
    (storage.setClass id).size = storage.size := by
  simp only [setClass, setPointer]

theorem classId?_setClass (h : classWordSize ≤ storage.size) (id : ClassId) :
    (storage.setClass id).classId? = some id := by
  rw [classId?, size_setClass, if_neg (Nat.not_lt.2 h), setClass, pointerAt?_setPointer, if_pos rfl]

theorem classId?_of_size_lt (h : storage.size < classWordSize) : storage.classId? = none :=
  if_pos h

theorem eq_of_classId?_setClass {id found : ClassId}
    (h : (storage.setClass id).classId? = some found) : found = id := by
  rcases Nat.lt_or_ge storage.size classWordSize with hsmall | hroom
  · rw [classId?_of_size_lt (by rwa [size_setClass])] at h
    cases h
  · rw [classId?_setClass hroom] at h
    exact (Option.some.inj h).symm

/-- Behind the class word no store changes the class. -/
theorem classId?_write (h : classWordSize ≤ offset) (value : kind.Value) :
    (storage.write kind offset value).classId? = storage.classId? := by
  have hpointer : (storage.write kind offset value).pointerAt? 0 = storage.pointerAt? 0 :=
    pointerAt?_write_of_disjoint storage (.inl (by rwa [Nat.zero_add]))
  rw [classId?, size_write, hpointer, classId?]

theorem classId?_setLength (storage : Storage) (length : Nat) :
    (storage.setLength length).classId? = storage.classId? :=
  classId?_write (Nat.le_refl _) _

/-- Behind the header of an array no store changes the length. -/
theorem length_write (h : arrayHeaderEnd ≤ offset) (value : kind.Value) :
    (storage.write kind offset value).length = storage.length := by
  have hread : (storage.write kind offset value).read (.primitive .int) classWordSize =
      storage.read (.primitive .int) classWordSize :=
    read_write_of_disjoint storage (.primitive .int) (.inl h)
  rw [length, hread, length]

/-! ### Where the collector looks -/

/-- The offsets of the object pointers in a block of slots. -/
def blockOffsets (offset count : Nat) : List Nat :=
  (List.range count).map fun index => offset + index * slotSize + pointerSize

/-- The offsets at which the collector looks for references. -/
def slotOffsets (storage : Storage) (classes : Hierarchy) : List Nat :=
  match storage.classId? with
  | none => []
  | some id =>
    if classes.isArray id then
      match classes.elementClass? id with
      | some _ => blockOffsets Kind.reference.elementsOffset storage.length.toNat
      | none => []
    else
      (classes.chain id).flatMap fun level =>
        blockOffsets (classes.fields level).offset (classes.fields level).count

theorem slotRefs_eq_map (storage : Storage) (offset count : Nat) :
    storage.slotRefs offset count = (blockOffsets offset count).map storage.refAt := by
  rw [slotRefs, blockOffsets, List.map_map]
  rfl

theorem refs_eq_map (storage : Storage) (classes : Hierarchy) :
    storage.refs classes = (storage.slotOffsets classes).map storage.refAt := by
  rcases hid : storage.classId? with _ | id
  · simp only [refs, slotOffsets, hid, List.map_nil]
  simp only [refs, slotOffsets, hid]
  split
  · cases classes.elementClass? id with
    | none => rfl
    | some element => exact storage.slotRefs_eq_map ..
  · simp only [slotRefs_eq_map, List.map_flatMap]

theorem mem_blockOffsets {offset count index : Nat} (h : index < count) :
    offset + index * slotSize + pointerSize ∈ blockOffsets offset count :=
  List.mem_map.2 ⟨index, List.mem_range.2 h, rfl⟩

/-- The class word, and in an array the length, say where the collector looks. -/
theorem slotOffsets_congr (hclass : changed.classId? = storage.classId?)
    (hlength : ∀ id, storage.classId? = some id → classes.isArray id →
      changed.length = storage.length) :
    changed.slotOffsets classes = storage.slotOffsets classes := by
  unfold slotOffsets
  rw [hclass]
  split
  · rfl
  · rename_i id hid
    split
    · rename_i harray
      rw [hlength id hid harray]
    · rfl

/-! ### Places of contents -/

/-- An offset behind the class word of an object, and in an array behind its length. -/
structure IsPlace (storage : Storage) (classes : Hierarchy) (offset : Nat) : Prop where
  classId : storage.classId?.isSome
  le_offset : classWordSize ≤ offset
  header_le : ∀ id, storage.classId? = some id → classes.isArray id → arrayHeaderEnd ≤ offset

theorem exists_of_fieldOffset? {owner : ClassId} {index : Nat}
    (h : storage.fieldOffset? classes owner index = some offset) :
    ∃ id, storage.classId? = some id ∧ classes.isArray id = false ∧ owner ∈ classes.chain id ∧
      index < (classes.fields owner).count ∧
      offset = (classes.fields owner).offset + index * slotSize := by
  obtain ⟨id, hid, hfield⟩ := Option.bind_eq_some_iff.1 h
  split at hfield
  · cases hfield
  · rename_i hinstance
    obtain ⟨harray, howner⟩ := not_or.1 (fun hor => hinstance (Bool.or_eq_true_iff.2 hor))
    rw [FieldLayout.slotOffset?] at hfield
    split at hfield
    · rename_i hindex
      cases hfield
      exact ⟨id, hid, Bool.not_eq_true _ ▸ harray, by simpa using howner, hindex, rfl⟩
    · cases hfield

theorem exists_of_elementOffset? {index : Int}
    (h : storage.elementOffset? classes kind index = some offset) :
    ∃ id cls element, storage.classId? = some id ∧ classes.get? id = some cls ∧
      cls.shape = .array element ∧ element.kind = kind ∧ 0 ≤ index ∧ index < storage.length ∧
      offset = kind.elementsOffset + index.toNat * kind.size := by
  obtain ⟨cls, hcls, helement⟩ := Option.bind_eq_some_iff.1 h
  obtain ⟨id, hid, hget⟩ := Option.bind_eq_some_iff.1 hcls
  split at helement
  · rename_i hinside
    obtain ⟨hkind, hpos, hlt⟩ := hinside
    cases helement
    cases hshape : cls.shape with
    | instances size fields => simp [Class.elementKind?, Class.elementType?, hshape] at hkind
    | interface => simp [Class.elementKind?, Class.elementType?, hshape] at hkind
    | array element =>
      simp only [Class.elementKind?, Class.elementType?, hshape, Option.map_some,
        Option.some.injEq] at hkind
      refine ⟨id, cls, element, hid, hget, hshape, hkind, hpos, hlt, ?_⟩
      simp only [Class.elementsOffset, hshape, hkind]
  · cases helement

theorem isPlace_of_fieldOffset? (hclasses : classes.WellFormed) {owner : ClassId} {index : Nat}
    (h : storage.fieldOffset? classes owner index = some offset) :
    storage.IsPlace classes offset := by
  obtain ⟨id, hid, harray, -, hindex, rfl⟩ := exists_of_fieldOffset? h
  have hword : classWordSize ≤ (classes.fields owner).offset :=
    hclasses.le_offset (Nat.zero_lt_of_lt hindex)
  refine ⟨by rw [hid]; rfl, Nat.le_trans hword (Nat.le_add_right ..), ?_⟩
  intro other hother hisArray
  rw [hid] at hother
  cases hother
  rw [harray] at hisArray
  cases hisArray

theorem isPlace_of_elementOffset? {index : Int}
    (h : storage.elementOffset? classes kind index = some offset) :
    storage.IsPlace classes offset := by
  obtain ⟨id, cls, element, hid, -, -, -, -, -, rfl⟩ := exists_of_elementOffset? h
  have hheader : arrayHeaderEnd ≤ kind.elementsOffset + index.toNat * kind.size :=
    Nat.le_trans kind.arrayHeaderEnd_le_elementsOffset (Nat.le_add_right ..)
  refine ⟨by rw [hid]; rfl, Nat.le_trans ?_ hheader, fun _ _ _ => hheader⟩
  decide

theorem IsPlace.slotOffsets_write (h : storage.IsPlace classes offset) (value : kind.Value) :
    (storage.write kind offset value).slotOffsets classes = storage.slotOffsets classes :=
  slotOffsets_congr (classId?_write h.le_offset value) fun id hid harray =>
    length_write (h.header_le id hid harray) value

/-- After a store an object refers to what it did before and to what was stored. -/
theorem IsPlace.refs_write (h : storage.IsPlace classes offset) {value : kind.Value}
    (href : ref ∈ (storage.write kind offset value).refs classes) :
    ref ∈ storage.refs classes ∨ ref = none ∨ ref = kind.refOf value := by
  rw [refs_eq_map, h.slotOffsets_write] at href
  obtain ⟨other, hother, rfl⟩ := List.mem_map.1 href
  obtain hsame | hnone | hstored := storage.refAt_write kind offset value other
  · rw [hsame, refs_eq_map]
    exact .inl (List.mem_map.2 ⟨other, hother, rfl⟩)
  · exact .inr (.inl hnone)
  · exact .inr (.inr hstored)

/-! ### What a program can read -/

/-- The collector sees every reference that a field gives. -/
theorem object_mem_refs_of_field? {owner : ClassId} {index : Nat} {slot : ReferenceSlot}
    (h : storage.field? classes owner index = some slot) : slot.object ∈ storage.refs classes := by
  obtain ⟨offset, hoffset, rfl⟩ := Option.map_eq_some_iff.1 h
  obtain ⟨id, hid, harray, howner, hindex, rfl⟩ := exists_of_fieldOffset? hoffset
  rw [refs_eq_map]
  refine List.mem_map.2 ⟨_, ?_, rfl⟩
  simp only [slotOffsets, hid, harray, Bool.false_eq_true, if_false]
  exact List.mem_flatMap.2 ⟨owner, howner, mem_blockOffsets hindex⟩

/-- The collector sees every reference that an element gives. -/
theorem object_mem_refs_of_element? {index : Int} {slot : ReferenceSlot}
    (h : storage.element? classes .reference index = some slot) :
    slot.object ∈ storage.refs classes := by
  obtain ⟨offset, hoffset, rfl⟩ := Option.map_eq_some_iff.1 h
  obtain ⟨id, cls, element, hid, hget, hshape, hkind, hpos, hlt, rfl⟩ :=
    exists_of_elementOffset? hoffset
  have harray : classes.isArray id := by
    simp [Hierarchy.isArray, hget, Class.kind, hshape]
  rw [refs_eq_map]
  refine List.mem_map.2 ⟨_, ?_, rfl⟩
  cases element with
  | primitive kind => cases hkind
  | references element =>
    have helement : classes.elementClass? id = some element := by
      simp [Hierarchy.elementClass?, hget, Class.elementClass?, hshape]
    simp only [slotOffsets, hid, harray, if_true, helement]
    exact mem_blockOffsets (by omega)

/-! ### Storage that objects can have -/

/-- The class of an object exists, and storage without a class refers to nothing. -/
structure Formed (storage : Storage) (classes : Hierarchy) : Prop where
  lt_size : ∀ id, storage.classId? = some id → id < classes.size
  blank : storage.classId? = none → ∀ offset, storage.refAt offset = none

theorem formed_zeroed (classes : Hierarchy) (size : Nat) : (zeroed size).Formed classes where
  lt_size id h := by
    rw [classId?_zeroed] at h
    cases h
  blank _ := refAt_zeroed size

theorem refs_zeroed (classes : Hierarchy) (size : Nat) : (zeroed size).refs classes = [] := by
  rw [refs, classId?_zeroed]

/-- Storage that refers to nothing refers to nothing in any class. -/
theorem refs_of_blank (h : ∀ offset, storage.refAt offset = none)
    (href : ref ∈ storage.refs classes) : ref = none := by
  rw [refs_eq_map] at href
  obtain ⟨offset, -, rfl⟩ := List.mem_map.1 href
  exact h offset

theorem blank_setClass (h : ∀ offset, storage.refAt offset = none) (id : ClassId) (offset : Nat) :
    (storage.setClass id).refAt offset = none := by
  obtain hsame | hnone := storage.refAt_setClass id offset
  · rw [hsame, h]
  · exact hnone

theorem blank_setLength (h : ∀ offset, storage.refAt offset = none) (length offset : Nat) :
    (storage.setLength length).refAt offset = none := by
  obtain hsame | hnone := storage.refAt_setLength length offset
  · rw [hsame, h]
  · exact hnone

/-- With a class that exists, nothing more is asked. -/
theorem formed_of_classId? {id : ClassId} (h : storage.classId? = some id)
    (hid : id < classes.size) : storage.Formed classes where
  lt_size other hother := by
    rw [h] at hother
    cases hother
    exact hid
  blank hnone := by
    rw [h] at hnone
    cases hnone

theorem Formed.setClass (h : storage.Formed classes) {id : ClassId} (hid : id < classes.size) :
    (storage.setClass id).Formed classes := by
  rcases Nat.lt_or_ge storage.size classWordSize with hsmall | hroom
  · -- without room for the word the storage had no class before either
    have hblank := blank_setClass (h.blank (classId?_of_size_lt hsmall)) id
    have hnone : (storage.setClass id).classId? = none :=
      classId?_of_size_lt (by rwa [size_setClass])
    refine ⟨fun other hother => ?_, fun _ => hblank⟩
    rw [hnone] at hother
    cases hother
  · exact formed_of_classId? (classId?_setClass hroom id) hid

theorem Formed.setLength (h : storage.Formed classes) (length : Nat) :
    (storage.setLength length).Formed classes where
  lt_size id hid := h.lt_size id (by rwa [classId?_setLength] at hid)
  blank hnone := blank_setLength (h.blank (by rwa [classId?_setLength] at hnone)) length

theorem Formed.write (h : storage.Formed classes) (hplace : storage.IsPlace classes offset)
    (value : kind.Value) : (storage.write kind offset value).Formed classes := by
  obtain ⟨id, hid⟩ := Option.isSome_iff_exists.1 hplace.classId
  exact formed_of_classId? ((classId?_write hplace.le_offset value).trans hid) (h.lt_size id hid)

theorem Formed.extend (h : storage.Formed old) (hgrown : old.Extends new) :
    storage.Formed new where
  lt_size id hid := Nat.lt_of_lt_of_le (h.lt_size id hid) hgrown.size_le
  blank := h.blank

/-- New classes do not change where the collector looks. -/
theorem Formed.slotOffsets_extend (h : storage.Formed old) (hold : old.WellFormed)
    (hgrown : old.Extends new) : storage.slotOffsets new = storage.slotOffsets old := by
  unfold slotOffsets
  cases hid : storage.classId? with
  | none => rfl
  | some id =>
    have hlt : id < old.size := h.lt_size id hid
    dsimp only
    rw [hgrown.isArray_eq hlt, hgrown.elementClass?_eq hlt, hgrown.chain_eq hold hlt]
    split
    · rfl
    · rw [List.flatMap_def, List.flatMap_def]
      apply congrArg List.flatten
      apply List.map_congr_left
      intro level hlevel
      rw [hgrown.fields_eq (hold.lt_size_of_mem_chain hlt hlevel)]

theorem Formed.refs_extend (h : storage.Formed old) (hold : old.WellFormed)
    (hgrown : old.Extends new) : storage.refs new = storage.refs old := by
  rw [refs_eq_map, refs_eq_map, h.slotOffsets_extend hold hgrown]

end Storage

end ManagedRuntime
