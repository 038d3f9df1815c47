/-
  Fields as variables
  ===================
  To a program the reference fields of an object are variables of their own.  Which ones an object
  has is a matter of its class alone (`Machine.HasField`), a store to one of them is read back from
  it and from no other (`Machine.StoresField`), and in a new instance all of them are null.

  All that this takes of an object is that it is raw, or that its class has instances or is a class
  of arrays and leaves room for them (`Machine.Fitted`).  What the object was before it got this
  class does not matter.
-/
import ManagedRuntime.Proofs.Machine.Sessions
import ManagedRuntime.Proofs.Machine.Visibility
import ManagedRuntime.Proofs.Object.Slots

namespace ManagedRuntime

namespace Machine

variable {machine after : Machine} {ref : Ref} {id : ObjectId} {storage : Storage}
variable {classId owner : ClassId} {index : Nat} {slot : ReferenceSlot}

/-! ### Reading other objects -/

/-- Whatever is asked of the object behind a reference, the answer is the same as before. -/
structure ReadsAlike (before after : Machine) (ref : Ref) : Prop where
  classId?_eq : after.classId? ref = before.classId? ref
  arrayLength?_eq : after.arrayLength? ref = before.arrayLength? ref
  field?_eq : ∀ owner index, after.field? ref owner index = before.field? ref owner index
  element?_eq : ∀ kind index, after.element? ref kind index = before.element? ref kind index

theorem ReadsAlike.of_storage? (hclasses : after.classes = machine.classes)
    (hstorage : after.storage? ref = machine.storage? ref) : machine.ReadsAlike after ref where
  classId?_eq := by rw [classId?, hstorage, classId?]
  arrayLength?_eq := by
    rw [arrayLength?, isArray, classId?, hstorage, hclasses, arrayLength?, isArray, classId?]
  field?_eq owner index := by rw [field?, hstorage, hclasses, field?]
  element?_eq kind index := by rw [element?, hstorage, hclasses, element?]

/-- A store into one object is not seen in another one. -/
theorem readsAlike_updateStorage (change : Storage → Storage) (hne : ref ≠ some id) :
    machine.ReadsAlike (machine.updateStorage id change) ref := by
  refine .of_storage? rfl ?_
  cases ref with
  | none => rfl
  | some other => exact data?_updateStorage_of_ne (fun hsame => hne (congrArg some hsame)) change

/-! ### Objects with a class that fits -/

/-- Every object is raw or has a class, of instances or of arrays, that it is large enough for. -/
structure Fitted (machine : Machine) : Prop where
  made : machine.classes.Made
  consistent : machine.heap.Consistent
  fits : ∀ id storage classId, machine.heap.data? id = some storage →
    storage.classId? = some classId →
    ∃ cls, machine.classes.get? classId = some cls ∧ cls.FitsInto storage.size

theorem fitsInto_of_hasRoomFor {cls : Class} (h : storage.HasRoomFor cls) :
    cls.FitsInto storage.size := by
  unfold Storage.HasRoomFor at h
  unfold Class.FitsInto
  cases hshape : cls.shape with
  | instances size fields =>
    rw [hshape] at h
    exact h
  | interface =>
    rw [hshape] at h
    exact h
  | array type =>
    rw [hshape] at h
    exact Nat.le_trans (Nat.le_add_right ..) h

/-- Every machine that comes about is fitted. -/
theorem ReachedByPermitted.fitted (h : machine.ReachedByPermitted) : machine.Fitted where
  made := h.inShape.made
  consistent := h.inShape.consistent
  fits id storage classId hdata hid := by
    obtain ⟨cls, hget, hroom⟩ := (h.inShape.shaped_of_data? hdata).room classId hid
    exact ⟨cls, hget, fitsInto_of_hasRoomFor hroom⟩

theorem Fitted.updateStorage (h : machine.Fitted) {change : Storage → Storage}
    (hchange : ∀ storage, machine.heap.data? id = some storage →
      ∀ classId, (change storage).classId? = some classId →
        ∃ cls, machine.classes.get? classId = some cls ∧ cls.FitsInto (change storage).size) :
    (machine.updateStorage id change).Fitted where
  made := h.made
  consistent := h.consistent.modifyData id change
  fits other storage classId hdata hid := by
    by_cases hsame : other = id
    · subst hsame
      rw [data?_updateStorage_self] at hdata
      obtain ⟨old, hold, rfl⟩ := Option.map_eq_some_iff.1 hdata
      exact hchange old hold classId hid
    · rw [data?_updateStorage_of_ne hsame] at hdata
      exact h.fits other storage classId hdata hid

/-- An object can be given any class that it is large enough for, also if it has one already. -/
theorem Fitted.initObject (h : machine.Fitted)
    (hfits : ∀ storage, machine.heap.data? id = some storage →
      ∃ cls, machine.classes.get? classId = some cls ∧ cls.FitsInto storage.size) :
    (machine.initObject id classId).Fitted := by
  apply h.updateStorage
  intro storage hdata found hfound
  obtain rfl : found = classId := Storage.eq_of_classId?_setClass hfound
  rw [Storage.size_setClass]
  exact hfits storage hdata

theorem Fitted.write (h : machine.Fitted) {kind : Kind} {offset : Nat} {value : kind.Value}
    (hdata : machine.heap.data? id = some storage)
    (hplace : storage.IsPlace machine.classes offset) :
    (machine.updateStorage id (·.write kind offset value)).Fitted := by
  apply h.updateStorage
  intro found hfound classId hid
  obtain rfl : storage = found := Option.some.inj (hdata.symm.trans hfound)
  rw [Storage.classId?_write hplace.le_offset] at hid
  rw [Storage.size_write]
  exact h.fits id storage classId hdata hid

/-- Where an object has fields, its class has instances, and they are no larger than it. -/
theorem Fitted.instances (h : machine.Fitted) (hdata : machine.heap.data? id = some storage)
    (hid : storage.classId? = some classId) (harray : machine.classes.isArray classId = false) :
    machine.classes.isInstances classId ∧
      machine.classes.instanceSize classId ≤ storage.size := by
  obtain ⟨cls, hget, hfits⟩ := h.fits id storage classId hdata hid
  unfold Class.FitsInto at hfits
  cases hshape : cls.shape with
  | instances size fields =>
    obtain ⟨hinstances, hsize⟩ := Hierarchy.isInstances_of_shape hget hshape
    rw [hshape] at hfits
    rw [hsize]
    exact ⟨hinstances, hfits⟩
  | interface =>
    rw [hshape] at hfits
    exact hfits.elim
  | array type =>
    rw [Hierarchy.isArray_of_shape hget hshape] at harray
    cases harray

/-! ### Which fields there are -/

/-- The object has reference field `index` of those that `owner` declares: it is an instance of
    that class or of a class below it. -/
def HasField (machine : Machine) (ref : Ref) (owner : ClassId) (index : Nat) : Prop :=
  ∃ classId, machine.classId? ref = some classId ∧ machine.classes.isArray classId = false ∧
    machine.classes.Inherits classId owner ∧ index < (machine.classes.fields owner).count

theorem isSome_fieldOffset?_iff (hclasses : machine.classes.WellFormed) :
    (machine.fieldOffset? ref owner index).isSome ↔ machine.HasField ref owner index := by
  unfold HasField fieldOffset? classId?
  cases machine.storage? ref with
  | none => simp
  | some storage =>
    change (storage.fieldOffset? machine.classes owner index).isSome ↔
      ∃ classId, storage.classId? = some classId ∧ _
    constructor
    · intro hsome
      obtain ⟨offset, hoffset⟩ := Option.isSome_iff_exists.1 hsome
      obtain ⟨classId, hid, harray, howner, hindex, -⟩ := Storage.exists_of_fieldOffset? hoffset
      exact ⟨classId, hid, harray, hclasses.mem_chain_iff.1 howner, hindex⟩
    · rintro ⟨classId, hid, harray, howner, hindex⟩
      rw [Storage.fieldOffset?_of_chain hid harray (hclasses.mem_chain_iff.2 howner) hindex]
      rfl

theorem isSome_field? :
    (machine.field? ref owner index).isSome = (machine.fieldOffset? ref owner index).isSome := by
  unfold field? fieldOffset?
  cases machine.storage? ref with
  | none => rfl
  | some storage => exact Option.isSome_map

theorem isSome_setField? :
    (machine.setField? ref owner index slot).isSome =
      (machine.fieldOffset? ref owner index).isSome := by
  cases ref with
  | none => rfl
  | some id =>
    unfold setField?
    cases machine.fieldOffset? (some id) owner index with
    | none => rfl
    | some offset => rfl

/-! ### Stores -/

structure StoresField (machine : Machine) (ref : Ref) (owner : ClassId) (index : Nat)
    (slot : ReferenceSlot) (after : Machine) : Prop where
  field?_eq : after.field? ref owner index = some slot
  /-- The other fields of the object, also those of another class with the same name. -/
  otherFields : ∀ level place, (level, place) ≠ (owner, index) →
    after.field? ref level place = machine.field? ref level place
  classId?_eq : after.classId? ref = machine.classId? ref
  otherObjects : ∀ other, other ≠ ref → machine.ReadsAlike after other
  sameClasses : machine.SameClasses after
  fitted : after.Fitted

theorem Fitted.storesField (h : machine.Fitted)
    (hset : machine.setField? ref owner index slot = some after) :
    machine.StoresField ref owner index slot after := by
  obtain ⟨id, storage, offset, rfl, hdata, hoffset, rfl⟩ := exists_of_setField? hset
  have hwritten := data?_updateStorage hdata (·.write .reference offset slot)
  have hplace := Storage.isPlace_of_fieldOffset? h.made.wellFormed hoffset
  constructor
  · rw [field?_eq hwritten]
    exact Storage.field?_write h.made.wellFormed hoffset slot
  · intro level place hne
    rw [field?_eq hwritten, field?_eq hdata]
    exact Storage.field?_write_of_ne h.made
      (fun _ hid harray => (h.instances hdata hid harray).1) hoffset hne.symm
  · rw [classId?_eq hwritten, classId?_eq hdata]
    exact Storage.classId?_write hplace.le_offset _
  · exact fun other hne => readsAlike_updateStorage _ hne
  · exact ⟨rfl, rfl⟩
  · exact h.write hdata hplace

/-! ### Where fields lie -/

/-- Where a field lies: behind the class word and in the object, at an offset that is computed
    without leaving the word range. -/
structure FieldPlaced (machine : Machine) (storage : Storage) (owner : ClassId)
    (index offset : Nat) : Prop where
  start : classWordSize ≤ offset
  stop : offset + slotSize ≤ storage.size
  word : (machine.classes.fields owner).wordSlotOffset? index = .ok (some offset)

theorem Fitted.fieldPlaced (h : machine.Fitted) (hdata : machine.heap.data? id = some storage)
    {offset : Nat} (hoffset : storage.fieldOffset? machine.classes owner index = some offset) :
    machine.FieldPlaced storage owner index offset := by
  obtain ⟨classId, hid, harray, howner, hindex, rfl⟩ := Storage.exists_of_fieldOffset? hoffset
  obtain ⟨hinstances, hroom⟩ := h.instances hdata hid harray
  obtain ⟨hstart, hstop⟩ := h.made.slot_within hinstances howner hindex
  have hlimit := h.made.instanceSize_lt hinstances
  constructor
  · exact hstart
  · exact Nat.le_trans hstop hroom
  · have hword : (machine.classes.fields owner).offsetOf index < wordLimit := by
      refine Nat.lt_of_le_of_lt ?_ hlimit
      exact Nat.le_trans (Nat.le_add_right ..) hstop
    rw [FieldLayout.wordSlotOffset?, if_pos hindex, FieldLayout.wordOffsetOf_eq_ok hword]
    rfl

/-! ### New instances -/

/-- A new instance has its class, and all its fields are null. -/
structure Newborn (machine : Machine) (id : ObjectId) (classId : ClassId) : Prop where
  classId?_eq : machine.classId? (some id) = some classId
  null : ∀ owner index, machine.HasField (some id) owner index →
    machine.field? (some id) owner index = some .null

theorem newborn_of_data? (hclasses : machine.classes.WellFormed) {size : Nat}
    (hword : classWordSize ≤ size)
    (hdata : machine.heap.data? id = some ((Storage.zeroed size).setClass classId)) :
    machine.Newborn id classId := by
  constructor
  · rw [classId?_eq hdata, Storage.classId?_setClass hword]
  · intro owner index hfield
    rw [← isSome_fieldOffset?_iff hclasses, ← isSome_field?] at hfield
    obtain ⟨slot, hslot⟩ := Option.isSome_iff_exists.1 hfield
    rw [hslot]
    rw [field?_eq hdata] at hslot
    apply congrArg some
    apply (Storage.HasSlot.field owner index hslot).eq_null hclasses
    exact fun offset hne => Storage.pointerAt?_setClass_zeroed size classId hne

theorem Fitted.newborn (h : machine.Fitted)
    (hrun : (newObject classId).run machine = (.ok id, after)) : after.Newborn id classId := by
  obtain ⟨size, hword, hdata⟩ := data?_newObject h.consistent h.made.wellFormed hrun
  refine newborn_of_data? ?_ hword hdata
  have hclasses := (machine.sameClasses_newObject classId).1
  rw [hrun] at hclasses
  rw [hclasses]
  exact h.made.wellFormed

/-! ### The main result -/

/-- The reference fields of the objects of a machine are variables of their own. -/
structure FieldsAreVariables (machine : Machine) : Prop where
  readable_iff : ∀ ref owner index,
    (machine.field? ref owner index).isSome ↔ machine.HasField ref owner index
  writable_iff : ∀ ref owner index slot,
    (machine.setField? ref owner index slot).isSome ↔ machine.HasField ref owner index
  stores : ∀ ref owner index slot after, machine.setField? ref owner index slot = some after →
    machine.StoresField ref owner index slot after
  refuses : ∀ ref owner index slot, ¬machine.HasField ref owner index →
    machine.step (.operation (.setField ref owner index slot)) = (.ok (.stored false), machine)
  placed : ∀ id storage owner index offset, machine.heap.data? id = some storage →
    storage.fieldOffset? machine.classes owner index = some offset →
    machine.FieldPlaced storage owner index offset
  newborn : ∀ classId id after, (newObject classId).run machine = (.ok id, after) →
    after.Newborn id classId

theorem fields_are_variables (h : machine.Fitted) : machine.FieldsAreVariables := by
  have hwritable : ∀ ref owner index slot,
      (machine.setField? ref owner index slot).isSome ↔ machine.HasField ref owner index := by
    intro ref owner index slot
    rw [isSome_setField?, isSome_fieldOffset?_iff h.made.wellFormed]
  constructor
  · intro ref owner index
    rw [isSome_field?, isSome_fieldOffset?_iff h.made.wellFormed]
  · exact hwritable
  · exact fun ref owner index slot after hset => h.storesField hset
  · intro ref owner index slot hfield
    rw [← hwritable ref owner index slot, Option.not_isSome_iff_eq_none] at hfield
    rw [step_operation, perform, run_storing, hfield]
    rfl
  · exact fun id storage owner index offset hdata hoffset => h.fieldPlaced hdata hoffset
  · exact fun classId id after hrun => h.newborn hrun

/-- The first pair refers to the second one in its second field, and has no third one. -/
theorem fields_are_variables_of_pairs :
    ((pairMachine.run pairRun).2.Fitted ∧
      (pairMachine.run pairRun).2.field? (some 0) 3 1 = some { table := none, object := some 1 } ∧
      (pairMachine.run pairRun).2.field? (some 0) 3 2 = none) ∧
      (pairMachine.run pairRun).2.FieldsAreVariables :=
  ⟨⟨pairRun_reachedByPermitted.fitted, by decide +kernel, by decide +kernel⟩,
    fields_are_variables pairRun_reachedByPermitted.fitted⟩

end Machine

end ManagedRuntime
