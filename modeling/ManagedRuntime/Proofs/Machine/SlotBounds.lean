/-
  Slots within their object
  =========================
  Storage is given its class without a look at what the class is or how large its instances are.
  Whoever reserves the storage goes by the size of the class, and `Machine.SizeBounds` says that
  this is enough: whatever slot of the object a program or the collector gets at lies in it.

  For an instance class it is enough.  An interface has size zero, for there are no instances of
  it, but it may have a superclass with fields, and an object that is given such an interface
  has all of them.  So the size of a class bounds its slots exactly if the class has instances or
  no class of its chain declares a field (`BoundsExactly`).
-/
import ManagedRuntime.Proofs.Machine.FieldVariables

namespace ManagedRuntime

/-- The slot at an offset lies in the object, behind the class word. -/
def Storage.HoldsSlot (storage : Storage) (offset : Nat) : Prop :=
  (Extent.mk offset (offset + slotSize)).Within ⟨classWordSize, storage.size⟩

instance (storage : Storage) (offset : Nat) : Decidable (storage.HoldsSlot offset) :=
  inferInstanceAs (Decidable (Extent.Within _ _))

namespace Machine

variable {machine : Machine} {id : ObjectId} {storage : Storage} {classId : ClassId}

/-! ### Objects that hold their slots -/

/-- The slots that a program reads and writes in an object lie in it, and so do those that the
    collector reads, the object pointers of which are the words that it looks at. -/
structure SlotsWithin (machine : Machine) (id : ObjectId) (storage : Storage) : Prop where
  data?_eq : machine.heap.data? id = some storage
  read : ∀ owner index slot, machine.field? (some id) owner index = some slot →
    ∃ offset, slot = storage.slotAt offset ∧ storage.HoldsSlot offset ∧
      machine.fieldOffset? (some id) owner index = some offset
  written : ∀ owner index slot after, machine.setField? (some id) owner index slot = some after →
    ∃ offset, after = machine.updateStorage id (·.write .reference offset slot) ∧
      storage.HoldsSlot offset ∧ machine.fieldOffset? (some id) owner index = some offset
  traced : storage.refs machine.classes = (storage.slotOffsets machine.classes).map storage.refAt ∧
    ∀ place ∈ storage.slotOffsets machine.classes,
      ∃ offset, place = offset + pointerSize ∧ storage.HoldsSlot offset

/-- The slots of an object that is no array are those of the classes in its chain. -/
theorem slotsWithin_iff (hdata : machine.heap.data? id = some storage)
    (hid : storage.classId? = some classId) (harray : machine.classes.isArray classId = false) :
    machine.SlotsWithin id storage ↔
      ∀ level ∈ machine.classes.chain classId, ∀ index < (machine.classes.fields level).count,
        storage.HoldsSlot ((machine.classes.fields level).offsetOf index) := by
  constructor
  · intro hwithin level hlevel index hindex
    have hoffset := Storage.fieldOffset?_of_chain hid harray hlevel hindex
    have hfield : (machine.field? (some id) level index).isSome := by
      rw [field?_eq hdata, Storage.field?, hoffset]
      rfl
    obtain ⟨slot, hslot⟩ := Option.isSome_iff_exists.1 hfield
    obtain ⟨offset, -, hholds, hfound⟩ := hwithin.read level index slot hslot
    rw [fieldOffset?_eq hdata, hoffset] at hfound
    rwa [Option.some.inj hfound]
  · intro hholds
    have hfields : ∀ owner index offset,
        storage.fieldOffset? machine.classes owner index = some offset →
          storage.HoldsSlot offset ∧ machine.fieldOffset? (some id) owner index = some offset := by
      intro owner index offset hoffset
      refine ⟨?_, (fieldOffset?_eq hdata owner index).trans hoffset⟩
      obtain ⟨found, hfound, -, howner, hindex, rfl⟩ := Storage.exists_of_fieldOffset? hoffset
      obtain rfl : classId = found := Option.some.inj (hid.symm.trans hfound)
      exact hholds owner howner index hindex
    constructor
    · exact hdata
    · intro owner index slot hslot
      rw [field?_eq hdata] at hslot
      obtain ⟨offset, hoffset, rfl⟩ := Option.map_eq_some_iff.1 hslot
      exact ⟨offset, rfl, hfields owner index offset hoffset⟩
    · intro owner index slot after hset
      obtain ⟨_, found, offset, ⟨⟩, hfound, hoffset, rfl⟩ := exists_of_setField? hset
      obtain rfl : storage = found := Option.some.inj (hdata.symm.trans hfound)
      exact ⟨offset, rfl, hfields owner index offset hoffset⟩
    · refine ⟨storage.refs_eq_map machine.classes, fun place hplace => ?_⟩
      obtain ⟨level, hlevel, index, hindex, rfl⟩ :=
        (Storage.mem_slotOffsets_iff hid harray).1 hplace
      exact ⟨_, rfl, hholds level hlevel index hindex⟩

/-- Storage without a class has no slots. -/
theorem slotsWithin_of_classId?_eq_none (hdata : machine.heap.data? id = some storage)
    (hnone : storage.classId? = none) : machine.SlotsWithin id storage := by
  have hfield : ∀ owner index, storage.fieldOffset? machine.classes owner index = none := by
    intro owner index
    rw [Storage.fieldOffset?, hnone]
    rfl
  constructor
  · exact hdata
  · intro owner index slot hslot
    rw [field?_eq hdata, Storage.field?, hfield] at hslot
    cases hslot
  · intro owner index slot after hset
    obtain ⟨_, found, offset, ⟨⟩, hfound, hoffset, -⟩ := exists_of_setField? hset
    obtain rfl : storage = found := Option.some.inj (hdata.symm.trans hfound)
    rw [hfield] at hoffset
    cases hoffset
  · refine ⟨storage.refs_eq_map machine.classes, fun place hplace => ?_⟩
    rw [Storage.slotOffsets, hnone] at hplace
    cases hplace

/-! ### Objects that are given a class -/

theorem data?_initObject (hdata : machine.heap.data? id = some storage) (classId : ClassId) :
    (machine.initObject id classId).heap.data? id = some (storage.setClass classId) :=
  data?_updateStorage hdata (·.setClass classId)

/-- Without room for the class word the storage is left without a class. -/
theorem slotsWithin_initObject_iff (hdata : machine.heap.data? id = some storage)
    (harray : machine.classes.isArray classId = false) :
    (machine.initObject id classId).SlotsWithin id (storage.setClass classId) ↔
      (classWordSize ≤ storage.size →
        ∀ level ∈ machine.classes.chain classId, ∀ index < (machine.classes.fields level).count,
          storage.HoldsSlot ((machine.classes.fields level).offsetOf index)) := by
  have hstored := data?_initObject hdata classId
  rcases Nat.lt_or_ge storage.size classWordSize with hsmall | hword
  · have hnone : (storage.setClass classId).classId? = none :=
      Storage.classId?_of_size_lt (by rwa [Storage.size_setClass])
    exact iff_of_true (slotsWithin_of_classId?_eq_none hstored hnone)
      fun hword => absurd hword (Nat.not_le.2 hsmall)
  · rw [slotsWithin_iff hstored (Storage.classId?_setClass hword classId) harray]
    simp only [Storage.HoldsSlot, Storage.size_setClass, hword, true_imp_iff]
    rfl

/-- Raw storage that has the size of a class, and room for a class word, holds all slots that it
    has once it is given that class. -/
def SizeBounds (classes : Hierarchy) (classId : ClassId) : Prop :=
  ∀ (machine : Machine) (id : ObjectId) (storage : Storage), machine.classes = classes →
    machine.heap.data? id = some storage → storage.classId? = none →
    max (classes.instanceSize classId) classWordSize ≤ storage.size →
    (machine.initObject id classId).SlotsWithin id (storage.setClass classId)

end Machine

/-! ### Instance classes and interfaces -/

namespace Hierarchy

variable {classes : Hierarchy} {storage : Storage} {id level superclass : ClassId} {index : Nat}

theorem isInstances_or_interface (hlt : id < classes.size) (harray : classes.isArray id = false) :
    classes.isInstances id ∨ classes.shape? id = some .interface := by
  obtain ⟨cls, hget⟩ : ∃ cls, classes.get? id = some cls := ⟨_, Array.getElem?_eq_getElem hlt⟩
  cases hshape : cls.shape with
  | instances size fields => exact .inl (isInstances_of_shape hget hshape).1
  | interface =>
    right
    rw [shape?, hget, Option.map_some, hshape]
  | array element =>
    rw [isArray_of_shape hget hshape] at harray
    cases harray

theorem fields_of_interface (hshape : classes.shape? id = some .interface) :
    classes.fields id = {} := by
  obtain ⟨cls, hget, hcls⟩ := Option.map_eq_some_iff.1 hshape
  simp [fields, hget, Class.fields, hcls]

theorem instanceSize_of_interface (hshape : classes.shape? id = some .interface) :
    classes.instanceSize id = 0 := by
  obtain ⟨cls, hget, hcls⟩ := Option.map_eq_some_iff.1 hshape
  simp [instanceSize, hget, Class.instanceSize, hcls]

/-- Interfaces stand below instance classes only, as these do. -/
theorem Made.isInstances_of_interface (h : classes.Made)
    (hshape : classes.shape? id = some .interface)
    (hsuperclass : classes.superclass? id = some superclass) : classes.isInstances superclass := by
  obtain ⟨cls, hget, hcls⟩ := Option.map_eq_some_iff.1 hshape
  have hkind : cls.kind ≠ .array := by
    simp [Class.kind, hcls]
  obtain ⟨blueprint, hdeclares⟩ := h.exists_declares hget hkind
  obtain ⟨found, hfound, hdeclared, -, hinstances⟩ := hdeclares.exists_descriptor
  rw [superclass?, hfound, Option.bind_some, hdeclared] at hsuperclass
  exact hinstances superclass hsuperclass

theorem Made.holdsSlot_of_instances (h : classes.Made) (hid : classes.isInstances id)
    (hroom : classes.instanceSize id ≤ storage.size) (hlevel : level ∈ classes.chain id)
    (hindex : index < (classes.fields level).count) :
    storage.HoldsSlot ((classes.fields level).offsetOf index) := by
  obtain ⟨hstart, hstop⟩ := h.slot_within hid hlevel hindex
  exact ⟨hstart, Nat.le_trans hstop hroom⟩

/-- An interface declares no fields, so all that its objects have are those of its superclass. -/
theorem Made.holdsSlot_of_interface (h : classes.Made)
    (hshape : classes.shape? id = some .interface)
    (hroom : ∀ superclass, classes.superclass? id = some superclass →
      classes.instanceSize superclass ≤ storage.size)
    (hlevel : level ∈ classes.chain id) (hindex : index < (classes.fields level).count) :
    storage.HoldsSlot ((classes.fields level).offsetOf index) := by
  have hne : level ≠ id := by
    rintro rfl
    rw [fields_of_interface hshape] at hindex
    exact absurd hindex (Nat.not_lt_zero _)
  cases hsuperclass : classes.superclass? id with
  | none =>
    rw [chain_of_none hsuperclass, List.mem_singleton] at hlevel
    exact absurd hlevel hne
  | some superclass =>
    rw [h.wellFormed.chain_of_some hsuperclass, List.mem_cons] at hlevel
    exact h.holdsSlot_of_instances (h.isInstances_of_interface hshape hsuperclass)
      (hroom superclass hsuperclass) (hlevel.resolve_left hne) hindex

end Hierarchy

namespace Machine

variable {classes : Hierarchy} {classId : ClassId}

/-! ### Where the size of a class is enough -/

/-- A machine over some classes with raw storage of a size as its one object. -/
def holdingRaw (classes : Hierarchy) (size : Nat) : Machine where
  classes := classes
  table := { core := ⟨0, 0, 0⟩, primitiveArrays := [], names := ∅ }
  heap := (Heap.empty {} .unlimited {} 0).added (headerSize + size) (.zeroed size)

theorem data?_holdingRaw (classes : Hierarchy) (size : Nat) :
    (holdingRaw classes size).heap.data? 0 = some (.zeroed size) :=
  rfl

/-- When the slots of an object lie in it, after it was given a class that is no array class. -/
structure BoundsExactly (classes : Hierarchy) (classId : ClassId) : Prop where
  /-- The size of the class is enough for an instance class, and where there are no fields. -/
  sizeBounds_iff : SizeBounds classes classId ↔
    classes.isInstances classId ∨
      ∀ level ∈ classes.chain classId, (classes.fields level).count = 0
  /-- For any class its own size and that of its superclass together are enough. -/
  superclass : ∀ (machine : Machine) (id : ObjectId) (storage : Storage),
    machine.classes = classes → machine.heap.data? id = some storage →
    classes.instanceSize classId ≤ storage.size →
    (∀ superclass, classes.superclass? classId = some superclass →
      classes.instanceSize superclass ≤ storage.size) →
    (machine.initObject id classId).SlotsWithin id (storage.setClass classId)
  /-- For a single object, what counts is where the fields of its chain lie.  An object that is
      too small for the class word gets no class. -/
  slotsWithin_iff : ∀ (machine : Machine) (id : ObjectId) (storage : Storage),
    machine.classes = classes → machine.heap.data? id = some storage →
    ((machine.initObject id classId).SlotsWithin id (storage.setClass classId) ↔
      (classWordSize ≤ storage.size →
        ∀ level ∈ classes.chain classId, ∀ index < (classes.fields level).count,
          ((classes.fields level).slot index).stop ≤ storage.size))

/-- No slot fits into an object that has room for a class word only, as an interface asks for. -/
theorem count_eq_zero_of_sizeBounds (hshape : classes.shape? classId = some .interface)
    (harray : classes.isArray classId = false) (hbounds : SizeBounds classes classId) :
    ∀ level ∈ classes.chain classId, (classes.fields level).count = 0 := by
  intro level hlevel
  have hroom : max (classes.instanceSize classId) classWordSize ≤ classWordSize := by
    rw [Hierarchy.instanceSize_of_interface hshape]
    decide
  have hdata := data?_holdingRaw classes classWordSize
  have hwithin := hbounds (holdingRaw classes classWordSize) 0 (.zeroed classWordSize) rfl hdata
    (Storage.classId?_zeroed _) hroom
  rw [slotsWithin_initObject_iff hdata harray] at hwithin
  by_contra hcount
  obtain ⟨-, hstop⟩ := hwithin (Nat.le_refl _) level hlevel 0 (Nat.pos_of_ne_zero hcount)
  change _ + slotSize ≤ classWordSize at hstop
  unfold slotSize classWordSize pointerSize at hstop
  omega

theorem bounds_exactly (h : classes.Made) (hlt : classId < classes.size)
    (harray : classes.isArray classId = false) : BoundsExactly classes classId := by
  have hsort := Hierarchy.isInstances_or_interface hlt harray
  constructor
  · constructor
    · intro hbounds
      exact hsort.imp_right fun hshape => count_eq_zero_of_sizeBounds hshape harray hbounds
    · rintro hfew machine id storage rfl hdata - hroom
      rw [slotsWithin_initObject_iff hdata harray]
      intro _ level hlevel index hindex
      rcases hfew with hinstances | hnone
      · exact h.holdsSlot_of_instances hinstances (Nat.le_trans (Nat.le_max_left ..) hroom) hlevel
          hindex
      · rw [hnone level hlevel] at hindex
        exact absurd hindex (Nat.not_lt_zero _)
  · rintro machine id storage rfl hdata hroom hsuperclass
    rw [slotsWithin_initObject_iff hdata harray]
    intro _ level hlevel index hindex
    rcases hsort with hinstances | hshape
    · exact h.holdsSlot_of_instances hinstances hroom hlevel hindex
    · exact h.holdsSlot_of_interface hshape hsuperclass hlevel hindex
  · rintro machine id storage rfl hdata
    rw [slotsWithin_initObject_iff hdata harray]
    constructor
    · exact fun hholds hword level hlevel index hindex =>
        (hholds hword level hlevel index hindex).2
    · intro hstop hword level hlevel index hindex
      refine ⟨?_, hstop hword level hlevel index hindex⟩
      have hstart := h.wellFormed.le_offset (Nat.zero_lt_of_lt hindex)
      exact Nat.le_trans hstart (Nat.le_add_right ..)

/-- A class with a field behind a word of primitive bytes, and an interface below it. -/
def markerClasses : Hierarchy :=
  Hierarchy.buildAll {} [
    { name := "Base", primitiveBytes := 8 },
    { name := "Holder", superclass := some 0, referenceFields := 1 },
    { name := "Marker", isInterface := true, superclass := some 1 }]

theorem markerClasses_made : markerClasses.Made :=
  Hierarchy.Made.empty.buildAll _

theorem bounds_exactly_of_marker :
    (markerClasses.Made ∧ 2 < markerClasses.size ∧ markerClasses.isArray 2 = false ∧
      markerClasses.instanceSize 2 = 0 ∧ markerClasses.instanceSize 1 = 32 ∧
      (markerClasses.fields 1).slot 0 = ⟨16, 32⟩) ∧
      BoundsExactly markerClasses 2 :=
  ⟨⟨markerClasses_made, by decide, by decide, by decide, by decide, by decide⟩,
    bounds_exactly markerClasses_made (by decide) (by decide)⟩

def markerMachine : Machine :=
  ofHeap (.empty {} .unlimited {} 0) ⟨0, 0, 0⟩ markerClasses

theorem markerMachine_new :
    new {} .unlimited {} 0 ⟨0, 0, 0⟩ markerClasses = .ok markerMachine :=
  rfl

/-- The machine after it was asked for 24 bytes. -/
def markerHeld : Machine :=
  (markerMachine.run [.operation (.allocate 24)]).2

theorem markerHeld_reachedByPermitted : markerHeld.ReachedByPermitted :=
  (ReachedByPermitted.new markerClasses_made (by decide) markerMachine_new).run ⟨trivial, trivial⟩

theorem data?_markerHeld : markerHeld.heap.data? 0 = some (.zeroed 24) :=
  rfl

/-- The size of a class does not bound the slots of every object that is given it.  Storage of 24
    bytes is large enough for the marker, and its field ends at byte 32. -/
theorem not_sizeBounds_of_marker :
    markerHeld.ReachedByPermitted ∧
      ¬∀ (classes : Hierarchy) (classId : ClassId), classes.Made → classId < classes.size →
        classes.isArray classId = false → SizeBounds classes classId := by
  refine ⟨markerHeld_reachedByPermitted, fun hall => ?_⟩
  have hbounds := hall markerHeld.classes 2 markerHeld_reachedByPermitted.inShape.made
    (by decide +kernel) (by decide +kernel)
  have hwithin := hbounds markerHeld 0 (.zeroed 24) rfl data?_markerHeld
    (Storage.classId?_zeroed 24) (by decide +kernel)
  have hread : (markerHeld.initObject 0 2).field? (some 0) 1 0 = some .null := by
    decide +kernel
  have hplace : (markerHeld.initObject 0 2).fieldOffset? (some 0) 1 0 = some 16 := by
    decide +kernel
  obtain ⟨offset, -, hholds, hoffset⟩ := hwithin.read 1 0 .null hread
  obtain rfl : 16 = offset := Option.some.inj (hplace.symm.trans hoffset)
  exact absurd hholds (by decide)

end Machine

end ManagedRuntime
