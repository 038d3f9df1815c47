/-
  Machines in shape
  =================
  All objects of a machine have the shape that their classes ask for (`Machine.InShape`).  Unlike
  soundness this says nothing of where references lead, so a program owes little for it: it may
  hand over whatever references it likes, as long as it gives a class only to storage that
  awaits it.
-/
import ManagedRuntime.Proofs.Machine.Preservation
import ManagedRuntime.Proofs.Machine.Steps
import ManagedRuntime.Proofs.Object.Shape

namespace ManagedRuntime

/-- An array in fresh storage has no elements yet. -/
theorem Class.FitsInto.hasRoomFor {cls : Class} {size : Nat} (h : cls.FitsInto size)
    (id : ClassId) : ((Storage.zeroed size).setClass id).HasRoomFor cls := by
  unfold FitsInto at h
  rw [Storage.HasRoomFor, Storage.size_setClass, Storage.length_setClass_zeroed]
  cases hshape : cls.shape with
  | instances size fields =>
    rw [hshape] at h
    exact h
  | interface =>
    rw [hshape] at h
    exact h
  | array type =>
    rw [hshape] at h
    dsimp only
    rw [Int.toNat_zero, Nat.zero_mul]
    exact h

/-- The class of the arrays of a level has elements of the kind of the level. -/
def ArrayLevel.Suits (level : ArrayLevel) (classes : Hierarchy) : Prop :=
  ∃ type, classes.shape? level.classId = some (.array type) ∧ type.kind = level.kind

theorem ArrayLevel.Suits.extend {level : ArrayLevel} {old new : Hierarchy} (h : level.Suits old)
    (hgrown : old.Extends new) : level.Suits new := by
  obtain ⟨type, hshape, hkind⟩ := h
  exact ⟨type, hgrown.shape?_of_some hshape, hkind⟩

namespace Machine

variable {machine after : Machine} {id : ObjectId} {classId : ClassId} {classes : Hierarchy}

/-! ### The invariant -/

/-- Every object has the shape that its class asks for. -/
structure InShape (machine : Machine) : Prop where
  made : machine.classes.Made
  rootClass_lt : machine.rootClass < machine.classes.size
  primitiveArrays : ∀ kind array, machine.table.primitiveArray? kind = some array →
    machine.classes.shape? array = some (.array (.primitive kind))
  consistent : machine.heap.Consistent
  shaped : ∀ id object, machine.heap.get? id = some object → object.data.Shaped machine.classes

theorem InShape.withHeap (h : machine.InShape) {heap : Heap Storage} (hheap : heap.Consistent)
    (hshaped : ∀ id object, heap.get? id = some object → object.data.Shaped machine.classes) :
    { machine with heap }.InShape where
  made := h.made
  rootClass_lt := h.rootClass_lt
  primitiveArrays := h.primitiveArrays
  consistent := hheap
  shaped := hshaped

theorem InShape.reroot (h : machine.InShape) {heap : Heap Storage}
    (hheap : ∃ roots cells, heap = { machine.heap with roots, cells }) :
    { machine with heap }.InShape := by
  obtain ⟨roots, cells, rfl⟩ := hheap
  exact h.withHeap (h.consistent.of_eq rfl rfl rfl rfl) h.shaped

theorem InShape.grow (h : machine.InShape) {classes : Hierarchy} (hclasses : classes.Made)
    (hgrown : machine.classes.Extends classes) : { machine with classes }.InShape where
  made := hclasses
  rootClass_lt := Nat.lt_of_lt_of_le h.rootClass_lt hgrown.size_le
  primitiveArrays kind array harray := hgrown.shape?_of_some (h.primitiveArrays kind array harray)
  consistent := h.consistent
  shaped id object hget := (h.shaped id object hget).extend h.made.wellFormed hgrown

theorem InShape.shaped_of_data? (h : machine.InShape) {storage : Storage}
    (hdata : machine.heap.data? id = some storage) : storage.Shaped machine.classes := by
  obtain ⟨object, hget, rfl⟩ := exists_of_data? hdata
  exact h.shaped id object hget

theorem InShape.updateStorage (h : machine.InShape) {change : Storage → Storage}
    (hchange : ∀ storage, machine.heap.data? id = some storage →
      (change storage).Shaped machine.classes) :
    (machine.updateStorage id change).InShape := by
  apply h.withHeap (h.consistent.modifyData id change)
  apply Heap.forall_contents_modifyData (Storage.Shaped · machine.classes) h.shaped
  intro object hget
  exact hchange object.data (data?_of_get? hget)

theorem InShape.collect (h : machine.InShape) : machine.collect.2.InShape := by
  apply h.withHeap h.consistent.collect
  intro id object hget
  exact h.shaped id object (Heap.get?_of_get?_collect h.consistent hget).2

/-! ### New objects -/

theorem InShape.allocate (h : machine.InShape) (bytes : Nat) :
    ((Machine.allocate bytes).run machine).2.InShape ∧
      ∀ id, ((Machine.allocate bytes).run machine).1 = .ok id →
        ((Machine.allocate bytes).run machine).2.heap.data? id =
          some (.zeroed (dataSize bytes)) := by
  refine ⟨?_, fun id hid => data?_allocate h.consistent hid⟩
  have hsupplies := Heap.supplies machine.classes.objectModel h.consistent bytes
  rw [Machine.allocate, run_onHeap]
  apply h.withHeap hsupplies.consistent
  intro id object hget
  rcases hsupplies.contents id object hget with hold | hnew
  · exact h.shaped id object hold
  · rw [hnew]
    exact Storage.shaped_zeroed machine.classes (dataSize bytes)

theorem classes_allocate (bytes : Nat) (machine : Machine) :
    ((Machine.allocate bytes).run machine).2.classes = machine.classes :=
  rfl

theorem classes_allocateAs (bytes : Nat) (change : Storage → Storage) (machine : Machine) :
    ((allocateAs bytes change).run machine).2.classes = machine.classes := by
  have hclasses := classes_allocate bytes machine
  rw [run_allocateAs]
  rcases hrun : (Machine.allocate bytes).run machine with ⟨error | id, after⟩
  · rw [hrun] at hclasses
    exact hclasses
  · rw [hrun] at hclasses
    exact hclasses

theorem InShape.allocateAs (h : machine.InShape) {bytes : Nat} {change : Storage → Storage}
    (hchange : (change (.zeroed (dataSize bytes))).Shaped machine.classes) :
    ((allocateAs bytes change).run machine).2.InShape := by
  obtain ⟨hafter, hdata⟩ := h.allocate bytes
  rw [run_allocateAs]
  rcases hrun : (Machine.allocate bytes).run machine with ⟨error | id, after⟩
  · rw [hrun] at hafter
    exact hafter
  · have hclasses := classes_allocate bytes machine
    rw [hrun] at hafter hdata hclasses
    apply hafter.updateStorage
    intro storage hstorage
    rw [hdata id rfl] at hstorage
    cases hstorage
    rwa [hclasses]

theorem InShape.newObject (h : machine.InShape) (classId : ClassId) :
    ((newObject classId).run machine).2.InShape := by
  rw [run_newObject]
  split
  · rename_i size fields hshape
    obtain ⟨cls, hget, hcls⟩ := Option.map_eq_some_iff.1 hshape
    have hfits : cls.FitsInto (dataSize size) := by
      rw [Class.FitsInto, hcls]
      exact le_dataSize size
    apply h.allocateAs
    exact Storage.shaped_setClass_zeroed h.made hget (hfits.hasRoomFor classId)
  · exact h

theorem InShape.initObject (h : machine.InShape) (hawaits : machine.AwaitsClass id classId) :
    (machine.initObject id classId).InShape := by
  obtain ⟨storage, cls, hdata, hnone, hget, hfits⟩ := hawaits
  apply h.updateStorage
  intro found hfound
  obtain rfl : storage = found := Option.some.inj (hdata.symm.trans hfound)
  have hblank := (h.shaped_of_data? hdata).blank hnone
  rw [hblank]
  exact Storage.shaped_setClass_zeroed h.made hget (hfits.hasRoomFor classId)

/-! ### Arrays of several levels -/

/-- In shape, with certain classes. -/
structure ShapedOver (classes : Hierarchy) (machine : Machine) : Prop extends machine.InShape where
  classes_eq : machine.classes = classes

theorem shapedOver_allocateFlat {level : ArrayLevel} (hlevel : level.Suits classes) :
    Action.Preserves (ShapedOver classes) (allocateFlat level) := by
  intro machine h
  obtain ⟨type, hshape, hkind⟩ := hlevel
  obtain ⟨cls, hget, hcls⟩ := Option.map_eq_some_iff.1 hshape
  rw [run_allocateFlat]
  split
  · exact h
  · rename_i bytes hbytes
    have hsize : type.kind.elementsOffset + level.length * type.kind.size ≤ dataSize bytes := by
      rw [hkind, Nat.add_comm, ← bytes?_eq hbytes]
      exact le_dataSize bytes
    rw [← h.classes_eq] at hget
    exact ⟨h.toInShape.allocateAs (Storage.shaped_setLength h.made hget hcls hsize),
      (classes_allocateAs ..).trans h.classes_eq⟩

theorem ShapedOver.storeInner (h : machine.ShapedOver classes) (outer : ObjectId) (index : Nat)
    (table : DispatchTable) (inner : ObjectId) :
    (machine.storeInner outer index table inner).ShapedOver classes := by
  unfold Machine.storeInner
  split
  · rename_i offset hoffset
    refine ⟨?_, h.classes_eq⟩
    apply h.updateStorage
    intro storage hstorage
    obtain ⟨found, hfound, helement⟩ := Option.bind_eq_some_iff.1 hoffset
    obtain rfl : found = storage := Option.some.inj (hfound.symm.trans hstorage)
    exact (h.shaped_of_data? hstorage).write_element helement _
  · exact h

theorem survivesFilling_shapedOver (classes : Hierarchy) :
    SurvivesFilling (ShapedOver classes) := by
  apply survivesFilling_of_roots
  · exact fun machine h roots => ⟨h.reroot ⟨roots, machine.heap.cells, rfl⟩, h.classes_eq⟩
  · exact fun _ h outer index table inner => h.storeInner outer index table inner

theorem shapedOver_allocateLevels {level : ArrayLevel} {levels : List ArrayLevel}
    (hlevels : ∀ each ∈ level :: levels, each.Suits classes) :
    Action.Preserves (ShapedOver classes) (allocateLevels level levels) :=
  (survivesFilling_shapedOver classes).preserves_allocateLevels fun each heach =>
    shapedOver_allocateFlat (hlevels each heach)

/-! ### The classes of an array -/

/-- A class of arrays with certain elements was found or made. -/
structure Provides (before : Machine) (type : ElementType) (array : ClassId)
    (after : Machine) : Prop where
  inShape : after.InShape
  grown : before.classes.Extends after.classes
  shape?_eq : after.classes.shape? array = some (.array type)

theorem Provides.suits {type : ElementType} {array : ClassId}
    (h : machine.Provides type array after) (length : Nat) :
    (after.level array type.kind length).Suits after.classes :=
  ⟨type, h.shape?_eq, rfl⟩

theorem InShape.provides_arrayOf (h : machine.InShape) (element : ClassId) :
    machine.Provides (.references element) (machine.arrayOf element).1
      (machine.arrayOf element).2 := by
  have hgrows := h.made.wellFormed.arrayOf h.rootClass_lt element
  constructor
  · exact h.grow (h.made.arrayOf h.rootClass_lt element) hgrows.grown
  · exact hgrows.grown
  · obtain ⟨cls, hget, hshape⟩ := Hierarchy.exists_of_elementClass?
      (Hierarchy.elementClass?_arrayOf machine.classes machine.rootClass element)
    change (machine.classes.arrayOf machine.rootClass element).2.shape?
      (machine.classes.arrayOf machine.rootClass element).1 = _
    rw [Hierarchy.shape?, hget, Option.map_some, hshape]

theorem InShape.provides_innermostClass (h : machine.InShape) {kind : Kind}
    {element : Option ClassId} {array : ClassId}
    (hclass : machine.innermostClass kind element = .ok (array, after)) :
    ∃ type, type.kind = kind ∧ machine.Provides type array after := by
  unfold Machine.innermostClass at hclass
  split at hclass
  · rename_i primitive
    split at hclass
    · rename_i array harray
      cases hclass
      exact ⟨.primitive primitive, rfl, h, .refl _, h.primitiveArrays primitive array harray⟩
    · cases hclass
  · rename_i element
    have hprovides := h.provides_arrayOf element
    cases hclass
    exact ⟨.references element, rfl, hprovides⟩
  · cases hclass

theorem InShape.surround (h : machine.InShape) {level : ArrayLevel} {inner : List ArrayLevel}
    (hlevels : ∀ each ∈ level :: inner, each.Suits machine.classes) (lengths : List Nat) :
    (machine.surround level inner lengths).2.InShape ∧
      ∀ each ∈ (machine.surround level inner lengths).1.1 ::
          (machine.surround level inner lengths).1.2,
        each.Suits (machine.surround level inner lengths).2.classes := by
  induction lengths generalizing machine level inner with
  | nil => exact ⟨h, hlevels⟩
  | cons length lengths ih =>
    have hprovides := h.provides_arrayOf level.classId
    apply ih hprovides.inShape
    intro each heach
    rcases List.mem_cons.1 heach with rfl | heach
    · exact hprovides.suits length
    · exact (hlevels each heach).extend hprovides.grown

theorem InShape.planArray (h : machine.InShape) {kind : Kind} {element : Option ClassId}
    {dimensions : List Int} {outermost : ArrayLevel} {inner : List ArrayLevel} {planned : Machine}
    (hplan : machine.planArray kind element dimensions = .ok ((outermost, inner), planned)) :
    planned.InShape ∧ ∀ each ∈ outermost :: inner, each.Suits planned.classes := by
  unfold Machine.planArray at hplan
  split at hplan
  · cases hplan
  · cases hplan
  · rename_i length lengths _ _
    rcases hinnermost : machine.innermostClass kind element with error | ⟨array, prepared⟩
    · rw [hinnermost] at hplan
      cases hplan
    · rw [hinnermost] at hplan
      obtain ⟨type, rfl, hprovides⟩ := h.provides_innermostClass hinnermost
      have hlevel : ∀ each ∈ [prepared.level array type.kind length],
          each.Suits prepared.classes := by
        intro each heach
        rw [List.mem_singleton.1 heach]
        exact hprovides.suits length
      have hsurround := hprovides.inShape.surround hlevel lengths
      have hresult : prepared.surround (prepared.level array type.kind length) [] lengths =
          ((outermost, inner), planned) := Except.ok.inj hplan
      rwa [hresult] at hsurround

theorem InShape.newArray (h : machine.InShape) (kind : Kind) (element : Option ClassId)
    (dimensions : List Int) : ((newArray kind element dimensions).run machine).2.InShape := by
  rw [run_newArray]
  rcases hplan : machine.planArray kind element dimensions with
    error | ⟨⟨outermost, inner⟩, planned⟩
  · exact h
  · obtain ⟨hplanned, hlevels⟩ := h.planArray hplan
    exact (shapedOver_allocateLevels hlevels planned ⟨hplanned, rfl⟩).toInShape

/-! ### Steps -/

theorem InShape.setField? (h : machine.InShape) {object : Ref} {owner : ClassId} {index : Nat}
    {slot : ReferenceSlot} (hset : machine.setField? object owner index slot = some after) :
    after.InShape := by
  obtain ⟨id, storage, offset, -, hdata, hfield, rfl⟩ := exists_of_setField? hset
  apply h.updateStorage
  intro found hfound
  obtain rfl : storage = found := Option.some.inj (hdata.symm.trans hfound)
  exact (h.shaped_of_data? hdata).write_field h.made hfield slot

theorem InShape.setElement? (h : machine.InShape) {array : Ref} {kind : Kind} {index : Int}
    {value : kind.Value} (hset : machine.setElement? array kind index value = some after) :
    after.InShape := by
  obtain ⟨id, storage, offset, -, hdata, helement, rfl⟩ := exists_of_setElement? hset
  apply h.updateStorage
  intro found hfound
  obtain rfl : storage = found := Option.some.inj (hdata.symm.trans hfound)
  exact (h.shaped_of_data? hdata).write_element helement value

/-- A program may hand over any references. -/
theorem InShape.step (h : machine.InShape) {step : Step}
    (hstep : machine.Permits (fun _ => True) step) : (machine.step step).2.InShape := by
  have hroots : ∀ {heap : Heap Storage}, (∃ roots, heap = { machine.heap with roots }) →
      { machine with heap }.InShape :=
    fun ⟨roots, hheap⟩ => h.reroot ⟨roots, machine.heap.cells, hheap⟩
  cases step with
  | operation operation =>
    change ((perform operation).run machine).2.InShape
    cases operation with
    | allocate bytes =>
      rw [perform, run_replying]
      exact (h.allocate bytes).1
    | newObject classId =>
      rw [perform, run_replying]
      exact h.newObject classId
    | newArray kind element dimensions =>
      rw [perform, run_replying]
      exact h.newArray kind element dimensions
    | initObject object classId => exact h.initObject hstep.2
    | collect => exact h.collect
    | arrayOf element => exact (h.provides_arrayOf element).inShape
    | pushOperand ref =>
      rw [perform, run_replying]
      exact hroots (machine.heap.exists_updateRoots _)
    | popOperand =>
      rw [perform, run_replying]
      exact hroots machine.heap.exists_popOperand
    | registerLocal cell =>
      rw [perform, run_replying]
      exact hroots (machine.heap.exists_updateRoots _)
    | addStaticRoot cell =>
      rw [perform, run_replying]
      exact hroots (machine.heap.exists_updateRoots _)
    | openFrame => exact h
    | closeFrame mark =>
      rw [perform, run_replying]
      exact hroots (machine.heap.exists_updateRoots _)
    | writeCell cell ref => exact h.reroot ⟨machine.heap.roots, _, rfl⟩
    | getField object owner index => exact h
    | setField object owner index slot =>
      exact storing_cases InShape h fun _ hset => h.setField? hset
    | getElement array kind index => exact h
    | setElement array kind index value =>
      exact storing_cases InShape h fun _ hset => h.setElement? hset
  | check check =>
    exact test_cases InShape h h.newObject check

end Machine

end ManagedRuntime
