/-
  What the collector sees
  =======================
  The collector walks over the slots of an object by raw offsets, and programs go through
  accessors that check the class, the owner and the bounds.  Both read the same words of the same
  storage (`Machine.SeesAsRead`), in every machine that can come about
  (`Machine.ReachedByPermitted`), whatever classes it was set up over and whatever was done to it
  since.

  So a reference that was stored is seen by the next collection (`Machine.Exposes`), and what
  the collector takes for a reference is one.
-/
import ManagedRuntime.Proofs.Class.ArrayClasses
import ManagedRuntime.Proofs.Machine.Safety
import ManagedRuntime.Proofs.Machine.Shape

namespace ManagedRuntime

namespace Machine

variable {machine after : Machine} {id : ObjectId} {storage : Storage}
variable {config : HeapConfig} {system : SystemMemory} {cells : Cells} {issued : Nat}
variable {core : CoreClasses} {classes : Hierarchy}

/-! ### Machines reached by permitted steps -/

/-- The machines reached from a new one by building and registering classes and by steps that
    are permitted: references of any kind may be handed over, but a class is given only to
    storage that awaits it.  Without that proviso they are the ones `ReachedByAny` command. -/
inductive ReachedByPermitted : Machine → Prop where
  | new {config : HeapConfig} {system : SystemMemory} {cells : Cells} {issued : Nat}
      {core : CoreClasses} {classes : Hierarchy} {machine : Machine} :
      classes.Made → core.object < classes.size →
      Machine.new config system cells issued core classes = .ok machine → ReachedByPermitted machine
  | build {machine after : Machine} {blueprint : Blueprint} {id : ClassId} :
      ReachedByPermitted machine → machine.build blueprint = .ok (id, after) →
      ReachedByPermitted after
  | register {machine : Machine} (id : ClassId) :
      ReachedByPermitted machine → ReachedByPermitted (machine.register id)
  | step {machine : Machine} (step : Step) :
      ReachedByPermitted machine → machine.Permits (fun _ => True) step →
      ReachedByPermitted (machine.step step).2

theorem ReachedByPermitted.run (h : machine.ReachedByPermitted) {steps : List Step}
    (hsteps : machine.Permitted steps) : (machine.run steps).2.ReachedByPermitted := by
  induction steps generalizing machine with
  | nil => exact h
  | cons step steps ih =>
    exact ih (h.step step (hsteps.1.mono fun _ _ => trivial)) hsteps.2

theorem inShape_new (hclasses : classes.Made) (hcore : core.object < classes.size)
    (hnew : new config system cells issued core classes = .ok machine) : machine.InShape := by
  obtain rfl := eq_ofHeap_of_new hnew
  have hwellFormed := hclasses.wellFormed
  obtain ⟨-, hgrown, -⟩ := ClassTable.grows_makePrimitiveArrays hwellFormed hcore Primitive.all
  constructor
  · exact ClassTable.made_makePrimitiveArrays hclasses hcore Primitive.all
  · change (ClassTable.new core classes).1.core.object < _
    rw [ClassTable.core_new]
    exact Nat.lt_of_lt_of_le hcore hgrown.size_le
  · intro kind array harray
    exact ClassTable.shape?_primitiveArray? hwellFormed hcore harray
  · exact Heap.consistent_empty ..
  · intro id object hget
    have hnone : (Heap.empty config system cells issued : Heap Storage).get? id = none :=
      Heap.get?_empty ..
    cases hnone.symm.trans hget

theorem exists_of_build {blueprint : Blueprint} {classId : ClassId}
    (hbuild : machine.build blueprint = .ok (classId, after)) :
    ∃ classes, machine.classes.build blueprint = .ok (classId, classes) ∧
      after = machine.withClasses classes := by
  unfold Machine.build at hbuild
  rcases hresult : machine.classes.build blueprint with error | ⟨built, classes⟩
  · rw [hresult] at hbuild
    cases hbuild
  · rw [hresult] at hbuild
    cases hbuild
    exact ⟨classes, rfl, rfl⟩

theorem InShape.build (h : machine.InShape) {blueprint : Blueprint} {classId : ClassId}
    (hbuild : machine.build blueprint = .ok (classId, after)) : after.InShape := by
  obtain ⟨classes, hresult, rfl⟩ := exists_of_build hbuild
  exact h.grow (h.made.build hresult) (h.made.wellFormed.build hresult).grown

theorem ReachedByPermitted.inShape (h : machine.ReachedByPermitted) : machine.InShape := by
  induction h with
  | new hclasses hcore hnew => exact inShape_new hclasses hcore hnew
  | build _ hbuild ih => exact ih.build hbuild
  | register id _ ih =>
    exact ⟨ih.made, ih.rootClass_lt, ih.primitiveArrays, ih.consistent, ih.shaped⟩
  | step step _ hstep ih => exact ih.step hstep

/-! ### Objects -/

/-- The collector sees in an object what a program reads from it. -/
structure SeesAsRead (machine : Machine) (id : ObjectId) (storage : Storage) : Prop where
  /-- Every object with a class is an instance or an array. -/
  sorts : ∀ classId, storage.classId? = some classId →
    machine.classes.isInstances classId ∨ machine.classes.isArray classId
  unclassed : storage.classId? = none → storage.refs machine.classes = []
  /-- In an instance it sees the fields, which can all be read, from its class to the root. -/
  instances : ∀ classId, storage.classId? = some classId → machine.classes.isInstances classId →
    (storage.refs machine.classes).map some =
      (machine.classes.chain classId).flatMap fun level =>
        (List.range (machine.classes.fields level).count).map fun index =>
          (machine.field? (some id) level index).map (·.object)
  /-- In an array of references it sees the elements, which can all be read. -/
  references : ∀ classId element, storage.classId? = some classId →
    machine.classes.elementClass? classId = some element →
    (storage.refs machine.classes).map some =
      (List.range storage.length.toNat).map fun index : Nat =>
        (machine.element? (some id) .reference index).map (·.object)
  primitives : ∀ classId kind, storage.classId? = some classId →
    machine.classes.shape? classId = some (.array (.primitive kind)) →
    storage.refs machine.classes = []
  /-- It reads the second word of each of these slots, all of them behind the class word and within
      the object, and nothing but references stands there. -/
  refs_eq : storage.refs machine.classes =
    (storage.slotOffsets machine.classes).map storage.refAt
  slots_within : ∀ offset ∈ storage.slotOffsets machine.classes,
    classWordSize + pointerSize ≤ offset ∧ offset + pointerSize ≤ storage.size
  words : ∀ offset ∈ storage.slotOffsets machine.classes, storage.RefWord offset

theorem InShape.seesAsRead (h : machine.InShape) (hdata : machine.heap.data? id = some storage) :
    machine.SeesAsRead id storage := by
  have hshaped := h.shaped_of_data? hdata
  constructor
  · intro classId hid
    cases harray : machine.classes.isArray classId with
    | true => exact .inr rfl
    | false => exact .inl (hshaped.isInstances hid harray)
  · intro hnone
    rw [Storage.refs, hnone]
  · intro classId hid hinstances
    simp only [field?_eq hdata]
    exact Storage.refs_of_instances hid hinstances
  · intro classId element hid helement
    simp only [element?_eq hdata]
    exact Storage.refs_of_references hid helement
  · intro classId kind hid hshape
    obtain ⟨cls, hget, hcls⟩ := Option.map_eq_some_iff.1 hshape
    rw [Storage.refs_eq_map, Storage.slotOffsets_of_array hid hget hcls]
    rfl
  · exact storage.refs_eq_map machine.classes
  · exact fun offset hoffset => hshaped.slot_within h.made hoffset
  · exact hshaped.words

/-! ### Stores -/

/-- The collector sees a reference in an object.  What it refers to survives the next collection
    along with the object. -/
structure Exposes (machine : Machine) (id : ObjectId) (ref : Ref) : Prop where
  mem_refs : ∃ storage, machine.heap.data? id = some storage ∧ ref ∈ storage.refs machine.classes
  survives : ∀ target, ref = some target → (machine.heap.get? target).isSome →
    machine.heap.InUse machine.classes.objectModel id → target ∈ machine.collect.2.heap.order

/-- What a program stores, it reads again, and the collector sees it. -/
structure SeesStores (machine : Machine) : Prop where
  field : ∀ id owner index slot after,
    machine.setField? (some id) owner index slot = some after →
    after.field? (some id) owner index = some slot ∧ after.Exposes id slot.object
  element : ∀ id index slot after,
    machine.setElement? (some id) .reference index slot = some after →
    after.element? (some id) .reference index = some slot ∧ after.Exposes id slot.object

theorem InShape.exposes (h : machine.InShape) {ref : Ref}
    (hdata : machine.heap.data? id = some storage) (href : ref ∈ storage.refs machine.classes) :
    machine.Exposes id ref := by
  refine ⟨⟨storage, hdata, href⟩, ?_⟩
  rintro target rfl htarget hinUse
  obtain ⟨object, hget, rfl⟩ := exists_of_data? hdata
  have hedge : some target ∈ machine.heap.edges machine.classes.objectModel id := by
    rw [Heap.edges_of_get? hget]
    exact href
  have hreached : machine.heap.InUse machine.classes.objectModel target := .edge hinUse hedge
  apply (h.consistent.collect.mem_order_iff target).2
  rw [Heap.get?_collect_of_inUse h.consistent hreached]
  exact htarget

theorem InShape.seesStores (h : machine.InShape) : machine.SeesStores := by
  constructor
  · intro id owner index slot after hset
    have hafter := h.setField? hset
    obtain ⟨_, storage, offset, ⟨⟩, hdata, hfield, rfl⟩ := exists_of_setField? hset
    have hwritten := data?_updateStorage hdata (·.write .reference offset slot)
    have hread := Storage.field?_write h.made.wellFormed hfield slot
    constructor
    · rw [field?_eq hwritten]
      exact hread
    · exact hafter.exposes hwritten (Storage.object_mem_refs_of_field? hread)
  · intro id index slot after hset
    have hafter := h.setElement? hset
    obtain ⟨_, storage, offset, ⟨⟩, hdata, helement, rfl⟩ := exists_of_setElement? hset
    have hwritten := data?_updateStorage hdata (·.write .reference offset slot)
    have hread := Storage.element?_write helement slot
    constructor
    · rw [element?_eq hwritten]
      exact hread
    · exact hafter.exposes hwritten (Storage.object_mem_refs_of_element? hread)

/-- In every machine that comes about, the collector and the accessors see the same memory. -/
theorem collector_sees_what_is_read (h : machine.ReachedByPermitted) :
    (∀ id storage, machine.heap.data? id = some storage → machine.SeesAsRead id storage) ∧
      machine.SeesStores :=
  ⟨fun _ _ hdata => h.inShape.seesAsRead hdata, h.inShape.seesStores⟩

theorem pairRun_reachedByPermitted : (pairMachine.run pairRun).2.ReachedByPermitted :=
  (ReachedByPermitted.new pairClasses_made pairCore_lt_size pairMachine_new).run pairRun_permitted

/-- The first pair has nothing in its first field and refers to the second pair in its second. -/
theorem collector_sees_pairs :
    ((pairMachine.run pairRun).2.ReachedByPermitted ∧
      ((pairMachine.run pairRun).2.heap.data? 0).map (·.refs (pairMachine.run pairRun).2.classes) =
        some [none, some 1]) ∧
      (∀ id storage, (pairMachine.run pairRun).2.heap.data? id = some storage →
        (pairMachine.run pairRun).2.SeesAsRead id storage) ∧
        (pairMachine.run pairRun).2.SeesStores :=
  ⟨⟨pairRun_reachedByPermitted, by decide +kernel⟩,
    collector_sees_what_is_read pairRun_reachedByPermitted⟩

end Machine

end ManagedRuntime
