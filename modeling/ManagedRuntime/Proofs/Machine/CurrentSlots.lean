/-
  Slots over a session
  ====================
  A program that stores only slots made for null or for an object with a class never meets a slot
  with a stale dispatch table (`Machine.SlotsCurrent`), whatever else it does: it may build classes,
  give classes to storage late, make arrays and run into failures, and the heap may be collected at
  any time.  The slots that a program does not store are stored by the construction of arrays, which
  takes the tables from its plan.
-/
import ManagedRuntime.Proofs.Machine.DispatchTables
import ManagedRuntime.Proofs.Machine.Sessions
import ManagedRuntime.Proofs.Machine.Visibility

namespace ManagedRuntime

namespace Machine

variable {machine after : Machine} {id : ObjectId} {classId : ClassId} {slot : ReferenceSlot}
variable {config : HeapConfig} {system : SystemMemory} {cells : Cells} {issued : Nat}
variable {core : CoreClasses} {classes : Hierarchy}

/-! ### What a program stores -/

/-- A slot that can be stored: null, or made for null or for an object that has its class. -/
def Ready (machine : Machine) (slot : ReferenceSlot) : Prop :=
  slot = .null ∨
    ∃ ref, slot = machine.referenceTo ref ∧ (ref = none ∨ (machine.classId? ref).isSome)

theorem Ready.current (hready : machine.Ready slot) (h : machine.Sound) : machine.Current slot := by
  rcases hready with rfl | ⟨ref, rfl, rfl | hclass⟩
  · exact machine.current_null
  · exact machine.current_null
  · obtain ⟨classId, hid⟩ := Option.isSome_iff_exists.1 hclass
    obtain ⟨storage, hstorage, hstored⟩ := Option.bind_eq_some_iff.1 hid
    obtain ⟨target, rfl, hdata⟩ := Option.bind_eq_some_iff.1 hstorage
    obtain ⟨object, hget, rfl⟩ := exists_of_data? hdata
    have hlt := (h.formed target object hget).lt_size classId hstored
    obtain ⟨cls, hcls⟩ := Option.isSome_iff_exists.1 (Hierarchy.isSome_get?_iff.2 hlt)
    have htable : machine.dispatchTable? (some target) = some cls.table := by
      rw [dispatchTable?, class?, hid, Option.bind_some, hcls, Option.map_some]
    refine ⟨rfl, iff_of_false ?_ (Option.some_ne_none target)⟩
    rw [referenceTo, htable]
    exact Option.some_ne_none cls.table

/-- The slots that a step stores are ready. -/
def StoresReady (machine : Machine) : Step → Prop
  | .operation (.setField _ _ _ slot) => machine.Ready slot
  | .operation (.setElement _ kind _ value) =>
    ∀ slot, kind.slot? value = some slot → machine.Ready slot
  | _ => True

/-- Classes can be built and registered without care.  A step hands over only references that do
    not dangle, gives a class only to storage that awaits it, and stores only slots that are
    ready. -/
def Careful (machine : Machine) : Command → Prop
  | .step step => machine.Permits machine.heap.Admits step ∧ machine.StoresReady step
  | _ => True

/-! ### One command -/

theorem TablesKept.arrayOf (h : machine.TablesKept) (element : ClassId) :
    (machine.arrayOf element).2.TablesKept := by
  have hprovides := h.inShape.provides_arrayOf element
  exact h.grow hprovides.inShape.made hprovides.grown

theorem TablesKept.step (h : machine.TablesKept) {step : Step}
    (hpermits : machine.Permits machine.heap.Admits step) (hready : machine.StoresReady step) :
    (machine.step step).2.TablesKept := by
  cases step with
  | operation operation =>
    change ((perform operation).run machine).2.TablesKept
    cases operation with
    | pushOperand ref =>
      rw [perform, run_replying]
      exact h.reroot (Heap.rerooted_pushOperand hpermits)
    | popOperand =>
      rw [perform, run_replying]
      exact h.reroot Heap.rerooted_popOperand
    | registerLocal cell =>
      rw [perform, run_replying]
      exact h.reroot (Heap.rerooted_registerLocal hpermits)
    | addStaticRoot cell =>
      rw [perform, run_replying]
      exact h.reroot (Heap.rerooted_addStaticRoot hpermits)
    | closeFrame mark =>
      rw [perform, run_replying]
      exact h.reroot (Heap.rerooted_closeFrame mark)
    | writeCell cell ref => exact h.reroot (Heap.rerooted_writeCell hpermits)
    | allocate bytes =>
      rw [perform, run_replying]
      exact h.allocate bytes
    | newObject classId =>
      rw [perform, run_replying]
      exact h.newObject classId
    | newArray kind element dimensions =>
      rw [perform, run_replying]
      exact h.newArray kind element dimensions
    | initObject object classId => exact h.initObject hpermits.2
    | collect => exact h.collect
    | arrayOf element => exact h.arrayOf element
    | openFrame => exact h
    | getField object owner index => exact h
    | setField object owner index slot =>
      have hcurrent := Ready.current hready h.sound
      exact storing_cases TablesKept h fun _ hset => h.setField? hpermits.2 hcurrent hset
    | getElement array kind index => exact h
    | setElement array kind index value =>
      have hcurrent : ∀ slot, kind.slot? value = some slot → machine.Current slot :=
        fun slot hslot => Ready.current (hready slot hslot) h.sound
      exact storing_cases TablesKept h fun _ hset => h.setElement? hpermits.2 hcurrent hset
  | check check =>
    exact test_cases TablesKept h h.newObject check

theorem TablesKept.obey (h : machine.TablesKept) {command : Command}
    (hcareful : machine.Careful command) : (machine.obey command).TablesKept := by
  cases command with
  | build blueprint =>
    rcases machine.obey_build blueprint with hsame | ⟨classId, classes, hbuild, hbuilt⟩
    · rwa [hsame]
    · rw [hbuilt]
      have hgrown := (h.inShape.made.wellFormed.build hbuild).grown
      exact h.grow (h.inShape.made.build hbuild) hgrown
  | register id =>
    have hsound : (machine.register id).Sound :=
      ⟨h.sound.wellFormed, h.sound.rootClass_lt, h.sound.arrays_lt, h.sound.consistent,
        h.sound.closed, h.sound.formed⟩
    have hinShape : (machine.register id).InShape :=
      ⟨h.inShape.made, h.inShape.rootClass_lt, h.inShape.primitiveArrays, h.inShape.consistent,
        h.inShape.shaped⟩
    exact h.of_store_eq hsound hinShape rfl rfl
  | step step => exact h.step hcareful.1 hcareful.2

/-! ### Whole sessions -/

theorem tablesKept_new (hclasses : classes.Made) (hcore : core.object < classes.size)
    (hnew : new config system cells issued core classes = .ok machine) : machine.TablesKept where
  sound := sound_new hclasses hcore hnew
  inShape := inShape_new hclasses hcore hnew
  current id storage hdata := by
    obtain rfl := eq_ofHeap_of_new hnew
    obtain ⟨object, hget, -⟩ := exists_of_data? hdata
    have hnone : (Heap.empty config system cells issued : Heap Storage).get? id = none :=
      Heap.get?_empty ..
    cases hnone.symm.trans hget

theorem TablesKept.obeyAll (h : machine.TablesKept) {commands : List Command}
    (hcommands : Along Careful machine commands) : (machine.obeyAll commands).TablesKept :=
  hcommands.induction TablesKept (fun _ _ hmachine hcareful => hmachine.obey hcareful) h

/-- Every slot of every object on the allocation list, whether a root reaches it or not, can be
    read, and has the dispatch table of the object in it. -/
structure SlotsCurrent (machine : Machine) : Prop where
  fields : ∀ id ∈ machine.heap.order, ∀ classId, machine.classId? (some id) = some classId →
    machine.classes.isInstances classId → ∀ level ∈ machine.classes.chain classId,
    ∀ index < (machine.classes.fields level).count,
      ∃ slot, machine.field? (some id) level index = some slot ∧ machine.Current slot
  elements : ∀ id ∈ machine.heap.order, ∀ classId element length,
    machine.classId? (some id) = some classId →
    machine.classes.elementClass? classId = some element →
    machine.arrayLength? (some id) = some length → ∀ index : Nat, (index : Int) < length →
      ∃ slot, machine.element? (some id) .reference index = some slot ∧ machine.Current slot

theorem TablesKept.slotsCurrent (h : machine.TablesKept) : machine.SlotsCurrent := by
  constructor
  · intro id _ classId hclass hinstances level hlevel index hindex
    obtain ⟨storage, hdata, hid⟩ := Option.bind_eq_some_iff.1 hclass
    obtain ⟨slot, hslot⟩ := Storage.exists_field? hid hinstances hlevel hindex
    refine ⟨slot, ?_, h.current id storage hdata slot (.field level index hslot)⟩
    rw [field?_eq hdata, hslot]
  · intro id _ classId element length hclass helement hlength index hindex
    obtain ⟨storage, hdata, hid⟩ := Option.bind_eq_some_iff.1 hclass
    obtain ⟨cls, hget, hshape⟩ := Hierarchy.exists_of_elementClass? helement
    have harray : machine.isArray (some id) = true := by
      rw [isArray, hclass, Option.any_some]
      exact Hierarchy.isArray_of_shape hget hshape
    rw [arrayLength?, if_pos harray, hdata, Option.map_some, Option.some.injEq] at hlength
    rw [← hlength] at hindex
    obtain ⟨slot, hslot⟩ := Storage.exists_element? hid helement hindex
    refine ⟨slot, ?_, h.current id storage hdata slot (.element index hslot)⟩
    rw [element?_eq hdata, hslot]

/-- Copies of dispatch tables are never stale in what a careful session reaches, and no further
    command makes one stale: no allocation, no collection and no construction of an array. -/
theorem dispatch_tables_never_stale (hclasses : classes.Made) (hcore : core.object < classes.size)
    (hnew : new config system cells issued core classes = .ok machine) {commands : List Command}
    (hcommands : Along Careful machine commands) :
    (machine.obeyAll commands).SlotsCurrent ∧
      ∀ command, (machine.obeyAll commands).Careful command →
        ((machine.obeyAll commands).obey command).SlotsCurrent := by
  have hreached := (tablesKept_new hclasses hcore hnew).obeyAll hcommands
  refine ⟨hreached.slotsCurrent, ?_⟩
  intro command hcommand
  exact (hreached.obey hcommand).slotsCurrent

/-- Storage becomes a pair and then refers to a pair that was made before it had its class.  The
    heap is collected while the array of arrays is made. -/
def lateSession : List Command := [
  .step (.operation (.allocate 40)), .step (.operation (.pushOperand (some 0))),
  .step (.operation (.newObject 3)), .step (.operation (.initObject 0 3)),
  .step (.operation (.setField (some 0) 3 1
    { table := some (pairClasses.table 3), object := some 1 })),
  .build { name := "Triple", superclass := some 3, referenceFields := 1 },
  .step (.operation (.newArray .reference (some 3) [2, 2]))]

theorem awaitsClass_late :
    (pairMachine.obeyAll (lateSession.take 3)).AwaitsClass 0 3 := by
  have hstorage : ((pairMachine.obeyAll (lateSession.take 3)).heap.data? 0).map
      (fun storage => (storage.classId?, storage.size)) = some (none, 40) := by decide +kernel
  have hshape : (pairMachine.obeyAll (lateSession.take 3)).classes.shape? 3 =
      some (.instances 40 ⟨8, 2⟩) := by decide +kernel
  obtain ⟨storage, hdata, hblank⟩ := Option.map_eq_some_iff.1 hstorage
  obtain ⟨cls, hget, hcls⟩ := Option.map_eq_some_iff.1 hshape
  obtain ⟨hnone, hsize⟩ := Prod.mk.inj hblank
  refine ⟨storage, cls, hdata, hnone, hget, ?_⟩
  rw [Class.FitsInto, hcls, hsize]

theorem lateSession_careful : Along Careful pairMachine lateSession := by
  refine ⟨⟨trivial, trivial⟩, ⟨?_, trivial⟩, ⟨trivial, trivial⟩, ⟨⟨?_, awaitsClass_late⟩, trivial⟩,
    ⟨⟨?_, ?_⟩, ?_⟩, trivial, ⟨trivial, trivial⟩, trivial⟩
  · exact Heap.admits_some_iff.2 (by decide +kernel)
  · exact Heap.admits_some_iff.2 (by decide +kernel)
  · exact Heap.admits_some_iff.2 (by decide +kernel)
  · exact Heap.admits_some_iff.2 (by decide +kernel)
  · exact .inr ⟨some 1, by decide +kernel, .inr (by decide +kernel)⟩

/-- Two collections later the slots of the five objects that are left are current. -/
theorem dispatch_tables_never_stale_late :
    (pairClasses.Made ∧ pairCore.object < pairClasses.size ∧
      new pairConfig .unlimited {} 0 pairCore pairClasses = .ok pairMachine ∧
      Along Careful pairMachine lateSession ∧
      (pairMachine.obeyAll lateSession).heap.collections = 2 ∧
      (pairMachine.obeyAll lateSession).heap.order = [4, 2, 1, 0, 3]) ∧
      (pairMachine.obeyAll lateSession).SlotsCurrent ∧
      ∀ command, (pairMachine.obeyAll lateSession).Careful command →
        ((pairMachine.obeyAll lateSession).obey command).SlotsCurrent :=
  ⟨⟨pairClasses_made, pairCore_lt_size, pairMachine_new, lateSession_careful, by decide +kernel,
    by decide +kernel⟩,
    dispatch_tables_never_stale pairClasses_made pairCore_lt_size pairMachine_new
      lateSession_careful⟩

end Machine

end ManagedRuntime
