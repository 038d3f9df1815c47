/-
  Safety of runs
  ==============
  In every state that a program can bring a machine to, no reference dangles: not those
  on the shadow stack, not those in registered variables, and not those in any object
  on the allocation list.  A program can do anything as long as what it hands over does
  not dangle itself (`Machine.Permitted`).

  One step keeps the machine sound and what was in use as it was (`Machine.Safe`); a run
  is an induction over its steps.
-/
import ManagedRuntime.Proofs.Machine.Steps

namespace ManagedRuntime

namespace Machine

variable {machine before after : Machine} {id : ObjectId} {target : Ref}

/-! ### One step -/

/-- A step is safe: it leaves a sound machine, in which all that was in use is still there.
    It changes no object but the one it stores into, and a step that stores collects
    nothing. -/
structure Safe (before after : Machine) (target : Ref) : Prop where
  sound : after.Sound
  grown : before.classes.Extends after.classes
  live : ∀ id, before.heap.InUse before.classes.objectModel id → (after.heap.get? id).isSome
  kept : ∀ id, before.heap.InUse before.classes.objectModel id → some id ≠ target →
    after.heap.get? id = before.heap.get? id
  quiet : target.isSome → after.heap.collections = before.heap.collections

theorem Sound.isSome_of_inUse (h : machine.Sound)
    (hid : machine.heap.InUse machine.classes.objectModel id) : (machine.heap.get? id).isSome :=
  h.closed.isSome_of_inUse hid

/-- Without a store, it is enough that what was in use is kept. -/
theorem Safe.of_keeps (hbefore : before.Sound) (hafter : after.Sound)
    (hgrown : before.classes.Extends after.classes)
    (hkeeps : before.heap.Keeps before.classes.objectModel after.heap) :
    before.Safe after none where
  sound := hafter
  grown := hgrown
  live id hid := by
    rw [hkeeps.get?_eq id hid]
    exact hbefore.isSome_of_inUse hid
  kept id hid _ := hkeeps.get?_eq id hid
  quiet h := nomatch h

theorem Sound.refl_safe (h : machine.Sound) : machine.Safe machine none :=
  .of_keeps h h (.refl _) (.refl _ _)

theorem Advances.safe (h : before.Advances after) (hbefore : before.Sound) :
    before.Safe after none :=
  .of_keeps hbefore h.sound (h.classes_eq ▸ .refl _) h.keeps

theorem Sound.safe_reroot (h : machine.Sound) {heap : Heap Storage}
    (hheap : machine.heap.Rerooted machine.heap.Admits heap) :
    machine.Safe { machine with heap } none where
  sound := h.reroot hheap
  grown := .refl _
  live id hid := by
    rw [Heap.get?, hheap.store_eq]
    exact h.isSome_of_inUse hid
  kept id _ _ := by
    rw [Heap.get?, hheap.store_eq]
    rfl
  quiet h := nomatch h

/-- A store changes one object, and the heap counts no collection. -/
theorem Sound.safe_updateStorage (h : machine.Sound) {change : Storage → Storage}
    (hafter : (machine.updateStorage id change).Sound) :
    machine.Safe (machine.updateStorage id change) (some id) where
  sound := hafter
  grown := .refl _
  live other hother := by
    rw [Machine.updateStorage, Heap.isSome_get?_modifyData]
    exact h.isSome_of_inUse hother
  kept other _ hne := by
    rw [Machine.updateStorage, Heap.get?_modifyData,
      if_neg fun hsame => hne (congrArg some hsame.symm)]
  quiet _ := rfl

theorem Sound.safe_collect (h : machine.Sound) : machine.Safe machine.collect.2 none :=
  .of_keeps h h.collect (.refl _) (Heap.keeps_collect h.consistent)

theorem Sound.safe_newArray (h : machine.Sound) (kind : Kind) (element : Option ClassId)
    (dimensions : List Int) :
    machine.Safe ((Machine.newArray kind element dimensions).run machine).2 none := by
  obtain ⟨classes, hclasses, hgrown, hmakes⟩ := h.newArray kind element dimensions
  apply Safe.of_keeps h hmakes.sound
  · rw [hmakes.classes_eq]
    exact hgrown
  · apply hmakes.keeps.congr_model
    intro id object hget
    exact (h.refs_eq hgrown id object hget).symm

theorem Sound.safe_arrayOf (h : machine.Sound) (element : ClassId) :
    machine.Safe (machine.arrayOf element).2 none :=
  .of_keeps h ((h.arrayOf element).sound h) (h.arrayOf element).grows.grown (.refl _ _)

theorem Sound.safe_setField (h : machine.Sound) {object : Ref} {owner : ClassId} {index : Nat}
    {slot : ReferenceSlot} (hslot : machine.heap.Admits slot.object)
    (hset : machine.setField? object owner index slot = some after) :
    machine.Safe after object := by
  obtain ⟨id, rfl, hset⟩ := Option.bind_eq_some_iff.1 hset
  obtain ⟨offset, hoffset, hset⟩ := Option.bind_eq_some_iff.1 hset
  cases hset
  exact h.safe_updateStorage (h.store (h.isPlace_of_fieldOffset? hoffset) hslot)

theorem Sound.safe_setElement (h : machine.Sound) {array : Ref} {kind : Kind} {index : Int}
    {value : kind.Value} (hvalue : machine.heap.Admits (kind.refOf value))
    (hset : machine.setElement? array kind index value = some after) :
    machine.Safe after array := by
  obtain ⟨id, rfl, hset⟩ := Option.bind_eq_some_iff.1 hset
  obtain ⟨offset, hoffset, hset⟩ := Option.bind_eq_some_iff.1 hset
  cases hset
  exact h.safe_updateStorage (h.store (isPlace_of_elementOffset? hoffset) hvalue)

/-- Where there is no place to store into, nothing changes. -/
theorem Sound.safe_storing (h : machine.Sound) {store : Machine → Option Machine}
    (hstore : ∀ after, store machine = some after → machine.Safe after target) :
    machine.Safe ((storing store).run machine).2 target := by
  have hrefl : machine.Safe machine target := { h.refl_safe with
    kept := fun _ _ _ => rfl
    quiet := fun _ => rfl }
  exact storing_cases (machine.Safe · target) hrefl hstore

theorem Sound.safe_step (h : machine.Sound) {step : Step}
    (hstep : machine.Permits machine.heap.Admits step) :
    machine.Safe (machine.step step).2 step.target? := by
  cases step with
  | operation operation =>
    change machine.Safe ((perform operation).run machine).2 _
    cases operation with
    | allocate bytes =>
      rw [perform, run_replying]
      exact (h.allocate bytes).toAdvances.safe h
    | newObject classId =>
      rw [perform, run_replying]
      exact (h.newObject classId).toAdvances.safe h
    | newArray kind element dimensions =>
      rw [perform, run_replying]
      exact h.safe_newArray kind element dimensions
    | initObject object classId =>
      exact h.safe_updateStorage (h.initObject hstep.2.lt_size hstep.2.classId?_eq)
    | collect => exact h.safe_collect
    | arrayOf element => exact h.safe_arrayOf element
    | pushOperand ref =>
      rw [perform, run_replying]
      exact h.safe_reroot (Heap.rerooted_pushOperand hstep)
    | popOperand =>
      rw [perform, run_replying]
      exact h.safe_reroot Heap.rerooted_popOperand
    | registerLocal cell =>
      rw [perform, run_replying]
      exact h.safe_reroot (Heap.rerooted_registerLocal hstep)
    | addStaticRoot cell =>
      rw [perform, run_replying]
      exact h.safe_reroot (Heap.rerooted_addStaticRoot hstep)
    | openFrame => exact h.refl_safe
    | closeFrame mark =>
      rw [perform, run_replying]
      exact h.safe_reroot (Heap.rerooted_closeFrame mark)
    | writeCell cell ref => exact h.safe_reroot (Heap.rerooted_writeCell hstep)
    | getField object owner index => exact h.refl_safe
    | setField object owner index slot =>
      exact h.safe_storing fun after hset => h.safe_setField hstep.2 hset
    | getElement array kind index => exact h.refl_safe
    | setElement array kind index value =>
      exact h.safe_storing fun after hset => h.safe_setElement hstep.2 hset
  | check check =>
    apply test_cases (machine.Safe · none) h.refl_safe
    exact fun classId => (h.newObject classId).toAdvances.safe h

/-! ### Whole runs -/

/-- A program hands over, at every step, only references that do not dangle then. -/
def Permitted (machine : Machine) : List Step → Prop
  | [] => True
  | step :: steps =>
    machine.Permits machine.heap.Admits step ∧ (machine.step step).2.Permitted steps

theorem Sound.run (h : machine.Sound) {steps : List Step} (hsteps : machine.Permitted steps) :
    (machine.run steps).2.Sound := by
  induction steps generalizing machine with
  | nil => exact h
  | cons step steps ih => exact ih (h.safe_step hsteps.1).sound hsteps.2

variable {config : HeapConfig} {system : SystemMemory} {cells : Cells} {issued : Nat}
variable {core : CoreClasses} {classes : Hierarchy}

theorem eq_ofHeap_of_new (hnew : new config system cells issued core classes = .ok machine) :
    machine = ofHeap (.empty config system cells issued) core classes := by
  unfold new at hnew
  rcases hheap : Heap.new config system cells issued with fault | heap
  · rw [hheap] at hnew
    cases hnew
  rw [hheap] at hnew
  cases hnew
  obtain ⟨-, -, rfl⟩ := Heap.new_eq_ok_iff.1 hheap
  rfl

/-- A machine starts sound: it has no objects, and the classes that it needs. -/
theorem sound_new (hclasses : classes.Made) (hcore : core.object < classes.size)
    (hnew : new config system cells issued core classes = .ok machine) : machine.Sound := by
  obtain rfl := eq_ofHeap_of_new hnew
  obtain ⟨hwellFormed, hgrown, harrays⟩ :=
    ClassTable.grows_makePrimitiveArrays hclasses.wellFormed hcore Primitive.all
  exact {
    wellFormed := hwellFormed
    rootClass_lt := by
      change (ClassTable.new core classes).1.core.object < _
      rw [ClassTable.core_new]
      exact Nat.lt_of_lt_of_le hcore hgrown.size_le
    arrays_lt := by
      change ∀ id ∈ (ClassTable.new core classes).1.primitiveArrays, _
      rw [ClassTable.primitiveArrays_new]
      exact harrays
    consistent := Heap.consistent_empty ..
    closed := Heap.closed_empty ..
    formed := by
      intro id object hget
      have hnone : (Heap.empty config system cells issued : Heap Storage).get? id = none :=
        Heap.get?_empty ..
      exact nomatch hnone.symm.trans hget }

/-! ### Nothing dangles -/

/-- A reference is null or names an object on the allocation list. -/
def Lists (machine : Machine) (ref : Ref) : Prop :=
  ∀ id, ref = some id → id ∈ machine.heap.order

/-- Nowhere in the machine is a reference that dangles. -/
structure NothingDangles (machine : Machine) : Prop where
  operands : ∀ ref, .operand ref ∈ machine.heap.roots.shadow.slots → machine.Lists ref
  cells : ∀ cell, machine.heap.Registered cell → machine.Lists (machine.heap.readCell cell)
  /-- Every reference that the collector sees in an object, whether a root reaches it or not. -/
  contents : ∀ id ∈ machine.heap.order, ∀ storage, machine.heap.data? id = some storage →
    ∀ ref ∈ storage.refs machine.classes, machine.Lists ref
  /-- Every field and every element that a program can read. -/
  fields : ∀ id ∈ machine.heap.order, ∀ owner index slot,
    machine.field? (some id) owner index = some slot → machine.Lists slot.object
  elements : ∀ id ∈ machine.heap.order, ∀ index slot,
    machine.element? (some id) .reference index = some slot → machine.Lists slot.object

theorem Sound.lists_of_admits (h : machine.Sound) {ref : Ref} (href : machine.heap.Admits ref) :
    machine.Lists ref :=
  fun id hid => (h.consistent.mem_order_iff id).2 (href id hid)

theorem Sound.nothingDangles (h : machine.Sound) : machine.NothingDangles := by
  have hcontents : ∀ id storage, machine.heap.data? id = some storage →
      ∀ ref ∈ storage.refs machine.classes, machine.Lists ref := by
    intro id storage hstorage ref href
    obtain ⟨object, hget, rfl⟩ := exists_of_data? hstorage
    exact h.lists_of_admits (h.closed.contents id object hget ref href)
  exact {
    operands := by
      intro ref href
      apply h.lists_of_admits
      exact h.closed.roots ref (Heap.mem_rootRefs_iff.2 (.inr ⟨_, href, rfl⟩))
    cells := fun cell hcell => h.lists_of_admits (h.closed.roots _ hcell.mem_rootRefs)
    contents := fun id _ storage hstorage => hcontents id storage hstorage
    fields := by
      intro id _ owner index slot hslot
      obtain ⟨storage, hstorage, hfield⟩ := Option.bind_eq_some_iff.1 hslot
      exact hcontents id storage hstorage _ (Storage.object_mem_refs_of_field? hfield)
    elements := by
      intro id _ index slot hslot
      obtain ⟨storage, hstorage, helement⟩ := Option.bind_eq_some_iff.1 hslot
      exact hcontents id storage hstorage _ (Storage.object_mem_refs_of_element? helement) }

/-- What is in use before a step is on the list after it.  A step that stores collects nothing
    and changes no other object, and all other steps, which may collect any number of times,
    leave the class and the contents of what is in use as they are. -/
structure KeepsInUse (before after : Machine) (target : Ref) : Prop where
  listed : ∀ id, before.heap.InUse before.classes.objectModel id → id ∈ after.heap.order
  unchanged : ∀ id, before.heap.InUse before.classes.objectModel id → some id ≠ target →
    after.heap.get? id = before.heap.get? id
  quiet : target.isSome → after.heap.collections = before.heap.collections
  /-- The classes of objects mean what they did. -/
  classes : before.classes.Extends after.classes

theorem Safe.keepsInUse (h : before.Safe after target) : before.KeepsInUse after target where
  listed id hid := (h.sound.consistent.mem_order_iff id).2 (h.live id hid)
  unchanged := h.kept
  quiet := h.quiet
  classes := h.grown

/-- In every state that a permitted run reaches nothing dangles, and whatever permitted step
    comes next, it keeps what is in use. -/
theorem nothing_dangles_in_run (hclasses : classes.Made) (hcore : core.object < classes.size)
    (hnew : new config system cells issued core classes = .ok machine) {steps : List Step}
    (hsteps : machine.Permitted steps) :
    (machine.run steps).2.NothingDangles ∧
      ∀ step, (machine.run steps).2.Permits (machine.run steps).2.heap.Admits step →
        (machine.run steps).2.KeepsInUse ((machine.run steps).2.step step).2 step.target? := by
  have hreached : (machine.run steps).2.Sound := (sound_new hclasses hcore hnew).run hsteps
  exact ⟨hreached.nothingDangles, fun step hstep => (hreached.safe_step hstep).keepsInUse⟩

/-- The smallest core and a class of objects with two reference fields. -/
def pairClasses : Hierarchy :=
  match CoreClasses.bootstrap {} with
  | .error _ => {}
  | .ok (core, classes) =>
    match classes.build
        { name := "Pair", superclass := some core.object, referenceFields := 2 } with
    | .error _ => {}
    | .ok (_, classes) => classes

def pairCore : CoreClasses where
  object := 0
  nullReference := 1
  indexOutOfBounds := 2

theorem pairClasses_made : pairClasses.Made := by
  unfold pairClasses
  split
  · exact .empty
  rename_i core classes hcore
  split
  · exact .empty
  · rename_i hpair
    exact .build (Hierarchy.Made.empty.bootstrap hcore).1 hpair

theorem pairCore_lt_size : pairCore.object < pairClasses.size := by
  decide

/-- A heap that has room for three pairs before it has to collect. -/
def pairConfig : HeapConfig :=
  { softLimit := 200, growth := 10, hardLimit := 400 }

def pairMachine : Machine :=
  ofHeap (.empty pairConfig .unlimited {} 0) pairCore pairClasses

theorem pairMachine_new :
    new pairConfig .unlimited {} 0 pairCore pairClasses = .ok pairMachine :=
  rfl

/-- Two pairs, the second one referred to by the first, and an array of arrays for which the
    heap is collected while it is built. -/
def pairRun : List Step := [
  .operation (.newObject 3), .operation (.pushOperand (some 0)), .operation (.newObject 3),
  .operation (.setField (some 0) 3 1 { table := none, object := some 1 }),
  .operation (.registerLocal 0), .operation (.writeCell 0 (some 0)),
  .operation (.newArray .reference (some 3) [2, 2]), .check (.notNull none), .operation .collect]

theorem pairRun_permitted : pairMachine.Permitted pairRun := by
  refine ⟨trivial, ?_, trivial, ?_, ?_, ?_, trivial, ?_, trivial, trivial⟩
  · exact Heap.admits_some_iff.2 (by decide)
  · exact ⟨Heap.admits_some_iff.2 (by decide), Heap.admits_some_iff.2 (by decide)⟩
  · exact Heap.admits_none _
  · exact fun _ => Heap.admits_some_iff.2 (by decide)
  · exact Heap.admits_none _

theorem nothing_dangles_in_pairRun :
    pairClasses.Made ∧ pairCore.object < pairClasses.size ∧
      new pairConfig .unlimited {} 0 pairCore pairClasses = .ok pairMachine ∧
      pairMachine.Permitted pairRun ∧ (pairMachine.run pairRun).2.NothingDangles ∧
      ∀ step, (pairMachine.run pairRun).2.Permits (pairMachine.run pairRun).2.heap.Admits step →
        (pairMachine.run pairRun).2.KeepsInUse ((pairMachine.run pairRun).2.step step).2
          step.target? :=
  ⟨pairClasses_made, pairCore_lt_size, pairMachine_new, pairRun_permitted,
    nothing_dangles_in_run pairClasses_made pairCore_lt_size pairMachine_new pairRun_permitted⟩

end Machine

end ManagedRuntime
