/-
  An object in a frame
  ====================
  An object that stands on the shadow stack is a root, so no collection frees it, whatever else is
  done to the machine (`Machine.Sheltered`).  It keeps its class as well, since fields and elements
  lie behind the class word.  This takes a shadow stack that does not fall below the object, and
  nobody who gives the object another class; the references that are handed over may even dangle.

  Nothing is assumed of the other objects either.  What is needed of the machine holds after any
  commands at all (`Machine.Orderly`).
-/
import ManagedRuntime.Proofs.Heap.Headroom
import ManagedRuntime.Proofs.Machine.DispatchTables
import ManagedRuntime.Proofs.Machine.Frames
import ManagedRuntime.Proofs.Machine.HeapSteps

namespace ManagedRuntime

/-- The object that an operation gives a class to. -/
def Operation.initialized? : Operation → Option ObjectId
  | .initObject object _ => some object
  | _ => none

namespace Machine

variable {machine : Machine} {object id : ObjectId} {classId : ClassId} {base : Roots}
variable {operation : Operation} {operations : List Operation}

/-! ### Machines after any commands -/

/-- Classes can be added, and the heap knows what is on it. -/
structure Orderly (machine : Machine) : Prop where
  made : machine.classes.Made
  rootClass_lt : machine.rootClass < machine.classes.size
  consistent : machine.heap.Consistent

theorem Orderly.arrayOf (h : machine.Orderly) (element : ClassId) :
    (machine.arrayOf element).2.Orderly where
  made := h.made.arrayOf h.rootClass_lt element
  rootClass_lt := Nat.lt_of_lt_of_le h.rootClass_lt
    (Hierarchy.extends_arrayOf machine.classes machine.rootClass element).size_le
  consistent := h.consistent

theorem consistent_step (h : machine.heap.Consistent) (step : Step) :
    (machine.step step).2.heap.Consistent := by
  have hevolves : (machine.step step).2.EvolvesFrom machine.heap := EvolvesFrom.step .refl step
  exact hevolves.induction Heap.Consistent (fun _ _ operation hheap => hheap.perform operation) h

theorem Orderly.step (h : machine.Orderly) (step : Step) : (machine.step step).2.Orderly := by
  obtain ⟨hclasses, htable⟩ := machine.sameClasses_step step
  have hprepared : (machine.prepared step).Orderly :=
    prepared_induction Orderly (fun _ element hmid => hmid.arrayOf element) h step
  constructor
  · rw [hclasses]
    exact hprepared.made
  · rw [rootClass, htable, hclasses]
    exact hprepared.rootClass_lt
  · exact consistent_step h.consistent step

theorem Orderly.obey (h : machine.Orderly) (command : Command) :
    (machine.obey command).Orderly := by
  cases command with
  | build blueprint =>
    rcases machine.obey_build blueprint with hsame | ⟨id, classes, hresult, hbuilt⟩
    · rwa [hsame]
    · have hgrown := (h.made.wellFormed.build hresult).grown
      rw [hbuilt]
      exact ⟨h.made.build hresult, Nat.lt_of_lt_of_le h.rootClass_lt hgrown.size_le, h.consistent⟩
  | register id => exact ⟨h.made, h.rootClass_lt, h.consistent⟩
  | step step => exact h.step step

theorem ReachedByAny.orderly (h : machine.ReachedByAny) : machine.Orderly := by
  induction h with
  | new hclasses hcore hnew =>
    have hinShape := inShape_new hclasses hcore hnew
    exact ⟨hinShape.made, hinShape.rootClass_lt, hinShape.consistent⟩
  | obey command _ ih => exact ih.obey command

/-! ### An object that is held -/

theorem classId?_withHeap {heap : Heap Storage}
    (h : heap.get? object = machine.heap.get? object) :
    { machine with heap }.classId? (some object) = machine.classId? (some object) := by
  rw [classId?, storage?, Option.bind_some, Heap.data?, h]
  rfl

/-- An object with its class, held by the shadow stack of an earlier moment, on top of which nothing
    but slots was put since.  The construction of an array opens and closes its frames up there. -/
structure Gripped (base : Roots) (object : ObjectId) (classId : ClassId) (machine : Machine) :
    Prop where
  held : .operand (some object) ∈ base.shadow.slots
  above : base.Above machine.heap.roots
  consistent : machine.heap.Consistent
  classId?_eq : machine.classId? (some object) = some classId

theorem Gripped.mem_rootRefs (h : machine.Gripped base object classId) :
    some object ∈ machine.heap.rootRefs := by
  obtain ⟨pushed, hslots⟩ := h.above.slots_eq
  apply Heap.mem_rootRefs_iff.2
  right
  refine ⟨.operand (some object), ?_, rfl⟩
  rw [hslots]
  exact List.mem_append_right pushed h.held

theorem Gripped.collect (h : machine.Gripped base object classId) :
    machine.collect.2.Gripped base object classId where
  held := h.held
  above := h.above
  consistent := h.consistent.collect
  classId?_eq := by
    have hinUse : machine.heap.InUse machine.classes.objectModel object := .root h.mem_rootRefs
    have hkept := Heap.get?_collect_of_inUse h.consistent hinUse
    exact (classId?_withHeap hkept).trans h.classId?_eq

theorem Gripped.updateStorage (h : machine.Gripped base object classId) (hne : object ≠ id)
    (change : Storage → Storage) :
    (machine.updateStorage id change).Gripped base object classId where
  held := h.held
  above := h.above
  consistent := h.consistent.modifyData id change
  classId?_eq := (classId?_updateStorage_of_ne hne change).trans h.classId?_eq

/-! ### New objects -/

theorem gripped_allocate (bytes : Nat) :
    Action.Preserves (Gripped base object classId) (allocate bytes) := by
  intro machine h
  have hinUse : machine.heap.InUse machine.classes.objectModel object := .root h.mem_rootRefs
  have hkept : (machine.heap.allocate machine.classes.objectModel bytes).2.get? object =
      machine.heap.get? object :=
    Heap.get?_allocate_of_inUse h.consistent hinUse (isSome_get?_of_classId? h.classId?_eq)
  rw [allocate, run_onHeap]
  refine ⟨h.held, ?_, (Heap.supplies _ h.consistent bytes).consistent, ?_⟩
  · rw [(Heap.roots_allocate ..).1]
    exact h.above
  · exact (classId?_withHeap hkept).trans h.classId?_eq

/-- New storage has a name of its own. -/
theorem ne_of_allocate (h : machine.Gripped base object classId) {bytes : Nat}
    (hid : ((allocate bytes).run machine).1 = .ok id) : object ≠ id := by
  have hlt : object < machine.heap.store.issued :=
    Store.lt_issued_of_isSome (isSome_get?_of_classId? h.classId?_eq)
  have hissued : machine.heap.store.issued ≤ id :=
    ((Heap.supplies _ h.consistent bytes).placed id (placed_of_allocate hid)).1
  exact Nat.ne_of_lt (Nat.lt_of_lt_of_le hlt hissued)

theorem gripped_allocateAs (bytes : Nat) (change : Storage → Storage) :
    Action.Preserves (Gripped base object classId) (allocateAs bytes change) := by
  intro machine h
  have hallocate := gripped_allocate bytes machine h
  rw [run_allocateAs]
  rcases hrun : (allocate bytes).run machine with ⟨error | id, made⟩
  · rw [hrun] at hallocate
    exact hallocate
  · have hid : ((allocate bytes).run machine).1 = .ok id := by rw [hrun]
    rw [hrun] at hallocate
    exact hallocate.updateStorage (ne_of_allocate h hid) change

theorem Gripped.newObject (h : machine.Gripped base object classId) (made : ClassId) :
    ((newObject made).run machine).2.Gripped base object classId :=
  preserves_newObject (fun bytes => gripped_allocateAs bytes _) machine h

theorem survivesFilling_gripped : SurvivesFilling (Gripped base object classId) where
  push ref machine h := by
    have habove := (survivesFilling_above base).push ref machine h.above
    obtain ⟨roots, hheap⟩ := machine.heap.exists_updateRoots
      ((machine.heap.roots.shadow.push (.operand ref)).map
        ({ machine.heap.roots with shadow := · }))
    rw [pushOperand, run_onHeap, Heap.pushOperand, hheap] at habove ⊢
    exact ⟨h.held, habove, h.consistent.of_eq rfl rfl rfl rfl, h.classId?_eq⟩
  storeInner machine h outer index table inner := by
    refine ⟨h.held, (survivesFilling_above base).storeInner machine h.above outer index table inner,
      ?_, (classId?_storeInner ..).trans h.classId?_eq⟩
    unfold storeInner
    split
    · exact h.consistent.modifyData ..
    · exact h.consistent
  close opened left hopened hleft := by
    have habove := (survivesFilling_above base).close opened left hopened.above hleft.above
    obtain ⟨roots, hheap⟩ := left.heap.exists_updateRoots
      ((left.heap.roots.shadow.closeFrame opened.openFrame).map
        ({ left.heap.roots with shadow := · }))
    rw [closeFrame, run_onHeap, Heap.closeFrame, hheap] at habove ⊢
    exact ⟨hleft.held, habove, hleft.consistent.of_eq rfl rfl rfl rfl, hleft.classId?_eq⟩

theorem Gripped.newArray (h : machine.Gripped base object classId) (kind : Kind)
    (element : Option ClassId) (dimensions : List Int) :
    ((newArray kind element dimensions).run machine).2.Gripped base object classId := by
  rw [run_newArray]
  rcases hplan : machine.planArray kind element dimensions with
    error | ⟨⟨outermost, inner⟩, planned⟩
  · exact h
  · apply survivesFilling_gripped.preserves_allocateLevels
    · intro each _
      exact preserves_allocateFlat fun bytes _ => gripped_allocateAs bytes _
    · rw [eq_withClasses_planArray hplan]
      exact ⟨h.held, h.above, h.consistent, h.classId?_eq⟩

/-! ### Sessions of operations -/

/-- An object that is held is still there after an operation, and it has the class that it had. -/
theorem Gripped.classId?_step (h : machine.Gripped base object classId)
    (hclasses : machine.classes.WellFormed) (hother : operation.initialized? ≠ some object) :
    (machine.step (.operation operation)).2.classId? (some object) = some classId := by
  have hroots : ∀ {heap : Heap Storage}, (∃ roots, heap = { machine.heap with roots }) →
      { machine with heap }.classId? (some object) = some classId := by
    rintro heap ⟨roots, rfl⟩
    exact h.classId?_eq
  rw [step_operation]
  cases operation with
  | allocate bytes =>
    rw [perform, run_replying]
    exact (gripped_allocate bytes machine h).classId?_eq
  | newObject made =>
    rw [perform, run_replying]
    exact (h.newObject made).classId?_eq
  | newArray kind element dimensions =>
    rw [perform, run_replying]
    exact (h.newArray kind element dimensions).classId?_eq
  | initObject id made =>
    have hne : object ≠ id := fun hsame => hother (congrArg some hsame.symm)
    exact (h.updateStorage hne _).classId?_eq
  | collect => exact h.collect.classId?_eq
  | pushOperand ref =>
    rw [perform, run_replying]
    exact hroots (machine.heap.exists_updateRoots _)
  | popOperand =>
    rw [perform, run_replying]
    exact hroots machine.heap.exists_popOperand
  | registerLocal cell =>
    rw [perform, run_replying]
    exact hroots (machine.heap.exists_updateRoots _)
  | addStaticRoot cell =>
    rw [perform, run_replying]
    exact hroots (machine.heap.exists_updateRoots _)
  | closeFrame mark =>
    rw [perform, run_replying]
    exact hroots (machine.heap.exists_updateRoots _)
  | setField target owner index slot =>
    apply storing_cases (fun after => after.classId? (some object) = some classId) h.classId?_eq
    intro after hset
    rw [classId?_of_setField? hclasses hset]
    exact h.classId?_eq
  | setElement array kind index value =>
    apply storing_cases (fun after => after.classId? (some object) = some classId) h.classId?_eq
    intro after hset
    rw [classId?_of_setElement? hset]
    exact h.classId?_eq
  | _ => exact h.classId?_eq

def session (operations : List Operation) : List Command :=
  operations.map fun operation => .step (.operation operation)

theorem session_concat (operations : List Operation) (operation : Operation) :
    session (operations ++ [operation]) = session operations ++ [.step (.operation operation)] :=
  List.map_append

/-- An object is a root, it is on the heap, and it has a certain class.  A name is not given out
    twice, so what is on the heap before and after an operation was not freed by any collection in
    between. -/
structure Sheltered (machine : Machine) (object : ObjectId) (classId : ClassId) : Prop where
  rooted : some object ∈ machine.heap.rootRefs
  listed : object ∈ machine.heap.order
  classId?_eq : machine.classId? (some object) = some classId

theorem Gripped.sheltered (h : machine.Gripped base object classId) :
    machine.Sheltered object classId where
  rooted := h.mem_rootRefs
  listed := (h.consistent.mem_order_iff object).2 (isSome_get?_of_classId? h.classId?_eq)
  classId?_eq := h.classId?_eq

/-- A machine in order with an object on its shadow stack. -/
structure Holding (machine : Machine) (object : ObjectId) (classId : ClassId) : Prop where
  orderly : machine.Orderly
  held : .operand (some object) ∈ machine.stack
  classId?_eq : machine.classId? (some object) = some classId

theorem Holding.gripped (h : machine.Holding object classId) :
    machine.Gripped machine.heap.roots object classId where
  held := List.mem_reverse.1 h.held
  above := .refl _
  consistent := h.orderly.consistent
  classId?_eq := h.classId?_eq

/-- The object is held as long as the shadow stack does not fall below it. -/
theorem Holding.session (h : machine.Holding object classId)
    (hstays : machine.StaysAbove machine.openFrame (session operations))
    (hothers : ∀ operation ∈ operations, operation.initialized? ≠ some object) :
    (machine.obeyAll (Machine.session operations)).Holding object classId := by
  induction operations using List.reverseRecOn with
  | nil => exact h
  | append_singleton operations operation ih =>
    have hprefix := stack_prefix hstays
    rw [session_concat] at hstays hprefix ⊢
    have hmid := ih hstays.of_concat fun each heach =>
      hothers each (List.mem_append_left _ heach)
    have hother := hothers operation (List.mem_append_right _ (.head _))
    rw [obeyAll_concat] at hprefix ⊢
    constructor
    · exact hmid.orderly.step _
    · exact hprefix.subset h.held
    · exact hmid.gripped.classId?_step hmid.orderly.made.wellFormed hother

end Machine

end ManagedRuntime
