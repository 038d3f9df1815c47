/-
  The heap under a machine
  ========================
  Whatever a machine does, to its heap it does a sequence of heap operations (`Heap.Evolves`).  The
  classes that exist say where references are found, so they can differ from one operation to the
  next; it is always the same heap.

  So an invariant that each heap operation keeps, whatever the objects are, holds of the heap of
  every machine that comes about, if it holds of an empty one (`Machine.ReachedByAny.evolves`).  The
  books within a hard limit are such an invariant.
-/
import ManagedRuntime.Proofs.Heap.Accounting
import ManagedRuntime.Proofs.Machine.RootMoves
import ManagedRuntime.Proofs.Machine.Visibility

namespace ManagedRuntime

namespace Heap

variable {α : Type} {model : ObjectModel α} {start heap after : Heap α}

/-- One heap comes from another by heap operations, whichever models of objects they go by. -/
inductive Evolves (start : Heap α) : Heap α → Prop where
  | refl : Evolves start start
  | perform {heap : Heap α} (model : ObjectModel α) (operation : HeapOperation α) :
      Evolves start heap → Evolves start (heap.perform model operation)

theorem Evolves.induction (inv : Heap α → Prop)
    (hperform : ∀ heap model operation, inv heap → inv (heap.perform model operation))
    (hevolves : start.Evolves after) (h : inv start) : inv after := by
  induction hevolves with
  | refl => exact h
  | perform model operation _ ih => exact hperform _ model operation ih

theorem hard_allocate (model : ObjectModel α) (heap : Heap α) (size : Nat) :
    (heap.allocate model size).2.limits.hard = heap.limits.hard := by
  rw [allocate]
  cases totalSize? size with
  | none => rfl
  | some total =>
    have hroomy := hard_makeRoom model heap total
    dsimp only
    split
    · rfl
    split
    · exact hroomy
    · rw [place]
      split
      · exact hroomy
      split
      · exact hroomy
      · exact hroomy

/-- No operation moves the hard limit. -/
theorem hard_perform (model : ObjectModel α) (heap : Heap α) (operation : HeapOperation α) :
    (heap.perform model operation).limits.hard = heap.limits.hard := by
  obtain ⟨size, rfl⟩ | rfl | ⟨object, change, rfl⟩ | ⟨-, -, roots, cells, heq⟩ :=
    perform_cases model heap operation
  · exact hard_allocate model heap size
  · rfl
  · rfl
  · rw [heq]

/-- A heap that comes from an empty one has its books within the hard limit. -/
theorem Evolves.accounted {config : HeapConfig} {system : SystemMemory} {cells : Cells}
    {issued : Nat} (h : (empty config system cells issued : Heap α).Evolves heap)
    (hhard : heap.limits.hard < wordLimit - 1) : heap.Accounted heap.limits.hard := by
  refine h.induction (fun heap => heap.limits.hard < wordLimit - 1 →
    heap.Accounted heap.limits.hard) ?_ (fun _ => accounted_empty config system cells issued) hhard
  intro heap model operation hheap hhard
  rw [hard_perform] at hhard ⊢
  exact (hheap hhard).perform hhard operation

end Heap

namespace Machine

variable {machine after : Machine} {start : Heap Storage}

/-! ### Operations of a machine -/

/-- The heap of the machine comes from a certain one. -/
def EvolvesFrom (start : Heap Storage) (machine : Machine) : Prop :=
  start.Evolves machine.heap

theorem EvolvesFrom.perform (h : machine.EvolvesFrom start)
    (operation : HeapOperation Storage) :
    start.Evolves (machine.heap.perform machine.classes.objectModel operation) :=
  Heap.Evolves.perform machine.classes.objectModel operation h

theorem evolves_allocate (bytes : Nat) : Action.Preserves (EvolvesFrom start) (allocate bytes) :=
  fun _ h => h.perform (.allocate bytes)

theorem EvolvesFrom.updateStorage (h : machine.EvolvesFrom start) (id : ObjectId)
    (change : Storage → Storage) : (machine.updateStorage id change).EvolvesFrom start :=
  h.perform (.store id change)

theorem evolves_allocateAs (bytes : Nat) (change : Storage → Storage) :
    Action.Preserves (EvolvesFrom start) (allocateAs bytes change) :=
  preserves_allocateAs (evolves_allocate bytes) fun _ h id => h.updateStorage id change

theorem survivesFilling_evolves (start : Heap Storage) : SurvivesFilling (EvolvesFrom start) where
  push ref _ h := h.perform (.pushOperand ref)
  storeInner machine h outer index table inner := by
    unfold storeInner
    split
    · exact h.updateStorage outer _
    · exact h
  close opened _ _ h := h.perform (.closeFrame opened.openFrame)

theorem EvolvesFrom.newArray (h : machine.EvolvesFrom start) (kind : Kind)
    (element : Option ClassId) (dimensions : List Int) :
    ((newArray kind element dimensions).run machine).2.EvolvesFrom start := by
  rw [run_newArray]
  rcases hplan : machine.planArray kind element dimensions with
    error | ⟨⟨outermost, inner⟩, planned⟩
  · exact h
  · apply (survivesFilling_evolves start).preserves_allocateLevels
    · intro each _
      exact preserves_allocateFlat fun bytes _ => evolves_allocateAs bytes _
    · rw [eq_withClasses_planArray hplan]
      exact h

theorem EvolvesFrom.newObject (h : machine.EvolvesFrom start) (classId : ClassId) :
    ((newObject classId).run machine).2.EvolvesFrom start :=
  preserves_newObject (fun bytes => evolves_allocateAs bytes _) machine h

/-- A step does heap operations to the heap and nothing else. -/
theorem EvolvesFrom.step (h : machine.EvolvesFrom start) (step : Step) :
    (machine.step step).2.EvolvesFrom start := by
  cases step with
  | operation operation =>
    change ((Machine.perform operation).run machine).2.EvolvesFrom start
    cases operation with
    | allocate bytes =>
      rw [Machine.perform, run_replying]
      exact h.perform (.allocate bytes)
    | newObject classId =>
      rw [Machine.perform, run_replying]
      exact h.newObject classId
    | newArray kind element dimensions =>
      rw [Machine.perform, run_replying]
      exact h.newArray kind element dimensions
    | initObject object classId => exact h.updateStorage object _
    | collect => exact h.perform .collect
    | arrayOf element => exact h
    | pushOperand ref =>
      rw [Machine.perform, run_replying]
      exact h.perform (.pushOperand ref)
    | popOperand =>
      rw [Machine.perform, run_replying]
      exact h.perform .popOperand
    | registerLocal cell =>
      rw [Machine.perform, run_replying]
      exact h.perform (.registerLocal cell)
    | addStaticRoot cell =>
      rw [Machine.perform, run_replying]
      exact h.perform (.addStaticRoot cell)
    | openFrame => exact h
    | closeFrame mark =>
      rw [Machine.perform, run_replying]
      exact h.perform (.closeFrame mark)
    | writeCell cell ref => exact h.perform (.writeCell cell ref)
    | getField object owner index => exact h
    | setField object owner index slot =>
      apply storing_cases (EvolvesFrom start) h
      intro after hset
      obtain ⟨id, storage, offset, -, -, -, rfl⟩ := exists_of_setField? hset
      exact h.updateStorage id _
    | getElement array kind index => exact h
    | setElement array kind index value =>
      apply storing_cases (EvolvesFrom start) h
      intro after hset
      obtain ⟨id, storage, offset, -, -, -, rfl⟩ := exists_of_setElement? hset
      exact h.updateStorage id _
  | check check =>
    exact test_cases (EvolvesFrom start) h h.newObject check

/-! ### Machines reached by any commands -/

/-- The machines reached from a new one by any commands whatever, those included that give a
    class to storage that has one already or is too small for it. -/
inductive ReachedByAny : Machine → Prop where
  | new {config : HeapConfig} {system : SystemMemory} {cells : Cells} {issued : Nat}
      {core : CoreClasses} {classes : Hierarchy} {machine : Machine} :
      classes.Made → core.object < classes.size →
      Machine.new config system cells issued core classes = .ok machine → ReachedByAny machine
  | obey {machine : Machine} (command : Command) :
      ReachedByAny machine → ReachedByAny (machine.obey command)

theorem ReachedByAny.obeyAll (h : machine.ReachedByAny) (commands : List Command) :
    (machine.obeyAll commands).ReachedByAny := by
  induction commands generalizing machine with
  | nil => exact h
  | cons command commands ih => exact ih (h.obey command)

/-- The permitted commands are some of all. -/
theorem ReachedByPermitted.byAny (h : machine.ReachedByPermitted) : machine.ReachedByAny := by
  induction h with
  | new hclasses hcore hnew => exact .new hclasses hcore hnew
  | @build machine after blueprint id _ hbuild ih =>
    have hobey := ih.obey (.build blueprint)
    rwa [obey, hbuild] at hobey
  | register id _ ih => exact ih.obey (.register id)
  | step step _ _ ih => exact ih.obey (.step step)

theorem EvolvesFrom.obey (h : machine.EvolvesFrom start) (command : Command) :
    (machine.obey command).EvolvesFrom start := by
  cases command with
  | build blueprint =>
    rcases machine.obey_build blueprint with hsame | ⟨id, classes, -, hbuilt⟩
    · rwa [hsame]
    · rw [hbuilt]
      exact h
  | register id => exact h
  | step step => exact h.step step

/-- The heap of a machine comes from an empty one. -/
theorem ReachedByAny.evolves (h : machine.ReachedByAny) :
    ∃ config system cells issued, machine.EvolvesFrom (.empty config system cells issued) := by
  induction h with
  | @new config system cells issued _ _ _ _ _ hnew =>
    obtain rfl := eq_ofHeap_of_new hnew
    exact ⟨config, system, cells, issued, .refl⟩
  | obey command _ ih =>
    obtain ⟨config, system, cells, issued, hevolves⟩ := ih
    exact ⟨config, system, cells, issued, hevolves.obey command⟩

theorem ReachedByAny.accounted (h : machine.ReachedByAny)
    (hhard : machine.heap.limits.hard < wordLimit - 1) :
    machine.heap.Accounted machine.heap.limits.hard := by
  obtain ⟨config, system, cells, issued, hevolves⟩ := h.evolves
  exact Heap.Evolves.accounted hevolves hhard

/-- The shadow stack keeps to its capacity. -/
theorem ReachedByAny.depth_le (h : machine.ReachedByAny) :
    machine.heap.roots.shadow.depth ≤ machine.heap.roots.shadow.capacity := by
  induction h with
  | new _ _ hnew =>
    obtain rfl := eq_ofHeap_of_new hnew
    exact Nat.zero_le _
  | @obey machine command _ ih => exact (machine.moves_obey command).depth_le ih

end Machine

end ManagedRuntime
