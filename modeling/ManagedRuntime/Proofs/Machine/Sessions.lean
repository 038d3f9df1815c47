/-
  Sessions
  ========
  Everything that is done to a machine once it is set up: classes are built and registered, and
  steps are carried out, in any order.  Refused blueprints and failed steps are part of a session.

  A step adds classes only where it asks for arrays, and it adds them before it turns to the heap
  (`Machine.prepared`); beyond that it changes the heap alone (`Machine.sameClasses_step`).
-/
import ManagedRuntime.Proofs.Machine.Plans
import ManagedRuntime.Proofs.Machine.Preservation
import ManagedRuntime.Proofs.Machine.Steps

namespace ManagedRuntime

namespace Machine

inductive Command where
  | build (blueprint : Blueprint)
  | register (id : ClassId)
  | step (step : Step)

/-- The machine that a command leaves.  A refused blueprint leaves everything as it is. -/
def obey (machine : Machine) : Command → Machine
  | .build blueprint =>
    match machine.build blueprint with
    | .ok (_, after) => after
    | .error _ => machine
  | .register id => machine.register id
  | .step step => (machine.step step).2

def obeyAll (machine : Machine) (commands : List Command) : Machine :=
  commands.foldl obey machine

variable {machine : Machine}

theorem obeyAll_append (machine : Machine) (first rest : List Command) :
    machine.obeyAll (first ++ rest) = (machine.obeyAll first).obeyAll rest :=
  List.foldl_append

theorem obeyAll_concat (machine : Machine) (commands : List Command) (command : Command) :
    machine.obeyAll (commands ++ [command]) = (machine.obeyAll commands).obey command := by
  rw [obeyAll_append]
  rfl

theorem obey_build (machine : Machine) (blueprint : Blueprint) :
    machine.obey (.build blueprint) = machine ∨
      ∃ id classes, machine.classes.build blueprint = .ok (id, classes) ∧
        machine.obey (.build blueprint) = machine.withClasses classes := by
  simp only [obey, build]
  rcases machine.classes.build blueprint with error | ⟨id, classes⟩
  · exact .inl rfl
  · exact .inr ⟨id, classes, rfl, rfl⟩

/-- Every command of a session is allowed on the machine that those before it left. -/
def Along (allowed : Machine → Command → Prop) (machine : Machine) : List Command → Prop
  | [] => True
  | command :: commands => allowed machine command ∧ Along allowed (machine.obey command) commands

/-- What allowed commands keep holds after a session of them. -/
theorem Along.induction {allowed : Machine → Command → Prop} (inv : Machine → Prop)
    (hobey : ∀ machine command, inv machine → allowed machine command → inv (machine.obey command))
    {commands : List Command} (hcommands : Along allowed machine commands) (h : inv machine) :
    inv (machine.obeyAll commands) := by
  induction commands generalizing machine with
  | nil => exact h
  | cons command commands ih => exact ih hcommands.2 (hobey machine command h hcommands.1)

theorem Along.split {allowed : Machine → Command → Prop} {first rest : List Command}
    (h : Along allowed machine (first ++ rest)) :
    Along allowed machine first ∧ Along allowed (machine.obeyAll first) rest := by
  induction first generalizing machine with
  | nil => exact ⟨trivial, h⟩
  | cons command commands ih =>
    obtain ⟨hfirst, hrest⟩ := ih h.2
    exact ⟨⟨h.1, hfirst⟩, hrest⟩

/-! ### Classes -/

/-- The machine with the classes that a step needs. -/
def prepared (machine : Machine) : Step → Machine
  | .operation (.arrayOf element) => (machine.arrayOf element).2
  | .operation (.newArray kind element dimensions) =>
    match machine.planArray kind element dimensions with
    | .ok (_, planned) => planned
    | .error _ => machine
  | _ => machine

theorem prepared_induction (inv : Machine → Prop)
    (harrayOf : ∀ machine element, inv machine → inv (machine.arrayOf element).2)
    (h : inv machine) (step : Step) : inv (machine.prepared step) := by
  unfold prepared
  split
  · exact harrayOf machine _ h
  · split
    · rename_i hplan
      exact planArray_induction inv harrayOf h hplan
    · exact h
  · exact h

theorem eq_withClasses_prepared (machine : Machine) (step : Step) :
    machine.prepared step = machine.withClasses (machine.prepared step).classes := by
  apply prepared_induction (fun after => after = machine.withClasses after.classes)
  · intro mid element hmid
    exact congrArg (·.withClasses (mid.arrayOf element).2.classes) hmid
  · rfl

theorem extends_prepared (machine : Machine) (step : Step) :
    machine.classes.Extends (machine.prepared step).classes := by
  apply prepared_induction (fun after => machine.classes.Extends after.classes)
  · intro mid element hmid
    exact hmid.trans (Hierarchy.extends_arrayOf mid.classes mid.rootClass element)
  · exact .refl _

/-- One machine differs from another in its heap only. -/
def SameClasses (base machine : Machine) : Prop :=
  machine.classes = base.classes ∧ machine.table = base.table

variable {base : Machine}

theorem survivesFilling_sameClasses (base : Machine) : SurvivesFilling base.SameClasses where
  push _ _ h := h
  storeInner machine h outer index table inner := by
    unfold storeInner
    split
    · exact h
    · exact h
  close _ _ _ h := h

theorem sameClasses_allocateAs (bytes : Nat) (change : Storage → Storage) :
    Action.Preserves base.SameClasses (allocateAs bytes change) :=
  preserves_allocateAs (fun _ h => h) fun _ h _ => h

theorem sameClasses_newArray {kind : Kind} {element : Option ClassId} {dimensions : List Int} :
    (machine.prepared (.operation (.newArray kind element dimensions))).SameClasses
      ((newArray kind element dimensions).run machine).2 := by
  rw [run_newArray, prepared]
  rcases hplan : machine.planArray kind element dimensions with
    error | ⟨⟨outermost, inner⟩, planned⟩
  · exact ⟨rfl, rfl⟩
  · apply (survivesFilling_sameClasses planned).preserves_allocateLevels
    · intro each _
      exact preserves_allocateFlat fun _ _ => sameClasses_allocateAs _ _
    · exact ⟨rfl, rfl⟩

theorem sameClasses_newObject (machine : Machine) (classId : ClassId) :
    machine.SameClasses ((newObject classId).run machine).2 :=
  preserves_newObject (fun _ => sameClasses_allocateAs _ _) machine ⟨rfl, rfl⟩

theorem sameClasses_replying {β : Type} {reply : β → Reply} {action : Action β}
    (haction : base.SameClasses (action.run machine).2) :
    base.SameClasses ((replying reply action).run machine).2 := by
  rw [run_replying]
  exact haction

theorem sameClasses_setField? {after : Machine} {object : Ref} {owner : ClassId} {index : Nat}
    {slot : ReferenceSlot} (hset : machine.setField? object owner index slot = some after) :
    machine.SameClasses after := by
  obtain ⟨id, storage, offset, -, -, -, rfl⟩ := exists_of_setField? hset
  exact ⟨rfl, rfl⟩

theorem sameClasses_setElement? {after : Machine} {array : Ref} {kind : Kind} {index : Int}
    {value : kind.Value} (hset : machine.setElement? array kind index value = some after) :
    machine.SameClasses after := by
  obtain ⟨id, storage, offset, -, -, -, rfl⟩ := exists_of_setElement? hset
  exact ⟨rfl, rfl⟩

/-- Beyond the classes that it asks for, a step changes the heap only. -/
theorem sameClasses_step (machine : Machine) (step : Step) :
    (machine.prepared step).SameClasses (machine.step step).2 := by
  cases step with
  | operation operation =>
    change SameClasses _ ((perform operation).run machine).2
    cases operation with
    | allocate bytes => exact sameClasses_replying ⟨rfl, rfl⟩
    | newObject classId => exact sameClasses_replying (machine.sameClasses_newObject classId)
    | newArray kind element dimensions => exact sameClasses_replying sameClasses_newArray
    | pushOperand ref => exact sameClasses_replying ⟨rfl, rfl⟩
    | popOperand => exact sameClasses_replying ⟨rfl, rfl⟩
    | registerLocal cell => exact sameClasses_replying ⟨rfl, rfl⟩
    | addStaticRoot cell => exact sameClasses_replying ⟨rfl, rfl⟩
    | closeFrame mark => exact sameClasses_replying ⟨rfl, rfl⟩
    | setField object owner index slot =>
      exact storing_cases machine.SameClasses ⟨rfl, rfl⟩ fun _ hset => sameClasses_setField? hset
    | setElement array kind index value =>
      exact storing_cases machine.SameClasses ⟨rfl, rfl⟩ fun _ hset => sameClasses_setElement? hset
    | _ => exact ⟨rfl, rfl⟩
  | check check =>
    exact test_cases machine.SameClasses ⟨rfl, rfl⟩ machine.sameClasses_newObject check

end Machine

end ManagedRuntime
