/-
  Steps on twins
  ==============
  A step is answered alike on twins and leaves twins (`Twins.alike_step`), as long as the
  references that the program hands over are reached or were got last.  The counts of
  an explicit collection may differ in what it freed, but not in what it left.
-/
import ManagedRuntime.Proofs.Machine.Steps
import ManagedRuntime.Proofs.Machine.TwinArrays

namespace ManagedRuntime

/-! ### Operations on the roots -/

namespace Heap

variable {α β : Type}

/-- An operation reads nothing of a heap but its roots, and changes nothing else. -/
def ActsOnRoots (operation : Heap α → Except RootError β × Heap α) : Prop :=
  ∀ heap other : Heap α, other.roots = heap.roots →
    operation other = ((operation heap).1, { other with roots := (operation heap).2.roots })

theorem actsOnRoots_updateRoots (result : Roots → Except RootError Roots) :
    ActsOnRoots fun heap : Heap α => heap.updateRoots (result heap.roots) := by
  intro heap other hroots
  dsimp only
  rw [hroots]
  cases result heap.roots with
  | ok roots => rfl
  | error error =>
    dsimp only [updateRoots]
    rw [← hroots]

theorem actsOnRoots_closeFrame (mark : Nat) :
    ActsOnRoots fun heap : Heap α => heap.closeFrame mark :=
  actsOnRoots_updateRoots fun roots =>
    (roots.shadow.closeFrame mark).map ({ roots with shadow := · })

theorem actsOnRoots_pushOperand (ref : Ref) :
    ActsOnRoots fun heap : Heap α => heap.pushOperand ref :=
  actsOnRoots_updateRoots fun roots =>
    (roots.shadow.push (.operand ref)).map ({ roots with shadow := · })

theorem actsOnRoots_registerLocal (cell : CellId) :
    ActsOnRoots fun heap : Heap α => heap.registerLocal cell :=
  actsOnRoots_updateRoots fun roots =>
    (roots.shadow.push (.localCell cell)).map ({ roots with shadow := · })

theorem actsOnRoots_addStaticRoot (cell : CellId) :
    ActsOnRoots fun heap : Heap α => heap.addStaticRoot cell :=
  actsOnRoots_updateRoots fun roots => (roots.statics.add cell).map ({ roots with statics := · })

theorem actsOnRoots_popOperand : ActsOnRoots (popOperand : Heap α → _) := by
  intro heap other hroots
  unfold popOperand
  rw [hroots]
  cases heap.roots.shadow.pop with
  | ok popped => rfl
  | error error =>
    dsimp only
    rw [← hroots]

end Heap

/-! ### Answers -/

/-- Replies are the same, but collections may have freed different objects. -/
inductive Reply.Alike : Reply → Reply → Prop where
  | same (reply : Reply) : Alike reply reply
  | collected {first second : Collection} (remaining_eq : second.remaining = first.remaining)
    (heap_eq : second.heap = first.heap) : Alike (.collected first) (.collected second)

/-- A program cannot tell the answers apart. -/
inductive AnswersAlike : Except Failure Reply → Except Failure Reply → Prop where
  | reply {first second : Reply} (alike : first.Alike second) :
    AnswersAlike (.ok first) (.ok second)
  | failure (failure : Failure) : AnswersAlike (.error failure) (.error failure)

theorem AnswersAlike.refl (answer : Except Failure Reply) : AnswersAlike answer answer := by
  cases answer with
  | error failure => exact .failure failure
  | ok reply => exact .reply (.same reply)

/-- The object that an answer hands to the program. -/
def handed : Except Failure Reply → List Ref
  | .ok (.reference ref) => [ref]
  | .error (.exception id) => [some id]
  | _ => []

namespace Machine

variable {first second left right : Machine} {hard : Nat} {grip : List Ref} {id : ObjectId}
variable {step : Step}

/-- What the program has in hand after a step.  A new object replaces what it had, and a
    collection that makes none leaves nothing. -/
def gripAfter (machine : Machine) (grip : List Ref) (step : Step) : List Ref :=
  if machine.Quiet (machine.step step).2 then grip else handed (machine.step step).1

/-- A step has been answered alike and left twins. -/
structure StepsAlike (hard : Nat) (grip : List Ref) (first second : Machine) (step : Step) :
    Prop where
  answers : AnswersAlike (first.step step).1 (second.step step).1
  twins : Twins hard (first.gripAfter grip step) (first.step step).2 (second.step step).2

/-- A step that makes no object and collects nothing leaves in hand what was there. -/
theorem StepsAlike.of_quiet (hquiet : first.Quiet (first.step step).2)
    (hanswer : (second.step step).1 = (first.step step).1)
    (htwins : Twins hard grip (first.step step).2 (second.step step).2) :
    StepsAlike hard grip first second step where
  answers := by
    rw [hanswer]
    exact .refl _
  twins := by
    rw [gripAfter, if_pos hquiet]
    exact htwins

/-! ### Steps that make objects -/

/-- After a quiet action everything is as it was, and otherwise its result is in hand. -/
theorem InStep.twins_after {left right : Except RuntimeError ObjectId × Machine}
    (h : InStep hard first second left right) (htwins : Twins hard grip first second) :
    Twins hard (if first.Quiet left.2 then grip else Heap.made left.1) left.2 right.2 := by
  by_cases hquiet : first.Quiet left.2
  · obtain ⟨hleft, hright⟩ := h.still hquiet
    rw [if_pos hquiet, hleft, hright]
    exact htwins
  · rw [if_neg hquiet]
    exact h.twins

/-- Classes may be added before the object is made. -/
theorem Twins.alike_of_makes {action : Action ObjectId} {operation : Operation}
    (h : Twins hard grip first second)
    (hperform : perform operation = replying (.reference ∘ some) action)
    (hmakes : ∃ classes, classes.WellFormed ∧ first.classes.Extends classes ∧
      InStep hard (first.withClasses classes) (second.withClasses classes) (action.run first)
        (action.run second)) :
    StepsAlike hard grip first second (.operation operation) := by
  obtain ⟨classes, hclasses, hgrown, hstep⟩ := hmakes
  have hafter := hstep.twins_after (h.grow hclasses hgrown)
  have hgrip : first.gripAfter grip (.operation operation) =
      if (first.withClasses classes).Quiet (action.run first).2 then grip
      else Heap.made (action.run first).1 := by
    rw [gripAfter, step_operation, hperform, run_replying]
    rcases (action.run first).1 with error | id
    · rfl
    · rfl
  constructor
  · rw [step_operation, step_operation, hperform, run_replying, run_replying, hstep.result_eq]
    exact .refl _
  · rw [hgrip, step_operation, step_operation, hperform, run_replying, run_replying]
    exact hafter

/-- A check that makes no object is answered alike. -/
theorem Twins.alike_of_answer (h : Twins hard grip first second) {check : Check}
    {answer : Except Failure Unit} (hfirst : first.test check = (answer, first))
    (hsecond : second.test check = (answer, second)) :
    StepsAlike hard grip first second (.check check) := by
  refine .of_quiet ?_ ?_ ?_
  · rw [step_check, hfirst]
    exact ⟨rfl, rfl⟩
  · rw [step_check, step_check, hfirst, hsecond]
  · rw [step_check, step_check, hfirst, hsecond]
    exact h

/-- A check that fails on both machines makes an error object on both. -/
theorem Twins.alike_of_check (h : Twins hard grip first second) (hhard : hard < wordLimit - 1)
    {check : Check} {holds : Except Fault Bool} {classId : ClassId}
    (hfirst : first.test check = first.check holds classId)
    (hsecond : second.test check = second.check holds classId) :
    StepsAlike hard grip first second (.check check) := by
  match holds with
  | .ok true => exact h.alike_of_answer hfirst hsecond
  | .error fault => exact h.alike_of_answer hfirst hsecond
  | .ok false =>
    have hmade := h.newObject hhard classId
    have hafter := hmade.twins_after h
    rw [check_false] at hfirst hsecond
    rw [hmade.result_eq] at hsecond
    have hgrip : first.gripAfter grip (.check check) =
        if first.Quiet ((Machine.newObject classId).run first).2 then grip
        else Heap.made ((Machine.newObject classId).run first).1 := by
      rw [gripAfter, step_check, hfirst]
      rcases ((Machine.newObject classId).run first).1 with error | id
      · rfl
      · rfl
    constructor
    · rw [step_check, step_check, hfirst, hsecond]
      exact .refl _
    · rw [hgrip, step_check, step_check, hfirst, hsecond]
      exact hafter

/-! ### Collections -/

theorem Twins.alike_collect (h : Twins hard grip first second) :
    StepsAlike hard grip first second (.operation .collect) := by
  have hagree := h.drop.agree
  have hanswer : ∀ machine : Machine, machine.step (.operation .collect) =
      (.ok (.collected machine.collect.1), machine.collect.2) := fun _ => rfl
  obtain ⟨hremaining, hheap⟩ := hagree.collect_report_eq h.sound.consistent h.sound'.consistent
  have hnoisy : ¬first.Quiet first.collect.2 := by
    rintro ⟨-, hcollections⟩
    exact absurd hcollections (Nat.succ_ne_self _)
  constructor
  · rw [hanswer, hanswer]
    refine .reply (.collected ?_ ?_)
    · rw [collect, collect, h.classes_eq]
      exact hremaining
    · rw [collect, collect, h.classes_eq]
      exact hheap
  · rw [gripAfter, hanswer, hanswer, if_neg hnoisy]
    exact {
      classes_eq := h.classes_eq
      table_eq := h.table_eq
      sound := h.sound.collect
      sound' := h.sound'.collect
      steady := h.steady.collect
      steady' := h.steady'.collect
      live := nofun
      agree := by
        have hsecond : second.collect.2.heap =
            (second.heap.collect first.classes.objectModel).2 := by
          rw [collect, h.classes_eq]
        rw [hsecond]
        exact hagree.collect h.sound.consistent h.sound'.consistent }

/-! ### Roots and variables -/

theorem Quiet.of_rerooted {heap : Heap Storage} {fresh : Ref → Prop}
    (h : first.heap.Rerooted fresh heap) : first.Quiet { first with heap } := by
  rw [h.eq]
  exact ⟨rfl, rfl⟩

theorem Twins.alike_of_roots {β : Type} (h : Twins hard grip first second)
    {operation : Operation} {reply : β → Reply}
    {action : Heap Storage → Except RootError β × Heap Storage}
    (hperform : perform operation = replying reply (onHeap .root fun _ heap => action heap))
    (hroots : Heap.ActsOnRoots action)
    (hrerooted : first.heap.Rerooted (first.Holds grip) (action first.heap).2) :
    StepsAlike hard grip first second (.operation operation) := by
  have hanswer : ∀ machine : Machine, machine.step (.operation operation) =
      ((((action machine.heap).1.mapError .root).map reply).mapError .fatal,
        { machine with heap := (action machine.heap).2 }) := by
    intro machine
    rw [step_operation, hperform, run_replying, run_onHeap]
  have hsecond := hroots first.heap second.heap h.agree.roots_eq
  have hcells : (action first.heap).2.cells = first.heap.cells := by
    rw [hroots first.heap first.heap rfl]
  have htwins := h.reroot hrerooted holds_of_mem
  rw [hcells, ← h.agree.cells_eq] at htwins
  refine .of_quiet ?_ ?_ ?_
  · rw [hanswer]
    exact .of_rerooted hrerooted
  · rw [hanswer, hanswer, hsecond]
  · rw [hanswer, hanswer, hsecond]
    exact htwins

theorem Twins.alike_writeCell (h : Twins hard grip first second) {cell : CellId} {ref : Ref}
    (href : first.heap.Registered cell → first.Holds grip ref) :
    StepsAlike hard grip first second (.operation (.writeCell cell ref)) := by
  have hrerooted := Heap.rerooted_writeCell href
  have htwins := h.reroot hrerooted holds_of_mem
  refine .of_quiet (.of_rerooted hrerooted) rfl ?_
  have hsecond : second.writeCell cell ref =
      { second with heap := { second.heap with
          roots := (first.heap.writeCell cell ref).roots
          cells := (first.heap.writeCell cell ref).cells } } := by
    rw [writeCell, Heap.writeCell, Heap.writeCell, h.agree.cells_eq, ← h.agree.roots_eq]
  change Twins hard grip (first.writeCell cell ref) (second.writeCell cell ref)
  rw [hsecond]
  exact htwins

/-! ### Contents of objects -/

/-- Twins read the same out of what the program has. -/
theorem Twins.storage?_eq (h : Twins hard grip first second) {ref : Ref}
    (href : first.Holds grip ref) : second.storage? ref = first.storage? ref := by
  cases ref with
  | none => rfl
  | some id => exact h.data?_eq (href id rfl)

theorem quiet_updateStorage (machine : Machine) (id : ObjectId) (change : Storage → Storage) :
    machine.Quiet (machine.updateStorage id change) :=
  ⟨Array.size_modify .., rfl⟩

/-- Two attempts to store have both found a place or both found none. -/
inductive StoresAlike (hard : Nat) (grip : List Ref) (first second : Machine) :
    Option Machine → Option Machine → Prop where
  | neither : StoresAlike hard grip first second none none
  | both {left right : Machine} (quiet : first.Quiet left) (twins : Twins hard grip left right) :
    StoresAlike hard grip first second (some left) (some right)

theorem Twins.alike_of_storing (h : Twins hard grip first second) {operation : Operation}
    {store : Machine → Option Machine} (hperform : perform operation = storing store)
    (hstore : StoresAlike hard grip first second (store first) (store second)) :
    StepsAlike hard grip first second (.operation operation) := by
  have hanswer : ∀ machine : Machine, machine.step (.operation operation) =
      (store machine).elim (.ok (.stored false), machine)
        fun after => (.ok (.stored true), after) := by
    intro machine
    rw [step_operation, hperform, run_storing]
    cases store machine with
    | none => rfl
    | some after => rfl
  generalize hleft : store first = left at hstore
  generalize hright : store second = right at hstore
  refine .of_quiet ?_ ?_ ?_ <;> simp only [hanswer, hleft, hright]
  · cases hstore with
    | neither => exact ⟨rfl, rfl⟩
    | both hquiet htwins => exact hquiet
  · cases hstore with
    | neither => rfl
    | both hquiet htwins => rfl
  · cases hstore with
    | neither => exact h
    | both hquiet htwins => exact htwins

theorem Twins.setField? (h : Twins hard grip first second) {object : Ref} {owner : ClassId}
    {index : Nat} {slot : ReferenceSlot} (hobject : first.Holds grip object)
    (hslot : first.Holds grip slot.object) :
    StoresAlike hard grip first second (first.setField? object owner index slot)
      (second.setField? object owner index slot) := by
  have hplace : second.fieldOffset? object owner index = first.fieldOffset? object owner index := by
    rw [fieldOffset?, h.storage?_eq hobject, h.classes_eq, fieldOffset?]
  unfold Machine.setField?
  rw [hplace]
  cases object with
  | none => exact .neither
  | some id =>
    rcases hoffset : first.fieldOffset? (some id) owner index with _ | offset
    · exact .neither
    · refine .both (quiet_updateStorage first id _) ?_
      exact h.store (hobject id rfl) (h.sound.isPlace_of_fieldOffset? hoffset) hslot

theorem Twins.setElement? (h : Twins hard grip first second) {array : Ref} {kind : Kind}
    {index : Int} {value : kind.Value} (harray : first.Holds grip array)
    (hvalue : first.Holds grip (kind.refOf value)) :
    StoresAlike hard grip first second (first.setElement? array kind index value)
      (second.setElement? array kind index value) := by
  have hplace : second.elementOffset? array kind index = first.elementOffset? array kind index := by
    rw [elementOffset?, h.storage?_eq harray, h.classes_eq, elementOffset?]
  unfold Machine.setElement?
  rw [hplace]
  cases array with
  | none => exact .neither
  | some id =>
    rcases hoffset : first.elementOffset? (some id) kind index with _ | offset
    · exact .neither
    · refine .both (quiet_updateStorage first id _) ?_
      exact h.store (harray id rfl) (isPlace_of_elementOffset? hoffset) hvalue

theorem Twins.alike_initObject (h : Twins hard grip first second) {object : ObjectId}
    {classId : ClassId} (hobject : first.Holds grip (some object))
    (hawaits : first.AwaitsClass object classId) :
    StepsAlike hard grip first second (.operation (.initObject object classId)) := by
  have hsame : second.heap.data? object = first.heap.data? object := h.data?_eq (hobject object rfl)
  have hsound : (first.initObject object classId).Sound :=
    h.sound.initObject hawaits.lt_size hawaits.classId?_eq
  have hsound' : (second.initObject object classId).Sound := by
    apply h.sound'.initObject
    · rw [h.classes_eq]
      exact hawaits.lt_size
    · rw [hsame]
      exact hawaits.classId?_eq
  refine .of_quiet (quiet_updateStorage ..) rfl ?_
  apply h.updateStorage hsound hsound'
  rintro storage hstorage - ref href next rfl
  obtain ⟨found, hget, rfl⟩ := exists_of_data? hstorage
  have hblank := (h.sound.formed object found hget).blank (hawaits.classId?_eq _ hstorage)
  exact nomatch Storage.refs_of_blank (Storage.blank_setClass hblank classId) href

/-! ### All steps -/

theorem Twins.alike_arrayOf (h : Twins hard grip first second) (element : ClassId) :
    StepsAlike hard grip first second (.operation (.arrayOf element)) := by
  have hprepares := h.sound.arrayOf element
  have hanswer : ∀ machine : Machine, machine.step (.operation (.arrayOf element)) =
      (.ok (.classId (machine.arrayOf element).1), (machine.arrayOf element).2) := fun _ => rfl
  have hsecond : second.arrayOf element =
      ((first.arrayOf element).1, second.withClasses (first.arrayOf element).2.classes) := by
    unfold Machine.arrayOf Machine.rootClass
    rw [h.classes_eq, ← h.table_eq]
    rfl
  refine .of_quiet ⟨rfl, rfl⟩ ?_ ?_
  · rw [hanswer, hanswer, hsecond]
  · rw [hanswer, hanswer, hsecond]
    exact h.grow hprepares.grows.wellFormed hprepares.grows.grown

/-- What reads the same on both machines and changes nothing is answered alike. -/
theorem Twins.alike_of_reply (h : Twins hard grip first second) {operation : Operation}
    {reply : Machine → Reply}
    (hperform : ∀ machine, (perform operation).run machine = (.ok (reply machine), machine))
    (hreply : reply second = reply first) :
    StepsAlike hard grip first second (.operation operation) := by
  refine .of_quiet ?_ ?_ ?_
  · rw [step_operation, hperform]
    exact ⟨rfl, rfl⟩
  · rw [step_operation, step_operation, hperform, hperform, hreply]
  · rw [step_operation, step_operation, hperform, hperform]
    exact h

/-- Every step is answered alike on twins and leaves twins. -/
theorem Twins.alike_step (h : Twins hard grip first second) (hhard : hard < wordLimit - 1)
    (hstep : first.Permits (first.Holds grip) step) : StepsAlike hard grip first second step := by
  cases step with
  | operation operation =>
    cases operation with
    | allocate bytes =>
      exact h.alike_of_makes rfl (h.exists_classes (h.allocate hhard bytes))
    | newObject classId =>
      exact h.alike_of_makes rfl (h.exists_classes (h.newObject hhard classId))
    | newArray kind element dimensions =>
      exact h.alike_of_makes rfl (h.newArray hhard kind element dimensions)
    | initObject object classId => exact h.alike_initObject hstep.1 hstep.2
    | collect => exact h.alike_collect
    | arrayOf element => exact h.alike_arrayOf element
    | pushOperand ref =>
      exact h.alike_of_roots rfl (Heap.actsOnRoots_pushOperand ref)
        (Heap.rerooted_pushOperand hstep)
    | popOperand =>
      exact h.alike_of_roots rfl Heap.actsOnRoots_popOperand Heap.rerooted_popOperand
    | registerLocal cell =>
      exact h.alike_of_roots rfl (Heap.actsOnRoots_registerLocal cell)
        (Heap.rerooted_registerLocal hstep)
    | addStaticRoot cell =>
      exact h.alike_of_roots rfl (Heap.actsOnRoots_addStaticRoot cell)
        (Heap.rerooted_addStaticRoot hstep)
    | openFrame =>
      refine h.alike_of_reply (fun _ => rfl) ?_
      rw [openFrame, Heap.openFrame, h.agree.roots_eq]
      rfl
    | closeFrame mark =>
      exact h.alike_of_roots rfl (Heap.actsOnRoots_closeFrame mark) (Heap.rerooted_closeFrame mark)
    | writeCell cell ref => exact h.alike_writeCell hstep
    | getField object owner index =>
      refine h.alike_of_reply (fun _ => rfl) ?_
      rw [field?, h.storage?_eq hstep, h.classes_eq]
      rfl
    | setField object owner index slot =>
      exact h.alike_of_storing rfl (h.setField? hstep.1 hstep.2)
    | getElement array kind index =>
      refine h.alike_of_reply (fun _ => rfl) ?_
      rw [element?, h.storage?_eq hstep, h.classes_eq]
      rfl
    | setElement array kind index value =>
      exact h.alike_of_storing rfl (h.setElement? hstep.1 hstep.2)
  | check check =>
    cases check with
    | notNull ref =>
      apply h.alike_of_check hhard rfl
      rw [test, checkNotNull, h.table_eq]
    | bounds array index =>
      apply h.alike_of_check hhard rfl
      rw [test, checkBounds, inBounds, h.storage?_eq hstep, h.table_eq]
      rfl
    | never classId =>
      have htest : ∀ machine : Machine, machine.test (.never classId) =
          machine.check (.ok false) classId := fun _ => rfl
      exact h.alike_of_check hhard (htest first) (htest second)

end Machine

end ManagedRuntime
