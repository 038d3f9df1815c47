/-
  What happens to the roots
  =========================
  A single command either cuts the shadow stack off at some height or puts one slot on top of it,
  or it adds one static root, or it leaves the roots as they are (`Roots.Moves`).  This takes a
  proof for the construction of arrays alone, which opens frames of its own: whatever it pushes is
  gone when it ends, also where it fails (`Machine.roots_allocateLevels`).
-/
import ManagedRuntime.Proofs.Machine.Plans
import ManagedRuntime.Proofs.Machine.Sessions

namespace ManagedRuntime

/-! ### What a command does to the roots -/

namespace Machine

/-- The slot that a command asks to be pushed. -/
def Command.pushes? : Command → Option RootSlot
  | .step (.operation (.pushOperand ref)) => some (.operand ref)
  | .step (.operation (.registerLocal cell)) => some (.localCell cell)
  | _ => none

end Machine

inductive Roots.Moves (command : Machine.Command) (before : Roots) : Roots → Prop where
  /-- It is about something else, or it is refused. -/
  | stays : Moves command before before
  | pushes {slot : RootSlot} {shadow : ShadowStack} :
      command.pushes? = some slot → before.shadow.push slot = .ok shadow →
      Moves command before { before with shadow }
  | pops {ref : Ref} {shadow : ShadowStack} :
      before.shadow.pop = .ok (ref, shadow) → Moves command before { before with shadow }
  | closes {mark : Nat} {shadow : ShadowStack} :
      before.shadow.closeFrame mark = .ok shadow → Moves command before { before with shadow }
  | registers {cell : CellId} {statics : StaticRoots} :
      before.statics.add cell = .ok statics → Moves command before { before with statics }

namespace Roots

variable {command : Machine.Command} {before after : Roots}

/-- The stack is cut off somewhere, or it gets the slot that the command is about. -/
theorem Moves.bottomUp (h : before.Moves command after) :
    after.shadow.bottomUp <+: before.shadow.bottomUp ∨
      ∃ slot, command.pushes? = some slot ∧
        after.shadow.bottomUp = before.shadow.bottomUp ++ [slot] := by
  cases h with
  | stays => exact .inl (List.prefix_refl _)
  | pushes hslot hpush => exact .inr ⟨_, hslot, ShadowStack.bottomUp_push hpush⟩
  | pops hpop =>
    left
    rw [ShadowStack.bottomUp_pop hpop]
    exact List.prefix_append ..
  | closes hclose => exact .inl (ShadowStack.bottomUp_closeFrame hclose)
  | registers => exact .inl (List.prefix_refl _)

theorem Moves.capacity_eq (h : before.Moves command after) :
    after.shadow.capacity = before.shadow.capacity ∧
      after.statics.capacity = before.statics.capacity := by
  cases h with
  | stays => exact ⟨rfl, rfl⟩
  | pushes _ hpush => exact ⟨ShadowStack.capacity_push hpush, rfl⟩
  | pops hpop => exact ⟨ShadowStack.capacity_pop hpop, rfl⟩
  | closes hclose => exact ⟨ShadowStack.capacity_closeFrame hclose, rfl⟩
  | registers hadd =>
    unfold StaticRoots.add at hadd
    split at hadd
    · cases hadd
    · cases hadd
      exact ⟨rfl, rfl⟩

/-- Both sorts of roots keep to what was reserved for them. -/
structure Within (roots : Roots) (config : HeapConfig) : Prop where
  shadow_capacity : roots.shadow.capacity = config.shadowSlots
  statics_capacity : roots.statics.capacity = config.staticRoots
  depth_le : roots.shadow.depth ≤ config.shadowSlots
  size_le : roots.statics.size ≤ config.staticRoots

theorem Moves.depth_le (h : before.Moves command after)
    (hbefore : before.shadow.depth ≤ before.shadow.capacity) :
    after.shadow.depth ≤ after.shadow.capacity := by
  rw [h.capacity_eq.1]
  have hprefix : after.shadow.bottomUp <+: before.shadow.bottomUp →
      after.shadow.depth ≤ before.shadow.capacity := by
    intro hprefix
    rw [← ShadowStack.length_bottomUp] at hbefore ⊢
    exact Nat.le_trans hprefix.length_le hbefore
  cases h with
  | stays => exact hbefore
  | pushes _ hpush =>
    unfold ShadowStack.push at hpush
    split at hpush
    · cases hpush
    · rename_i hroom
      cases hpush
      exact Nat.lt_of_le_of_ne hbefore hroom
  | pops hpop =>
    apply hprefix
    rw [ShadowStack.bottomUp_pop hpop]
    exact List.prefix_append ..
  | closes hclose => exact hprefix (ShadowStack.bottomUp_closeFrame hclose)
  | registers => exact hbefore

theorem Moves.size_le (h : before.Moves command after)
    (hbefore : before.statics.size ≤ before.statics.capacity) :
    after.statics.size ≤ after.statics.capacity := by
  cases h with
  | registers hadd =>
    unfold StaticRoots.add at hadd
    split at hadd
    · cases hadd
    · rename_i hroom
      cases hadd
      exact Nat.lt_of_le_of_ne hbefore hroom
  | _ => exact hbefore

theorem Moves.within {config : HeapConfig} (h : before.Moves command after)
    (hbefore : before.Within config) : after.Within config := by
  obtain ⟨hshadow, hstatics⟩ := h.capacity_eq
  rw [hbefore.shadow_capacity] at hshadow
  rw [hbefore.statics_capacity] at hstatics
  refine ⟨hshadow, hstatics, ?_, ?_⟩
  · rw [← hshadow]
    apply h.depth_le
    rw [hbefore.shadow_capacity]
    exact hbefore.depth_le
  · rw [← hstatics]
    apply h.size_le
    rw [hbefore.statics_capacity]
    exact hbefore.size_le

end Roots

namespace Machine

variable {machine : Machine} {command : Command}

/-! ### Array constructions -/

/-- Frames that are opened above a stack are closed above it. -/
theorem survivesFilling_above (base : Roots) :
    SurvivesFilling fun machine => base.Above machine.heap.roots where
  push ref machine h := by
    rw [run_pushOperand]
    rcases hpush : machine.heap.roots.shadow.push (.operand ref) with error | shadow
    · exact h
    · exact h.push hpush
  storeInner machine h outer index table inner := by
    unfold storeInner
    split
    · exact h
    · exact h
  close opened left hopened hleft := by
    rw [closeFrame, run_onHeap, Heap.closeFrame]
    rcases hclose : left.heap.roots.shadow.closeFrame opened.openFrame with error | closed
    · exact hleft
    · refine Roots.above_of_prefix hleft.statics_eq
        ((ShadowStack.capacity_closeFrame hclose).trans hleft.capacity_eq) ?_
      apply List.prefix_of_prefix_length_le hleft.bottomUp_prefix
        (ShadowStack.bottomUp_closeFrame hclose)
      have hle := hopened.bottomUp_prefix.length_le
      rw [ShadowStack.length_bottomUp, ShadowStack.length_bottomUp] at hle ⊢
      rwa [ShadowStack.depth_closeFrame hclose]

theorem roots_allocateAs (bytes : Nat) (change : Storage → Storage) (machine : Machine) :
    ((allocateAs bytes change).run machine).2.heap.roots = machine.heap.roots := by
  have hkeeps : Action.Preserves (fun after => after.heap.roots = machine.heap.roots)
      (allocateAs bytes change) := by
    apply preserves_allocateAs
    · exact fun mid h => (Heap.roots_allocate ..).1.trans h
    · exact fun _ h _ => h
  exact hkeeps machine rfl

theorem roots_newObject (classId : ClassId) (machine : Machine) :
    ((newObject classId).run machine).2.heap.roots = machine.heap.roots := by
  rw [run_newObject]
  split
  · exact roots_allocateAs ..
  · rfl

theorem roots_allocateFlat (level : ArrayLevel) (machine : Machine) :
    ((allocateFlat level).run machine).2.heap.roots = machine.heap.roots := by
  rw [run_allocateFlat]
  split
  · rfl
  · exact roots_allocateAs ..

theorem above_allocateFlat (base : Roots) (level : ArrayLevel) :
    Action.Preserves (fun machine => base.Above machine.heap.roots) (allocateFlat level) := by
  intro machine h
  rwa [roots_allocateFlat]

theorem above_allocateLevels (base : Roots) (level : ArrayLevel) (levels : List ArrayLevel) :
    Action.Preserves (fun machine => base.Above machine.heap.roots)
      (allocateLevels level levels) :=
  (survivesFilling_above base).preserves_allocateLevels fun each _ => above_allocateFlat base each

/-- Whatever a construction pushes is gone when it ends, also where it fails. -/
theorem roots_allocateLevels (level : ArrayLevel) (levels : List ArrayLevel) (machine : Machine) :
    ((allocateLevels level levels).run machine).2.heap.roots = machine.heap.roots := by
  cases levels with
  | nil => exact roots_allocateFlat level machine
  | cons inner levels =>
    have habove : machine.heap.roots.Above
        ((nested level inner.table (allocateLevels inner levels)).run machine).2.heap.roots := by
      apply (survivesFilling_above machine.heap.roots).preserves_nested
      · exact above_allocateFlat machine.heap.roots level
      · exact above_allocateLevels machine.heap.roots inner levels
      · exact .refl _
    rw [allocateLevels_cons, run_inFrame, openFrame, Heap.openFrame, run_closeFrame_of_above habove]
    rfl

theorem roots_newArray (kind : Kind) (element : Option ClassId) (dimensions : List Int)
    (machine : Machine) :
    ((newArray kind element dimensions).run machine).2.heap.roots = machine.heap.roots := by
  rw [run_newArray]
  rcases hplan : machine.planArray kind element dimensions with
    error | ⟨⟨outermost, inner⟩, planned⟩
  · rfl
  · dsimp only
    rw [roots_allocateLevels, eq_withClasses_planArray hplan]
    rfl

/-! ### Commands -/

/-- How an operation on the roots ends: they are replaced, or it is refused and nothing changes. -/
def settle (machine : Machine) : Except RootError Roots → Except Failure Reply × Machine
  | .ok roots => (.ok .done, machine.withRoots roots)
  | .error error => (.error (.fatal (.root error)), machine)

theorem step_onRoots {operation : Operation} (result : Roots → Except RootError Roots)
    (machine : Machine)
    (hoperation : perform operation = replying (fun _ => .done) (onHeap .root fun _ heap =>
      heap.updateRoots (result heap.roots))) :
    machine.step (.operation operation) = machine.settle (result machine.heap.roots) := by
  rw [step_operation, hoperation, run_replying, run_onHeap]
  rcases result machine.heap.roots with error | roots
  · rfl
  · rfl

theorem step_pushOperand (machine : Machine) (ref : Ref) :
    machine.step (.operation (.pushOperand ref)) = machine.settle
      ((machine.heap.roots.shadow.push (.operand ref)).map
        ({ machine.heap.roots with shadow := · })) :=
  step_onRoots (fun roots => (roots.shadow.push (.operand ref)).map ({ roots with shadow := · }))
    machine rfl

theorem step_registerLocal (machine : Machine) (cell : CellId) :
    machine.step (.operation (.registerLocal cell)) = machine.settle
      ((machine.heap.roots.shadow.push (.localCell cell)).map
        ({ machine.heap.roots with shadow := · })) :=
  step_onRoots (fun roots => (roots.shadow.push (.localCell cell)).map ({ roots with shadow := · }))
    machine rfl

theorem step_addStaticRoot (machine : Machine) (cell : CellId) :
    machine.step (.operation (.addStaticRoot cell)) = machine.settle
      ((machine.heap.roots.statics.add cell).map ({ machine.heap.roots with statics := · })) :=
  step_onRoots (fun roots => (roots.statics.add cell).map ({ roots with statics := · })) machine rfl

theorem step_closeFrame (machine : Machine) (mark : Nat) :
    machine.step (.operation (.closeFrame mark)) = machine.settle
      ((machine.heap.roots.shadow.closeFrame mark).map
        ({ machine.heap.roots with shadow := · })) :=
  step_onRoots (fun roots => (roots.shadow.closeFrame mark).map ({ roots with shadow := · }))
    machine rfl

theorem step_popOperand (machine : Machine) :
    machine.step (.operation .popOperand) =
      match machine.heap.roots.shadow.pop with
      | .ok (ref, shadow) =>
        (.ok (.reference ref), machine.withRoots { machine.heap.roots with shadow })
      | .error error => (.error (.fatal (.root error)), machine) := by
  rw [step_operation, perform, run_replying, popOperand, run_onHeap, Heap.popOperand]
  rcases machine.heap.roots.shadow.pop with error | ⟨ref, shadow⟩
  · rfl
  · rfl

theorem moves_of_eq {after : Machine} (h : after.heap.roots = machine.heap.roots) :
    machine.heap.roots.Moves command after.heap.roots := by
  rw [h]
  exact .stays

/-- Of the roots a command changes what it is about, and nothing else. -/
theorem moves_obey (machine : Machine) (command : Command) :
    machine.heap.roots.Moves command (machine.obey command).heap.roots := by
  cases command with
  | build blueprint =>
    apply moves_of_eq
    rcases machine.obey_build blueprint with hsame | ⟨id, classes, -, hbuilt⟩
    · rw [hsame]
    · rw [hbuilt]
      rfl
  | register id => exact .stays
  | step step =>
    cases step with
    | check check =>
      apply moves_of_eq
      apply test_cases (fun after => after.heap.roots = machine.heap.roots)
      · rfl
      · exact fun classId => roots_newObject classId machine
    | operation operation =>
      change Roots.Moves _ _ (machine.step (.operation operation)).2.heap.roots
      cases operation with
      | allocate bytes =>
        rw [step_operation, perform, run_replying]
        exact moves_of_eq (Heap.roots_allocate ..).1
      | newObject classId =>
        rw [step_operation, perform, run_replying]
        exact moves_of_eq (roots_newObject ..)
      | newArray kind element dimensions =>
        rw [step_operation, perform, run_replying]
        exact moves_of_eq (roots_newArray ..)
      | pushOperand ref =>
        rw [step_pushOperand]
        rcases hpush : machine.heap.roots.shadow.push (.operand ref) with error | shadow
        · exact .stays
        · exact .pushes rfl hpush
      | popOperand =>
        rw [step_popOperand]
        rcases hpop : machine.heap.roots.shadow.pop with error | ⟨ref, shadow⟩
        · exact .stays
        · exact .pops hpop
      | registerLocal cell =>
        rw [step_registerLocal]
        rcases hpush : machine.heap.roots.shadow.push (.localCell cell) with error | shadow
        · exact .stays
        · exact .pushes rfl hpush
      | addStaticRoot cell =>
        rw [step_addStaticRoot]
        rcases hadd : machine.heap.roots.statics.add cell with error | statics
        · exact .stays
        · exact .registers hadd
      | closeFrame mark =>
        rw [step_closeFrame]
        rcases hclose : machine.heap.roots.shadow.closeFrame mark with error | shadow
        · exact .stays
        · exact .closes hclose
      | setField object owner index slot =>
        apply moves_of_eq
        apply storing_cases (fun after => after.heap.roots = machine.heap.roots) rfl
        intro after hset
        obtain ⟨id, storage, offset, -, -, -, rfl⟩ := exists_of_setField? hset
        rfl
      | setElement array kind index value =>
        apply moves_of_eq
        apply storing_cases (fun after => after.heap.roots = machine.heap.roots) rfl
        intro after hset
        obtain ⟨id, storage, offset, -, -, -, rfl⟩ := exists_of_setElement? hset
        rfl
      | _ => exact .stays

end Machine

end ManagedRuntime
