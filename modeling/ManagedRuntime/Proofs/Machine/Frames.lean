/-
  Frames of the shadow stack
  ==========================
  The shadow stack does not know about frames: a frame is a depth that a program remembers.  What
  lies below that depth is safe as long as the stack never falls below it
  (`Machine.stack_prefix`), whatever is pushed, popped and closed above it and however often the
  heap is collected meanwhile.

  The other laws of the stack are about whole sessions as well.  A slot stands from the moment it is
  pushed until the stack is as low as it was before (`Machine.Standing`); a pop takes off the
  latest of the slots that stand.
-/
import Mathlib.Data.List.Induction
import Mathlib.Data.List.Infix
import ManagedRuntime.Proofs.Machine.RootMoves
import ManagedRuntime.Proofs.Machine.Safety

namespace ManagedRuntime

namespace Machine

variable {machine : Machine} {command : Command} {commands : List Command}

/-! ### Frames -/

/-- The shadow stack, bottom first. -/
def stack (machine : Machine) : List RootSlot :=
  machine.heap.roots.shadow.bottomUp

theorem length_stack (machine : Machine) : machine.stack.length = machine.openFrame :=
  machine.heap.roots.shadow.length_bottomUp

theorem stack_obey (machine : Machine) (command : Command) :
    (machine.obey command).stack <+: machine.stack ∨
      ∃ slot, command.pushes? = some slot ∧
        (machine.obey command).stack = machine.stack ++ [slot] :=
  (machine.moves_obey command).bottomUp

/-- At no moment of a session does the stack fall below a depth. -/
def StaysAbove (machine : Machine) (mark : Nat) (commands : List Command) : Prop :=
  ∀ first, first <+: commands → mark ≤ (machine.obeyAll first).openFrame

theorem StaysAbove.of_prefix {mark : Nat} (h : machine.StaysAbove mark commands)
    {start : List Command} (hstart : start <+: commands) : machine.StaysAbove mark start :=
  fun first hfirst => h first (hfirst.trans hstart)

theorem StaysAbove.of_concat {mark : Nat} (h : machine.StaysAbove mark (commands ++ [command])) :
    machine.StaysAbove mark commands :=
  h.of_prefix (List.prefix_append ..)

/-- What lay on the stack when the frame was opened lies at its bottom as long as the frame is
    open. -/
theorem stack_prefix (h : machine.StaysAbove machine.openFrame commands) :
    machine.stack <+: (machine.obeyAll commands).stack := by
  induction commands using List.reverseRecOn with
  | nil => exact List.prefix_refl _
  | append_singleton commands command ih =>
    have hbottom := ih h.of_concat
    have hdepth := h _ (List.prefix_refl _)
    rw [obeyAll_concat] at hdepth ⊢
    rcases (machine.obeyAll commands).stack_obey command with hcut | ⟨slot, -, happend⟩
    · apply List.prefix_of_prefix_length_le hbottom hcut
      rwa [length_stack, length_stack]
    · rw [happend]
      exact hbottom.trans (List.prefix_append ..)

theorem capacity_obeyAll (machine : Machine) (commands : List Command) :
    (machine.obeyAll commands).heap.roots.shadow.capacity = machine.heap.roots.shadow.capacity := by
  induction commands using List.reverseRecOn with
  | nil => rfl
  | append_singleton commands command ih =>
    rw [obeyAll_concat, ((machine.obeyAll commands).moves_obey command).capacity_eq.1, ih]

/-- A frame is still there: what lay on the stack when it was opened lies at the bottom, slot by
    slot, and closing the frame leaves exactly that. -/
structure KeepsFrame (opened machine : Machine) : Prop where
  bottom_eq : machine.stack.take opened.openFrame = opened.stack
  close_ok : (machine.step (.operation (.closeFrame opened.openFrame))).1 = .ok .done
  closed_eq : (machine.step (.operation (.closeFrame opened.openFrame))).2.heap.roots.shadow =
    opened.heap.roots.shadow

theorem keepsFrame_obeyAll (h : machine.StaysAbove machine.openFrame commands) :
    machine.KeepsFrame (machine.obeyAll commands) := by
  have hprefix := stack_prefix h
  have hclose : (machine.obeyAll commands).heap.roots.shadow.closeFrame machine.openFrame =
      .ok machine.heap.roots.shadow :=
    ShadowStack.closeFrame_of_prefix (machine.capacity_obeyAll commands) hprefix
  constructor
  · rw [← length_stack]
    exact (List.prefix_iff_eq_take.1 hprefix).symm
  · rw [step_closeFrame, hclose]
    rfl
  · rw [step_closeFrame, hclose]
    rfl

/-! ### The order of pops -/

/-- The depth of the stack before the command at a place of a session. -/
def depthBefore (machine : Machine) (commands : List Command) (place : Nat) : Nat :=
  (machine.obeyAll (commands.take place)).openFrame

/-- The command at a place pushed a slot which was neither popped nor closed away since: the stack
    has been higher ever since than it was before. -/
structure Standing (machine : Machine) (commands : List Command) (place : Nat)
    (slot : RootSlot) : Prop where
  pushes : (commands[place]?).bind (·.pushes?) = some slot
  higher : ∀ later, place < later → later ≤ commands.length →
    machine.depthBefore commands place < machine.depthBefore commands later

theorem Standing.lt_length {place : Nat} {slot : RootSlot}
    (h : machine.Standing commands place slot) : place < commands.length := by
  obtain ⟨command, hcommand, -⟩ := Option.bind_eq_some_iff.1 h.pushes
  exact (List.getElem?_eq_some_iff.1 hcommand).1

theorem depthBefore_concat {place : Nat} (h : place ≤ commands.length) :
    machine.depthBefore (commands ++ [command]) place = machine.depthBefore commands place := by
  rw [depthBefore, depthBefore, List.take_append_of_le_length h]

theorem depthBefore_length (machine : Machine) (commands : List Command) :
    machine.depthBefore commands commands.length = (machine.obeyAll commands).openFrame := by
  rw [depthBefore, List.take_length]

theorem depthBefore_concat_last (machine : Machine) (commands : List Command) (command : Command) :
    machine.depthBefore (commands ++ [command]) (commands.length + 1) =
      (machine.obeyAll (commands ++ [command])).openFrame := by
  rw [← List.length_singleton, ← List.length_append, depthBefore_length]

/-- A slot that stands still does so after a command that leaves the stack higher than it was before
    the slot. -/
theorem Standing.concat {place : Nat} {slot : RootSlot} (h : machine.Standing commands place slot)
    (hhigher : machine.depthBefore commands place <
      (machine.obeyAll (commands ++ [command])).openFrame) :
    machine.Standing (commands ++ [command]) place slot := by
  have hplace := h.lt_length
  constructor
  · rw [List.getElem?_append_left hplace]
    exact h.pushes
  · intro later hlater hle
    rw [depthBefore_concat (Nat.le_of_lt hplace)]
    rw [List.length_append, List.length_singleton] at hle
    rcases Nat.le_or_eq_of_le_succ hle with hold | rfl
    · rw [depthBefore_concat hold]
      exact h.higher later hlater hold
    · rw [depthBefore_concat_last]
      exact hhigher

theorem standing_last {slot : RootSlot} (hpushes : command.pushes? = some slot)
    (hhigher : (machine.obeyAll commands).openFrame <
      (machine.obeyAll (commands ++ [command])).openFrame) :
    machine.Standing (commands ++ [command]) commands.length slot := by
  constructor
  · rw [List.getElem?_concat_length]
    exact hpushes
  · intro later hlater hle
    rw [List.length_append, List.length_singleton] at hle
    obtain rfl : later = commands.length + 1 := Nat.le_antisymm hle hlater
    rw [depthBefore_concat (Nat.le_refl _), depthBefore_length, depthBefore_concat_last]
    exact hhigher

/-- On a stack that began empty, every slot was put where it is by a push. -/
theorem exists_standing (hempty : machine.stack = []) {depth : Nat} {slot : RootSlot}
    (h : (machine.obeyAll commands).stack[depth]? = some slot) :
    ∃ place, machine.Standing commands place slot ∧ machine.depthBefore commands place = depth := by
  induction commands using List.reverseRecOn generalizing depth slot with
  | nil =>
    change machine.stack[depth]? = some slot at h
    rw [hempty] at h
    cases h
  | append_singleton commands command ih =>
    have hdepth : depth < (machine.obeyAll (commands ++ [command])).openFrame := by
      rw [← length_stack]
      exact (List.getElem?_eq_some_iff.1 h).1
    have hold : (machine.obeyAll commands).stack[depth]? = some slot →
        ∃ place, machine.Standing (commands ++ [command]) place slot ∧
          machine.depthBefore (commands ++ [command]) place = depth := by
      intro hslot
      obtain ⟨place, hstanding, rfl⟩ := ih hslot
      exact ⟨place, hstanding.concat hdepth, depthBefore_concat (Nat.le_of_lt hstanding.lt_length)⟩
    rw [obeyAll_concat] at h
    rcases (machine.obeyAll commands).stack_obey command with hcut | ⟨pushed, hpushes, happend⟩
    · obtain ⟨rest, hrest⟩ := hcut
      have hlt := (List.getElem?_eq_some_iff.1 h).1
      apply hold
      rw [← hrest, List.getElem?_append_left hlt]
      exact h
    · rw [happend] at h
      by_cases hlt : depth < (machine.obeyAll commands).stack.length
      · rw [List.getElem?_append_left hlt] at h
        exact hold h
      · have hlength : (machine.obeyAll (commands ++ [command])).openFrame =
            (machine.obeyAll commands).openFrame + 1 := by
          rw [obeyAll_concat, ← length_stack, happend, List.length_append, length_stack]
          rfl
        rw [length_stack] at hlt
        obtain rfl : depth = (machine.obeyAll commands).openFrame := by omega
        rw [← length_stack, List.getElem?_concat_length] at h
        cases h
        refine ⟨commands.length, standing_last hpushes hdepth, ?_⟩
        rw [depthBefore_concat (Nat.le_refl _), depthBefore_length]

/-- The reference that a pop takes off was pushed, and nothing that was pushed after it is still on
    the stack. -/
structure PopsNewest (machine : Machine) (commands : List Command) (ref : Ref) : Prop where
  newest : ∃ place, machine.Standing commands place (.operand ref) ∧
    ∀ later slot, machine.Standing commands later slot → later ≤ place
  stack_eq : (machine.obeyAll commands).stack =
    (machine.obeyAll (commands ++ [.step (.operation .popOperand)])).stack ++ [.operand ref]

theorem popsNewest_of_pop (hempty : machine.stack = []) {ref : Ref}
    (hpop : ((machine.obeyAll commands).step (.operation .popOperand)).1 = .ok (.reference ref)) :
    machine.PopsNewest commands ref := by
  have hstack : (machine.obeyAll commands).stack =
      (machine.obeyAll (commands ++ [.step (.operation .popOperand)])).stack ++ [.operand ref] := by
    rw [obeyAll_concat, obey]
    rw [step_popOperand] at hpop ⊢
    rcases hresult : (machine.obeyAll commands).heap.roots.shadow.pop with error | ⟨popped, shadow⟩
    · rw [hresult] at hpop
      cases hpop
    · rw [hresult] at hpop
      cases hpop
      exact ShadowStack.bottomUp_pop hresult
  have htop : (machine.obeyAll commands).stack[
      (machine.obeyAll (commands ++ [.step (.operation .popOperand)])).stack.length]? =
        some (.operand ref) := by
    rw [hstack, List.getElem?_concat_length]
  obtain ⟨place, hstanding, hplace⟩ := exists_standing hempty htop
  refine ⟨⟨place, hstanding, ?_⟩, hstack⟩
  intro later slot hlater
  -- a slot pushed later would lie between the popped one and the top
  by_contra hafter
  have hlow := hstanding.higher later (Nat.lt_of_not_le hafter) (Nat.le_of_lt hlater.lt_length)
  have hhigh := hlater.higher commands.length hlater.lt_length (Nat.le_refl _)
  rw [depthBefore_length, ← length_stack, hstack, List.length_append, List.length_singleton,
    ← hplace] at hhigh
  omega

/-! ### Refusals -/

def isOnRoots : Operation → Bool
  | .pushOperand _ | .popOperand | .registerLocal _ | .addStaticRoot _ | .closeFrame _ => true
  | _ => false

/-- Operations on the roots are refused where they have to be and nowhere else, and a refused one
    changes nothing at all. -/
structure RefusesRightly (machine : Machine) : Prop where
  pushOperand : ∀ ref failure, (machine.step (.operation (.pushOperand ref))).1 = .error failure ↔
    failure = .fatal (.root .overflow) ∧
      machine.stack.length = machine.heap.roots.shadow.capacity
  registerLocal : ∀ cell failure,
    (machine.step (.operation (.registerLocal cell))).1 = .error failure ↔
      failure = .fatal (.root .overflow) ∧
        machine.stack.length = machine.heap.roots.shadow.capacity
  popOperand : ∀ failure, (machine.step (.operation .popOperand)).1 = .error failure ↔
    failure = .fatal (.root .underflow) ∧ machine.stack = [] ∨
      failure = .fatal (.root .popMismatch) ∧
        ∃ cell, machine.stack.getLast? = some (.localCell cell)
  closeFrame : ∀ mark failure, (machine.step (.operation (.closeFrame mark))).1 = .error failure ↔
    failure = .fatal (.root (.frameAboveDepth mark machine.stack.length)) ∧
      machine.stack.length < mark
  addStaticRoot : ∀ cell failure,
    (machine.step (.operation (.addStaticRoot cell))).1 = .error failure ↔
      failure = .fatal (.root .tooManyRoots) ∧
        machine.heap.roots.statics.size = machine.heap.roots.statics.capacity
  unchanged : ∀ operation failure, isOnRoots operation →
    (machine.step (.operation operation)).1 = .error failure →
    (machine.step (.operation operation)).2 = machine
  openFrame : machine.step (.operation .openFrame) = (.ok (.depth machine.stack.length), machine)

theorem settle_eq_error_iff {γ : Type} {result : Except RootError γ} {replace : γ → Roots}
    {expected : RootError} {refused : Prop} {failure : Failure}
    (h : ∀ error, result = .error error ↔ error = expected ∧ refused) :
    (machine.settle (result.map replace)).1 = .error failure ↔
      failure = .fatal (.root expected) ∧ refused := by
  rcases result with error | part
  · obtain ⟨rfl, hrefused⟩ := (h error).1 rfl
    constructor
    · rintro ⟨⟩
      exact ⟨rfl, hrefused⟩
    · rintro ⟨rfl, -⟩
      rfl
  · constructor
    · rintro ⟨⟩
    · exact fun hfailure => nomatch (h expected).2 ⟨rfl, hfailure.2⟩

theorem settle_of_error {result : Except RootError Roots} {failure : Failure}
    (h : (machine.settle result).1 = .error failure) : (machine.settle result).2 = machine := by
  cases result with
  | error error => rfl
  | ok roots => cases h

theorem step_popOperand_eq_error_iff {failure : Failure} :
    (machine.step (.operation .popOperand)).1 = .error failure ↔
      ∃ error, machine.heap.roots.shadow.pop = .error error ∧ failure = .fatal (.root error) := by
  rw [step_popOperand]
  rcases machine.heap.roots.shadow.pop with error | ⟨ref, shadow⟩
  · constructor
    · rintro ⟨⟩
      exact ⟨error, rfl, rfl⟩
    · rintro ⟨_, ⟨⟩, rfl⟩
      rfl
  · constructor
    · rintro ⟨⟩
    · rintro ⟨_, ⟨⟩, _⟩

theorem step_of_refused {operation : Operation} {failure : Failure}
    (honRoots : isOnRoots operation)
    (hrefused : (machine.step (.operation operation)).1 = .error failure) :
    (machine.step (.operation operation)).2 = machine := by
  cases operation with
  | pushOperand ref =>
    rw [step_pushOperand] at hrefused ⊢
    exact settle_of_error hrefused
  | registerLocal cell =>
    rw [step_registerLocal] at hrefused ⊢
    exact settle_of_error hrefused
  | addStaticRoot cell =>
    rw [step_addStaticRoot] at hrefused ⊢
    exact settle_of_error hrefused
  | closeFrame mark =>
    rw [step_closeFrame] at hrefused ⊢
    exact settle_of_error hrefused
  | popOperand =>
    obtain ⟨error, hpop, -⟩ := step_popOperand_eq_error_iff.1 hrefused
    rw [step_popOperand, hpop]
  | _ => cases honRoots

theorem refusesRightly (machine : Machine) : machine.RefusesRightly where
  pushOperand ref failure := by
    rw [step_pushOperand, length_stack]
    exact settle_eq_error_iff fun _ => ShadowStack.push_eq_error_iff
  registerLocal cell failure := by
    rw [step_registerLocal, length_stack]
    exact settle_eq_error_iff fun _ => ShadowStack.push_eq_error_iff
  popOperand failure := by
    rw [step_popOperand_eq_error_iff]
    simp only [ShadowStack.pop_eq_error_iff]
    constructor
    · rintro ⟨_, ⟨rfl, hempty⟩ | ⟨rfl, htop⟩, rfl⟩
      · exact .inl ⟨rfl, hempty⟩
      · exact .inr ⟨rfl, htop⟩
    · rintro (⟨rfl, hempty⟩ | ⟨rfl, htop⟩)
      · exact ⟨_, .inl ⟨rfl, hempty⟩, rfl⟩
      · exact ⟨_, .inr ⟨rfl, htop⟩, rfl⟩
  closeFrame mark failure := by
    rw [step_closeFrame, length_stack]
    exact settle_eq_error_iff fun _ => ShadowStack.closeFrame_eq_error_iff
  addStaticRoot cell failure := by
    rw [step_addStaticRoot]
    exact settle_eq_error_iff fun _ => StaticRoots.add_eq_error_iff
  unchanged _ _ honRoots hrefused := step_of_refused honRoots hrefused
  openFrame := by
    rw [length_stack]
    rfl

/-! ### Whole sessions -/

variable {config : HeapConfig} {system : SystemMemory} {cells : Cells} {issued : Nat}
variable {core : CoreClasses} {classes : Hierarchy}

theorem within_new (hnew : new config system cells issued core classes = .ok machine) :
    machine.heap.roots.Within config := by
  obtain rfl := eq_ofHeap_of_new hnew
  exact ⟨rfl, rfl, Nat.zero_le _, Nat.zero_le _⟩

theorem within_obeyAll (h : machine.heap.roots.Within config) (commands : List Command) :
    (machine.obeyAll commands).heap.roots.Within config := by
  induction commands using List.reverseRecOn with
  | nil => exact h
  | append_singleton commands command ih =>
    rw [obeyAll_concat]
    exact ((machine.obeyAll commands).moves_obey command).within ih

/-- How the roots behave in all sessions of a machine. -/
structure FrameDiscipline (machine : Machine) (config : HeapConfig) : Prop where
  /-- A frame that is opened after any session is kept through every session that does not fall
      below it. -/
  frames : ∀ outside inside,
    (machine.obeyAll outside).StaysAbove (machine.obeyAll outside).openFrame inside →
    (machine.obeyAll outside).KeepsFrame (machine.obeyAll (outside ++ inside))
  pops : ∀ commands ref,
    ((machine.obeyAll commands).step (.operation .popOperand)).1 = .ok (.reference ref) →
    machine.PopsNewest commands ref
  limits : ∀ commands, (machine.obeyAll commands).heap.roots.Within config
  refusals : ∀ commands, (machine.obeyAll commands).RefusesRightly

/-- Whatever is done to a machine, its shadow stack is one of frames. -/
theorem frame_discipline (hnew : new config system cells issued core classes = .ok machine) :
    machine.FrameDiscipline config where
  frames outside inside hstays := by
    rw [obeyAll_append]
    exact keepsFrame_obeyAll hstays
  pops commands ref hpop := by
    have hempty : machine.stack = [] := by
      obtain rfl := eq_ofHeap_of_new hnew
      rfl
    exact popsNewest_of_pop hempty hpop
  limits commands := within_obeyAll (within_new hnew) commands
  refusals commands := refusesRightly _

/-- A pair and a null operand on the stack. -/
def pairOutside : List Command :=
  [.step (.operation (.newObject 3)), .step (.operation (.pushOperand (some 0))),
    .step (.operation (.pushOperand none))]

/-- Slots are pushed, popped and closed away, requests are refused, and an array of arrays is made
    meanwhile. -/
def pairInside : List Command :=
  [.step (.operation (.pushOperand (some 0))), .step (.operation (.registerLocal 4)),
    .step (.operation .popOperand), .step (.operation (.closeFrame 3)),
    .step (.operation (.newArray .reference (some 3) [2, 2])), .step (.operation .popOperand),
    .step (.operation (.closeFrame 7))]

theorem pairInside_staysAbove : (pairMachine.obeyAll pairOutside).StaysAbove
    (pairMachine.obeyAll pairOutside).openFrame pairInside := by
  intro first hfirst
  have hinits : ∀ first ∈ pairInside.inits, (pairMachine.obeyAll pairOutside).openFrame ≤
      ((pairMachine.obeyAll pairOutside).obeyAll first).openFrame := by
    decide +kernel
  exact hinits first ((List.mem_inits first pairInside).2 hfirst)

theorem frame_discipline_of_pairs :
    (new pairConfig .unlimited {} 0 pairCore pairClasses = .ok pairMachine ∧
      (pairMachine.obeyAll pairOutside).stack = [.operand (some 0), .operand none] ∧
      (pairMachine.obeyAll pairOutside).StaysAbove (pairMachine.obeyAll pairOutside).openFrame
        pairInside ∧
      (pairMachine.obeyAll (pairOutside ++ pairInside.take 5)).stack =
        [.operand (some 0), .operand none, .operand (some 0)]) ∧
      pairMachine.FrameDiscipline pairConfig :=
  ⟨⟨pairMachine_new, by decide +kernel, pairInside_staysAbove, by decide +kernel⟩,
    frame_discipline pairMachine_new⟩

end Machine

end ManagedRuntime
