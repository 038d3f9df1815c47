/-
  Raised error objects
  ====================
  A check that fails makes an error object, and before the unwinder of the running program gets the
  object, the initialiser of its class may call into the machine as often as it likes.  It may
  allocate and collect, so the object stands in a frame of its own meanwhile.  Nothing else needs to
  refer to it: it is on the heap as long as the initialiser runs (`Machine.Holding.session`), and
  when the frame is closed the shadow stack is what it was before the check
  (`Host.RaisesSafely`).
-/
import ManagedRuntime.Host
import ManagedRuntime.Proofs.Class.Layout
import ManagedRuntime.Proofs.Machine.Sheltering

namespace ManagedRuntime

namespace Machine

variable {machine : Machine} {object : ObjectId} {classId : ClassId}

/-! ### Programs -/

/-- The operations that a program carries out on a machine, if it runs to its end. -/
def follow (machine : Machine) : Program → Option (List Operation)
  | .finish => some []
  | .fail _ => none
  | .call operation next =>
    match (perform operation).run machine with
    | (.ok reply, after) => (after.follow (next reply)).map (operation :: ·)
    | (.error _, _) => none

/-- A program runs to its end on a machine, leaves what is on the shadow stack alone, and gives a
    class to new storage only. -/
structure Conforms (machine : Machine) (program : Program) (operations : List Operation) :
    Prop where
  follow_eq : machine.follow program = some operations
  staysAbove : machine.StaysAbove machine.openFrame (session operations)
  initializes : ∀ operation ∈ operations, ∀ id ∈ operation.initialized?,
    machine.heap.store.issued ≤ id

/-! ### The frame of an error object -/

/-- The machine with an object in a frame of its own. -/
def holding (machine : Machine) (object : ObjectId) : Machine :=
  ((pushOperand (some object)).run machine).2

theorem run_pushOperand_of_room (hroom : machine.openFrame < machine.heap.roots.shadow.capacity)
    (ref : Ref) :
    ∃ shadow, machine.heap.roots.shadow.push (.operand ref) = .ok shadow ∧
      (pushOperand ref).run machine =
        (.ok (), machine.withRoots { machine.heap.roots with shadow }) := by
  rw [run_pushOperand]
  rcases hpush : machine.heap.roots.shadow.push (.operand ref) with error | shadow
  · have hfull := (ShadowStack.push_eq_error_iff.1 hpush).2
    exact absurd hfull (Nat.ne_of_lt hroom)
  · exact ⟨shadow, rfl, rfl⟩

theorem Orderly.holding (h : machine.Orderly)
    (hroom : machine.openFrame < machine.heap.roots.shadow.capacity)
    (hclass : machine.classId? (some object) = some classId) :
    (machine.holding object).Holding object classId := by
  obtain ⟨shadow, hpush, hrun⟩ := run_pushOperand_of_room hroom (some object)
  rw [Machine.holding, hrun]
  constructor
  · exact ⟨h.made, h.rootClass_lt, h.consistent.of_eq rfl rfl rfl rfl⟩
  · rw [stack, withRoots, ShadowStack.bottomUp_push hpush]
    exact List.mem_append_right _ (.head _)
  · exact hclass

/-- The frame is closed down to the stack on which it was opened. -/
theorem run_closeFrame_of_holding
    (hroom : machine.openFrame < machine.heap.roots.shadow.capacity) {commands : List Command}
    (hstays : (machine.holding object).StaysAbove (machine.holding object).openFrame commands) :
    ∃ roots, roots.shadow = machine.heap.roots.shadow ∧
      (closeFrame machine.openFrame).run ((machine.holding object).obeyAll commands) =
        (.ok (), ((machine.holding object).obeyAll commands).withRoots roots) := by
  have hprefix := stack_prefix hstays
  have hcapacity := (machine.holding object).capacity_obeyAll commands
  obtain ⟨shadow, hpush, hrun⟩ := run_pushOperand_of_room hroom (some object)
  have hentered : machine.holding object =
      machine.withRoots { machine.heap.roots with shadow } := by
    rw [holding, hrun]
  generalize (machine.holding object).obeyAll commands = left at hprefix hcapacity ⊢
  rw [hentered] at hprefix hcapacity
  have hbelow : machine.stack <+: left.stack := by
    refine List.IsPrefix.trans ?_ hprefix
    rw [stack, stack, withRoots, ShadowStack.bottomUp_push hpush]
    exact List.prefix_append ..
  have hclose : left.heap.roots.shadow.closeFrame machine.openFrame =
      .ok machine.heap.roots.shadow :=
    ShadowStack.closeFrame_of_prefix (hcapacity.trans (ShadowStack.capacity_push hpush)) hbelow
  refine ⟨{ left.heap.roots with shadow := machine.heap.roots.shadow }, rfl, ?_⟩
  rw [closeFrame, run_onHeap, Heap.closeFrame, hclose]
  rfl

end Machine

namespace Host

variable {host : Host} {machine after raised : Machine} {object : ObjectId}

/-! ### Calls -/

theorem call_of_ok {β : Type} {action : Action β} {value : β}
    (hinstalled : host.installed = .machine machine)
    (hrun : action.run machine = (.ok value, after)) :
    host.call action = (.returned value, host.install after) := by
  rw [call, hinstalled]
  dsimp only
  rw [hrun]

/-- What a program does to the host is to carry out its operations, and to record the replies. -/
theorem runProgram_of_follow {program : Program} {operations : List Operation}
    (hinstalled : host.installed = .machine machine)
    (hfollow : machine.follow program = some operations) :
    ∃ replies : List Reply, (machine.run (operations.map .operation)).1 = replies.map .ok ∧
      host.runProgram program = (.returned (),
        { host with
          installed := .machine (machine.obeyAll (Machine.session operations))
          events := (replies.map .answered).reverse ++ host.events }) := by
  induction program generalizing host machine operations with
  | finish =>
    obtain rfl := Option.some.inj hfollow
    refine ⟨[], rfl, ?_⟩
    change (_, host) = (_, { host with installed := .machine machine })
    rw [← hinstalled]
  | fail error => cases hfollow
  | call operation next ih =>
    rw [Machine.follow] at hfollow
    rcases hrun : (Machine.perform operation).run machine with ⟨error | reply, after⟩
    · rw [hrun] at hfollow
      cases hfollow
    rw [hrun] at hfollow
    obtain ⟨rest, hrest, rfl⟩ := Option.map_eq_some_iff.1 hfollow
    have hanswered : ((host.install after).record (.answered reply)).installed = .machine after :=
      rfl
    obtain ⟨replies, hreplies, hprogram⟩ := ih reply hanswered hrest
    have hstep : machine.step (.operation operation) = (.ok reply, after) := by
      rw [Machine.step_operation, hrun]
      rfl
    refine ⟨reply :: replies, ?_, ?_⟩
    · rw [List.map_cons, Machine.run, hstep, List.map_cons, ← hreplies]
    · have hobey : machine.obey (.step (.operation operation)) = after := by
        rw [Machine.obey, hstep]
      rw [runProgram, call_of_ok hinstalled hrun]
      dsimp only
      rw [hprogram, List.map_cons, List.reverse_cons, List.append_assoc]
      change _ = (_, { host with
        installed := .machine ((machine.obey (.step (.operation operation))).obeyAll _)
        events := _ })
      rw [hobey]
      rfl

/-! ### Initialisers -/

section Initialized

variable {operations : List Operation} (hinstalled : host.installed = .machine machine)
  (hroom : machine.openFrame < machine.heap.roots.shadow.capacity)
  (hclose : (Machine.closeFrame machine.openFrame).run
    ((machine.holding object).obeyAll (Machine.session operations)) = (.ok (), after))
include hinstalled hroom hclose

/-- The frame of the object is open while the initialiser runs, and is closed then. -/
theorem runInitializer_of_conforms {table : Option DispatchTable} {initializer : Initializer}
    (hconforms : (machine.holding object).Conforms (initializer object table) operations) :
    ∃ replies : List Reply,
      ((machine.holding object).run (operations.map .operation)).1 = replies.map .ok ∧
      host.runInitializer object table initializer = (.returned (), { host with
        installed := .machine after
        events := (replies.map .answered).reverse ++
          .initializing object table :: host.events }) := by
  have hopen : (openFrameFor object).run machine =
      (.ok machine.openFrame, machine.holding object) := by
    obtain ⟨shadow, -, hrun⟩ := Machine.run_pushOperand_of_room hroom (some object)
    rw [openFrameFor, Action.run_bind, Action.run_get]
    dsimp only
    rw [Action.run_bind, Machine.holding, hrun]
    rfl
  have hentered : ((host.install (machine.holding object)).record
      (.initializing object table)).installed = .machine (machine.holding object) := rfl
  obtain ⟨replies, hreplies, hprogram⟩ := runProgram_of_follow hentered hconforms.follow_eq
  refine ⟨replies, hreplies, ?_⟩
  rw [runInitializer, call_of_ok hinstalled hopen]
  dsimp only
  rw [hprogram]
  dsimp only
  rw [call_of_ok rfl hclose]
  rfl

/-- An object whose class names an initialiser goes to the unwinder once it is initialised. -/
theorem throwObject_of_conforms (hunwinds : host.unwinds) {method : Method}
    (hmethod : (machine.class? (some object)).bind (·.initializer) = some method)
    (hconforms : (machine.holding object).Conforms
      (host.code method object (machine.dispatchTable? (some object))) operations) :
    ∃ replies : List Reply,
      ((machine.holding object).run (operations.map .operation)).1 = replies.map .ok ∧
      (host.throwObject object : Outcome Unit × Host) = (.unwound object, { host with
        installed := .machine after
        events := (replies.map .answered).reverse ++
          .initializing object (machine.dispatchTable? (some object)) :: host.events }) := by
  obtain ⟨replies, hreplies, hrun⟩ :=
    runInitializer_of_conforms hinstalled hroom hclose hconforms
  have hmachine : host.machine? = some machine := by
    rw [machine?, hinstalled]
  refine ⟨replies, hreplies, ?_⟩
  rw [Machine.dispatchTable?] at hrun
  rw [throwObject, hmachine, Option.bind_some, hmethod, Machine.dispatchTable?]
  dsimp only
  rw [hrun]
  dsimp only
  rw [deliver, if_pos hunwinds]

end Initialized

/-! ### Checks -/

theorem check_of_passes (hinstalled : host.installed = .machine machine) {check : Check}
    (hpasses : machine.passes check = .ok true) : host.check check = (.returned (), host) := by
  rw [Host.check, hinstalled]
  dsimp only
  rw [Machine.test_of_passes hpasses]
  dsimp only
  rw [install, ← hinstalled]

theorem check_of_faults (hinstalled : host.installed = .machine machine) {check : Check}
    {fault : Fault} (hfaults : machine.passes check = .error fault) :
    host.check check = (.aborted, host) := by
  rw [Host.check, hinstalled]
  dsimp only
  rw [Machine.test_of_faults hfaults]
  dsimp only
  rw [install, ← hinstalled]

theorem check_of_fails (hinstalled : host.installed = .machine machine) {check : Check}
    (hfails : machine.passes check = .ok false)
    (hmakes : (Machine.newObject (machine.errorClass check)).run machine = (.ok object, raised)) :
    host.check check = (host.install raised).throwObject object := by
  rw [Host.check, hinstalled]
  dsimp only
  rw [Machine.test_eq, hfails, Machine.check_false, hmakes]

/-- How a check ends for which the unwinder gets an error object.  The machine that is left is the
    one that the operations of the initialiser lead to, with the frame of the object closed; what
    happened is that the object was initialised and that the operations were answered, each as the
    machine answers it. -/
structure Unwinds (host : Host) (machine : Machine) (check : Check) (object : ObjectId)
    (raised : Machine) (operations : List Operation) (after : Host) (final : Machine)
    (replies : List Reply) : Prop where
  check_eq : host.check check = (.unwound object, after)
  installed_eq : after.installed = .machine final
  closes : (Machine.closeFrame raised.openFrame).run
    ((raised.holding object).obeyAll (Machine.session operations)) = (.ok (), final)
  replies_eq : ((raised.holding object).run (operations.map .operation)).1 = replies.map .ok
  events_eq : after.events = (replies.map .answered).reverse ++
    .initializing object (raised.dispatchTable? (some object)) :: host.events
  /-- The shadow stack is what it was before the check. -/
  shadow_eq : final.heap.roots.shadow = machine.heap.roots.shadow
  listed : object ∈ final.heap.order
  classId?_eq : final.classId? (some object) = some (machine.errorClass check)

/-- What comes of an error object that was made for a check.  While its initialiser carries out some
    operations, it is a root and stays on the heap, and then the unwinder gets it. -/
structure Delivers (host : Host) (machine : Machine) (check : Check) (object : ObjectId)
    (raised : Machine) (operations : List Operation) : Prop where
  sheltered : ∀ first, first <+: operations →
    ((raised.holding object).obeyAll (Machine.session first)).Sheltered object
      (machine.errorClass check)
  unwound : ∃ after final replies,
    host.Unwinds machine check object raised operations after final replies

/-- A check that passes does nothing at all.  One that fails delivers its error object through any
    initialiser that keeps to its frame, if there is room for the object and for its frame. -/
structure RaisesSafely (host : Host) (machine : Machine) : Prop where
  passes : ∀ check, machine.passes check = .ok true → host.check check = (.returned (), host)
  /-- A fault ends the process as it is. -/
  faults : ∀ check fault, machine.passes check = .error fault → host.check check = (.aborted, host)
  raises : ∀ check object raised method operations,
    machine.passes check = .ok false →
    (Machine.newObject (machine.errorClass check)).run machine = (.ok object, raised) →
    machine.openFrame < machine.heap.roots.shadow.capacity →
    (machine.classes.get? (machine.errorClass check)).bind (·.initializer) = some method →
    host.unwinds →
    (raised.holding object).Conforms
      (host.code method object (raised.dispatchTable? (some object))) operations →
    host.Delivers machine check object raised operations

theorem raises_safely (h : machine.ReachedByAny) (hinstalled : host.installed = .machine machine) :
    host.RaisesSafely machine := by
  refine ⟨fun check hpasses => check_of_passes hinstalled hpasses,
    fun check fault hfaults => check_of_faults hinstalled hfaults, ?_⟩
  intro check object raised method operations hfails hmakes hroom hmethod hunwinds hconforms
  -- the machine that has made the error object
  have hraised : (machine.step (.check check)).2 = raised := by
    rw [Machine.step_check, Machine.test_eq, hfails, Machine.check_false, hmakes]
  have horderly := h.orderly.step (.check check)
  have hroots := Machine.roots_newObject (machine.errorClass check) machine
  have hclasses := (machine.sameClasses_newObject (machine.errorClass check)).1
  rw [hmakes] at hroots hclasses
  rw [hraised] at horderly
  have hclass : raised.classId? (some object) = some (machine.errorClass check) := by
    obtain ⟨size, hword, hdata⟩ :=
      Machine.data?_newObject h.orderly.consistent h.orderly.made.wellFormed hmakes
    rw [Machine.classId?_eq hdata, Storage.classId?_setClass hword]
  -- the error object in its frame
  have hframe : raised.openFrame < raised.heap.roots.shadow.capacity := by
    rwa [Machine.openFrame, Heap.openFrame, hroots]
  have hholding := horderly.holding hframe hclass
  have hothers : ∀ operation ∈ operations, operation.initialized? ≠ some object := by
    intro operation hoperation hsame
    have hissued := hconforms.initializes operation hoperation object hsame
    have hlive := Machine.isSome_get?_of_classId? hholding.classId?_eq
    exact Nat.not_lt.2 hissued (Store.lt_issued_of_isSome hlive)
  constructor
  · intro first hfirst
    have hstays := hconforms.staysAbove.of_prefix (hfirst.map _)
    exact (hholding.session hstays fun each heach =>
      hothers each (hfirst.subset heach)).gripped.sheltered
  · have hthrown : (raised.class? (some object)).bind (·.initializer) = some method := by
      rw [Machine.class?, hclass, Option.bind_some, hclasses]
      exact hmethod
    have hinstalled' : (host.install raised).installed = .machine raised := rfl
    obtain ⟨roots, hshadow, hclose⟩ :=
      Machine.run_closeFrame_of_holding hframe hconforms.staysAbove
    obtain ⟨replies, hreplies, hthrow⟩ :=
      throwObject_of_conforms hinstalled' hframe hclose hunwinds hthrown hconforms
    have hleft := (hholding.session hconforms.staysAbove hothers).gripped.sheltered
    exact ⟨_, _, replies, {
      check_eq := (check_of_fails hinstalled hfails hmakes).trans hthrow
      installed_eq := rfl
      closes := hclose
      replies_eq := hreplies
      events_eq := rfl
      shadow_eq := hshadow.trans (congrArg _ hroots)
      listed := hleft.listed
      classId?_eq := hleft.classId?_eq }⟩

/-- The smallest core, with an initialiser and a field for the cause in one of its error classes. -/
def causeClasses : Hierarchy :=
  Hierarchy.buildAll {} [
    { name := "java.lang.Object" },
    { name := "java.lang.NullPointerException", superclass := some 0, referenceFields := 1,
      initializer := some 5 },
    { name := "java.lang.ArrayIndexOutOfBoundsException", superclass := some 0 }]

/-- A machine with an object that the shadow stack holds. -/
def causeMachine : Machine :=
  (Machine.ofHeap (.empty Machine.pairConfig .unlimited {} 0) Machine.pairCore
    causeClasses).obeyAll (Machine.session [.newObject 0, .pushOperand (some 0)])

theorem causeMachine_reachedByAny : causeMachine.ReachedByAny := by
  have hnew : Machine.new Machine.pairConfig .unlimited {} 0 Machine.pairCore causeClasses =
      .ok (Machine.ofHeap (.empty Machine.pairConfig .unlimited {} 0) Machine.pairCore
        causeClasses) := rfl
  have hclasses : causeClasses.Made := Hierarchy.Made.empty.buildAll _
  exact (Machine.ReachedByAny.new hclasses (by decide +kernel) hnew).obeyAll _

/-- Makes an object and stores it into the error object, with a construction meanwhile for which
    the heap has to be collected, and a collection afterwards. -/
def recordCause (object : ObjectId) : Program :=
  .call (.allocate 16) fun
    | .reference (some cause) =>
      .call (.initObject cause 0) fun _ =>
      .call (.pushOperand (some cause)) fun _ =>
      .call (.newArray .reference (some 0) [2, 1]) fun _ =>
      .call (.setField (some object) 1 0 { table := none, object := some cause }) fun _ =>
      .call .popOperand fun _ =>
      .call .collect fun _ => .finish
    | _ => .finish

def causeHost : Host where
  installed := .machine causeMachine
  unwinds := true
  system := .unlimited
  code _ object _ := recordCause object

def causeRaised : Machine :=
  ((Machine.newObject 1).run causeMachine).2

def causeOperations : List Operation :=
  ((causeRaised.holding 1).follow (recordCause 1)).getD []

theorem recordCause_conforms :
    (causeRaised.holding 1).Conforms (recordCause 1) causeOperations where
  follow_eq := by
    have hends : ((causeRaised.holding 1).follow (recordCause 1)).isSome := by decide +kernel
    obtain ⟨operations, hfollow⟩ := Option.isSome_iff_exists.1 hends
    rw [causeOperations, hfollow, Option.getD_some]
  staysAbove first hfirst := by
    have hinits : ∀ first ∈ (Machine.session causeOperations).inits,
        (causeRaised.holding 1).openFrame ≤
          ((causeRaised.holding 1).obeyAll first).openFrame := by
      decide +kernel
    exact hinits first ((List.mem_inits first _).2 hfirst)
  initializes := by decide +kernel

/-- The error object survives three collections, two of them while arrays are made, and refers to
    its cause when it is delivered. -/
theorem raises_safely_with_cause :
    (causeMachine.ReachedByAny ∧ causeHost.installed = .machine causeMachine ∧
      (causeRaised.holding 1).Conforms (recordCause 1) causeOperations ∧
      ((causeRaised.holding 1).obeyAll (Machine.session causeOperations)).heap.collections = 3 ∧
      ((causeRaised.holding 1).obeyAll (Machine.session causeOperations)).field? (some 1) 1 0 =
        some { table := none, object := some 2 }) ∧
      causeHost.RaisesSafely causeMachine ∧
      causeHost.Delivers causeMachine (.notNull none) 1 causeRaised causeOperations := by
  have hsafe : causeHost.RaisesSafely causeMachine := raises_safely causeMachine_reachedByAny rfl
  have hmakes : (Machine.newObject 1).run causeMachine = (.ok 1, causeRaised) :=
    Prod.ext (by decide +kernel) rfl
  refine ⟨⟨causeMachine_reachedByAny, rfl, recordCause_conforms, by decide +kernel,
    by decide +kernel⟩, hsafe, ?_⟩
  exact hsafe.raises (.notNull none) 1 causeRaised 5 causeOperations rfl hmakes
    (by decide +kernel) (by decide +kernel) rfl recordCause_conforms

end Host

end ManagedRuntime
