/-
  The timing of collections
  =========================
  A program cannot tell when its heap is collected.  Two machines that differ in their soft
  limits and growth steps collect at different moments, and yet they answer every step
  of a program alike and look the same to it afterwards (`timing_is_invisible`).  Out of
  heap is among these answers: the bytes that it reports are those that the roots reach.

  The program may use only references that it still has (`Machine.Cautious`): what the
  roots reach, and the object that it got last, as long as nothing is allocated or
  collected after that.
-/
import Mathlib.Data.List.Forall2
import ManagedRuntime.Proofs.Machine.Safety
import ManagedRuntime.Proofs.Machine.TwinSteps

namespace ManagedRuntime

namespace Machine

variable {first second machine : Machine} {hard : Nat} {grip : List Ref} {steps : List Step}

/-! ### Runs of a program -/

/-- At every step the program hands over only references that it still has. -/
def Cautious (machine : Machine) (grip : List Ref) : List Step → Prop
  | [] => True
  | step :: steps =>
    machine.Permits (machine.Holds grip) step ∧
      (machine.step step).2.Cautious (machine.gripAfter grip step) steps

/-- What the program has in hand after a run. -/
def gripAfterRun (machine : Machine) (grip : List Ref) : List Step → List Ref
  | [] => grip
  | step :: steps => (machine.step step).2.gripAfterRun (machine.gripAfter grip step) steps

/-- A whole run is answered alike on twins and leaves twins. -/
theorem Twins.run (h : Twins hard grip first second) (hhard : hard < wordLimit - 1)
    (hsteps : first.Cautious grip steps) :
    List.Forall₂ AnswersAlike (first.run steps).1 (second.run steps).1 ∧
      Twins hard (first.gripAfterRun grip steps) (first.run steps).2 (second.run steps).2 := by
  induction steps generalizing first second grip with
  | nil => exact ⟨.nil, h⟩
  | cons step steps ih =>
    have halike := h.alike_step hhard hsteps.1
    obtain ⟨hanswers, htwins⟩ := ih halike.twins hsteps.2
    exact ⟨.cons halike.answers hanswers, htwins⟩

/-! ### What a program sees -/

/-- A program that has the roots and some references in hand sees the same on both machines. -/
structure Resembles (grip : List Ref) (first second : Machine) : Prop where
  classes_eq : second.classes = first.classes
  roots_eq : second.heap.roots = first.heap.roots
  cells_eq : second.heap.cells = first.heap.cells
  holds_iff : ∀ ref, second.Holds grip ref ↔ first.Holds grip ref
  /-- What it has are the same objects, with the same classes and contents. -/
  get?_eq : ∀ id, first.Holds grip (some id) → second.heap.get? id = first.heap.get? id
  isInstance_eq : ∀ ref, first.Holds grip ref → ∀ target,
    second.isInstance ref target = first.isInstance ref target
  interfaceTable_eq : ∀ ref, first.Holds grip ref → ∀ interface,
    second.interfaceTable ref interface = first.interfaceTable ref interface
  arrayLength?_eq : ∀ ref, first.Holds grip ref → second.arrayLength? ref = first.arrayLength? ref

theorem Twins.holds_iff (h : Twins hard grip first second) (ref : Ref) :
    second.Holds grip ref ↔ first.Holds grip ref := by
  refine forall₂_congr fun id _ => ?_
  rw [Reaches, Reaches, h.classes_eq]
  exact h.agree.reaches_iff id

theorem Twins.resembles (h : Twins hard grip first second) : first.Resembles grip second where
  classes_eq := h.classes_eq
  roots_eq := h.agree.roots_eq
  cells_eq := h.agree.cells_eq
  holds_iff := h.holds_iff
  get?_eq id hid := h.get?_eq (hid id rfl)
  isInstance_eq ref href target := by
    rw [isInstance, classId?, h.storage?_eq href, h.classes_eq]
    rfl
  interfaceTable_eq ref href interface := by
    rw [interfaceTable, class?, classId?, h.storage?_eq href, h.classes_eq]
    rfl
  arrayLength?_eq ref href := by
    rw [arrayLength?, isArray, classId?, h.storage?_eq href, h.classes_eq]
    rfl

/-! ### Two machines over the same classes -/

variable {config config' : HeapConfig} {system system' : SystemMemory} {cells : Cells}
variable {issued : Nat} {core : CoreClasses} {classes : Hierarchy}

/-- Without objects there is nothing to disagree on. -/
theorem twins_new (hhard : config'.hardLimit = config.hardLimit)
    (hshadow : config'.shadowSlots = config.shadowSlots)
    (hstatics : config'.staticRoots = config.staticRoots)
    (hgrants : ∀ asked bytes, system.grants asked bytes)
    (hgrants' : ∀ asked bytes, system'.grants asked bytes) (hclasses : classes.Made)
    (hcore : core.object < classes.size)
    (hfirst : new config system cells issued core classes = .ok first)
    (hsecond : new config' system' cells issued core classes = .ok second) :
    Twins config.hardLimit [] first second := by
  have hsound := sound_new hclasses hcore hfirst
  have hsound' := sound_new hclasses hcore hsecond
  obtain rfl := eq_ofHeap_of_new hfirst
  obtain rfl := eq_ofHeap_of_new hsecond
  exact {
    classes_eq := rfl
    table_eq := rfl
    sound := hsound
    sound' := hsound'
    steady := ⟨Heap.accounted_empty config system cells issued, hgrants⟩
    steady' := ⟨hhard ▸ Heap.accounted_empty config' system' cells issued, hgrants'⟩
    live := nofun
    agree := {
      roots_eq := by
        change Roots.empty config'.shadowSlots config'.staticRoots = _
        rw [hshadow, hstatics]
        rfl
      cells_eq := rfl
      issued_eq := rfl
      get?_eq := by
        intro id _
        exact (Heap.get?_empty ..).trans (Heap.get?_empty ..).symm } }

/-- Soft limits and growth steps decide when a heap is collected, and a program cannot tell:
    all its steps are answered alike, and whatever it can still get hold of is the same. -/
theorem timing_is_invisible (hsame : config'.hardLimit = config.hardLimit)
    (hshadow : config'.shadowSlots = config.shadowSlots)
    (hstatics : config'.staticRoots = config.staticRoots)
    (hhard : config.hardLimit < wordLimit - 1)
    (hgrants : ∀ asked bytes, system.grants asked bytes)
    (hgrants' : ∀ asked bytes, system'.grants asked bytes) (hclasses : classes.Made)
    (hcore : core.object < classes.size)
    (hfirst : new config system cells issued core classes = .ok first)
    (hsecond : new config' system' cells issued core classes = .ok second)
    (hsteps : first.Cautious [] steps) :
    List.Forall₂ AnswersAlike (first.run steps).1 (second.run steps).1 ∧
      (first.run steps).2.Resembles (first.gripAfterRun [] steps) (second.run steps).2 := by
  have hnew : Twins config.hardLimit [] first second :=
    twins_new hsame hshadow hstatics hgrants hgrants' hclasses hcore hfirst hsecond
  obtain ⟨hanswers, htwins⟩ := hnew.run hhard hsteps
  exact ⟨hanswers, htwins.resembles⟩

/-- The heap of `pairConfig` with a soft limit that is never passed in `pairRun`. -/
def looseConfig : HeapConfig :=
  { pairConfig with softLimit := 400 }

def looseMachine : Machine :=
  ofHeap (.empty looseConfig .unlimited {} 0) pairCore pairClasses

theorem looseMachine_new :
    new looseConfig .unlimited {} 0 pairCore pairClasses = .ok looseMachine :=
  rfl

theorem pairRun_cautious : looseMachine.Cautious [] pairRun := by
  refine ⟨trivial, ?_, trivial, ?_, ?_, ?_, trivial, ?_, trivial, trivial⟩
  · exact holds_of_mem _ (by decide)
  · exact ⟨holds_of_mem_rootRefs (by decide), holds_of_mem _ (by decide)⟩
  · exact nofun
  · exact fun _ => holds_of_mem_rootRefs (by decide)
  · exact nofun

/-- The tight heap is collected three times before the loose one is collected at all. -/
theorem timing_is_invisible_in_pairRun :
    (pairConfig.hardLimit = looseConfig.hardLimit ∧
      pairConfig.shadowSlots = looseConfig.shadowSlots ∧
      pairConfig.staticRoots = looseConfig.staticRoots ∧
      looseConfig.hardLimit < wordLimit - 1 ∧
      (∀ asked bytes, SystemMemory.unlimited.grants asked bytes) ∧
      pairClasses.Made ∧ pairCore.object < pairClasses.size ∧
      new looseConfig .unlimited {} 0 pairCore pairClasses = .ok looseMachine ∧
      new pairConfig .unlimited {} 0 pairCore pairClasses = .ok pairMachine ∧
      looseMachine.Cautious [] pairRun) ∧
    List.Forall₂ AnswersAlike (looseMachine.run pairRun).1 (pairMachine.run pairRun).1 ∧
      (looseMachine.run pairRun).2.Resembles (looseMachine.gripAfterRun [] pairRun)
        (pairMachine.run pairRun).2 := by
  have hsame : pairConfig.hardLimit = looseConfig.hardLimit := rfl
  have hhard : looseConfig.hardLimit < wordLimit - 1 := by decide
  have hgrants : ∀ asked bytes, SystemMemory.unlimited.grants asked bytes := fun _ _ => rfl
  refine ⟨⟨hsame, rfl, rfl, hhard, hgrants, pairClasses_made, pairCore_lt_size, looseMachine_new,
    pairMachine_new, pairRun_cautious⟩, ?_⟩
  exact timing_is_invisible hsame rfl rfl hhard hgrants hgrants pairClasses_made pairCore_lt_size
    looseMachine_new pairMachine_new pairRun_cautious

end Machine

end ManagedRuntime
