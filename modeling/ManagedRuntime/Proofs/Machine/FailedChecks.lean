/-
  Failed checks
  =============
  A check that passes leaves the machine alone.  One that fails makes an error object, and that is
  an allocation: it may collect, raise the soft limit, or be refused, in which case the program ends
  with the error of the allocation.  Which of these it comes to is a matter of the error class and
  of the bytes in use (`Machine.RaisesExactly`).  Whatever it is, the program finds its roots and
  all that they reach as they were.

  The core of a machine may name any class for the errors, one without instances or one whose
  instances are larger than any heap.
-/
import ManagedRuntime.Proofs.Heap.ExactAllocation
import ManagedRuntime.Proofs.Machine.FailedArrays
import ManagedRuntime.Proofs.Machine.FieldVariables
import ManagedRuntime.Proofs.Machine.Sheltering

namespace ManagedRuntime

namespace Hierarchy

variable {classes : Hierarchy} {id : ClassId}

theorem shape?_of_isInstances (h : classes.isInstances id) :
    ∃ fields, classes.shape? id = some (.instances (classes.instanceSize id) fields) := by
  obtain ⟨cls, hget, hkind⟩ := exists_of_isInstances h
  rw [shape?, instanceSize, hget]
  rcases hshape : cls.shape with ⟨size, fields⟩ | _ | _
  · exact ⟨fields, by simp [Class.instanceSize, hshape]⟩
  · simp [Class.kind, hshape] at hkind
  · simp [Class.kind, hshape] at hkind

theorem isInstances_of_shape? {size : Nat} {fields : FieldLayout}
    (h : classes.shape? id = some (.instances size fields)) : classes.isInstances id := by
  obtain ⟨cls, hget, hshape⟩ := Option.map_eq_some_iff.1 h
  exact (isInstances_of_shape hget hshape).1

end Hierarchy

namespace Machine

variable {machine : Machine} {classId : ClassId}

/-! ### Raising as an allocation -/

theorem raise_of_not_isInstances (h : machine.classes.isInstances classId = false) :
    machine.raise classId =
      (.fatal (.notInstantiable (machine.classes.name classId)), machine) := by
  have hrun : (newObject classId).run machine =
      (.error (.notInstantiable (machine.classes.name classId)), machine) := by
    rw [run_newObject]
    split
    · rename_i hshape
      rw [Hierarchy.isInstances_of_shape? hshape] at h
      cases h
    · rfl
  rw [raise, hrun]

theorem raise_of_isInstances (h : machine.classes.isInstances classId) :
    machine.raise classId =
      match machine.heap.allocate machine.classes.objectModel
          (machine.classes.instanceSize classId) with
      | (.ok id, heap) => (.exception id, { machine with heap }.initObject id classId)
      | (.error error, heap) => (.fatal (.allocation error), { machine with heap }) := by
  obtain ⟨fields, hshape⟩ := Hierarchy.shape?_of_isInstances h
  rw [raise, run_newObject, hshape]
  dsimp only
  rw [run_allocateAs, allocate, run_onHeap]
  rcases machine.heap.allocate machine.classes.objectModel
    (machine.classes.instanceSize classId) with ⟨error | id, heap⟩
  · rfl
  · rfl

theorem raise_of_error (h : machine.classes.isInstances classId) {error : AllocationError}
    (hrefused : (machine.heap.allocate machine.classes.objectModel
      (machine.classes.instanceSize classId)).1 = .error error) :
    machine.raise classId = (.fatal (.allocation error),
      { machine with heap := (machine.heap.allocate machine.classes.objectModel
        (machine.classes.instanceSize classId)).2 }) := by
  rw [raise_of_isInstances h]
  rcases hallocate : machine.heap.allocate machine.classes.objectModel
    (machine.classes.instanceSize classId) with ⟨reason | id, heap⟩
  · rw [hallocate] at hrefused
    cases hrefused
    rfl
  · rw [hallocate] at hrefused
    cases hrefused

theorem raise_snd (machine : Machine) (classId : ClassId) :
    (machine.raise classId).2 = ((newObject classId).run machine).2 := by
  unfold raise
  rcases (newObject classId).run machine with ⟨error | id, after⟩
  · rfl
  · rfl

/-! ### What a raised error leaves -/

theorem cells_newObject (machine : Machine) (classId : ClassId) :
    ((newObject classId).run machine).2.heap.cells = machine.heap.cells := by
  have hkeeps : Action.Preserves (fun after => after.heap.cells = machine.heap.cells)
      (newObject classId) := by
    apply preserves_newObject
    intro bytes
    apply preserves_allocateAs
    · exact fun mid h => (Heap.roots_allocate ..).2.trans h
    · exact fun _ h _ => h
  exact hkeeps machine rfl

theorem keeps_newObject (hheap : machine.heap.Consistent)
    (hclosed : machine.heap.Closed machine.classes.objectModel) (classId : ClassId) :
    machine.heap.Keeps machine.classes.objectModel
      ((newObject classId).run machine).2.heap := by
  rw [run_newObject]
  split
  · rename_i size fields _
    have hallocates := Heap.allocates hheap hclosed fun _ href =>
      Storage.refs_of_blank (Storage.refAt_zeroed (dataSize size)) href
    rw [run_allocateAs, allocate, run_onHeap]
    rcases hresult : machine.heap.allocate machine.classes.objectModel size with ⟨error | id, heap⟩
    · rw [hresult] at hallocates
      exact hallocates.keeps
    · rw [hresult] at hallocates
      apply hallocates.keeps.modifyData
      intro hinUse
      have hissued := Store.lt_issued_of_isSome (hclosed.isSome_of_inUse hinUse)
      exact Nat.not_lt.2 (hallocates.placed id rfl).1 hissued
  · exact .refl _ _

theorem Orderly.restored_raise (h : machine.Orderly)
    (hclosed : machine.heap.Closed machine.classes.objectModel) (classId : ClassId) :
    machine.Restored (machine.raise classId).2 := by
  have hafter : (machine.raise classId).2.heap.Consistent :=
    (h.step (.check (.never classId))).consistent
  rw [raise_snd] at hafter ⊢
  apply restored_of_keeps hafter hclosed
  · exact roots_newObject classId machine
  · exact cells_newObject machine classId
  · exact keeps_newObject h.consistent hclosed classId
  · rw [(machine.sameClasses_newObject classId).1]
    exact fun _ _ _ => rfl

theorem fresh_newObject (hheap : machine.heap.Consistent) {object : ObjectId} {after : Machine}
    (hrun : (newObject classId).run machine = (.ok object, after)) :
    machine.heap.store.issued ≤ object := by
  rw [run_newObject] at hrun
  split at hrun
  · rename_i size fields _
    rw [run_allocateAs] at hrun
    rcases hallocate : (allocate size).run machine with ⟨error | id, supplied⟩
    · rw [hallocate] at hrun
      cases hrun
    · rw [hallocate] at hrun
      cases hrun
      have hplaced := placed_of_allocate (congrArg Prod.fst hallocate)
      exact ((Heap.supplies machine.classes.objectModel hheap size).placed object hplaced).1
  · cases hrun

/-- An object is a new instance of a class, under a name that was never given out before. -/
structure RaisedNew (before : Machine) (classId : ClassId) (object : ObjectId)
    (after : Machine) : Prop where
  fresh : before.heap.store.issued ≤ object
  listed : object ∈ after.heap.order
  newborn : after.Newborn object classId

theorem Orderly.raisedNew (h : machine.Orderly) {object : ObjectId}
    (hraise : (machine.raise classId).1 = .exception object) :
    machine.RaisedNew classId object (machine.raise classId).2 := by
  have hafter : (machine.raise classId).2.heap.Consistent :=
    (h.step (.check (.never classId))).consistent
  unfold raise at hraise hafter ⊢
  rcases hrun : (newObject classId).run machine with ⟨error | id, after⟩
  · rw [hrun] at hraise
    cases hraise
  · rw [hrun] at hraise hafter
    cases hraise
    obtain ⟨size, hword, hdata⟩ := data?_newObject h.consistent h.made.wellFormed hrun
    obtain ⟨stored, hget, -⟩ := exists_of_data? hdata
    constructor
    · exact fresh_newObject h.consistent hrun
    · exact (hafter.mem_order_iff object).2 (Option.isSome_of_eq_some hget)
    · refine newborn_of_data? ?_ hword hdata
      have hclasses := (machine.sameClasses_newObject classId).1
      rw [hrun] at hclasses
      rw [hclasses]
      exact h.made.wellFormed

/-! ### The outcome of a failed check -/

/-- Bytes of an allocation for an instance of a class. -/
def instanceBytes (machine : Machine) (classId : ClassId) : Nat :=
  totalBytes (machine.classes.instanceSize classId)

/-- How an error of a class is raised, to the byte: the failure that comes of it and what is
    left. -/
structure RaisesExactly (before : Machine) (classId : ClassId) (failure : Failure)
    (after : Machine) : Prop where
  /-- A class without instances changes nothing. -/
  notInstantiable : before.classes.isInstances classId = false →
    failure = .fatal (.notInstantiable (before.classes.name classId)) ∧ after = before
  exception_iff : before.classes.isInstances classId →
    ((∃ object, failure = .exception object) ↔
      before.instanceBytes classId ≤ largestAllocation ∧
        before.heap.bytesInUse before.classes.objectModel + before.instanceBytes classId ≤
          before.heap.limits.hard)
  raised : ∀ object, failure = .exception object → before.RaisedNew classId object after
  tooBig : before.classes.isInstances classId →
    largestAllocation < before.instanceBytes classId →
    failure = .fatal (.allocation .tooBig) ∧ after = before
  /-- The error says how much was asked for, and what was in use. -/
  outOfHeap : before.classes.isInstances classId →
    before.instanceBytes classId ≤ largestAllocation →
    before.heap.limits.hard <
      before.heap.bytesInUse before.classes.objectModel + before.instanceBytes classId →
    failure = .fatal (.allocation (.outOfHeap (before.instanceBytes classId)
      (before.heap.bytesInUse before.classes.objectModel) before.heap.limits.hard))
  sameClasses : before.SameClasses after
  /-- The roots, the variables and all that they reach are as before. -/
  restored : before.Restored after

theorem Orderly.raisesExactly (h : machine.Orderly)
    (hsteady : machine.heap.Steady machine.heap.limits.hard)
    (hclosed : machine.heap.Closed machine.classes.objectModel)
    (hhard : machine.heap.limits.hard < wordLimit - 1) (classId : ClassId) :
    machine.RaisesExactly classId (machine.raise classId).1 (machine.raise classId).2 := by
  have hsame : machine.SameClasses (machine.raise classId).2 := by
    rw [raise_snd]
    exact machine.sameClasses_newObject classId
  have hexact := hsteady.exactAllocation hhard hclosed (machine.classes.instanceSize classId)
  refine ⟨?_, ?_, fun object hobject => h.raisedNew hobject, ?_, ?_, hsame,
    h.restored_raise hclosed classId⟩
  · intro hblank
    rw [raise_of_not_isInstances hblank]
    exact ⟨rfl, rfl⟩
  · intro hinstances
    rw [instanceBytes, ← hexact.ok_iff, raise_of_isInstances hinstances]
    rcases machine.heap.allocate machine.classes.objectModel
      (machine.classes.instanceSize classId) with ⟨error | id, heap⟩
    · simp
    · simp
  · intro hinstances hbig
    obtain ⟨hanswer, hheap⟩ := hexact.tooBig hbig
    rw [raise_of_error hinstances hanswer, hheap]
    exact ⟨rfl, rfl⟩
  · intro hinstances hle hfull
    obtain ⟨requested, used, limit, hanswer⟩ := (hexact.outOfHeap_iff hle).2 hfull
    obtain ⟨rfl, rfl, rfl, -⟩ := hexact.refused _ _ _ hanswer
    rw [raise_of_error hinstances hanswer]
    rfl

/-- What the checks of a machine come to. -/
structure ChecksExactly (machine : Machine) : Prop where
  notNull_iff : ∀ ref, (machine.test (.notNull ref)).1 = .ok () ↔ ref ≠ none
  bounds_iff : ∀ array index length, machine.arrayLength? array = some length →
    ((machine.test (.bounds array index)).1 = .ok () ↔ 0 ≤ index ∧ index < length)
  /-- A check that passes changes nothing, and the count of collections is no exception. -/
  passed : ∀ check, (machine.test check).1 = .ok () → (machine.test check).2 = machine
  failed : ∀ check failure, (machine.test check).1 = .error failure →
    (∀ fault, failure ≠ .fault fault) →
    machine.RaisesExactly (machine.errorClass check) failure (machine.test check).2
  /-- The one fault is to look for a length where there is no object, and it changes nothing. -/
  fault_iff : ∀ check fault, (machine.test check).1 = .error (.fault fault) ↔
    fault = .nullReference ∧
      ∃ array index, check = .bounds array index ∧ 0 ≤ index ∧ machine.storage? array = none
  faulted : ∀ check fault, (machine.test check).1 = .error (.fault fault) →
    (machine.test check).2 = machine

/-- In every machine that comes about and in which nothing dangles, the checks either pass or raise
    an error object, unless the class of the error or the bytes in use rule that out, or there is
    nothing to check. -/
theorem checks_pass_or_raise (h : machine.ReachedByAny)
    (hclosed : machine.heap.Closed machine.classes.objectModel)
    (hhard : machine.heap.limits.hard < wordLimit - 1)
    (hgrants : ∀ asked bytes, machine.heap.system.grants asked bytes) :
    machine.ChecksExactly := by
  have hsteady : machine.heap.Steady machine.heap.limits.hard := ⟨h.accounted hhard, hgrants⟩
  constructor
  · intro ref
    rw [test_eq_ok_iff, passes, Except.ok.injEq]
    exact Option.isSome_iff_ne_none
  · intro array index length hlength
    rw [test_eq_ok_iff, passes, inBounds_of_length hlength, Except.ok.injEq, decide_eq_true_iff]
  · intro check hpasses
    rw [test_of_passes (test_eq_ok_iff.1 hpasses)]
  · intro check failure hfails hnofault
    rcases hpasses : machine.passes check with fault | _ | _
    · rw [test_of_faults hpasses] at hfails
      cases hfails
      exact absurd rfl (hnofault fault)
    · rw [test_of_fails hpasses] at hfails ⊢
      cases hfails
      exact h.orderly.raisesExactly hsteady hclosed hhard _
    · rw [test_of_passes hpasses] at hfails
      cases hfails
  · intro check fault
    rw [test_eq_fault_iff, passes_eq_error_iff]
  · intro check fault hfault
    rw [test_of_faults (test_eq_fault_iff.1 hfault)]

/-- The bound of the system on one allocation. -/
example : largestAllocation = 2 ^ 63 - 8 := rfl

/-- Two numbers in an array that is held, and many more in one that is not. -/
def numbersMachine : Machine :=
  pairMachine.obeyAll (session [.newArray (.primitive .int) none [2], .pushOperand (some 0),
    .newArray (.primitive .int) none [22]])

theorem numbersMachine_reachedByAny : numbersMachine.ReachedByAny :=
  (ReachedByAny.new pairClasses_made pairCore_lt_size pairMachine_new).obeyAll _

/-- The second number is within the bounds.  The third is not, and the larger array makes way for
    the error object. -/
theorem checks_pass_or_raise_of_numbers :
    (numbersMachine.ReachedByAny ∧ numbersMachine.heap.Closed numbersMachine.classes.objectModel ∧
      numbersMachine.heap.limits.hard < wordLimit - 1 ∧
      (∀ asked bytes, numbersMachine.heap.system.grants asked bytes) ∧
      numbersMachine.arrayLength? (some 0) = some 2 ∧
      (numbersMachine.test (.bounds (some 0) 1)).1 = .ok () ∧
      (numbersMachine.test (.bounds (some 0) 2)).1 = .error (.exception 2) ∧
      numbersMachine.heap.order = [1, 0] ∧
      (numbersMachine.test (.bounds (some 0) 2)).2.heap.order = [2, 0]) ∧
      numbersMachine.ChecksExactly := by
  have hclosed : numbersMachine.heap.Closed numbersMachine.classes.objectModel := by
    decide +kernel
  have hhard : numbersMachine.heap.limits.hard < wordLimit - 1 := by decide +kernel
  have hsystem : numbersMachine.heap.system = .unlimited := rfl
  have hgrants : ∀ asked bytes, numbersMachine.heap.system.grants asked bytes := by
    intro asked bytes
    rw [hsystem]
    rfl
  exact ⟨⟨numbersMachine_reachedByAny, hclosed, hhard, hgrants, by decide +kernel,
    by decide +kernel, by decide +kernel, by decide +kernel, by decide +kernel⟩,
    checks_pass_or_raise numbersMachine_reachedByAny hclosed hhard hgrants⟩

end Machine

end ManagedRuntime
