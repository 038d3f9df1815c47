/-
  Headroom between collections
  ============================
  A collection that an allocation triggers leaves a full step of headroom below the soft limit,
  unless the hard limit is too close for it (`Heap.Collects.headroom`).  The headroom can be used
  up by allocations only: nothing else makes the bytes in use rise, and the soft limit never
  falls.  So the next allocation that collects comes when more than a step has been allocated
  (`Heap.collections_are_paid_for`), and collections cannot follow one another closely without
  work in between.
-/
import ManagedRuntime.Proofs.Heap.ExactAllocation

namespace ManagedRuntime

namespace Ledger

theorem allocated_enterCollection (ledger : Ledger) (collection : Option Collection) :
    (ledger.enterCollection collection).allocated = ledger.allocated := by
  cases collection <;> rfl

theorem allocated_enterAllocation (ledger : Ledger) (total : Option Nat) :
    (ledger.enterAllocation total).allocated = ledger.allocated + total.getD 0 := by
  cases total <;> rfl

end Ledger

namespace Heap

variable {α : Type} {model : ObjectModel α} {heap : Heap α} {config : HeapConfig}
variable {size total : Nat}

/-- An allocation of so many bytes of data runs a collection. -/
def Collects (model : ObjectModel α) (heap : Heap α) (size : Nat) : Prop :=
  heap.collections < (heap.allocate model size).2.collections

instance : Decidable (heap.Collects model size) :=
  inferInstanceAs (Decidable (_ < _))

/-! ### When an allocation collects -/

theorem totalBytes_pos (size : Nat) : 0 < totalBytes size :=
  Nat.add_pos_left (by decide) _

theorem collections_makeRoom_of_not_wouldPass (h : ¬heap.wouldPass heap.limits.soft total) :
    (heap.makeRoom model total).collections = heap.collections := by
  rw [makeRoom_of_not_wouldPass h]

/-- An allocation that collects found the heap tight; it leaves the limits that it made. -/
theorem Collects.exists_tight (h : heap.Collects model size) (hheap : heap.Consistent) :
    heap.wouldPass heap.limits.soft (totalBytes size) ∧
      (heap.allocate model size).2.limits =
        (heap.makeRoom model (totalBytes size)).limits ∧
      (heap.allocate model size).2.used ≤
        (heap.makeRoom model (totalBytes size)).used + totalBytes size := by
  unfold Collects at h
  have htight : ∀ {total : Nat},
      heap.collections < (heap.makeRoom model total).collections →
        heap.wouldPass heap.limits.soft total := by
    intro total hmore
    by_cases htight : heap.wouldPass heap.limits.soft total
    · exact htight
    · rw [collections_makeRoom_of_not_wouldPass htight] at hmore
      exact absurd hmore (Nat.lt_irrefl _)
  rcases hallocate : heap.allocate model size with ⟨result, after⟩
  rw [hallocate] at h
  cases outcome_of_allocate hheap hallocate with
  | tooBig hbig => exact absurd h (Nat.lt_irrefl _)
  | full htotal hle _ hfull =>
    obtain ⟨-, rfl⟩ := totalSize?_eq_some_iff.1 htotal
    exact ⟨htight h, rfl, Nat.le_add_right ..⟩
  | refused htotal hle hrefused =>
    obtain ⟨-, rfl⟩ := totalSize?_eq_some_iff.1 htotal
    exact ⟨htight h, rfl, Nat.le_add_right ..⟩
  | uncountable htotal hle hroom hcount =>
    obtain ⟨-, rfl⟩ := totalSize?_eq_some_iff.1 htotal
    exact ⟨htight h, rfl, Nat.le_add_right ..⟩
  | placed htotal hle hroom hcount =>
    obtain ⟨-, rfl⟩ := totalSize?_eq_some_iff.1 htotal
    exact ⟨htight h, rfl, Nat.le_refl _⟩

/-- An allocation that collects would have passed the soft limit. -/
theorem Collects.soft_lt (h : heap.Collects model size) (hheap : heap.Consistent) :
    heap.limits.soft < heap.used + totalBytes size := by
  have htight := (h.exists_tight hheap).1
  rw [wouldPass, decide_eq_true_iff, saturatingAdd] at htight
  omega

/-- Where another step fits, an allocation that collected leaves a step of headroom. -/
theorem Collects.headroom (h : heap.Collects model size) (hheap : heap.Consistent)
    (hhard : heap.limits.hard < wordLimit)
    (hstep : (heap.allocate model size).2.limits.soft +
      (heap.allocate model size).2.limits.growth ≤ (heap.allocate model size).2.limits.hard) :
    (heap.allocate model size).2.used + (heap.allocate model size).2.limits.growth ≤
      (heap.allocate model size).2.limits.soft := by
  obtain ⟨htight, hlimits, hused⟩ := h.exists_tight hheap
  rw [hlimits, makeRoom_of_wouldPass htight] at hstep ⊢
  rw [makeRoom_of_wouldPass htight] at hused
  dsimp only at hstep hused ⊢
  rw [HeapLimits.growth_growFor, HeapLimits.hard_growFor] at hstep
  rw [HeapLimits.growth_growFor]
  -- growth stopped although another step fits, so it stopped for the headroom
  have hends := (heap.limits.growFor_ends hhard
    (saturatingAdd (heap.collect model).2.used (totalBytes size))).resolve_right
      (Nat.not_lt.2 hstep)
  have hpos := heap.limits.growth_pos
  have hrequest := totalBytes_pos size
  unfold saturatingAdd wordLimit at *
  omega

/-! ### What uses headroom up -/

theorem used_makeRoom_le (hheap : heap.Consistent) (total : Nat) :
    (heap.makeRoom model total).used ≤ heap.used := by
  by_cases htight : heap.wouldPass heap.limits.soft total
  · rw [makeRoom_of_wouldPass htight]
    exact used_collect_le hheap
  · simp [makeRoom_of_not_wouldPass htight]

/-- An allocation takes up what it enters in the ledger, and a collection in it takes up nothing. -/
theorem used_allocate_le (hheap : heap.Consistent) (size : Nat) :
    (heap.allocate model size).2.used ≤
      heap.used + (heap.allocated? model (.allocate size)).getD 0 := by
  simp only [allocated?]
  rcases hallocate : heap.allocate model size with ⟨result, after⟩
  cases outcome_of_allocate hheap hallocate with
  | tooBig hbig => exact Nat.le_refl _
  | full htotal hle htight hfull => exact used_makeRoom_le hheap _
  | refused htotal hle hrefused => exact used_makeRoom_le hheap _
  | uncountable htotal hle hroom hcount => exact used_makeRoom_le hheap _
  | @placed total htotal hle hroom hcount =>
    have hissued : (heap.makeRoom model total).store.issued = heap.store.issued :=
      issued_makeRoom hheap total
    have hsize : ((heap.makeRoom model total).added total
        (model.zeroed (dataSize size))).sizeOf heap.store.issued = total := by
      rw [sizeOf, ← hissued]
      exact Store.sizeOf_of_get? ((get?_added ..).trans (if_pos rfl))
    have hused : (heap.makeRoom model total).used ≤ heap.used := used_makeRoom_le hheap total
    dsimp only
    rw [hsize]
    exact Nat.add_le_add_right hused total

/-- Nothing but an allocation makes the bytes in use rise. -/
theorem used_perform_le (hheap : heap.Consistent) (operation : HeapOperation α) :
    (heap.perform model operation).used ≤
      heap.used + (heap.allocated? model operation).getD 0 := by
  obtain ⟨size, rfl⟩ | rfl | ⟨object, change, rfl⟩ | ⟨-, -, roots, cells, heq⟩ :=
    perform_cases model heap operation
  · exact used_allocate_le hheap size
  · exact Nat.le_trans (used_collect_le hheap) (Nat.le_add_right ..)
  · exact Nat.le_add_right ..
  · rw [heq]
    exact Nat.le_add_right ..

theorem Consistent.perform (hheap : heap.Consistent) (operation : HeapOperation α) :
    (heap.perform model operation).Consistent := by
  obtain ⟨size, rfl⟩ | rfl | ⟨object, change, rfl⟩ | ⟨-, -, roots, cells, heq⟩ :=
    perform_cases model heap operation
  · exact (supplies model hheap size).consistent
  · exact hheap.collect
  · exact hheap.modifyData object change
  · rw [heq]
    exact hheap.of_eq rfl rfl rfl rfl

/-- Over a run the bytes in use rise by what the run allocates at most. -/
theorem used_run_le (hheap : heap.Consistent) (ledger : Ledger)
    (operations : List (HeapOperation α)) :
    (heap.run model ledger operations).1.used + ledger.allocated ≤
      heap.used + (heap.run model ledger operations).2.allocated := by
  induction operations generalizing heap ledger with
  | nil => exact Nat.le_refl _
  | cons operation operations ih =>
    have hstep : (heap.perform model operation).used ≤
        heap.used + (heap.allocated? model operation).getD 0 := used_perform_le hheap operation
    have hperformed : (heap.perform model operation).Consistent := hheap.perform operation
    have hrest := ih hperformed ((ledger.enterCollection
      (heap.collected? model operation)).enterAllocation (heap.allocated? model operation))
    rw [Ledger.allocated_enterAllocation, Ledger.allocated_enterCollection] at hrest
    rw [run]
    omega

/-! ### From one collection to the next -/

/-- If an allocation collects in a run, and another step of the soft limit would still fit then
    below the hard limit, then the next one that collects comes only after allocations whose sizes
    make, together with its own request, more than a step.  Collections on request, stores,
    operations on the roots and failed allocations in between do not count. -/
theorem collections_are_paid_for (model : ObjectModel α) (config : HeapConfig)
    (system : SystemMemory) (cells : Cells) (issued : Nat) (hhard : config.hardLimit < wordLimit)
    (before between : List (HeapOperation α)) (size next : Nat) :
    let start := ((empty config system cells issued).run model {} before).1
    let after := (start.allocate model size).2
    let later := after.run model {} between
    start.Collects model size →
      after.limits.soft + max config.growth 1 ≤ config.hardLimit →
      later.1.Collects model next →
      max config.growth 1 < later.2.allocated + totalBytes next := by
  intro start after later hcollects hstep hnext
  have hempty := paced_empty (α := α) config system cells issued
  have hstart : start.Paced config := (hempty.run hhard {} before).1
  have hafter : after.Paced config := hstart.allocate hhard size
  obtain ⟨hlater, hsoft⟩ : later.1.Paced config ∧ after.limits.soft ≤ later.1.limits.soft :=
    hafter.run hhard {} between
  have hroom : after.used + after.limits.growth ≤ after.limits.soft := by
    apply hcollects.headroom hstart.toConsistent
    · rwa [hstart.limits.hard_eq]
    · rwa [hafter.limits.growth_eq, hafter.limits.hard_eq]
  have hused : later.1.used ≤ after.used + later.2.allocated :=
    used_run_le hafter.toConsistent {} between
  have hpassed := hnext.soft_lt hlater.toConsistent
  rw [hafter.limits.growth_eq] at hroom
  omega

/-- A heap with room for several steps below its hard limit. -/
def roomyConfig : HeapConfig :=
  { softLimit := 100, growth := 30, hardLimit := 400 }

/-- A collection on request and an allocation within the headroom. -/
def thriftyRun : List (HeapOperation Node) :=
  [.pushOperand (some 2), .collect, .popOperand, .allocate 0]

/-- Two objects of 24 bytes use up a headroom of 30 bytes. -/
theorem collections_are_paid_for_after_thriftyRun :
    let start := ((empty roomyConfig .unlimited {} 0).run Node.model {} wastefulRun).1
    let after := (start.allocate Node.model 24).2
    let later := after.run Node.model {} thriftyRun
    (roomyConfig.hardLimit < wordLimit ∧ start.Collects Node.model 24 ∧
      after.limits.soft + max roomyConfig.growth 1 ≤ roomyConfig.hardLimit ∧
      later.1.Collects Node.model 0) ∧
      max roomyConfig.growth 1 < later.2.allocated + totalBytes 0 := by
  intro start after later
  have hhard : roomyConfig.hardLimit < wordLimit := by decide
  have hcollects : start.Collects Node.model 24 := by decide +kernel
  have hstep : after.limits.soft + max roomyConfig.growth 1 ≤ roomyConfig.hardLimit := by
    decide +kernel
  have hnext : later.1.Collects Node.model 0 := by decide +kernel
  exact ⟨⟨hhard, hcollects, hstep, hnext⟩,
    collections_are_paid_for Node.model roomyConfig .unlimited {} 0 hhard wastefulRun thriftyRun 24
      0 hcollects hstep hnext⟩

end Heap

end ManagedRuntime
