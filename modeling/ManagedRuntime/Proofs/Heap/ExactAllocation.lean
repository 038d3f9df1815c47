/-
  The exact outcome of an allocation
  ==================================
  An allocation is refused exactly where the bytes in use and the request do not fit under the
  hard limit together (`Heap.ExactAllocation`).  Garbage, the soft limit and the step by which it
  rises decide whether the heap is collected on the way, and nothing else.

  The hard limit is looked at only where the soft one would be passed.  That this is enough rests
  on an invariant of runs, the soft limit being within the hard one.  What is in use is counted
  by a collection at that moment, so it is exact.
-/
import ManagedRuntime.Proofs.Heap.Agreement
import ManagedRuntime.Proofs.Heap.Growth
import ManagedRuntime.Proofs.Heap.Weight

namespace ManagedRuntime

/-! ### Sizes -/

/-- Bytes of an allocation for `size` bytes of data, whether or not they are a word. -/
def totalBytes (size : Nat) : Nat :=
  headerSize + dataSize size

theorem totalSize?_eq_some_iff {size total : Nat} :
    totalSize? size = some total ↔ totalBytes size < wordLimit ∧ total = totalBytes size := by
  unfold totalSize? totalBytes dataSize nextMultiple headerSize objectAlignment wordLimit
  simp only [Option.bind_eq_bind, Option.bind_eq_some_iff, addWord?_eq_some_iff, wordLimit]
  constructor
  · rintro ⟨padded, ⟨-, rfl⟩, hfits, rfl⟩
    omega
  · rintro ⟨hfits, rfl⟩
    exact ⟨size + (8 - 1), by omega, by omega⟩

theorem totalSize?_of_le {size : Nat} (h : totalBytes size ≤ largestAllocation) :
    totalSize? size = some (totalBytes size) := by
  refine totalSize?_eq_some_iff.2 ⟨?_, rfl⟩
  unfold largestAllocation wordLimit at *
  omega

theorem tooBig_of_lt {size : Nat} (h : largestAllocation < totalBytes size) :
    ∀ total, totalSize? size = some total → largestAllocation < total := by
  intro total htotal
  rwa [(totalSize?_eq_some_iff.1 htotal).2]

namespace HeapLimits

/-- Beyond what leaves a step of headroom at the ceiling, the number asked for makes no
    difference. -/
theorem raise_min {growth ceiling needed soft limit : Nat} (growth_pos : 0 < growth)
    (hsoft : soft ≤ ceiling) (hlimit : ceiling < limit) :
    raise growth ceiling (min needed limit) growth_pos soft =
      raise growth ceiling needed growth_pos soft := by
  induction soft using raise.induct growth ceiling needed growth_pos with
  | case1 soft hstep ih =>
    rw [raise, if_pos (by omega), ih hstep.2, eq_comm, raise, if_pos hstep]
  | case2 soft hstop =>
    rw [raise, if_neg (by omega), raise, if_neg hstop]

/-- Growth for a clamped sum is growth for the true one. -/
theorem growFor_saturatingAdd {limits : HeapLimits} (hsoft : limits.soft ≤ limits.hard)
    (hhard : limits.hard < wordLimit - 1) (a b : Nat) :
    limits.growFor (saturatingAdd a b) = limits.growFor (a + b) := by
  have hceiling : limits.ceiling < wordLimit - 1 := Nat.lt_of_le_of_lt limits.ceiling_le hhard
  have hwithin : limits.soft ≤ limits.ceiling := by
    unfold ceiling
    omega
  unfold growFor saturatingAdd
  rw [raise_min limits.growth_pos hwithin hceiling]

end HeapLimits

namespace Heap

variable {α : Type} {model : ObjectModel α} {heap base after : Heap α} {id : ObjectId}
variable {hard size total : Nat}

/-! ### What an allocation does -/

/-- One object more than in `base`, at the head of the list. -/
structure Gains (base : Heap α) (id : ObjectId) (object : Object α) (after : Heap α) : Prop where
  order_eq : after.order = id :: base.order
  fresh : base.get? id = none
  get?_eq : after.get? id = some object
  others : ∀ other, other ≠ id → after.get? other = base.get? other
  used_eq : after.used = base.used + object.total
  count_eq : after.count = base.count + 1

theorem gains_added (heap : Heap α) (total : Nat) (data : α) :
    heap.Gains heap.store.issued { total, marked := false, data } (heap.added total data) where
  order_eq := rfl
  fresh := Store.get?_of_issued_le (Nat.le_refl _)
  get?_eq := (heap.get?_added ..).trans (if_pos rfl)
  others _ hother := (heap.get?_added ..).trans (if_neg hother)
  used_eq := rfl
  count_eq := rfl

/-- The objects that the roots reach, unchanged, and no others. -/
structure HoldsInUse (model : ObjectModel α) (heap after : Heap α) : Prop where
  nodup : after.order.Nodup
  mem_order_iff : ∀ id, id ∈ after.order ↔ heap.InUse model id
  get?_eq : ∀ id, heap.InUse model id → after.get? id = heap.get? id
  used_eq : after.used = heap.bytesInUse model

theorem holdsInUse_collect (hheap : heap.Consistent) (hclosed : heap.Closed model) :
    HoldsInUse model heap (heap.collect model).2 where
  nodup := by
    have hcollected : (heap.collect model).2.Consistent := hheap.collect
    exact hcollected.nodup
  mem_order_iff id := by
    rw [mem_order_collect_iff hheap, mem_survivors_iff hheap]
    exact and_iff_left_of_imp hclosed.isSome_of_inUse
  get?_eq _ hid := get?_collect_of_inUse hheap hid
  used_eq := used_collect_eq model hheap

/-- What an allocation of `size` bytes of data answers and what it leaves, to the byte. -/
structure ExactAllocation (model : ObjectModel α) (heap : Heap α) (size : Nat)
    (answer : Except AllocationError ObjectId) (after : Heap α) : Prop where
  tooBig : largestAllocation < totalBytes size → answer = .error .tooBig ∧ after = heap
  /-- Within the soft limit nothing is collected. -/
  within : totalBytes size ≤ largestAllocation →
    heap.used + totalBytes size ≤ heap.limits.soft →
    after.collections = heap.collections ∧ after.limits = heap.limits ∧
      ∃ id, answer = .ok id ∧
        heap.Gains id ⟨totalBytes size, false, model.zeroed (dataSize size)⟩ after
  /-- Beyond it the heap is collected once, and the soft limit rises for what is needed then. -/
  beyond : totalBytes size ≤ largestAllocation →
    heap.limits.soft < heap.used + totalBytes size →
    after.collections = heap.collections + 1 ∧
      after.limits = heap.limits.growFor (heap.bytesInUse model + totalBytes size) ∧
      ∀ id, answer = .ok id →
        (heap.collect model).2.Gains id ⟨totalBytes size, false, model.zeroed (dataSize size)⟩
          after
  /-- Only what is in use counts against the hard limit. -/
  outOfHeap_iff : totalBytes size ≤ largestAllocation →
    ((∃ requested used limit, answer = .error (.outOfHeap requested used limit)) ↔
      heap.limits.hard < heap.bytesInUse model + totalBytes size)
  refused : ∀ requested used limit, answer = .error (.outOfHeap requested used limit) →
    requested = totalBytes size ∧ used = heap.bytesInUse model ∧ limit = heap.limits.hard ∧
      HoldsInUse model heap after
  ok_iff : (∃ id, answer = .ok id) ↔
    totalBytes size ≤ largestAllocation ∧
      heap.bytesInUse model + totalBytes size ≤ heap.limits.hard
  roots_eq : after.roots = heap.roots
  cells_eq : after.cells = heap.cells
  system_eq : after.system = heap.system

/-! ### Making room -/

theorem Accounted.wouldPass_soft_iff (h : heap.Accounted hard) (hhard : hard < wordLimit - 1) :
    heap.wouldPass heap.limits.soft total ↔ heap.limits.soft < heap.used + total :=
  wouldPass_iff (Nat.lt_of_le_of_lt h.soft_le hhard)

theorem Accounted.makeRoom_of_within (h : heap.Accounted hard) (hhard : hard < wordLimit - 1)
    (hwithin : heap.used + total ≤ heap.limits.soft) : heap.makeRoom model total = heap := by
  apply makeRoom_of_not_wouldPass
  rw [h.wouldPass_soft_iff hhard]
  exact Nat.not_lt.2 hwithin

theorem Accounted.makeRoom_of_beyond (h : heap.Accounted hard) (hhard : hard < wordLimit - 1)
    (hbeyond : heap.limits.soft < heap.used + total) :
    heap.makeRoom model total =
      { (heap.collect model).2 with
        limits := heap.limits.growFor (heap.bytesInUse model + total) } := by
  have hsoft : heap.limits.soft ≤ heap.limits.hard := by
    rw [h.hard_eq]
    exact h.soft_le
  rw [makeRoom_of_wouldPass ((h.wouldPass_soft_iff hhard).2 hbeyond),
    used_collect_eq model h.toConsistent,
    HeapLimits.growFor_saturatingAdd hsoft (by rwa [h.hard_eq])]

/-- What fits within the soft limit fits under the hard one with less on the heap. -/
theorem Accounted.bytesInUse_add_le (h : heap.Accounted hard)
    (hwithin : heap.used + total ≤ heap.limits.soft) : heap.bytesInUse model + total ≤ hard := by
  have hused := bytesInUse_le_used model h.toConsistent
  have hsoft := h.soft_le
  omega

/-! ### The two outcomes of a request that is not too big -/

theorem Steady.exact_ok (h : heap.Steady hard) (hhard : hard < wordLimit - 1)
    (hle : totalBytes size ≤ largestAllocation)
    (hroom : heap.bytesInUse model + totalBytes size ≤ hard) :
    heap.ExactAllocation model size (heap.allocate model size).1 (heap.allocate model size).2 := by
  have hissued : (heap.makeRoom model (totalBytes size)).store.issued = heap.store.issued :=
    issued_makeRoom h.toConsistent _
  have hgains := (heap.makeRoom model (totalBytes size)).gains_added (totalBytes size)
    (model.zeroed (dataSize size))
  rw [hissued] at hgains
  obtain ⟨hroots, hcells⟩ := roots_makeRoom model heap (totalBytes size)
  rw [h.allocate_eq_ok hhard (totalSize?_of_le hle) hle
    (by rwa [used_collect_eq model h.toConsistent])]
  constructor
  · intro hbig
    omega
  · intro _ hwithin
    have hsame : heap.makeRoom model (totalBytes size) = heap :=
      h.makeRoom_of_within hhard hwithin
    rw [hsame] at hgains ⊢
    exact ⟨rfl, rfl, _, rfl, hgains⟩
  · intro _ hbeyond
    have hcollected : heap.makeRoom model (totalBytes size) =
        { (heap.collect model).2 with
          limits := heap.limits.growFor (heap.bytesInUse model + totalBytes size) } :=
      h.makeRoom_of_beyond hhard hbeyond
    rw [hcollected] at hgains ⊢
    refine ⟨rfl, rfl, ?_⟩
    rintro id ⟨⟩
    -- limits have no part in what is gained
    exact ⟨hgains.order_eq, hgains.fresh, hgains.get?_eq, hgains.others, hgains.used_eq,
      hgains.count_eq⟩
  · intro _
    rw [h.hard_eq]
    exact ⟨nofun, fun hfull => absurd hroom (Nat.not_le.2 hfull)⟩
  · nofun
  · rw [h.hard_eq]
    exact ⟨fun _ => ⟨hle, hroom⟩, fun _ => ⟨_, rfl⟩⟩
  · exact hroots
  · exact hcells
  · exact system_makeRoom ..

theorem Steady.exact_full (h : heap.Steady hard) (hhard : hard < wordLimit - 1)
    (hclosed : heap.Closed model) (hle : totalBytes size ≤ largestAllocation)
    (hfull : hard < heap.bytesInUse model + totalBytes size) :
    heap.ExactAllocation model size (heap.allocate model size).1 (heap.allocate model size).2 := by
  have hbeyond : heap.limits.soft < heap.used + totalBytes size := by
    rw [← Nat.not_le]
    intro hwithin
    have hroom : heap.bytesInUse model + totalBytes size ≤ hard := h.bytesInUse_add_le hwithin
    omega
  have hcollected : heap.makeRoom model (totalBytes size) =
      { (heap.collect model).2 with
        limits := heap.limits.growFor (heap.bytesInUse model + totalBytes size) } :=
    h.makeRoom_of_beyond hhard hbeyond
  have hholds := holdsInUse_collect h.toConsistent hclosed
  obtain ⟨hanswer, -⟩ := h.allocate_eq_full hhard (totalSize?_of_le hle) hle
    (by rwa [used_collect_eq model h.toConsistent])
  rw [hanswer, hcollected, used_collect_eq model h.toConsistent]
  constructor
  · intro hbig
    omega
  · intro _ hwithin
    omega
  · exact fun _ _ => ⟨rfl, rfl, nofun⟩
  · intro _
    rw [h.hard_eq]
    exact ⟨fun _ => hfull, fun _ => ⟨_, _, _, rfl⟩⟩
  · rintro requested used limit ⟨⟩
    exact ⟨rfl, rfl, h.hard_eq.symm,
      hholds.nodup, hholds.mem_order_iff, hholds.get?_eq, hholds.used_eq⟩
  · rw [h.hard_eq]
    exact ⟨nofun, fun hfits => absurd hfits.2 (Nat.not_le.2 hfull)⟩
  · rfl
  · rfl
  · rfl

theorem Steady.exactAllocation (h : heap.Steady hard) (hhard : hard < wordLimit - 1)
    (hclosed : heap.Closed model) (size : Nat) :
    heap.ExactAllocation model size (heap.allocate model size).1 (heap.allocate model size).2 := by
  rcases Nat.lt_or_ge largestAllocation (totalBytes size) with hbig | hle
  · rw [allocate_eq_tooBig h.toConsistent (tooBig_of_lt hbig)]
    have hnot : ¬totalBytes size ≤ largestAllocation := Nat.not_le.2 hbig
    exact {
      tooBig := fun _ => ⟨rfl, rfl⟩
      within := fun hle => absurd hle hnot
      beyond := fun hle => absurd hle hnot
      outOfHeap_iff := fun hle => absurd hle hnot
      refused := nofun
      ok_iff := ⟨nofun, fun hfits => absurd hfits.1 hnot⟩
      roots_eq := rfl
      cells_eq := rfl
      system_eq := rfl }
  · rcases Nat.lt_or_ge hard (heap.bytesInUse model + totalBytes size) with hfull | hroom
    · exact h.exact_full hhard hclosed hle hfull
    · exact h.exact_ok hhard hle hroom

/-- An object that was just made adds its size to what the roots reach. -/
theorem weight_allocate (hheap : heap.Consistent) (hclosed : heap.Closed model)
    (hzeroed : ∀ ref ∈ model.refs (model.zeroed (dataSize size)), ref = none)
    (hallocate : heap.allocate model size = (.ok id, after)) :
    after.weight model (after.rootRefs ++ [some id]) =
      heap.bytesInUse model + totalBytes size := by
  cases outcome_of_allocate hheap hallocate with
  | @placed total htotal hle hroom hcount =>
    obtain ⟨-, rfl⟩ := totalSize?_eq_some_iff.1 htotal
    have hroomy : (heap.makeRoom model (totalBytes size)).Consistent := hheap.makeRoom _
    have hissued : (heap.makeRoom model (totalBytes size)).store.issued = heap.store.issued :=
      issued_makeRoom hheap _
    have hroots : (heap.makeRoom model (totalBytes size)).rootRefs = heap.rootRefs := by
      obtain ⟨hroots, hcells⟩ := roots_makeRoom model heap (totalBytes size)
      rw [rootRefs, hroots, hcells, rootRefs]
    have hweight := weight_added hroomy (hclosed.makeRoom hheap _) hzeroed (totalBytes size)
    have hinUse : (heap.makeRoom model (totalBytes size)).bytesInUse model =
        heap.bytesInUse model :=
      (keeps_makeRoom hheap (totalBytes size)).bytesInUse_eq hheap hroomy hroots
    rw [hissued, hinUse] at hweight
    exact hweight

/-! ### Whole runs -/

theorem Steady.perform (h : heap.Steady hard) (hhard : hard < wordLimit - 1)
    (operation : HeapOperation α) : (heap.perform model operation).Steady hard := by
  obtain ⟨size, rfl⟩ | rfl | ⟨object, change, rfl⟩ | ⟨-, -, roots, cells, heq⟩ :=
    perform_cases model heap operation
  · exact h.allocate hhard size
  · exact h.collect
  · exact h.modifyData object change
  · rw [heq]
    exact h.reroot roots cells

theorem Steady.run (h : heap.Steady hard) (hhard : hard < wordLimit - 1) (ledger : Ledger)
    (operations : List (HeapOperation α)) : (heap.run model ledger operations).1.Steady hard := by
  induction operations generalizing heap ledger with
  | nil => exact h
  | cons operation operations ih => exact ih (h.perform hhard operation) _

theorem steady_empty (config : HeapConfig) {system : SystemMemory} (cells : Cells) (issued : Nat)
    (hgrants : ∀ asked bytes, system.grants asked bytes) :
    (empty config system cells issued : Heap α).Steady config.hardLimit where
  toAccounted := accounted_empty config system cells issued
  grants := hgrants

/-- In every state that a run reaches, an allocation comes out as the bytes in use and the hard
    limit say, provided that nothing dangles and that the system grants all storage. -/
theorem allocate_exact (model : ObjectModel α) (config : HeapConfig) (system : SystemMemory)
    (cells : Cells) (issued : Nat) (hhard : config.hardLimit < wordLimit - 1)
    (hgrants : ∀ asked bytes, system.grants asked bytes)
    (operations : List (HeapOperation α))
    (hclosed : ((empty config system cells issued).run model {} operations).1.Closed model)
    (size : Nat) :
    let heap := ((empty config system cells issued).run model {} operations).1
    heap.limits.hard = config.hardLimit ∧
      heap.ExactAllocation model size (heap.allocate model size).1
        (heap.allocate model size).2 := by
  have hempty := steady_empty (α := α) config cells issued hgrants
  have hsteady : ((empty config system cells issued).run model {} operations).1.Steady
      config.hardLimit := hempty.run hhard {} operations
  exact ⟨hsteady.hard_eq, hsteady.exactAllocation hhard hclosed size⟩

/-- Only names that were given out have objects. -/
theorem closed_iff : heap.Closed model ↔
    (∀ ref ∈ heap.rootRefs, heap.Admits ref) ∧ ∀ id < heap.store.issued,
      ∀ object ∈ heap.get? id, ∀ ref ∈ model.refs object.data, heap.Admits ref := by
  constructor
  · intro hclosed
    exact ⟨hclosed.roots, fun id _ object hget => hclosed.contents id object hget⟩
  · rintro ⟨hroots, hcontents⟩
    refine ⟨hroots, ?_⟩
    intro id object hget
    have hissued := Store.lt_issued_of_isSome (Option.isSome_of_eq_some hget)
    exact hcontents id hissued object hget

instance : Decidable (heap.Closed model) :=
  decidable_of_iff _ closed_iff.symm

/-- Two objects of which one is in use, in a heap with no room for a third within the soft
    limit. -/
def wastefulRun : List (HeapOperation Node) :=
  [.allocate 16, .allocate 17, .pushOperand (some 1)]

/-- An object is granted that would pass the hard limit beside the garbage. -/
theorem allocate_exact_after_wastefulRun :
    let heap := ((empty tightConfig .unlimited {} 0).run Node.model {} wastefulRun).1
    (tightConfig.hardLimit < wordLimit - 1 ∧
      (∀ asked bytes, SystemMemory.unlimited.grants asked bytes) ∧
      heap.Closed Node.model ∧ tightConfig.hardLimit < heap.used + totalBytes 72 ∧
      (heap.allocate Node.model 72).2.order = [2, 1]) ∧
    heap.limits.hard = tightConfig.hardLimit ∧
      heap.ExactAllocation Node.model 72 (heap.allocate Node.model 72).1
        (heap.allocate Node.model 72).2 := by
  have hgrants : ∀ asked bytes, SystemMemory.unlimited.grants asked bytes := fun _ _ => rfl
  have hclosed : ((empty tightConfig .unlimited {} 0).run Node.model {} wastefulRun).1.Closed
      Node.model := by decide +kernel
  exact ⟨⟨by decide, hgrants, hclosed, by decide +kernel, by decide +kernel⟩,
    allocate_exact Node.model tightConfig .unlimited {} 0 (by decide) hgrants wastefulRun hclosed
      72⟩

end Heap

end ManagedRuntime
