/-
  Accounting
  ==========
  The books of a heap over whole runs.  A run is any sequence of operations on a heap:
  allocations of any size, collections, operations on the roots and stores into objects.
  A ledger is kept beside it, in which every allocation that succeeds and every
  collection is entered, those that happen inside an allocation included.

  `Heap.books_of_run` says that the counters, the list and the ledger agree in every
  state that a run reaches.  Which references are stored makes no difference to that.
-/
import ManagedRuntime.Proofs.Heap.Allocation

namespace ManagedRuntime

/-! ### Runs -/

inductive HeapOperation (α : Type) where
  | allocate (size : Nat)
  | collect
  | pushOperand (ref : Ref)
  | popOperand
  | registerLocal (cell : CellId)
  | addStaticRoot (cell : CellId)
  | openFrame
  | closeFrame (mark : Nat)
  | writeCell (cell : CellId) (ref : Ref)
  /-- Changes what an object holds. -/
  | store (object : ObjectId) (change : α → α)

/-- What was allocated and what was freed so far. -/
structure Ledger where
  /-- How many allocations succeeded. -/
  allocations : Nat := 0
  /-- Total bytes of the objects that they made. -/
  allocated : Nat := 0
  /-- How many collections there were. -/
  collections : Nat := 0
  /-- Objects that the collections report as freed. -/
  cleared : Nat := 0
  /-- Bytes that the collections report as freed. -/
  freed : Nat := 0
  deriving DecidableEq, Repr

namespace Ledger

/-- Enters a collection, if there was one. -/
def enterCollection (ledger : Ledger) : Option Collection → Ledger
  | none => ledger
  | some collection => { ledger with
      collections := ledger.collections + 1
      cleared := ledger.cleared + collection.cleared
      freed := ledger.freed + collection.freed }

/-- Enters the total bytes of an object that was made, if one was. -/
def enterAllocation (ledger : Ledger) : Option Nat → Ledger
  | none => ledger
  | some total => { ledger with
      allocations := ledger.allocations + 1
      allocated := ledger.allocated + total }

/-- The ledger accounts for the objects of a heap and for its collections. -/
structure Balances {α : Type} (ledger : Ledger) (heap : Heap α) : Prop where
  objects : ledger.allocations = heap.count + ledger.cleared
  bytes : ledger.allocated = heap.used + ledger.freed
  collections : ledger.collections = heap.collections

end Ledger

namespace Heap

variable {α : Type} {model : ObjectModel α} {heap : Heap α} {id : ObjectId}

def perform (model : ObjectModel α) (heap : Heap α) : HeapOperation α → Heap α
  | .allocate size => (heap.allocate model size).2
  | .collect => (heap.collect model).2
  | .pushOperand ref => (heap.pushOperand ref).2
  | .popOperand => heap.popOperand.2
  | .registerLocal cell => (heap.registerLocal cell).2
  | .addStaticRoot cell => (heap.addStaticRoot cell).2
  | .openFrame => heap
  | .closeFrame mark => (heap.closeFrame mark).2
  | .writeCell cell ref => heap.writeCell cell ref
  | .store object change => heap.modifyData object change

/-- The collection that happens in an operation. -/
def collected? (model : ObjectModel α) (heap : Heap α) : HeapOperation α → Option Collection
  | .collect => some (heap.collect model).1
  | .allocate size =>
    match totalSize? size with
    | none => none
    | some total =>
      if total ≤ largestAllocation ∧ heap.wouldPass heap.limits.soft total then
        some (heap.collect model).1
      else none
  | _ => none

/-- The total bytes of the object that an operation makes. -/
def allocated? (model : ObjectModel α) (heap : Heap α) : HeapOperation α → Option Nat
  | .allocate size =>
    match heap.allocate model size with
    | (.ok id, after) => some (after.sizeOf id)
    | (.error _, _) => none
  | _ => none

/-- Carries out operations one after the other and keeps a ledger of them. -/
def run (model : ObjectModel α) (heap : Heap α) (ledger : Ledger) :
    List (HeapOperation α) → Heap α × Ledger
  | [] => (heap, ledger)
  | operation :: operations =>
    let entered := (ledger.enterCollection (heap.collected? model operation)).enterAllocation
      (heap.allocated? model operation)
    (heap.perform model operation).run model entered operations

/-! ### The books within a hard limit -/

/-- The books of a heap with a hard limit: objects have whole words and a header, and
    both the soft limit and the bytes in use are within the hard limit. -/
structure Accounted (hard : Nat) (heap : Heap α) : Prop extends heap.Consistent where
  sized : ∀ id object, heap.get? id = some object → 8 ∣ object.total ∧ headerSize ≤ object.total
  hard_eq : heap.limits.hard = hard
  soft_le : heap.limits.soft ≤ hard
  used_le : heap.used ≤ hard

variable {hard : Nat}

theorem Accounted.of_eq {other : Heap α} (h : heap.Accounted hard)
    (hstore : other.store = heap.store) (horder : other.order = heap.order)
    (hused : other.used = heap.used) (hcount : other.count = heap.count)
    (hlimits : other.limits = heap.limits) : other.Accounted hard where
  toConsistent := h.toConsistent.of_eq hstore horder hused hcount
  sized id object hget := by
    rw [get?, hstore] at hget
    exact h.sized id object hget
  hard_eq := by rw [hlimits, h.hard_eq]
  soft_le := by rw [hlimits]; exact h.soft_le
  used_le := by rw [hused]; exact h.used_le

theorem Accounted.collect (h : heap.Accounted hard) : (heap.collect model).2.Accounted hard where
  toConsistent := h.toConsistent.collect
  sized id object hget := h.sized id object (get?_of_get?_collect h.toConsistent hget).2
  hard_eq := h.hard_eq
  soft_le := h.soft_le
  used_le := Nat.le_trans (used_collect_le h.toConsistent) h.used_le

theorem Accounted.makeRoom (h : heap.Accounted hard) (total : Nat) :
    (heap.makeRoom model total).Accounted hard := by
  by_cases htight : heap.wouldPass heap.limits.soft total
  · rw [makeRoom_of_wouldPass htight]
    have hcollected : (heap.collect model).2.Accounted hard := h.collect
    have hsoft : heap.limits.soft ≤ heap.limits.hard := by
      rw [h.hard_eq]
      exact h.soft_le
    exact {
      toConsistent := hcollected.toConsistent.of_eq rfl rfl rfl rfl
      sized := hcollected.sized
      hard_eq := h.hard_eq
      soft_le := by
        rw [← h.hard_eq]
        exact HeapLimits.soft_growFor_le _ hsoft
      used_le := hcollected.used_le }
  · rw [makeRoom_of_not_wouldPass htight]
    exact h

/-- A limit below the largest word is passed exactly where the true sum passes it. -/
theorem wouldPass_iff {limit total : Nat} (hlimit : limit < wordLimit - 1) :
    heap.wouldPass limit total ↔ limit < heap.used + total := by
  rw [wouldPass, decide_eq_true_iff, lt_saturatingAdd_iff hlimit]

/-- Where an allocation finds room, the heap stays within its hard limit. -/
theorem Accounted.used_add_le (h : heap.Accounted hard) (hhard : hard < wordLimit - 1)
    {total : Nat} (hroom : heap.wouldPass heap.limits.soft total →
      ¬(heap.makeRoom model total).wouldPass heap.limits.hard total) :
    (heap.makeRoom model total).used + total ≤ hard := by
  by_cases htight : heap.wouldPass heap.limits.soft total
  · have hfits := hroom htight
    rw [h.hard_eq, wouldPass_iff hhard] at hfits
    exact Nat.not_lt.1 hfits
  · -- within the soft limit the hard one is not even looked at
    rw [makeRoom_of_not_wouldPass htight]
    have hsoft := h.soft_le
    rw [wouldPass_iff (by omega)] at htight
    omega

theorem Accounted.added (h : heap.Accounted hard) {total : Nat} {data : α}
    (hsized : 8 ∣ total ∧ headerSize ≤ total) (hused : heap.used + total ≤ hard) :
    (heap.added total data).Accounted hard where
  toConsistent := h.toConsistent.added total data
  sized id object hget := by
    rw [get?_added] at hget
    split at hget
    · cases hget
      exact hsized
    · exact h.sized id object hget
  hard_eq := h.hard_eq
  soft_le := h.soft_le
  used_le := hused

theorem Accounted.allocate (h : heap.Accounted hard) (hhard : hard < wordLimit - 1) (size : Nat) :
    (heap.allocate model size).2.Accounted hard ∧
      (heap.allocate model size).1 ≠ .error .uncountable := by
  rcases hallocate : heap.allocate model size with ⟨result, after⟩
  cases outcome_of_allocate h.toConsistent hallocate with
  | tooBig hbig => exact ⟨h, nofun⟩
  | full htotal hle htight hfull => exact ⟨h.makeRoom _, nofun⟩
  | refused htotal hle hrefused =>
    exact ⟨(h.makeRoom _).of_eq rfl rfl rfl rfl rfl, nofun⟩
  | uncountable htotal hle hroom hcount =>
    have hused := h.used_add_le hhard hroom
    omega
  | placed htotal hle hroom hcount =>
    exact ⟨(h.makeRoom _).added (dvd_of_totalSize? htotal) (h.used_add_le hhard hroom), nofun⟩

/-! ### Stores and roots -/

theorem Accounted.modifyData (h : heap.Accounted hard) (object : ObjectId) (change : α → α) :
    (heap.modifyData object change).Accounted hard where
  toConsistent := h.toConsistent.modifyData object change
  sized id changed hget := by
    obtain ⟨before, hbefore, htotal, -⟩ := exists_of_get?_modifyData hget
    rw [htotal]
    exact h.sized id before hbefore
  hard_eq := h.hard_eq
  soft_le := h.soft_le
  used_le := h.used_le

/-- All other operations concern the roots and the variables alone. -/
theorem perform_cases (model : ObjectModel α) (heap : Heap α) (operation : HeapOperation α) :
    (∃ size, operation = .allocate size) ∨ operation = .collect ∨
      (∃ object change, operation = .store object change) ∨
      heap.collected? model operation = none ∧ heap.allocated? model operation = none ∧
        ∃ roots cells, heap.perform model operation = { heap with roots, cells } := by
  have hroots : ∀ {after : Heap α}, (∃ roots, after = { heap with roots }) →
      ∃ roots cells, after = { heap with roots, cells } :=
    fun ⟨roots, h⟩ => ⟨roots, heap.cells, h⟩
  cases operation with
  | allocate size => exact .inl ⟨size, rfl⟩
  | collect => exact .inr (.inl rfl)
  | store object change => exact .inr (.inr (.inl ⟨object, change, rfl⟩))
  | pushOperand ref => exact .inr (.inr (.inr ⟨rfl, rfl, hroots (heap.exists_updateRoots _)⟩))
  | popOperand => exact .inr (.inr (.inr ⟨rfl, rfl, hroots heap.exists_popOperand⟩))
  | registerLocal cell => exact .inr (.inr (.inr ⟨rfl, rfl, hroots (heap.exists_updateRoots _)⟩))
  | addStaticRoot cell => exact .inr (.inr (.inr ⟨rfl, rfl, hroots (heap.exists_updateRoots _)⟩))
  | openFrame => exact .inr (.inr (.inr ⟨rfl, rfl, hroots ⟨heap.roots, rfl⟩⟩))
  | closeFrame mark => exact .inr (.inr (.inr ⟨rfl, rfl, hroots (heap.exists_updateRoots _)⟩))
  | writeCell cell ref => exact .inr (.inr (.inr ⟨rfl, rfl, heap.roots, _, rfl⟩))

theorem Accounted.perform (h : heap.Accounted hard) (hhard : hard < wordLimit - 1)
    (operation : HeapOperation α) : (heap.perform model operation).Accounted hard := by
  obtain ⟨size, rfl⟩ | rfl | ⟨object, change, rfl⟩ | ⟨-, -, roots, cells, heq⟩ :=
    perform_cases model heap operation
  · exact (h.allocate hhard size).1
  · exact h.collect
  · exact h.modifyData object change
  · rw [heq]
    exact h.of_eq rfl rfl rfl rfl rfl

/-! ### The ledger -/

theorem length_survivors_add (model : ObjectModel α) (heap : Heap α) :
    (heap.survivors model).length + (heap.garbage model).length = heap.order.length := by
  rw [survivors, garbage, ← List.countP_eq_length_filter, ← List.countP_eq_length_filter,
    List.length_eq_countP_add_countP (· ∈ heap.traced model)]
  simp only [decide_eq_true_eq]

end Heap

namespace Ledger.Balances

variable {α : Type} {model : ObjectModel α} {heap : Heap α} {ledger : Ledger}

/-- What a collection reports as freed is what the counters lose. -/
theorem collect (h : ledger.Balances heap) (hheap : heap.Consistent) :
    (ledger.enterCollection (some (heap.collect model).1)).Balances (heap.collect model).2 := by
  have hlength := Heap.length_survivors_add model heap
  have hbytes : heap.store.bytesOf (heap.garbage model) ≤ heap.used :=
    Heap.bytesOf_garbage_le hheap
  have hcount := hheap.count_eq
  rw [Heap.collect_eq hheap]
  refine ⟨?_, ?_, congrArg (· + 1) h.collections⟩
  · change ledger.allocations =
      (heap.survivors model).length + (ledger.cleared + (heap.garbage model).length)
    rw [h.objects]
    omega
  · change ledger.allocated = heap.used - heap.store.bytesOf (heap.garbage model) +
      (ledger.freed + heap.store.bytesOf (heap.garbage model))
    rw [h.bytes]
    omega

theorem added (h : ledger.Balances heap) (total : Nat) (data : α) :
    (ledger.enterAllocation (some total)).Balances (heap.added total data) := by
  refine ⟨?_, ?_, h.collections⟩
  · change ledger.allocations + 1 = heap.count + 1 + ledger.cleared
    rw [h.objects]
    omega
  · change ledger.allocated + total = heap.used + total + ledger.freed
    rw [h.bytes]
    omega

theorem asked (h : ledger.Balances heap) : ledger.Balances heap.asked :=
  ⟨h.objects, h.bytes, h.collections⟩

/-- The collection of an allocation is the one with which room is made. -/
theorem makeRoom (h : ledger.Balances heap) (hheap : heap.Consistent) {size total : Nat}
    (htotal : totalSize? size = some total) (hle : total ≤ largestAllocation) :
    (ledger.enterCollection (heap.collected? model (.allocate size))).Balances
      (heap.makeRoom model total) := by
  simp only [Heap.collected?, htotal, hle, true_and]
  by_cases htight : heap.wouldPass heap.limits.soft total
  · rw [if_pos htight, Heap.makeRoom_of_wouldPass htight]
    have hcollected : (ledger.enterCollection (some (heap.collect model).1)).Balances
        (heap.collect model).2 := h.collect hheap
    exact ⟨hcollected.objects, hcollected.bytes, hcollected.collections⟩
  · rw [if_neg htight, Heap.makeRoom_of_not_wouldPass htight]
    exact h

theorem allocate (h : ledger.Balances heap) (hheap : heap.Consistent) (size : Nat) :
    ((ledger.enterCollection (heap.collected? model (.allocate size))).enterAllocation
      (heap.allocated? model (.allocate size))).Balances (heap.allocate model size).2 := by
  simp only [Heap.allocated?]
  rcases hallocate : heap.allocate model size with ⟨result, after⟩
  cases Heap.outcome_of_allocate hheap hallocate with
  | tooBig hbig =>
    have hnone : heap.collected? model (.allocate size) = none := by
      simp only [Heap.collected?]
      split
      · rfl
      · rename_i total htotal
        rw [if_neg fun hfits => Nat.not_lt.2 hfits.1 (hbig total htotal)]
    rw [hnone]
    exact h
  | full htotal hle htight hfull => exact h.makeRoom hheap htotal hle
  | refused htotal hle hrefused => exact (h.makeRoom hheap htotal hle).asked
  | uncountable htotal hle hroom hcount => exact (h.makeRoom hheap htotal hle).asked
  | @placed total htotal hle hroom hcount =>
    have hsize : ((heap.makeRoom model total).added total
        (model.zeroed (dataSize size))).sizeOf heap.store.issued = total := by
      have hissued : (heap.makeRoom model total).store.issued = heap.store.issued :=
        Heap.issued_makeRoom hheap total
      rw [Heap.sizeOf, ← hissued]
      exact Store.sizeOf_of_get? ((Heap.get?_added ..).trans (if_pos rfl))
    dsimp only
    rw [hsize]
    exact (h.makeRoom hheap htotal hle).added total _

theorem perform (h : ledger.Balances heap) (hheap : heap.Consistent)
    (operation : HeapOperation α) :
    ((ledger.enterCollection (heap.collected? model operation)).enterAllocation
      (heap.allocated? model operation)).Balances (heap.perform model operation) := by
  obtain ⟨size, rfl⟩ | rfl | ⟨object, change, rfl⟩ | ⟨hcollected, hallocated, roots, cells, heq⟩ :=
    Heap.perform_cases model heap operation
  · exact h.allocate hheap size
  · exact h.collect hheap
  · exact ⟨h.objects, h.bytes, h.collections⟩
  · rw [hcollected, hallocated, heq]
    exact ⟨h.objects, h.bytes, h.collections⟩

end Ledger.Balances

namespace Heap

variable {α : Type} {model : ObjectModel α} {heap : Heap α} {hard : Nat}

/-! ### Whole runs -/

theorem accounted_empty (config : HeapConfig) (system : SystemMemory) (cells : Cells)
    (issued : Nat) : (empty config system cells issued : Heap α).Accounted config.hardLimit where
  toConsistent := consistent_empty config system cells issued
  sized id object hget := by
    rw [get?_empty] at hget
    cases hget
  hard_eq := rfl
  soft_le := HeapLimits.soft_ofConfig_le config
  used_le := Nat.zero_le _

theorem Accounted.run (h : heap.Accounted hard) (hhard : hard < wordLimit - 1) {ledger : Ledger}
    (hledger : ledger.Balances heap) (operations : List (HeapOperation α)) :
    (heap.run model ledger operations).1.Accounted hard ∧
      (heap.run model ledger operations).2.Balances (heap.run model ledger operations).1 := by
  induction operations generalizing heap ledger with
  | nil => exact ⟨h, hledger⟩
  | cons operation operations ih =>
    exact ih (h.perform hhard operation) (hledger.perform h.toConsistent operation)

/-- In every state that a run from an empty heap reaches, the counters agree with the list,
    the bytes in use are within the hard limit, and what was allocated is what is there and
    what was freed.  So the count of bytes never leaves the word range, and a sweep never
    takes away more than there is. -/
theorem books_of_run (model : ObjectModel α) (config : HeapConfig) (system : SystemMemory)
    (cells : Cells) (issued : Nat) (hhard : config.hardLimit < wordLimit - 1)
    (operations : List (HeapOperation α)) :
    let (heap, ledger) := (empty config system cells issued).run model {} operations
    heap.Accounted config.hardLimit ∧ ledger.Balances heap ∧
      (∀ size, (heap.allocate model size).1 ≠ .error .uncountable) ∧
      (heap.collect model).1.freed ≤ heap.used := by
  have hempty := accounted_empty (α := α) config system cells issued
  have hblank : ({} : Ledger).Balances (empty config system cells issued : Heap α) :=
    ⟨rfl, rfl, rfl⟩
  obtain ⟨hbooks, hledger⟩ := hempty.run hhard hblank operations
  refine ⟨hbooks, hledger, fun size => (hbooks.allocate hhard size).2, ?_⟩
  rw [collect_eq hbooks.toConsistent]
  exact bytesOf_garbage_le hbooks.toConsistent

/-- A heap in which the third object has no room within the soft limit. -/
def tightConfig : HeapConfig :=
  { softLimit := 100, growth := 30, hardLimit := 150 }

/-- An allocation that collects and raises the soft limit, and one that fails. -/
def tightRun : List (HeapOperation Node) :=
  [.allocate 16, .allocate 17, .pushOperand (some 1), .store 1 (·.setRef 0 none), .allocate 24,
    .pushOperand (some 2), .allocate 40, .allocate 60, .popOperand, .collect]

theorem books_of_tightRun :
    let (heap, ledger) := (empty tightConfig .unlimited {} 0).run Node.model {} tightRun
    tightConfig.hardLimit < wordLimit - 1 ∧ heap.Accounted tightConfig.hardLimit ∧
      ledger.Balances heap ∧
      (∀ size, (heap.allocate Node.model size).1 ≠ .error .uncountable) ∧
      (heap.collect Node.model).1.freed ≤ heap.used :=
  ⟨by decide, books_of_run Node.model tightConfig .unlimited {} 0 (by decide) tightRun⟩

end Heap

end ManagedRuntime
