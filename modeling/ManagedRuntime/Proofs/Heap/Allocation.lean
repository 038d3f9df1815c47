/-
  Allocation
  ==========
  How an allocation can come out (`Heap.Outcome`), and what each outcome does
  to the heap.  An allocation goes through two stages: room is made, which may collect
  and raise the soft limit, and then the object is put at the head of the list.  The
  facts about allocations are facts about these two stages.
-/
import ManagedRuntime.Proofs.Heap.Limits
import ManagedRuntime.Proofs.Heap.Mutation

namespace ManagedRuntime

namespace Store

variable {α : Type} {store : Store α} {id : ObjectId}

theorem get?_of_issued_le (h : store.issued ≤ id) : store.get? id = none := by
  unfold get?
  rw [Array.getElem?_eq_none h]
  rfl

theorem lt_issued_of_isSome (h : (store.get? id).isSome) : id < store.issued := by
  by_cases hlt : id < store.issued
  · exact hlt
  · rw [get?_of_issued_le (Nat.not_lt.1 hlt)] at h
    cases h

theorem issued_push (store : Store α) (object : Object α) :
    (store.push object).issued = store.issued + 1 :=
  Array.size_push ..

end Store

/-! ### Sizes -/

/-- The size of an allocation is whole words, its header included. -/
theorem dvd_of_totalSize? {size total : Nat} (h : totalSize? size = some total) :
    8 ∣ total ∧ headerSize ≤ total := by
  unfold totalSize? at h
  simp only [Option.bind_eq_bind, Option.bind_eq_some_iff, addWord?_eq_some_iff] at h
  obtain ⟨padded, ⟨-, rfl⟩, -, rfl⟩ := h
  unfold objectAlignment headerSize
  omega

namespace Heap

variable {α : Type} {model : ObjectModel α} {heap : Heap α} {id : ObjectId}

/-! ### The two stages -/

/-- The heap with a new object at the head of the list. -/
def added (heap : Heap α) (total : Nat) (data : α) : Heap α :=
  { heap with
    requests := heap.requests + 1
    store := heap.store.push { total, data }
    order := heap.store.issued :: heap.order
    used := heap.used + total
    count := heap.count + 1 }

theorem makeRoom_of_wouldPass {total : Nat} (h : heap.wouldPass heap.limits.soft total) :
    heap.makeRoom model total =
      { (heap.collect model).2 with
        limits := heap.limits.growFor (saturatingAdd (heap.collect model).2.used total) } := by
  rw [makeRoom, if_pos h]
  rfl

theorem makeRoom_of_not_wouldPass {total : Nat} (h : ¬heap.wouldPass heap.limits.soft total) :
    heap.makeRoom model total = heap := by
  rw [makeRoom, if_neg h]

inductive Outcome (model : ObjectModel α) (heap : Heap α) (size : Nat) :
    Except AllocationError ObjectId → Heap α → Prop where
  /-- No allocation can be that large; nothing happens. -/
  | tooBig (h : ∀ total, totalSize? size = some total → largestAllocation < total) :
      Outcome model heap size (.error .tooBig) heap
  /-- Room was made, and it was not enough. -/
  | full {total : Nat} (htotal : totalSize? size = some total) (hle : total ≤ largestAllocation)
      (htight : heap.wouldPass heap.limits.soft total)
      (h : (heap.makeRoom model total).wouldPass heap.limits.hard total) :
      Outcome model heap size (.error ((heap.makeRoom model total).outOfHeap total))
        (heap.makeRoom model total)
  /-- There was room, but the system refused the storage. -/
  | refused {total : Nat} (htotal : totalSize? size = some total)
      (hle : total ≤ largestAllocation) (h : heap.system.grants heap.requests total = false) :
      Outcome model heap size (.error ((heap.makeRoom model total).outOfHeap total))
        (heap.makeRoom model total).asked
  /-- The bytes in use would be no word. -/
  | uncountable {total : Nat} (htotal : totalSize? size = some total)
      (hle : total ≤ largestAllocation)
      (hroom : heap.wouldPass heap.limits.soft total →
        ¬(heap.makeRoom model total).wouldPass heap.limits.hard total)
      (h : wordLimit ≤ (heap.makeRoom model total).used + total) :
      Outcome model heap size (.error .uncountable) (heap.makeRoom model total).asked
  /-- The object gets the next name. -/
  | placed {total : Nat} (htotal : totalSize? size = some total) (hle : total ≤ largestAllocation)
      (hroom : heap.wouldPass heap.limits.soft total →
        ¬(heap.makeRoom model total).wouldPass heap.limits.hard total)
      (h : (heap.makeRoom model total).used + total < wordLimit) :
      Outcome model heap size (.ok heap.store.issued)
        ((heap.makeRoom model total).added total (model.zeroed (dataSize size)))

/-- Making room changes neither the roots nor the names that were given out. -/
theorem issued_makeRoom (hheap : heap.Consistent) (total : Nat) :
    (heap.makeRoom model total).store.issued = heap.store.issued := by
  by_cases htight : heap.wouldPass heap.limits.soft total
  · rw [makeRoom_of_wouldPass htight]
    exact issued_collect hheap
  · rw [makeRoom_of_not_wouldPass htight]

theorem hard_makeRoom (model : ObjectModel α) (heap : Heap α) (total : Nat) :
    (heap.makeRoom model total).limits.hard = heap.limits.hard := by
  by_cases htight : heap.wouldPass heap.limits.soft total
  · rw [makeRoom_of_wouldPass htight]
    rfl
  · rw [makeRoom_of_not_wouldPass htight]

theorem system_makeRoom (model : ObjectModel α) (heap : Heap α) (total : Nat) :
    (heap.makeRoom model total).system = heap.system := by
  by_cases htight : heap.wouldPass heap.limits.soft total
  · rw [makeRoom_of_wouldPass htight]
    rfl
  · rw [makeRoom_of_not_wouldPass htight]

theorem requests_makeRoom (model : ObjectModel α) (heap : Heap α) (total : Nat) :
    (heap.makeRoom model total).requests = heap.requests := by
  by_cases htight : heap.wouldPass heap.limits.soft total
  · rw [makeRoom_of_wouldPass htight]
    rfl
  · rw [makeRoom_of_not_wouldPass htight]

theorem outcome_allocate (model : ObjectModel α) (hheap : heap.Consistent) (size : Nat) :
    Outcome model heap size (heap.allocate model size).1 (heap.allocate model size).2 := by
  rcases htotal : totalSize? size with _ | total
  · rw [allocate, htotal]
    exact .tooBig (by simp [htotal])
  by_cases hbig : largestAllocation < total
  · rw [allocate, htotal]
    simp only [hbig, if_true]
    exact .tooBig (by simpa [htotal] using hbig)
  have hle : total ≤ largestAllocation := Nat.not_lt.1 hbig
  have hhard := hard_makeRoom model heap total
  rw [allocate, htotal]
  simp only [hbig, if_false, hhard]
  by_cases hfull : heap.wouldPass heap.limits.soft total ∧
      (heap.makeRoom model total).wouldPass heap.limits.hard total
  · rw [if_pos (by simpa using hfull)]
    exact .full htotal hle hfull.1 hfull.2
  rw [if_neg (by simpa using hfull)]
  have hroom := not_and.1 hfull
  have hissued : (heap.makeRoom model total).store.issued = heap.store.issued :=
    issued_makeRoom hheap total
  rw [place, system_makeRoom, requests_makeRoom, hissued]
  cases hgrants : heap.system.grants heap.requests total with
  | false => exact .refused htotal hle hgrants
  | true =>
    simp only [Bool.not_true, Bool.false_eq_true, if_false]
    by_cases hcount : wordLimit ≤ (heap.makeRoom model total).used + total
    · rw [if_pos hcount]
      exact .uncountable htotal hle hroom hcount
    · have hplaced : Outcome model heap size (.ok heap.store.issued)
          ((heap.makeRoom model total).added total (model.zeroed (dataSize size))) :=
        .placed htotal hle hroom (Nat.not_le.1 hcount)
      rw [added, hissued, system_makeRoom, requests_makeRoom] at hplaced
      rw [if_neg hcount, asked, system_makeRoom, requests_makeRoom]
      exact hplaced

theorem outcome_of_allocate (hheap : heap.Consistent) {size : Nat}
    {result : Except AllocationError ObjectId} {after : Heap α}
    (h : heap.allocate model size = (result, after)) : Outcome model heap size result after := by
  have houtcome := outcome_allocate model hheap size
  rwa [h] at houtcome

/-! ### What the stages preserve -/

theorem lt_issued_of_mem_order (hheap : heap.Consistent) (hid : id ∈ heap.order) :
    id < heap.store.issued :=
  Store.lt_issued_of_isSome ((hheap.mem_order_iff id).1 hid)

theorem get?_added (heap : Heap α) (total : Nat) (data : α) (id : ObjectId) :
    (heap.added total data).get? id =
      if id = heap.store.issued then some { total, data } else heap.get? id :=
  Store.get?_push ..

theorem get?_added_of_isSome {total : Nat} {data : α} (hid : (heap.get? id).isSome) :
    (heap.added total data).get? id = heap.get? id := by
  rw [get?_added, if_neg (Nat.ne_of_lt (Store.lt_issued_of_isSome hid))]

theorem Consistent.makeRoom (hheap : heap.Consistent) (total : Nat) :
    (heap.makeRoom model total).Consistent := by
  by_cases htight : heap.wouldPass heap.limits.soft total
  · rw [makeRoom_of_wouldPass htight]
    have hcollected : (heap.collect model).2.Consistent := hheap.collect
    exact hcollected.of_eq rfl rfl rfl rfl
  · rw [makeRoom_of_not_wouldPass htight]
    exact hheap

theorem Closed.makeRoom (hheap : heap.Consistent) (hclosed : heap.Closed model) (total : Nat) :
    (heap.makeRoom model total).Closed model := by
  by_cases htight : heap.wouldPass heap.limits.soft total
  · rw [makeRoom_of_wouldPass htight]
    exact (hclosed.collect hheap).of_eq rfl rfl rfl
  · rw [makeRoom_of_not_wouldPass htight]
    exact hclosed

theorem Consistent.asked (hheap : heap.Consistent) : heap.asked.Consistent :=
  hheap.of_eq rfl rfl rfl rfl

theorem Closed.asked (hclosed : heap.Closed model) : heap.asked.Closed model :=
  hclosed.of_eq rfl rfl rfl

theorem Consistent.added (hheap : heap.Consistent) (total : Nat) (data : α) :
    (heap.added total data).Consistent where
  nodup := List.nodup_cons.2
    ⟨fun hmem => Nat.lt_irrefl _ (lt_issued_of_mem_order hheap hmem), hheap.nodup⟩
  mem_order_iff id := by
    rw [get?_added, Heap.added, List.mem_cons, hheap.mem_order_iff]
    by_cases hid : id = heap.store.issued <;> simp [hid]
  unmarked id object hget := by
    rw [get?_added] at hget
    split at hget
    · cases hget; rfl
    · exact hheap.unmarked id object hget
  used_eq := by
    have hsame : (heap.added total data).store.bytesOf heap.order =
        heap.store.bytesOf heap.order := by
      apply Store.bytesOf_congr
      intro id hid
      exact Store.sizeOf_congr (get?_added_of_isSome ((hheap.mem_order_iff id).1 hid))
    have hnew : (heap.added total data).store.sizeOf heap.store.issued = total :=
      Store.sizeOf_of_get? ((heap.get?_added total data _).trans (if_pos rfl))
    change heap.used + total =
      (heap.added total data).store.sizeOf heap.store.issued +
        (heap.added total data).store.bytesOf heap.order
    rw [hsame, hnew, hheap.used_eq, Nat.add_comm]
  count_eq := by
    rw [Heap.added, List.length_cons, hheap.count_eq]

/-- New storage that refers to nothing leaves nothing dangling. -/
theorem Closed.added (hclosed : heap.Closed model) {total : Nat} {data : α}
    (hdata : ∀ ref ∈ model.refs data, ref = none) : (heap.added total data).Closed model := by
  have hadmits : ∀ ref, heap.Admits ref → (heap.added total data).Admits ref := by
    intro ref href id hid
    rw [get?_added_of_isSome (href id hid)]
    exact href id hid
  refine ⟨fun ref href => hadmits ref (hclosed.roots ref href), ?_⟩
  intro id object hget ref href
  rw [get?_added] at hget
  split at hget
  · cases hget
    rw [hdata ref href]
    exact admits_none _
  · exact hadmits ref (hclosed.contents id object hget ref href)

end Heap

end ManagedRuntime
