/-
  Retention
  =========
  What is in use is kept (`Heap.Keeps`): a heap keeps an earlier one if the earlier roots
  are still roots and whatever they reached is still there with the same contents.  A
  collection keeps the heap before it, and so do an allocation and a store to an object
  that was not in use.  What is kept along each of two stretches is kept along both.
-/
import ManagedRuntime.Proofs.Heap.Allocation

namespace ManagedRuntime

namespace Heap

variable {α : Type} {model other : ObjectModel α} {base heap after : Heap α} {id : ObjectId}
variable {size : Nat} {result : Except AllocationError ObjectId}

/-- The roots of `base` are roots of `heap`, and what they reach in `base` is unchanged in
    `heap`. -/
structure Keeps (model : ObjectModel α) (base heap : Heap α) : Prop where
  roots : ∀ ref ∈ base.rootRefs, ref ∈ heap.rootRefs
  get?_eq : ∀ id, base.InUse model id → heap.get? id = base.get? id
  issued_le : base.store.issued ≤ heap.store.issued

namespace Keeps

theorem refl (model : ObjectModel α) (heap : Heap α) : heap.Keeps model heap :=
  ⟨fun _ href => href, fun _ _ => rfl, Nat.le_refl _⟩

theorem inUse (h : base.Keeps model heap) (hid : base.InUse model id) : heap.InUse model id := by
  have hreaches : heap.Reaches model base.rootRefs id := (reaches_congr h.get?_eq).2 hid
  exact hreaches.mono h.roots

theorem trans (hfirst : base.Keeps model heap) (hsecond : heap.Keeps model after) :
    base.Keeps model after where
  roots ref href := hsecond.roots ref (hfirst.roots ref href)
  get?_eq id hid := by
    rw [hsecond.get?_eq id (hfirst.inUse hid), hfirst.get?_eq id hid]
  issued_le := Nat.le_trans hfirst.issued_le hsecond.issued_le

/-- Nothing that is kept changes when an object changes that was not in use. -/
theorem modifyData (h : base.Keeps model heap) {object : ObjectId}
    (hobject : ¬base.InUse model object) (change : α → α) :
    base.Keeps model (heap.modifyData object change) where
  roots := h.roots
  get?_eq id hid := by
    have hne : object ≠ id := fun hsame => hobject (hsame ▸ hid)
    rw [get?_modifyData, if_neg hne, h.get?_eq id hid]
  issued_le := by
    refine Nat.le_trans h.issued_le (Nat.le_of_eq ?_)
    exact (Array.size_modify ..).symm

/-- Where no object is touched, only the roots matter. -/
theorem reroot (h : base.Keeps model heap) (hstore : after.store = heap.store)
    (hroots : ∀ ref ∈ base.rootRefs, ref ∈ after.rootRefs) : base.Keeps model after where
  roots := hroots
  get?_eq id hid := by
    rw [get?, hstore]
    exact h.get?_eq id hid
  issued_le := by
    rw [hstore]
    exact h.issued_le

theorem asked (h : base.Keeps model heap) : base.Keeps model heap.asked :=
  h.reroot rfl h.roots

/-- Two models that read the same references out of every object agree on what is kept. -/
theorem congr_model (h : base.Keeps model heap)
    (hsame : ∀ id object, base.get? id = some object →
      other.refs object.data = model.refs object.data) : base.Keeps other heap where
  roots := h.roots
  get?_eq id hid := h.get?_eq id ((reaches_congr_model hsame).1 hid)
  issued_le := h.issued_le

end Keeps

/-! ### Collections and allocations -/

theorem keeps_collect (hheap : heap.Consistent) : heap.Keeps model (heap.collect model).2 where
  roots _ href := href
  get?_eq _ hid := get?_collect_of_inUse hheap hid
  issued_le := Nat.le_of_eq (issued_collect hheap).symm

theorem keeps_makeRoom (hheap : heap.Consistent) (total : Nat) :
    heap.Keeps model (heap.makeRoom model total) := by
  by_cases htight : heap.wouldPass heap.limits.soft total
  · rw [makeRoom_of_wouldPass htight]
    exact (keeps_collect hheap).reroot rfl fun _ href => href
  · rw [makeRoom_of_not_wouldPass htight]
    exact .refl model heap

theorem keeps_added (hclosed : heap.Closed model) (total : Nat) (data : α) :
    heap.Keeps model (heap.added total data) where
  roots _ href := href
  get?_eq _ hid := get?_added_of_isSome (hclosed.isSome_of_inUse hid)
  issued_le := by
    rw [added, Store.issued_push]
    exact Nat.le_succ _

theorem get?_of_get?_makeRoom (hheap : heap.Consistent) {total : Nat} {object : Object α}
    (h : (heap.makeRoom model total).get? id = some object) : heap.get? id = some object := by
  by_cases htight : heap.wouldPass heap.limits.soft total
  · rw [makeRoom_of_wouldPass htight] at h
    exact (get?_of_get?_collect hheap h).2
  · rwa [makeRoom_of_not_wouldPass htight] at h

theorem roots_makeRoom (model : ObjectModel α) (heap : Heap α) (total : Nat) :
    (heap.makeRoom model total).roots = heap.roots ∧
      (heap.makeRoom model total).cells = heap.cells := by
  by_cases htight : heap.wouldPass heap.limits.soft total
  · rw [makeRoom_of_wouldPass htight]
    exact ⟨rfl, rfl⟩
  · rw [makeRoom_of_not_wouldPass htight]
    exact ⟨rfl, rfl⟩

theorem roots_allocate (model : ObjectModel α) (heap : Heap α) (size : Nat) :
    (heap.allocate model size).2.roots = heap.roots ∧
      (heap.allocate model size).2.cells = heap.cells := by
  rw [allocate]
  cases totalSize? size with
  | none => exact ⟨rfl, rfl⟩
  | some total =>
    have hroomy := heap.roots_makeRoom model total
    dsimp only
    split
    · exact ⟨rfl, rfl⟩
    split
    · exact hroomy
    · rw [place]
      split
      · exact hroomy
      split
      · exact hroomy
      · exact hroomy

/-- What an allocation of `size` bytes does to the objects, whether or not the heap is closed. -/
structure Supplies (model : ObjectModel α) (heap : Heap α) (size : Nat)
    (result : Except AllocationError ObjectId) (after : Heap α) : Prop where
  consistent : after.Consistent
  contents : ∀ id object, after.get? id = some object →
    heap.get? id = some object ∨ object.data = model.zeroed (dataSize size)
  placed : ∀ id, result = .ok id → heap.store.issued ≤ id ∧ id < after.store.issued ∧
    ∃ object, after.get? id = some object ∧ object.data = model.zeroed (dataSize size)

theorem supplies_makeRoom (hheap : heap.Consistent) (total : Nat) (error : AllocationError) :
    heap.Supplies model size (.error error) (heap.makeRoom model total) where
  consistent := hheap.makeRoom total
  contents _ _ hget := .inl (get?_of_get?_makeRoom hheap hget)
  placed := nofun

theorem Supplies.asked (h : heap.Supplies model size result after) :
    heap.Supplies model size result after.asked :=
  ⟨h.consistent.asked, h.contents, h.placed⟩

theorem supplies (model : ObjectModel α) (hheap : heap.Consistent) (size : Nat) :
    heap.Supplies model size (heap.allocate model size).1 (heap.allocate model size).2 := by
  rcases hallocate : heap.allocate model size with ⟨result, after⟩
  cases outcome_of_allocate hheap hallocate with
  | tooBig hbig => exact ⟨hheap, fun _ _ hget => .inl hget, nofun⟩
  | full htotal hle htight hfull => exact supplies_makeRoom hheap _ _
  | refused htotal hle hrefused => exact (supplies_makeRoom hheap _ _).asked
  | uncountable htotal hle hroom hcount => exact (supplies_makeRoom hheap _ _).asked
  | @placed total htotal hle hroom hcount =>
    have hroomy : (heap.makeRoom model total).Consistent := hheap.makeRoom total
    have hissued : (heap.makeRoom model total).store.issued = heap.store.issued :=
      issued_makeRoom hheap total
    refine ⟨hroomy.added .., ?_, ?_⟩
    · intro id object hget
      rw [get?_added] at hget
      split at hget
      · cases hget
        exact .inr rfl
      · exact .inl (get?_of_get?_makeRoom hheap hget)
    · rintro id ⟨⟩
      have hnew : ((heap.makeRoom model total).added total (model.zeroed (dataSize size))).get?
          heap.store.issued = some { total, data := model.zeroed (dataSize size) } := by
        rw [get?_added, hissued, if_pos rfl]
      refine ⟨Nat.le_refl _, ?_, _, hnew, rfl⟩
      rw [added, Store.issued_push, hissued]
      exact Nat.lt_succ_self _

/-- An object with an old name is an old one. -/
theorem get?_of_get?_allocate (hheap : heap.Consistent) {object : Object α}
    (h : (heap.allocate model size).2.get? id = some object) (hid : id < heap.store.issued) :
    heap.get? id = some object := by
  rcases hallocate : heap.allocate model size with ⟨result, after⟩
  rw [hallocate] at h
  cases outcome_of_allocate hheap hallocate with
  | tooBig hbig => exact h
  | full htotal hle htight hfull => exact get?_of_get?_makeRoom hheap h
  | refused htotal hle hrefused => exact get?_of_get?_makeRoom hheap h
  | uncountable htotal hle hroom hcount => exact get?_of_get?_makeRoom hheap h
  | placed htotal hle hroom hcount =>
    rw [get?_added, issued_makeRoom hheap, if_neg (Nat.ne_of_lt hid)] at h
    exact get?_of_get?_makeRoom hheap h

/-- What is in use stays as it is, also where the rest of the heap is not closed. -/
theorem get?_allocate_of_inUse (hheap : heap.Consistent) (hid : heap.InUse model id)
    (hlive : (heap.get? id).isSome) : (heap.allocate model size).2.get? id = heap.get? id := by
  have hroomy : ∀ total, (heap.makeRoom model total).get? id = heap.get? id :=
    fun total => (keeps_makeRoom hheap total).get?_eq id hid
  rcases hallocate : heap.allocate model size with ⟨result, after⟩
  cases outcome_of_allocate hheap hallocate with
  | tooBig hbig => rfl
  | full htotal hle htight hfull => exact hroomy _
  | refused htotal hle hrefused => exact hroomy _
  | uncountable htotal hle hroom hcount => exact hroomy _
  | @placed total htotal hle hroom hcount =>
    rw [get?_added_of_isSome (by rwa [hroomy]), hroomy]

/-- What an allocation of `size` bytes leaves of the heap before it, and what its answer
    refers to. -/
structure Allocates (model : ObjectModel α) (heap : Heap α) (size : Nat)
    (result : Except AllocationError ObjectId) (after : Heap α) : Prop where
  consistent : after.Consistent
  closed : after.Closed model
  keeps : heap.Keeps model after
  roots_eq : after.roots = heap.roots
  cells_eq : after.cells = heap.cells
  /-- Every object is an old one or new storage of that size. -/
  contents : ∀ id object, after.get? id = some object →
    heap.get? id = some object ∨ object.data = model.zeroed (dataSize size)
  /-- The new object has a name of its own. -/
  placed : ∀ id, result = .ok id → heap.store.issued ≤ id ∧ id < after.store.issued ∧
    ∃ object, after.get? id = some object ∧ object.data = model.zeroed (dataSize size)

theorem allocates_makeRoom (hheap : heap.Consistent) (hclosed : heap.Closed model) (total : Nat)
    (error : AllocationError) :
    heap.Allocates model size (.error error) (heap.makeRoom model total) :=
  { supplies_makeRoom hheap total error with
    closed := hclosed.makeRoom hheap total
    keeps := keeps_makeRoom hheap total
    roots_eq := (roots_makeRoom model heap total).1
    cells_eq := (roots_makeRoom model heap total).2 }

theorem Allocates.asked (h : heap.Allocates model size result after) :
    heap.Allocates model size result after.asked :=
  { h with
    consistent := h.consistent.asked
    closed := h.closed.asked
    keeps := h.keeps.asked }

theorem allocates (hheap : heap.Consistent) (hclosed : heap.Closed model)
    (hzeroed : ∀ ref ∈ model.refs (model.zeroed (dataSize size)), ref = none) :
    heap.Allocates model size (heap.allocate model size).1 (heap.allocate model size).2 := by
  have hsupplies := supplies model hheap size
  rcases hallocate : heap.allocate model size with ⟨result, after⟩
  rw [hallocate] at hsupplies
  cases outcome_of_allocate hheap hallocate with
  | tooBig hbig =>
    exact { hsupplies with
      closed := hclosed
      keeps := .refl model heap
      roots_eq := rfl
      cells_eq := rfl }
  | full htotal hle htight hfull => exact allocates_makeRoom hheap hclosed _ _
  | refused htotal hle hrefused => exact (allocates_makeRoom hheap hclosed _ _).asked
  | uncountable htotal hle hroom hcount => exact (allocates_makeRoom hheap hclosed _ _).asked
  | @placed total htotal hle hroom hcount =>
    have hclosedRoomy : (heap.makeRoom model total).Closed model := hclosed.makeRoom hheap total
    exact { hsupplies with
      closed := hclosedRoomy.added hzeroed
      keeps := (keeps_makeRoom hheap total).trans (keeps_added hclosedRoomy ..)
      roots_eq := (roots_makeRoom model heap total).1
      cells_eq := (roots_makeRoom model heap total).2 }

end Heap

end ManagedRuntime
