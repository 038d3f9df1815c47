/-
  Reachability
  ============
  What a list of references reaches over the references that objects hold.  This is
  the relation that a collection decides.  It knows nothing of marks, of objects that
  wait to be traced, or of the allocation list.

  A heap is closed (`Heap.Closed`) if nothing in it dangles: every reference that a
  root or an object holds is null or names an object.  In a closed heap whatever the
  roots reach is an object.
-/
import ManagedRuntime.Heap.Basic

namespace ManagedRuntime

/-- The objects that some references reach, where `edges` lists what each object
    refers to. -/
inductive Reachable (edges : ObjectId → List Ref) (refs : List Ref) : ObjectId → Prop where
  | root {id : ObjectId} : some id ∈ refs → Reachable edges refs id
  | edge {id next : ObjectId} :
      Reachable edges refs id → some next ∈ edges id → Reachable edges refs next

namespace Reachable

variable {edges others : ObjectId → List Ref} {refs more : List Ref} {id : ObjectId}

theorem trans (hmore : ∀ start, some start ∈ more → Reachable edges refs start)
    (hid : Reachable edges more id) : Reachable edges refs id := by
  induction hid with
  | root hmem => exact hmore _ hmem
  | edge _ hmem ih => exact ih.edge hmem

theorem mono (hsub : ∀ ref ∈ more, ref ∈ refs) (hid : Reachable edges more id) :
    Reachable edges refs id :=
  hid.trans fun _ hmem => .root (hsub _ hmem)

/-- Only the references that reached objects hold matter. -/
theorem congr (hedges : ∀ start, Reachable edges refs start → others start = edges start) :
    Reachable others refs id ↔ Reachable edges refs id := by
  constructor
  · intro hid
    induction hid with
    | root hmem => exact .root hmem
    | edge _ hmem ih => exact ih.edge (hedges _ ih ▸ hmem)
  · intro hid
    induction hid with
    | root hmem => exact .root hmem
    | edge hstart hmem ih => exact ih.edge ((hedges _ hstart).symm ▸ hmem)

end Reachable

namespace Heap

variable {α : Type}

/-- The references that an object of the heap holds; none for a free name. -/
def edges (model : ObjectModel α) (heap : Heap α) : ObjectId → List Ref :=
  Marking.refsOf model heap.store

def Reaches (model : ObjectModel α) (heap : Heap α) (refs : List Ref) : ObjectId → Prop :=
  Reachable (heap.edges model) refs

/-- The objects that the roots reach. -/
def InUse (model : ObjectModel α) (heap : Heap α) : ObjectId → Prop :=
  heap.Reaches model heap.rootRefs

/-- A reference that does not dangle: null, or the name of an object. -/
def Admits (heap : Heap α) (ref : Ref) : Prop :=
  ∀ id, ref = some id → (heap.get? id).isSome

theorem admits_iff (heap : Heap α) (ref : Ref) :
    heap.Admits ref ↔ ref.all fun id => (heap.get? id).isSome := by
  cases ref <;> simp [Admits]

instance (heap : Heap α) (ref : Ref) : Decidable (heap.Admits ref) :=
  decidable_of_iff _ (heap.admits_iff ref).symm

/-- Nothing in the heap dangles, objects that no root reaches included. -/
structure Closed (model : ObjectModel α) (heap : Heap α) : Prop where
  roots : ∀ ref ∈ heap.rootRefs, heap.Admits ref
  contents : ∀ id object, heap.get? id = some object →
    ∀ ref ∈ model.refs object.data, heap.Admits ref

variable {model other : ObjectModel α} {heap after : Heap α} {refs : List Ref} {id : ObjectId}

theorem admits_none (heap : Heap α) : heap.Admits none :=
  fun _ h => nomatch h

theorem admits_some_iff : heap.Admits (some id) ↔ (heap.get? id).isSome :=
  ⟨fun h => h id rfl, fun h _ hid => Option.some.inj hid ▸ h⟩

theorem edges_of_get? {object : Object α} (h : heap.get? id = some object) :
    heap.edges model id = model.refs object.data := by
  unfold edges Marking.refsOf
  rw [show heap.store.get? id = some object from h]

theorem edges_of_get?_none (h : heap.get? id = none) : heap.edges model id = [] := by
  unfold edges Marking.refsOf
  rw [show heap.store.get? id = none from h]

theorem exists_of_mem_edges {ref : Ref} (h : ref ∈ heap.edges model id) :
    ∃ object, heap.get? id = some object ∧ ref ∈ model.refs object.data := by
  rcases hget : heap.get? id with _ | object
  · rw [edges_of_get?_none hget] at h
    cases h
  · exact ⟨object, rfl, edges_of_get? hget ▸ h⟩

theorem edges_congr (h : after.get? id = heap.get? id) :
    after.edges model id = heap.edges model id := by
  rcases hget : heap.get? id with _ | object
  · rw [edges_of_get?_none hget, edges_of_get?_none (h.trans hget)]
  · rw [edges_of_get? hget, edges_of_get? (h.trans hget)]

/-- Reachability is decided by the contents of what is reached. -/
theorem reaches_congr (h : ∀ id, heap.Reaches model refs id → after.get? id = heap.get? id) :
    after.Reaches model refs id ↔ heap.Reaches model refs id :=
  Reachable.congr fun start hstart => edges_congr (h start hstart)

/-- Two models that read the same references out of every object of a heap agree on
    what is reached in it. -/
theorem reaches_congr_model
    (h : ∀ id object, heap.get? id = some object →
      other.refs object.data = model.refs object.data) :
    heap.Reaches other refs id ↔ heap.Reaches model refs id := by
  apply Reachable.congr
  intro start _
  rcases hget : heap.get? start with _ | object
  · rw [edges_of_get?_none hget, edges_of_get?_none hget]
  · rw [edges_of_get? hget, edges_of_get? hget, h start object hget]

/-- What references that do not dangle reach in a closed heap is an object. -/
theorem Closed.isSome_of_reaches (hclosed : heap.Closed model)
    (hrefs : ∀ ref ∈ refs, heap.Admits ref) (hid : heap.Reaches model refs id) :
    (heap.get? id).isSome := by
  cases hid with
  | root hmem => exact hrefs _ hmem _ rfl
  | edge _ hmem =>
    obtain ⟨object, hget, href⟩ := exists_of_mem_edges hmem
    exact hclosed.contents _ object hget _ href _ rfl

theorem Closed.isSome_of_inUse (hclosed : heap.Closed model) (hid : heap.InUse model id) :
    (heap.get? id).isSome :=
  hclosed.isSome_of_reaches hclosed.roots hid

end Heap

end ManagedRuntime
