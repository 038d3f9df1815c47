/-
  Collections
  ===========
  What one collection does to a heap, for every object model and every graph of
  objects: cycles, sharing and repeated roots included.  The main result is
  `Heap.collect_exact`: exactly the objects that the roots reach survive.

  Two facts about a heap are used.  Its books are in order (`Heap.Consistent`), which
  holds of every heap that its own operations lead to.  And nothing in it dangles
  (`Heap.Closed`), which is what the running program owes it.
-/
import ManagedRuntime.Heap.Node
import ManagedRuntime.Proofs.Heap.Marking
import ManagedRuntime.Proofs.Heap.Sweeping

namespace ManagedRuntime

namespace Heap

variable {α : Type} {model : ObjectModel α} {heap : Heap α} {id : ObjectId}

/-- The books of a heap between two operations: the allocation list names each object
    once and nothing else, no mark is set, and the counters agree with the list. -/
structure Consistent (heap : Heap α) : Prop where
  nodup : heap.order.Nodup
  mem_order_iff : ∀ id, id ∈ heap.order ↔ (heap.get? id).isSome
  unmarked : ∀ id object, heap.get? id = some object → object.marked = false
  used_eq : heap.used = heap.store.bytesOf heap.order
  count_eq : heap.count = heap.order.length

theorem get?_empty (config : HeapConfig) (system : SystemMemory) (cells : Cells)
    (issued id : Nat) : (empty config system cells issued : Heap α).get? id = none :=
  Store.get?_vacant issued id

theorem consistent_empty (config : HeapConfig) (system : SystemMemory) (cells : Cells)
    (issued : Nat) : (empty config system cells issued : Heap α).Consistent where
  nodup := List.nodup_nil
  mem_order_iff id := by
    rw [get?_empty]
    simp [empty]
  unmarked id object hget := by
    rw [get?_empty] at hget
    cases hget
  used_eq := rfl
  count_eq := rfl

/-- Nothing dangles where there is nothing, whatever the variables hold. -/
theorem closed_empty (model : ObjectModel α) (config : HeapConfig) (system : SystemMemory)
    (cells : Cells) (issued : Nat) : (empty config system cells issued).Closed model where
  roots := nofun
  contents id object hget := by
    rw [get?_empty] at hget
    cases hget

/-! ### The marks of a collection -/

/-- The objects that a collection asks for their references, in the order of asking. -/
def traced (model : ObjectModel α) (heap : Heap α) : List ObjectId :=
  (heap.marking model).tracedInOrder

theorem mem_traced_iff (hheap : heap.Consistent) :
    id ∈ heap.traced model ↔ heap.InUse model id ∧ (heap.get? id).isSome := by
  rw [traced, Marking.tracedInOrder, List.mem_reverse]
  exact Marking.mem_traced_run_iff model heap.rootRefs hheap.unmarked id

theorem nodup_traced (hheap : heap.Consistent) : (heap.traced model).Nodup :=
  (List.reverse_perm _).nodup_iff.2 (Marking.nodup_traced_run model heap.rootRefs hheap.unmarked)

theorem get?_marking (hheap : heap.Consistent) (id : ObjectId) :
    (heap.marking model).store.get? id =
      (heap.get? id).map ({ · with marked := decide (id ∈ heap.traced model) }) := by
  rw [marking, Marking.get?_run model heap.rootRefs hheap.unmarked id]
  simp only [traced, marking, Marking.tracedInOrder, List.mem_reverse, get?]

theorem isMarked_marking (hheap : heap.Consistent) (id : ObjectId) :
    (heap.marking model).store.isMarked id = decide (id ∈ heap.traced model) := by
  rw [Store.isMarked, get?_marking hheap]
  by_cases htraced : id ∈ heap.traced model
  · obtain ⟨object, hget⟩ := Option.isSome_iff_exists.1 ((mem_traced_iff hheap).1 htraced).2
    simp [htraced, hget]
  · simp [htraced, Option.any_map]

theorem bytesOf_marking (hheap : heap.Consistent) (ids : List ObjectId) :
    (heap.marking model).store.bytesOf ids = heap.store.bytesOf ids := by
  apply Store.bytesOf_congr
  intro id _
  rw [Store.sizeOf, Store.sizeOf, get?_marking hheap, get?]
  cases heap.store.get? id <;> rfl

/-! ### A collection in closed form -/

def garbage (model : ObjectModel α) (heap : Heap α) : List ObjectId :=
  heap.order.filter (· ∉ heap.traced model)

def survivors (model : ObjectModel α) (heap : Heap α) : List ObjectId :=
  heap.order.filter (· ∈ heap.traced model)

theorem collect_eq (hheap : heap.Consistent) :
    heap.collect model = (
      { cleared := (heap.garbage model).length
        remaining := (heap.survivors model).length
        freed := heap.store.bytesOf (heap.garbage model)
        heap := heap.used - heap.store.bytesOf (heap.garbage model) },
      { heap with
        store := (heap.marking model).store.releaseAll heap.order
        order := (heap.survivors model).reverse
        used := heap.used - heap.store.bytesOf (heap.garbage model)
        count := (heap.survivors model).length
        collections := heap.collections + 1 }) := by
  have hkept : heap.order.filter (heap.marking model).store.isMarked = heap.survivors model :=
    List.filter_congr fun id _ => isMarked_marking hheap id
  have hfreed : heap.order.filter (!(heap.marking model).store.isMarked ·) = heap.garbage model :=
    List.filter_congr fun id _ => by rw [isMarked_marking hheap, decide_not]
  rw [collect_eq_sweep, sweep]
  simp only [Sweeping.run_eq _ _ hheap.nodup, hkept, hfreed, bytesOf_marking hheap]

theorem mem_survivors_iff (hheap : heap.Consistent) :
    id ∈ heap.survivors model ↔ heap.InUse model id ∧ (heap.get? id).isSome := by
  rw [survivors, List.mem_filter, decide_eq_true_iff, mem_traced_iff hheap, hheap.mem_order_iff]
  exact and_iff_right_of_imp And.right

/-- Survivors keep their contents, and all other names are free. -/
theorem get?_collect (hheap : heap.Consistent) (id : ObjectId) :
    (heap.collect model).2.get? id =
      if id ∈ heap.survivors model then heap.get? id else none := by
  rw [collect_eq hheap, get?, Store.get?_releaseAll _ hheap.nodup, get?_marking hheap]
  rcases hget : heap.get? id with _ | object
  · -- a free name is not on the list
    simp
  · have hlisted : id ∈ heap.order := (hheap.mem_order_iff id).2 (by rw [hget]; rfl)
    have hclear : { object with marked := false } = object := by
      rw [← hheap.unmarked id object hget]
    simp only [hlisted, if_true, Option.map_some, Option.bind_some, Object.swept, survivors,
      List.mem_filter, true_and, decide_eq_true_eq]
    split
    · rw [hclear]
    · rfl

/-- What is in use survives a collection as it is. -/
theorem get?_collect_of_inUse (hheap : heap.Consistent) (hid : heap.InUse model id) :
    (heap.collect model).2.get? id = heap.get? id := by
  rw [get?_collect hheap]
  split
  · rfl
  · rename_i hlost
    rw [mem_survivors_iff hheap] at hlost
    cases hget : heap.get? id with
    | none => rfl
    | some object => exact absurd ⟨hid, by rw [hget]; rfl⟩ hlost

theorem get?_of_get?_collect (hheap : heap.Consistent) {object : Object α}
    (h : (heap.collect model).2.get? id = some object) :
    heap.InUse model id ∧ heap.get? id = some object := by
  rw [get?_collect hheap] at h
  split at h
  · rename_i hid
    exact ⟨((mem_survivors_iff hheap).1 hid).1, h⟩
  · cases h

/-! ### What a collection leaves alone -/

@[simp] theorem roots_collect : (heap.collect model).2.roots = heap.roots := rfl

@[simp] theorem cells_collect : (heap.collect model).2.cells = heap.cells := rfl

@[simp] theorem limits_collect : (heap.collect model).2.limits = heap.limits := rfl

@[simp] theorem system_collect : (heap.collect model).2.system = heap.system := rfl

@[simp] theorem collections_collect :
    (heap.collect model).2.collections = heap.collections + 1 := rfl

@[simp] theorem rootRefs_collect : (heap.collect model).2.rootRefs = heap.rootRefs := rfl

theorem issued_collect (hheap : heap.Consistent) :
    (heap.collect model).2.store.issued = heap.store.issued := by
  rw [collect_eq hheap, Store.issued_releaseAll, marking,
    Marking.issued_run model heap.rootRefs hheap.unmarked]

/-! ### The books after a collection -/

theorem bytesOf_survivors_add (model : ObjectModel α) (heap : Heap α) :
    heap.store.bytesOf (heap.survivors model) + heap.store.bytesOf (heap.garbage model) =
      heap.store.bytesOf heap.order := by
  rw [survivors, garbage, ← heap.store.bytesOf_filter_add (· ∈ heap.traced model) heap.order]
  simp only [decide_not]

theorem bytesOf_garbage_le (hheap : heap.Consistent) :
    heap.store.bytesOf (heap.garbage model) ≤ heap.used := by
  rw [hheap.used_eq, ← bytesOf_survivors_add model heap]
  exact Nat.le_add_left ..

theorem used_collect (hheap : heap.Consistent) :
    (heap.collect model).2.used = heap.store.bytesOf (heap.survivors model) := by
  have hsum := bytesOf_survivors_add model heap
  rw [← hheap.used_eq] at hsum
  rw [collect_eq hheap]
  dsimp only
  omega

theorem used_collect_le (hheap : heap.Consistent) :
    (heap.collect model).2.used ≤ heap.used := by
  rw [collect_eq hheap]
  exact Nat.sub_le ..

theorem order_collect (hheap : heap.Consistent) :
    (heap.collect model).2.order = (heap.survivors model).reverse := by
  rw [collect_eq hheap]

theorem mem_order_collect_iff (hheap : heap.Consistent) :
    id ∈ (heap.collect model).2.order ↔ id ∈ heap.survivors model := by
  rw [order_collect hheap, List.mem_reverse]

theorem bytesOf_collect (hheap : heap.Consistent) :
    (heap.collect model).2.store.bytesOf (heap.survivors model) =
      heap.store.bytesOf (heap.survivors model) := by
  apply Store.bytesOf_congr
  intro id hid
  exact Store.sizeOf_congr ((get?_collect hheap id).trans (if_pos hid))

theorem Consistent.collect (hheap : heap.Consistent) : (heap.collect model).2.Consistent where
  nodup := by
    rw [order_collect hheap]
    exact (List.reverse_perm _).nodup_iff.2 (hheap.nodup.filter _)
  mem_order_iff id := by
    rw [mem_order_collect_iff hheap, get?_collect hheap]
    split
    · rename_i hid
      simp only [hid, true_iff]
      exact ((mem_survivors_iff hheap).1 hid).2
    · rename_i hid
      simp [hid]
  unmarked id object hget := hheap.unmarked id object (get?_of_get?_collect hheap hget).2
  used_eq := by
    rw [used_collect hheap, order_collect hheap, ← bytesOf_collect hheap]
    exact (Store.bytesOf_perm _ (List.reverse_perm _)).symm
  count_eq := by
    rw [order_collect hheap, collect_eq hheap, List.length_reverse]

/-- No reference dangles after a collection: what a survivor refers to survives. -/
theorem Closed.collect (hheap : heap.Consistent) (hclosed : heap.Closed model) :
    (heap.collect model).2.Closed model where
  roots ref href id hid := by
    subst hid
    rw [get?_collect_of_inUse hheap (.root href)]
    exact hclosed.roots _ href id rfl
  contents start object hget ref href id hid := by
    subst hid
    obtain ⟨hstart, hobject⟩ := get?_of_get?_collect hheap hget
    have hnext : heap.InUse model id :=
      Reachable.edge hstart (by rwa [edges_of_get? hobject])
    rw [get?_collect_of_inUse hheap hnext]
    exact hclosed.contents start object hobject _ href id rfl

/-! ### Exactness -/

/-- A collection of `before` that reports `collection` and leaves `after` is exact: it
    keeps what the roots reach as it is and frees all else. -/
structure ExactCollection (model : ObjectModel α) (before : Heap α) (collection : Collection)
    (after : Heap α) : Prop where
  /-- On the list are the objects that the roots reach, each once. -/
  mem_order_iff : ∀ id, id ∈ after.order ↔ before.InUse model id
  nodup : after.order.Nodup
  /-- The survivors come in reverse order. -/
  order_eq : after.order = (before.order.filter (· ∈ after.order)).reverse
  /-- The objects that the roots reach are asked for their references once each, and no
      others are asked. -/
  mem_traced_iff : ∀ id, id ∈ before.traced model ↔ before.InUse model id
  nodup_traced : (before.traced model).Nodup
  /-- What the roots reach keeps its size and its contents, and its mark is clear. -/
  kept : ∀ id, before.InUse model id →
    ∃ object, before.get? id = some object ∧ after.get? id = some object ∧ object.marked = false
  /-- All other names are free. -/
  freed : ∀ id, ¬before.InUse model id → after.get? id = none
  roots_eq : after.roots = before.roots
  cells_eq : after.cells = before.cells
  limits_eq : after.limits = before.limits
  /-- The report and the counters agree with the list. -/
  remaining_eq : collection.remaining = after.order.length
  count_eq : after.count = after.order.length
  cleared_eq : collection.cleared = (before.order.filter (· ∉ after.order)).length
  freed_eq : collection.freed = before.store.bytesOf (before.order.filter (· ∉ after.order))
  heap_eq : collection.heap = before.store.bytesOf after.order
  used_eq : after.used = before.store.bytesOf after.order
  collections_eq : after.collections = before.collections + 1

/-- A collection of a heap in which nothing dangles is exact, whatever the objects are
    and however they refer to each other. -/
theorem collect_exact (hheap : heap.Consistent) (hclosed : heap.Closed model) :
    heap.ExactCollection model (heap.collect model).1 (heap.collect model).2 := by
  have hlive : ∀ id, heap.InUse model id → (heap.get? id).isSome :=
    fun _ => hclosed.isSome_of_inUse
  have hmem : ∀ id, id ∈ (heap.collect model).2.order ↔ heap.InUse model id := by
    intro id
    rw [mem_order_collect_iff hheap, mem_survivors_iff hheap]
    exact and_iff_left_of_imp (hlive id)
  have htraced : ∀ id, id ∈ heap.traced model ↔ heap.InUse model id := by
    intro id
    rw [mem_traced_iff hheap]
    exact and_iff_left_of_imp (hlive id)
  have hkept : heap.order.filter (· ∈ (heap.collect model).2.order) = heap.survivors model :=
    List.filter_congr fun id _ => decide_eq_decide.2 ((hmem id).trans (htraced id).symm)
  have hfreed : heap.order.filter (· ∉ (heap.collect model).2.order) = heap.garbage model :=
    List.filter_congr fun id _ =>
      decide_eq_decide.2 (not_congr ((hmem id).trans (htraced id).symm))
  have hbytes : heap.store.bytesOf (heap.collect model).2.order =
      heap.store.bytesOf (heap.survivors model) := by
    rw [order_collect hheap]
    exact Store.bytesOf_perm _ (List.reverse_perm _)
  have hafter : (heap.collect model).2.Consistent := hheap.collect
  exact {
    mem_order_iff := hmem
    nodup := hafter.nodup
    order_eq := by rw [hkept, order_collect hheap]
    mem_traced_iff := htraced
    nodup_traced := nodup_traced hheap
    kept := by
      intro id hid
      obtain ⟨object, hobject⟩ := Option.isSome_iff_exists.1 (hlive id hid)
      exact ⟨object, hobject, (get?_collect_of_inUse hheap hid).trans hobject,
        hheap.unmarked id object hobject⟩
    freed := by
      intro id hid
      rw [get?_collect hheap, if_neg fun hsurvives => hid ((mem_survivors_iff hheap).1 hsurvives).1]
    roots_eq := rfl
    cells_eq := rfl
    limits_eq := rfl
    remaining_eq := by rw [order_collect hheap, List.length_reverse, collect_eq hheap]
    count_eq := hafter.count_eq
    cleared_eq := by rw [hfreed, collect_eq hheap]
    freed_eq := by rw [hfreed, collect_eq hheap]
    heap_eq := by
      rw [hbytes, ← used_collect hheap, collect_eq hheap]
    used_eq := by rw [hbytes, used_collect hheap]
    collections_eq := rfl }

/-- A heap of four nodes.  The roots name the first twice; it and the second refer to
    each other and to themselves.  The other two refer to each other and to the first. -/
def knot : Heap Node where
  roots := {
    statics := { cells := [0], capacity := 1 }
    shadow := { slots := [.operand (some 0), .operand none], capacity := 8 } }
  cells := Cells.write {} 0 (some 0)
  limits := .new 1024 64 2048
  system := .unlimited
  store := ⟨#[
    some { total := 56, data := { refs := #[some 0, some 1] } },
    some { total := 56, data := { refs := #[some 1, some 0] } },
    some { total := 56, data := { refs := #[some 3, some 0] } },
    some { total := 48, data := { refs := #[some 2] } }]⟩
  order := [3, 2, 1, 0]
  used := 216
  count := 4

theorem knot_consistent : knot.Consistent where
  nodup := by decide
  mem_order_iff id := by
    rcases id with _ | _ | _ | _ | id
    · decide
    · decide
    · decide
    · decide
    · simp [knot, get?, Store.get?]
  unmarked id object hget := by
    rcases id with _ | _ | _ | _ | id
    · cases hget; rfl
    · cases hget; rfl
    · cases hget; rfl
    · cases hget; rfl
    · simp [knot, get?, Store.get?] at hget
  used_eq := by decide
  count_eq := rfl

theorem knot_closed : knot.Closed Node.model where
  roots := by decide
  contents id object hget := by
    rcases id with _ | _ | _ | _ | id
    · cases hget; decide
    · cases hget; decide
    · cases hget; decide
    · cases hget; decide
    · simp [knot, get?, Store.get?] at hget

/-- The two nodes that nothing but themselves refers to are freed. -/
theorem collect_exact_knot :
    knot.Consistent ∧ knot.Closed Node.model ∧
      (knot.collect Node.model).2.order = [0, 1] ∧
      knot.ExactCollection Node.model (knot.collect Node.model).1 (knot.collect Node.model).2 :=
  ⟨knot_consistent, knot_closed, by decide +kernel, collect_exact knot_consistent knot_closed⟩

end Heap

end ManagedRuntime
