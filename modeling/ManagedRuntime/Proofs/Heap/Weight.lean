/-
  Bytes that references reach
  ===========================
  The weight of some references is what the objects that they reach take in all
  (`Heap.weight`), each counted once however often it is referred to.  Garbage weighs nothing,
  so no collection changes a weight, and a heap takes up after a collection what its
  roots weigh (`used_collect_eq`).

  A new object adds its own size to the roots once its name is counted among them.  When a
  reference that the program has at hand is stored into an object in use, the weight moves with it
  (`weight_modifyData`): what the roots and the reference weighed together, the roots weigh alone.
-/
import ManagedRuntime.Proofs.Heap.Retention

namespace ManagedRuntime

namespace Reachable

variable {edges others : ObjectId → List Ref} {refs more : List Ref} {id : ObjectId}

/-- Null references lead nowhere. -/
theorem congr_some (hrefs : ∀ start, some start ∈ more ↔ some start ∈ refs)
    (hedges : ∀ start, Reachable edges refs start →
      ∀ next, some next ∈ others start ↔ some next ∈ edges start) :
    Reachable others more id ↔ Reachable edges refs id := by
  constructor
  · intro hid
    induction hid with
    | root hmem => exact .root ((hrefs _).1 hmem)
    | edge _ hmem ih => exact ih.edge ((hedges _ ih _).1 hmem)
  · intro hid
    induction hid with
    | root hmem => exact .root ((hrefs _).2 hmem)
    | edge hstart hmem ih => exact ih.edge ((hedges _ hstart _).2 hmem)

/-- A reference is moved from the ones at hand into a place that is reached. -/
theorem moved {place moved : ObjectId} (hplace : some place ∈ refs)
    (hothers : ∀ start, start ≠ place → others start = edges start)
    (hedges : ∀ next, some next ∈ others place ↔ some next ∈ edges place ∨ next = moved) :
    Reachable others refs id ↔ Reachable edges (refs ++ [some moved]) id := by
  constructor
  · intro hid
    induction hid with
    | root hmem => exact .root (List.mem_append_left _ hmem)
    | @edge start next _ hmem ih =>
      by_cases hstart : start = place
      · subst hstart
        rcases (hedges next).1 hmem with hold | rfl
        · exact ih.edge hold
        · exact .root (List.mem_append_right _ (.head _))
      · rw [hothers start hstart] at hmem
        exact ih.edge hmem
  · intro hid
    induction hid with
    | root hmem =>
      rcases List.mem_append.1 hmem with hold | hnew
      · exact .root hold
      · obtain rfl := Option.some.inj (List.mem_singleton.1 hnew)
        exact .edge (.root hplace) ((hedges _).2 (.inr rfl))
    | @edge start next _ hmem ih =>
      by_cases hstart : start = place
      · subst hstart
        exact ih.edge ((hedges next).2 (.inl hmem))
      · rw [← hothers start hstart] at hmem
        exact ih.edge hmem

end Reachable

namespace Heap

variable {α : Type} {model other : ObjectModel α} {heap after : Heap α} {refs more : List Ref}
variable {id : ObjectId}

open Classical in
/-- Total bytes of the objects that some references reach. -/
noncomputable def weight (model : ObjectModel α) (heap : Heap α) (refs : List Ref) : Nat :=
  heap.store.bytesOf (heap.order.filter (heap.Reaches model refs ·))

/-- Total bytes of the objects that the roots reach. -/
noncomputable def bytesInUse (model : ObjectModel α) (heap : Heap α) : Nat :=
  heap.weight model heap.rootRefs

/-! ### Weights that are the same -/

/-- Any list of the objects that are reached, each once, gives their weight. -/
theorem weight_eq_bytesOf (hheap : heap.Consistent) {ids : List ObjectId} (hnodup : ids.Nodup)
    (hids : ∀ id, id ∈ ids ↔ heap.Reaches model refs id ∧ (heap.get? id).isSome) :
    heap.weight model refs = heap.store.bytesOf ids := by
  classical
  apply Store.bytesOf_perm
  apply (List.perm_ext_iff_of_nodup (hheap.nodup.filter _) hnodup).2
  intro id
  rw [List.mem_filter, decide_eq_true_iff, hheap.mem_order_iff, hids]
  exact and_comm

/-- Only the sizes of the objects that are reached matter. -/
theorem weight_congr (hheap : heap.Consistent) (hafter : after.Consistent)
    (hreaches : ∀ id, after.Reaches other more id ↔ heap.Reaches model refs id)
    (hlive : ∀ id, heap.Reaches model refs id → (after.get? id).isSome = (heap.get? id).isSome)
    (hsize : ∀ id, heap.Reaches model refs id → after.store.sizeOf id = heap.store.sizeOf id) :
    after.weight other more = heap.weight model refs := by
  classical
  have hids : ∀ id, id ∈ heap.order.filter (heap.Reaches model refs ·) ↔
      after.Reaches other more id ∧ (after.get? id).isSome := by
    intro id
    rw [List.mem_filter, decide_eq_true_iff, hheap.mem_order_iff, hreaches, and_comm]
    exact and_congr_right fun hid => by rw [hlive id hid]
  rw [weight_eq_bytesOf hafter (hheap.nodup.filter _) hids]
  apply Store.bytesOf_congr
  intro id hid
  rw [List.mem_filter, decide_eq_true_iff] at hid
  exact hsize id hid.2

/-- What is reached has the same weight in every heap in which it is the same. -/
theorem weight_eq_of_get? (hheap : heap.Consistent) (hafter : after.Consistent)
    (hget : ∀ id, heap.Reaches model refs id → after.get? id = heap.get? id) :
    after.weight model refs = heap.weight model refs := by
  apply weight_congr hheap hafter
  · exact fun _ => reaches_congr hget
  · exact fun id hid => congrArg Option.isSome (hget id hid)
  · exact fun id hid => Store.sizeOf_congr (hget id hid)

theorem weight_congr_refs (hheap : heap.Consistent)
    (hrefs : ∀ id, some id ∈ more ↔ some id ∈ refs) :
    heap.weight model more = heap.weight model refs := by
  apply weight_congr hheap hheap
  · exact fun _ => Reachable.congr_some hrefs fun _ _ _ => .rfl
  · exact fun _ _ => rfl
  · exact fun _ _ => rfl

theorem weight_congr_model (hheap : heap.Consistent)
    (hsame : ∀ id object, heap.get? id = some object →
      other.refs object.data = model.refs object.data) :
    heap.weight other refs = heap.weight model refs := by
  apply weight_congr hheap hheap
  · exact fun _ => reaches_congr_model hsame
  · exact fun _ _ => rfl
  · exact fun _ _ => rfl

/-! ### Collections -/

/-- After a collection the heap takes up what is in use, and no more. -/
theorem used_collect_eq (model : ObjectModel α) (hheap : heap.Consistent) :
    (heap.collect model).2.used = heap.bytesInUse model := by
  rw [used_collect hheap, bytesInUse]
  exact (weight_eq_bytesOf hheap (hheap.nodup.filter _) fun _ => mem_survivors_iff hheap).symm

theorem bytesInUse_le_used (model : ObjectModel α) (hheap : heap.Consistent) :
    heap.bytesInUse model ≤ heap.used := by
  rw [← used_collect_eq model hheap]
  exact used_collect_le hheap

/-- What keeps all that is in use, and the roots, keeps the bytes in use. -/
theorem Keeps.bytesInUse_eq (h : heap.Keeps model after) (hheap : heap.Consistent)
    (hafter : after.Consistent) (hroots : after.rootRefs = heap.rootRefs) :
    after.bytesInUse model = heap.bytesInUse model := by
  rw [bytesInUse, hroots]
  exact weight_eq_of_get? hheap hafter h.get?_eq

/-! ### New objects -/

section Added

variable (hheap : heap.Consistent) (hclosed : heap.Closed model) {data : α}
  (hdata : ∀ ref ∈ model.refs data, ref = none)
include hclosed hdata

/-- Beside the roots, the name of a new object without references reaches that object. -/
theorem reaches_added_iff (total : Nat) :
    (heap.added total data).Reaches model (heap.rootRefs ++ [some heap.store.issued]) id ↔
      id = heap.store.issued ∨ heap.InUse model id := by
  have hnew : (heap.added total data).get? heap.store.issued = some { total, data } :=
    (heap.get?_added ..).trans (if_pos rfl)
  have hold : ∀ id, heap.InUse model id → (heap.added total data).get? id = heap.get? id :=
    fun id hid => get?_added_of_isSome (hclosed.isSome_of_inUse hid)
  constructor
  · intro hid
    induction hid with
    | root hmem =>
      rcases List.mem_append.1 hmem with hroot | hmade
      · exact .inr (.root hroot)
      · exact .inl (Option.some.inj (List.mem_singleton.1 hmade))
    | @edge start next _ hmem ih =>
      rcases ih with rfl | hstart
      · rw [edges_of_get? hnew] at hmem
        cases hdata _ hmem
      · rw [edges_congr (hold start hstart)] at hmem
        exact .inr (hstart.edge hmem)
  · rintro (rfl | hid)
    · exact .root (List.mem_append_right _ (.head _))
    · have hkept : (heap.added total data).Reaches model heap.rootRefs id :=
        (reaches_congr hold).2 hid
      exact hkept.mono fun ref href => List.mem_append_left _ href

include hheap in
/-- A new object without references weighs its own size beside the roots. -/
theorem weight_added (total : Nat) :
    (heap.added total data).weight model (heap.rootRefs ++ [some heap.store.issued]) =
      heap.bytesInUse model + total := by
  classical
  have hnew : (heap.added total data).get? heap.store.issued = some { total, data } :=
    (heap.get?_added ..).trans (if_pos rfl)
  have hfresh : heap.store.issued ∉ heap.order.filter (heap.Reaches model heap.rootRefs ·) := by
    intro hmem
    exact Nat.lt_irrefl _ (lt_issued_of_mem_order hheap (List.mem_filter.1 hmem).1)
  have hids : ∀ id, id ∈ heap.store.issued ::
      heap.order.filter (heap.Reaches model heap.rootRefs ·) ↔
        (heap.added total data).Reaches model (heap.rootRefs ++ [some heap.store.issued]) id ∧
          ((heap.added total data).get? id).isSome := by
    intro id
    rw [List.mem_cons, List.mem_filter, decide_eq_true_iff, hheap.mem_order_iff,
      reaches_added_iff hclosed hdata]
    by_cases hid : id = heap.store.issued
    · subst hid
      simp [hnew]
    · rw [get?_added, if_neg hid]
      simp [hid, InUse, and_comm]
  rw [weight_eq_bytesOf (hheap.added total data)
    (List.nodup_cons.2 ⟨hfresh, hheap.nodup.filter _⟩) hids]
  calc (heap.added total data).store.bytesOf (heap.store.issued ::
        heap.order.filter (heap.Reaches model heap.rootRefs ·))
    _ = (heap.added total data).store.sizeOf heap.store.issued +
        (heap.added total data).store.bytesOf
          (heap.order.filter (heap.Reaches model heap.rootRefs ·)) := rfl
    _ = total + heap.bytesInUse model := by
      rw [Store.sizeOf_of_get? hnew, bytesInUse, weight]
      apply congrArg (total + ·)
      apply Store.bytesOf_congr
      intro id hid
      rw [List.mem_filter, hheap.mem_order_iff] at hid
      exact Store.sizeOf_congr (get?_added_of_isSome hid.1)
    _ = heap.bytesInUse model + total := Nat.add_comm ..

end Added

/-! ### Stores -/

/-- A store that leaves the references of an object as they are changes no weight. -/
theorem weight_modifyData_of_refs (hheap : heap.Consistent) {object : ObjectId} {change : α → α}
    (hrefs : ∀ next, some next ∈ (heap.modifyData object change).edges model object ↔
      some next ∈ heap.edges model object) :
    (heap.modifyData object change).weight model refs = heap.weight model refs := by
  apply weight_congr hheap (hheap.modifyData object change)
  · intro id
    apply Reachable.congr_some fun _ => .rfl
    intro start _ next
    by_cases hstart : object = start
    · subst hstart
      exact hrefs next
    · rw [edges_congr ((heap.get?_modifyData ..).trans (if_neg hstart))]
  · exact fun id _ => heap.isSome_get?_modifyData object id change
  · exact fun id _ => heap.sizeOf_modifyData object id change

/-- A store of a reference into an object that is a root moves its weight to the roots. -/
theorem weight_modifyData (hheap : heap.Consistent) {object stored : ObjectId} {change : α → α}
    (hobject : some object ∈ refs)
    (hrefs : ∀ next, some next ∈ (heap.modifyData object change).edges model object ↔
      some next ∈ heap.edges model object ∨ next = stored) :
    (heap.modifyData object change).weight model refs =
      heap.weight model (refs ++ [some stored]) := by
  apply weight_congr hheap (hheap.modifyData object change)
  · intro id
    refine Reachable.moved hobject ?_ hrefs
    intro start hstart
    exact edges_congr ((heap.get?_modifyData ..).trans (if_neg (Ne.symm hstart)))
  · exact fun id _ => heap.isSome_get?_modifyData object id change
  · exact fun id _ => heap.sizeOf_modifyData object id change

end Heap

end ManagedRuntime
