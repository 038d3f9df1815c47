/-
  Stores and root operations
  ==========================
  What a program does to a heap between allocations: it changes what an object holds, and
  it changes what the roots are.  A store leaves the books alone, and it leaves nothing
  dangling if what it stores does not dangle.  An operation on the roots or on a
  variable touches no object; the roots after it are among those before, but for the
  reference that it brings in (`Heap.Rerooted`).
-/
import ManagedRuntime.Proofs.Heap.Collection

namespace ManagedRuntime

namespace Heap

variable {α : Type} {model : ObjectModel α} {heap after : Heap α} {id : ObjectId} {ref : Ref}

/-! ### What the books and reachability are about -/

/-- Only the list, the objects and the counters belong to the books. -/
theorem Consistent.of_eq {other : Heap α} (hheap : heap.Consistent)
    (hstore : other.store = heap.store) (horder : other.order = heap.order)
    (hused : other.used = heap.used) (hcount : other.count = heap.count) : other.Consistent where
  nodup := horder ▸ hheap.nodup
  mem_order_iff id := by
    rw [horder, get?, hstore]
    exact hheap.mem_order_iff id
  unmarked id object hget := by
    rw [get?, hstore] at hget
    exact hheap.unmarked id object hget
  used_eq := by rw [hused, hstore, horder, hheap.used_eq]
  count_eq := by rw [hcount, horder, hheap.count_eq]

/-- Limits have no part in what is reached. -/
theorem Closed.of_eq {other : Heap α} (hclosed : heap.Closed model)
    (hroots : other.roots = heap.roots) (hcells : other.cells = heap.cells)
    (hstore : other.store = heap.store) : other.Closed model where
  roots ref href id hid := by
    rw [rootRefs, hroots, hcells] at href
    rw [get?, hstore]
    exact hclosed.roots ref href id hid
  contents id object hget ref href next hnext := by
    rw [get?, hstore] at hget ⊢
    exact hclosed.contents id object hget ref href next hnext

/-! ### Stores -/

theorem get?_modifyData (heap : Heap α) (id other : ObjectId) (change : α → α) :
    (heap.modifyData id change).get? other =
      if id = other then
        (heap.get? other).map fun object => { object with data := change object.data }
      else heap.get? other :=
  Store.get?_modify ..

theorem exists_of_get?_modifyData {object : ObjectId} {change : α → α} {changed : Object α}
    (h : (heap.modifyData object change).get? id = some changed) :
    ∃ before, heap.get? id = some before ∧ changed.total = before.total ∧
      changed.marked = before.marked := by
  rw [get?_modifyData] at h
  split at h
  · obtain ⟨before, hbefore, rfl⟩ := Option.map_eq_some_iff.1 h
    exact ⟨before, hbefore, rfl, rfl⟩
  · exact ⟨changed, h, rfl, rfl⟩

theorem isSome_get?_modifyData (heap : Heap α) (id other : ObjectId) (change : α → α) :
    ((heap.modifyData id change).get? other).isSome = (heap.get? other).isSome := by
  rw [get?_modifyData]
  split
  · rw [Option.isSome_map]
  · rfl

/-- What the contents of all objects have, they keep through a change that ends in it. -/
theorem forall_contents_modifyData (P : α → Prop) {changed : ObjectId} {change : α → α}
    (hcontents : ∀ id object, heap.get? id = some object → P object.data)
    (hchange : ∀ before, heap.get? changed = some before → P (change before.data)) :
    ∀ id object, (heap.modifyData changed change).get? id = some object → P object.data := by
  intro id object hget
  rw [get?_modifyData] at hget
  split at hget
  · rename_i hsame
    subst hsame
    obtain ⟨before, hbefore, rfl⟩ := Option.map_eq_some_iff.1 hget
    exact hchange before hbefore
  · exact hcontents id object hget

theorem sizeOf_modifyData (heap : Heap α) (id other : ObjectId) (change : α → α) :
    (heap.modifyData id change).store.sizeOf other = heap.store.sizeOf other := by
  have htotals : ((heap.modifyData id change).get? other).map (·.total) =
      (heap.get? other).map (·.total) := by
    rw [get?_modifyData]
    split
    · rw [Option.map_map]
      rfl
    · rfl
  rw [Store.sizeOf_eq, Store.sizeOf_eq]
  exact congrArg (·.getD 0) htotals

theorem Consistent.modifyData (hheap : heap.Consistent) (object : ObjectId) (change : α → α) :
    (heap.modifyData object change).Consistent where
  nodup := hheap.nodup
  mem_order_iff id := by
    rw [isSome_get?_modifyData]
    exact hheap.mem_order_iff id
  unmarked id changed hget := by
    obtain ⟨before, hbefore, -, hmarked⟩ := exists_of_get?_modifyData hget
    rw [hmarked]
    exact hheap.unmarked id before hbefore
  used_eq := by
    rw [Store.bytesOf_congr fun id _ => heap.sizeOf_modifyData object id change]
    exact hheap.used_eq
  count_eq := hheap.count_eq

theorem admits_modifyData_iff (object : ObjectId) (change : α → α) :
    (heap.modifyData object change).Admits ref ↔ heap.Admits ref := by
  simp only [Admits, isSome_get?_modifyData]

theorem Closed.modifyData (hclosed : heap.Closed model) {object : ObjectId} {change : α → α}
    (h : ∀ before, heap.get? object = some before →
      ∀ ref ∈ model.refs (change before.data), heap.Admits ref) :
    (heap.modifyData object change).Closed model where
  roots ref href := (admits_modifyData_iff object change).2 (hclosed.roots ref href)
  contents id changed hget ref href := by
    apply (admits_modifyData_iff object change).2
    exact forall_contents_modifyData (fun data => ∀ ref ∈ model.refs data, heap.Admits ref)
      hclosed.contents h id changed hget ref href

/-! ### Roots -/

/-- A cell is registered as a static root or as a local variable. -/
def Registered (heap : Heap α) (cell : CellId) : Prop :=
  cell ∈ heap.roots.statics.cells ∨ .localCell cell ∈ heap.roots.shadow.slots

instance (heap : Heap α) (cell : CellId) : Decidable (heap.Registered cell) :=
  inferInstanceAs (Decidable (_ ∨ _))

theorem mem_rootRefs_iff :
    ref ∈ heap.rootRefs ↔
      (∃ cell ∈ heap.roots.statics.cells, heap.cells.read cell = ref) ∨
        ∃ slot ∈ heap.roots.shadow.slots, slot.current heap.cells = ref := by
  simp [rootRefs, Roots.current, StaticRoots.registered, ShadowStack.bottomUp]

theorem Registered.mem_rootRefs {cell : CellId} (h : heap.Registered cell) :
    heap.readCell cell ∈ heap.rootRefs := by
  rw [mem_rootRefs_iff]
  rcases h with hstatic | hlocal
  · exact .inl ⟨cell, hstatic, rfl⟩
  · exact .inr ⟨.localCell cell, hlocal, rfl⟩

/-- A heap differs from another one in its roots and variables only, and what the roots
    hold beyond what they held before has a property. -/
structure Rerooted (heap : Heap α) (fresh : Ref → Prop) (after : Heap α) : Prop where
  eq : after = { heap with roots := after.roots, cells := after.cells }
  refs : ∀ ref ∈ after.rootRefs, ref ∈ heap.rootRefs ∨ fresh ref

variable {fresh : Ref → Prop}

theorem Rerooted.refl (heap : Heap α) (fresh : Ref → Prop) : heap.Rerooted fresh heap :=
  ⟨rfl, fun _ href => .inl href⟩

theorem Rerooted.mono {weaker : Ref → Prop} (h : heap.Rerooted fresh after)
    (hweaker : ∀ ref, fresh ref → weaker ref) : heap.Rerooted weaker after :=
  ⟨h.eq, fun ref href => (h.refs ref href).imp_right (hweaker ref)⟩

theorem Rerooted.store_eq (h : heap.Rerooted fresh after) : after.store = heap.store := by
  rw [h.eq]

theorem Rerooted.consistent (h : heap.Rerooted fresh after) (hheap : heap.Consistent) :
    after.Consistent := by
  rw [h.eq]
  exact hheap.of_eq rfl rfl rfl rfl

theorem Rerooted.closed (h : heap.Rerooted heap.Admits after) (hclosed : heap.Closed model) :
    after.Closed model where
  roots ref href id hid := by
    rw [get?, h.store_eq]
    rcases h.refs ref href with hold | hadmits
    · exact hclosed.roots ref hold id hid
    · exact hadmits id hid
  contents id object hget ref href next hnext := by
    rw [get?, h.store_eq] at hget ⊢
    exact hclosed.contents id object hget ref href next hnext

theorem exists_updateRoots (heap : Heap α) (result : Except RootError Roots) :
    ∃ roots, (heap.updateRoots result).2 = { heap with roots } := by
  cases result with
  | error error => exact ⟨heap.roots, rfl⟩
  | ok roots => exact ⟨roots, rfl⟩

theorem exists_popOperand (heap : Heap α) :
    ∃ roots, heap.popOperand.2 = { heap with roots } := by
  unfold popOperand
  split
  · exact ⟨_, rfl⟩
  · exact ⟨heap.roots, rfl⟩

/-- A refused operation changes nothing, so only the roots of a successful one matter. -/
theorem rerooted_updateRoots {result : Except RootError Roots}
    (h : ∀ roots, result = .ok roots →
      ∀ ref ∈ { heap with roots }.rootRefs, ref ∈ heap.rootRefs ∨ fresh ref) :
    heap.Rerooted fresh (heap.updateRoots result).2 := by
  cases result with
  | error error => exact .refl heap fresh
  | ok roots => exact ⟨rfl, h roots rfl⟩

theorem rerooted_push {slot : RootSlot} (h : fresh (slot.current heap.cells)) :
    heap.Rerooted fresh (heap.updateRoots <|
      (heap.roots.shadow.push slot).map ({ heap.roots with shadow := · })).2 := by
  apply rerooted_updateRoots
  intro roots hroots ref href
  rcases hpush : heap.roots.shadow.push slot with error | pushed
  · rw [hpush] at hroots
    cases hroots
  rw [hpush] at hroots
  cases hroots
  rw [mem_rootRefs_iff] at href ⊢
  rcases href with hstatic | ⟨other, hother, rfl⟩
  · exact .inl (.inl hstatic)
  · rw [ShadowStack.slots_of_push hpush, List.mem_cons] at hother
    rcases hother with rfl | hother
    · exact .inr h
    · exact .inl (.inr ⟨other, hother, rfl⟩)

theorem rerooted_pushOperand (h : fresh ref) : heap.Rerooted fresh (heap.pushOperand ref).2 :=
  rerooted_push h

theorem rerooted_registerLocal {cell : CellId} (h : fresh (heap.readCell cell)) :
    heap.Rerooted fresh (heap.registerLocal cell).2 :=
  rerooted_push h

theorem rerooted_addStaticRoot {cell : CellId} (h : fresh (heap.readCell cell)) :
    heap.Rerooted fresh (heap.addStaticRoot cell).2 := by
  apply rerooted_updateRoots
  intro roots hroots ref href
  unfold StaticRoots.add at hroots
  split at hroots
  · cases hroots
  cases hroots
  rw [mem_rootRefs_iff] at href ⊢
  rcases href with ⟨other, hother, rfl⟩ | hslot
  · rcases List.mem_cons.1 hother with rfl | hother
    · exact .inr h
    · exact .inl (.inl ⟨other, hother, rfl⟩)
  · exact .inl (.inr hslot)

theorem rerooted_popOperand : heap.Rerooted fresh heap.popOperand.2 := by
  unfold popOperand
  rcases hpop : heap.roots.shadow.pop with error | ⟨popped, shadow⟩
  · exact .refl heap fresh
  refine ⟨rfl, ?_⟩
  intro ref href
  rw [mem_rootRefs_iff] at href ⊢
  rcases href with hstatic | ⟨slot, hslot, rfl⟩
  · exact .inl (.inl hstatic)
  · refine .inl (.inr ⟨slot, ?_, rfl⟩)
    rw [ShadowStack.slots_of_pop hpop]
    exact .tail _ hslot

theorem rerooted_closeFrame (mark : Nat) : heap.Rerooted fresh (heap.closeFrame mark).2 := by
  apply rerooted_updateRoots
  intro roots hroots ref href
  rcases hclose : heap.roots.shadow.closeFrame mark with error | closed
  · rw [hclose] at hroots
    cases hroots
  rw [hclose] at hroots
  cases hroots
  rw [mem_rootRefs_iff] at href ⊢
  rcases href with hstatic | ⟨slot, hslot, rfl⟩
  · exact .inl (.inl hstatic)
  · rw [ShadowStack.slots_of_closeFrame hclose] at hslot
    exact .inl (.inr ⟨slot, List.mem_of_mem_drop hslot, rfl⟩)

/-- Only the assignment of a registered variable brings in a reference. -/
theorem rerooted_writeCell {cell : CellId} (h : heap.Registered cell → fresh ref) :
    heap.Rerooted fresh (heap.writeCell cell ref) := by
  refine ⟨rfl, ?_⟩
  intro other hother
  rw [mem_rootRefs_iff] at hother ⊢
  rcases hother with ⟨static, hstatic, hread⟩ | ⟨slot, hslot, hread⟩
  · rw [writeCell, Cells.read_write] at hread
    split at hread
    · rename_i hsame
      subst hsame hread
      exact .inr (h (.inl hstatic))
    · exact .inl (.inl ⟨static, hstatic, hread⟩)
  · cases slot with
    | operand value => exact .inl (.inr ⟨.operand value, hslot, hread⟩)
    | localCell name =>
      rw [RootSlot.current, writeCell, Cells.read_write] at hread
      split at hread
      · rename_i hsame
        subst hsame hread
        exact .inr (h (.inr hslot))
      · exact .inl (.inr ⟨.localCell name, hslot, hread⟩)

end Heap

end ManagedRuntime
