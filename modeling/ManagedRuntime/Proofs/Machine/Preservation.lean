/-
  What actions preserve
  =====================
  An action may fail halfway and leaves a machine behind all the same.  What actions keep is
  therefore said of both outcomes at once (`Action.Preserves`), and composes.

  The construction of an array consists of few sorts of acts: arrays of one level are made, pushed
  on the shadow stack and stored into one another, and frames are closed.  An invariant that each of
  these keeps survives the construction of any number of levels
  (`SurvivesFilling.preserves_allocateLevels`), wherever it fails.
-/
import ManagedRuntime.Proofs.Machine.Construction

namespace ManagedRuntime

namespace Action

variable {β γ : Type} {inv : Machine → Prop}

/-- The action keeps the invariant, whether it succeeds or not. -/
def Preserves (inv : Machine → Prop) (action : Action β) : Prop :=
  ∀ machine, inv machine → inv (action.run machine).2

theorem preserves_pure (value : β) : Preserves inv (pure value : Action β) :=
  fun _ h => h

theorem preserves_modify {change : Machine → Machine}
    (h : ∀ machine, inv machine → inv (change machine)) :
    Preserves inv (modify change : Action PUnit) :=
  h

theorem Preserves.bind {first : Action β} {next : β → Action γ} (hfirst : Preserves inv first)
    (hnext : ∀ value, Preserves inv (next value)) : Preserves inv (first >>= next) := by
  intro machine h
  have hmid := hfirst machine h
  rw [run_bind]
  rcases hrun : first.run machine with ⟨error | value, mid⟩
  · rw [hrun] at hmid
    exact hmid
  · rw [hrun] at hmid
    exact hnext value mid hmid

end Action

namespace Machine

variable {inv : Machine → Prop}

/-- New storage with its first contents is an allocation and a store. -/
theorem preserves_allocateAs {bytes : Nat} {change : Storage → Storage}
    (hallocate : Action.Preserves inv (allocate bytes))
    (hstore : ∀ machine, inv machine → ∀ id, inv (machine.updateStorage id change)) :
    Action.Preserves inv (allocateAs bytes change) := by
  rw [allocateAs]
  apply hallocate.bind
  intro id
  apply Action.Preserves.bind
  · exact Action.preserves_modify fun machine h => hstore machine h id
  · exact fun _ => Action.preserves_pure id

theorem preserves_newObject {classId : ClassId}
    (hallocate : ∀ bytes, Action.Preserves inv (allocateAs bytes (·.setClass classId))) :
    Action.Preserves inv (newObject classId) := by
  intro machine h
  rw [run_newObject]
  split
  · exact hallocate _ machine h
  · exact h

theorem preserves_allocateFlat {level : ArrayLevel}
    (hallocate : ∀ bytes, level.bytes? = some bytes → Action.Preserves inv
      (allocateAs bytes fun storage => (storage.setClass level.classId).setLength level.length)) :
    Action.Preserves inv (allocateFlat level) := by
  intro machine h
  rw [run_allocateFlat]
  split
  · exact h
  · rename_i bytes hbytes
    exact hallocate bytes hbytes machine h

/-- An operation on the roots leaves what depends on no roots. -/
theorem preserves_onRoots {ε β : Type} {wrap : ε → RuntimeError}
    {operation : Hierarchy → Heap Storage → Except ε β × Heap Storage}
    (hroots : ∀ machine, inv machine → ∀ roots, inv (machine.withRoots roots))
    (hoperation : ∀ classes heap, ∃ roots, (operation classes heap).2 = { heap with roots }) :
    Action.Preserves inv (onHeap wrap operation) := by
  intro machine h
  obtain ⟨roots, hheap⟩ := hoperation machine.classes machine.heap
  rw [run_onHeap, hheap]
  exact hroots machine h roots

/-! ### Arrays of several levels -/

/-- An invariant that survives what happens between the making of arrays of one level. -/
structure SurvivesFilling (inv : Machine → Prop) : Prop where
  push : ∀ ref, Action.Preserves inv (pushOperand ref)
  storeInner : ∀ machine, inv machine → ∀ outer index table inner,
    inv (machine.storeInner outer index table inner)
  /-- The mark of a frame is the depth at an earlier moment. -/
  close : ∀ opened left, inv opened → inv left → inv ((closeFrame opened.openFrame).run left).2

theorem survivesFilling_of_roots
    (hroots : ∀ machine, inv machine → ∀ roots, inv (machine.withRoots roots))
    (hstore : ∀ machine, inv machine → ∀ outer index table inner,
      inv (machine.storeInner outer index table inner)) : SurvivesFilling inv where
  push _ := preserves_onRoots hroots fun _ heap => heap.exists_updateRoots _
  storeInner := hstore
  close _ left _ hleft :=
    preserves_onRoots hroots (fun _ heap => heap.exists_updateRoots _) left hleft

theorem SurvivesFilling.preserves_fill (hfilling : SurvivesFilling inv)
    {makeInner : Action ObjectId} (hmake : Action.Preserves inv makeInner) (outer : ObjectId)
    (table : DispatchTable) (count index : Nat) :
    Action.Preserves inv (fill outer table makeInner count index) := by
  induction count generalizing index with
  | zero => exact Action.preserves_pure ()
  | succ count ih =>
    rw [fill]
    apply hmake.bind
    intro inner
    apply Action.Preserves.bind
    · exact Action.preserves_modify fun machine h =>
        hfilling.storeInner machine h outer index table inner
    · exact fun _ => ih (index + 1)

theorem SurvivesFilling.preserves_nested (hfilling : SurvivesFilling inv) {level : ArrayLevel}
    {makeInner : Action ObjectId} (hflat : Action.Preserves inv (allocateFlat level))
    (hmake : Action.Preserves inv makeInner) (table : DispatchTable) :
    Action.Preserves inv (nested level table makeInner) := by
  rw [nested]
  apply hflat.bind
  intro array
  apply (hfilling.push (some array)).bind
  intro _
  apply (hfilling.preserves_fill hmake array table level.length 0).bind
  exact fun _ => Action.preserves_pure array

theorem SurvivesFilling.preserves_inFrame (hfilling : SurvivesFilling inv) {β : Type}
    {action : Action β} (haction : Action.Preserves inv action) :
    Action.Preserves inv (inFrame action) := by
  intro machine h
  have hclosed := hfilling.close machine _ h (haction machine h)
  rw [run_inFrame]
  split
  · rename_i hrun
    rwa [hrun] at hclosed
  · rename_i hrun
    rwa [hrun] at hclosed

theorem SurvivesFilling.preserves_allocateLevels (hfilling : SurvivesFilling inv)
    {level : ArrayLevel} {levels : List ArrayLevel}
    (hflat : ∀ each ∈ level :: levels, Action.Preserves inv (allocateFlat each)) :
    Action.Preserves inv (allocateLevels level levels) := by
  induction levels generalizing level with
  | nil => exact hflat level (.head _)
  | cons inner levels ih =>
    have hinner := ih fun each heach => hflat each (.tail _ heach)
    rw [allocateLevels_cons]
    apply hfilling.preserves_inFrame
    exact hfilling.preserves_nested (hflat level (.head _)) hinner inner.table

end Machine

end ManagedRuntime
