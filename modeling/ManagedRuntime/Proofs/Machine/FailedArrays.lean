/-
  Failed array constructions
  ==========================
  A construction can fail at any depth, for want of storage or of slots on the shadow stack.  The
  frames that are open then are closed one after the other, so nothing of the unfinished arrays is
  referred to any more, and the next collection frees all of them (`Machine.Restored`).

  Arguments are checked before anything is made, in a fixed order, and no class is made for bad
  ones (`Machine.FailsCleanly`).
-/
import ManagedRuntime.Proofs.Machine.ArrayIdentity
import ManagedRuntime.Proofs.Machine.BuiltTrees
import ManagedRuntime.Proofs.Machine.RootMoves

namespace ManagedRuntime

/-! ### Errors of a construction -/

/-- Storage ran short, or slots on the shadow stack did. -/
inductive RuntimeError.IsShortage : RuntimeError → Prop
  | storage (error : AllocationError) : IsShortage (.allocation error)
  | slots : IsShortage (.root .overflow)

namespace Action

variable {β γ : Type}

/-- The action fails with errors of one sort only. -/
def FailsOnly (sort : RuntimeError → Prop) (action : Action β) : Prop :=
  ∀ machine error, (action.run machine).1 = .error error → sort error

variable {sort : RuntimeError → Prop}

theorem failsOnly_pure (value : β) : FailsOnly sort (pure value : Action β) := by
  rintro machine error ⟨⟩

theorem failsOnly_modify (change : Machine → Machine) :
    FailsOnly sort (modify change : Action PUnit) := by
  rintro machine error ⟨⟩

theorem FailsOnly.bind {first : Action β} {next : β → Action γ} (hfirst : FailsOnly sort first)
    (hnext : ∀ value, FailsOnly sort (next value)) : FailsOnly sort (first >>= next) := by
  intro machine error herror
  rw [run_bind] at herror
  rcases hrun : first.run machine with ⟨failure | value, mid⟩
  · rw [hrun] at herror
    cases herror
    exact hfirst machine error (congrArg Prod.fst hrun)
  · rw [hrun] at herror
    exact hnext value mid error herror

end Action

namespace Machine

variable {machine before after planned : Machine} {kind : Kind} {element : Option ClassId}
variable {dimensions : List Int} {error : RuntimeError}

theorem failsOnly_allocate (bytes : Nat) :
    Action.FailsOnly RuntimeError.IsShortage (allocate bytes) := by
  intro machine error herror
  rw [allocate, run_onHeap] at herror
  rcases hresult : (machine.heap.allocate machine.classes.objectModel bytes).1 with reason | id
  · rw [hresult] at herror
    cases herror
    exact .storage reason
  · rw [hresult] at herror
    cases herror

theorem failsOnly_allocateFlat (level : ArrayLevel) :
    Action.FailsOnly RuntimeError.IsShortage (allocateFlat level) := by
  intro machine error herror
  rw [run_allocateFlat] at herror
  split at herror
  · cases herror
    exact .storage .tooBig
  · rename_i bytes _
    refine Action.FailsOnly.bind (failsOnly_allocate bytes) ?_ machine error herror
    intro id
    exact (Action.failsOnly_modify _).bind fun _ => Action.failsOnly_pure id

theorem failsOnly_pushOperand (ref : Ref) :
    Action.FailsOnly RuntimeError.IsShortage (pushOperand ref) := by
  intro machine error herror
  rw [run_pushOperand] at herror
  rcases hpush : machine.heap.roots.shadow.push (.operand ref) with reason | shadow
  · rw [hpush] at herror
    obtain ⟨rfl, -⟩ := ShadowStack.push_eq_error_iff.1 hpush
    cases herror
    exact .slots
  · rw [hpush] at herror
    cases herror

theorem failsOnly_fill {makeInner : Action ObjectId}
    (hmake : Action.FailsOnly RuntimeError.IsShortage makeInner) (outer : ObjectId)
    (table : DispatchTable) (count index : Nat) :
    Action.FailsOnly RuntimeError.IsShortage (fill outer table makeInner count index) := by
  induction count generalizing index with
  | zero => exact Action.failsOnly_pure ()
  | succ count ih =>
    rw [fill]
    apply hmake.bind
    intro inner
    exact (Action.failsOnly_modify _).bind fun _ => ih (index + 1)

/-- The frame of a construction can always be closed, so no error comes from there. -/
theorem failsOnly_inFrame {β : Type} {sort : RuntimeError → Prop} {action : Action β}
    (haction : Action.FailsOnly sort action)
    (habove : ∀ machine : Machine, machine.heap.roots.Above (action.run machine).2.heap.roots) :
    Action.FailsOnly sort (inFrame action) := by
  intro machine error herror
  rw [run_inFrame, openFrame, Heap.openFrame, run_closeFrame_of_above (habove machine)] at herror
  exact haction machine error herror

theorem failsOnly_allocateLevels (level : ArrayLevel) (levels : List ArrayLevel) :
    Action.FailsOnly RuntimeError.IsShortage (allocateLevels level levels) := by
  induction levels generalizing level with
  | nil => exact failsOnly_allocateFlat level
  | cons inner levels ih =>
    rw [allocateLevels_cons]
    apply failsOnly_inFrame
    · rw [nested]
      apply (failsOnly_allocateFlat level).bind
      intro array
      apply (failsOnly_pushOperand (some array)).bind
      intro _
      apply (failsOnly_fill (ih inner) array inner.table level.length 0).bind
      exact fun _ => Action.failsOnly_pure array
    · intro machine
      apply (survivesFilling_above machine.heap.roots).preserves_nested
      · exact above_allocateFlat machine.heap.roots level
      · exact above_allocateLevels machine.heap.roots inner levels
      · exact .refl _

/-! ### Arguments -/

/-- Arguments with which an array can be asked for. -/
structure ValidRequest (kind : Kind) (element : Option ClassId) (dimensions : List Int) :
    Prop where
  nonempty : dimensions ≠ []
  nonneg : ∀ length ∈ dimensions, 0 ≤ length
  element : kind = .reference → element.isSome

/-- Every primitive kind has its array class, which no step takes away. -/
theorem ReachedByPermitted.isSome_primitiveArray? (h : machine.ReachedByPermitted)
    (kind : Primitive) :
    (machine.table.primitiveArray? kind).isSome := by
  induction h with
  | new _ _ hnew =>
    obtain rfl := eq_ofHeap_of_new hnew
    exact ClassTable.isSome_primitiveArray?_new ..
  | build _ hbuild ih =>
    obtain ⟨classes, -, rfl⟩ := exists_of_build hbuild
    exact ih
  | register id _ ih => exact ih
  | @step machine step _ _ ih =>
    obtain ⟨-, htable⟩ := machine.sameClasses_step step
    rw [htable, eq_withClasses_prepared]
    exact ih

theorem find?_nonneg (h : ∀ length ∈ dimensions, 0 ≤ length) :
    dimensions.find? (· < 0) = none := by
  rw [List.find?_eq_none]
  intro length hlength
  simpa using h length hlength

theorem exists_lengths (h : dimensions ≠ []) :
    ∃ length lengths, (dimensions.map (·.toNat)).reverse = length :: lengths := by
  apply List.exists_cons_of_ne_nil
  rwa [Ne, List.reverse_eq_nil_iff, List.map_eq_nil_iff]

theorem planArray_of_find? {length : Int} (hnonempty : dimensions ≠ [])
    (hfound : dimensions.find? (· < 0) = some length) :
    machine.planArray kind element dimensions = .error (.negativeDimension length) := by
  obtain ⟨count, counts, hcounts⟩ := exists_lengths hnonempty
  rw [planArray, hfound, hcounts]

/-- Of several negative lengths the first one is reported. -/
theorem planArray_negative (machine : Machine) (kind : Kind) (element : Option ClassId)
    {front back : List Int} {length : Int} (hfront : ∀ each ∈ front, 0 ≤ each)
    (hlength : length < 0) :
    machine.planArray kind element (front ++ length :: back) =
      .error (.negativeDimension length) := by
  apply planArray_of_find?
  · exact List.append_ne_nil_of_right_ne_nil _ (List.cons_ne_nil _ _)
  · rw [List.find?_append, find?_nonneg hfront, Option.none_or, List.find?_cons_of_pos]
    simpa using hlength

/-- After the lengths the element class is looked at. -/
theorem planArray_of_nonneg (machine : Machine) (kind : Kind) (element : Option ClassId)
    (hnonempty : dimensions ≠ []) (hnonneg : ∀ length ∈ dimensions, 0 ≤ length) :
    (∃ error, machine.innermostClass kind element = .error error ∧
        machine.planArray kind element dimensions = .error error) ∨
      ∃ innermost outermost inner planned, machine.innermostClass kind element = .ok innermost ∧
        machine.planArray kind element dimensions = .ok ((outermost, inner), planned) := by
  obtain ⟨count, counts, hcounts⟩ := exists_lengths hnonempty
  rw [planArray, find?_nonneg hnonneg, hcounts]
  rcases machine.innermostClass kind element with error | ⟨innermost, prepared⟩
  · exact .inl ⟨error, rfl, rfl⟩
  · exact .inr ⟨_, _, _, _, rfl, rfl⟩

theorem planArray_missing (machine : Machine) (hnonempty : dimensions ≠ [])
    (hnonneg : ∀ length ∈ dimensions, 0 ≤ length) :
    machine.planArray .reference none dimensions = .error .missingElementClass := by
  obtain ⟨error, herror, hplan⟩ | ⟨_, _, _, _, hclass, -⟩ :=
    machine.planArray_of_nonneg .reference none hnonempty hnonneg
  · cases herror
    exact hplan
  · cases hclass

theorem planArray_of_valid (h : ValidRequest kind element dimensions)
    (harrays : ∀ kind, (machine.table.primitiveArray? kind).isSome) :
    ∃ outermost inner planned,
      machine.planArray kind element dimensions = .ok ((outermost, inner), planned) := by
  obtain ⟨error, herror, -⟩ | ⟨-, outermost, inner, planned, -, hplan⟩ :=
    machine.planArray_of_nonneg kind element h.nonempty h.nonneg
  · cases kind with
    | primitive kind =>
      obtain ⟨array, harray⟩ := Option.isSome_iff_exists.1 (harrays kind)
      rw [innermostClass, harray] at herror
      cases herror
    | reference =>
      obtain ⟨element, rfl⟩ := Option.isSome_iff_exists.1 (h.element rfl)
      cases herror
  · exact ⟨outermost, inner, planned, hplan⟩

/-- A plan is made for arguments that are valid, and for no others. -/
theorem validRequest_of_planArray {outermost : ArrayLevel} {inner : List ArrayLevel}
    (h : machine.planArray kind element dimensions = .ok ((outermost, inner), planned)) :
    ValidRequest kind element dimensions := by
  obtain ⟨length, lengths, innermost, prepared, hnone, hlengths, hinnermost, -⟩ :=
    exists_of_planArray h
  constructor
  · rintro rfl
    cases hlengths
  · intro each heach
    simpa using List.find?_eq_none.1 hnone each heach
  · rintro rfl
    cases element with
    | none => cases hinnermost
    | some element => rfl

/-! ### What is left of a failed construction -/

/-- A later machine has the roots of an earlier one and what was in use there, and once it is
    collected it has nothing else. -/
structure Restored (before after : Machine) : Prop where
  shadow_eq : after.heap.roots.shadow = before.heap.roots.shadow
  statics_eq : after.heap.roots.statics = before.heap.roots.statics
  cells_eq : after.heap.cells = before.heap.cells
  kept : ∀ id, before.heap.InUse before.classes.objectModel id →
    id ∈ after.heap.order ∧ after.heap.get? id = before.heap.get? id
  mem_collected_iff : ∀ id, id ∈ after.collect.2.heap.order ↔
    before.heap.InUse before.classes.objectModel id
  collected : ∀ id, before.heap.InUse before.classes.objectModel id →
    after.collect.2.heap.get? id = before.heap.get? id

/-- With the same roots and what was in use kept, nothing else survives the next collection. -/
theorem restored_of_keeps (hafter : after.heap.Consistent)
    (hclosed : before.heap.Closed before.classes.objectModel)
    (hroots : after.heap.roots = before.heap.roots) (hcells : after.heap.cells = before.heap.cells)
    (hkeeps : before.heap.Keeps before.classes.objectModel after.heap)
    (hsame : ∀ id object, before.heap.get? id = some object →
      after.classes.objectModel.refs object.data = before.classes.objectModel.refs object.data) :
    before.Restored after := by
  have hinUse : ∀ id, after.heap.InUse after.classes.objectModel id ↔
      before.heap.InUse before.classes.objectModel id := by
    intro id
    have hreaches : after.heap.InUse after.classes.objectModel id ↔
        before.heap.Reaches after.classes.objectModel before.heap.rootRefs id := by
      have hkept := hkeeps.congr_model hsame
      rw [Heap.InUse, Heap.rootRefs, hroots, hcells]
      exact Heap.reaches_congr hkept.get?_eq
    exact hreaches.trans (Heap.reaches_congr_model hsame)
  have hlive : ∀ id, before.heap.InUse before.classes.objectModel id →
      (after.heap.get? id).isSome := by
    intro id hid
    rw [hkeeps.get?_eq id hid]
    exact hclosed.isSome_of_inUse hid
  constructor
  · exact congrArg Roots.shadow hroots
  · exact congrArg Roots.statics hroots
  · exact hcells
  · intro id hid
    exact ⟨(hafter.mem_order_iff id).2 (hlive id hid), hkeeps.get?_eq id hid⟩
  · intro id
    have hmem : id ∈ after.collect.2.heap.order ↔
        id ∈ after.heap.survivors after.classes.objectModel :=
      Heap.mem_order_collect_iff hafter
    rw [hmem, Heap.mem_survivors_iff hafter, hinUse]
    exact and_iff_left_of_imp (hlive id)
  · intro id hid
    have hget : after.collect.2.heap.get? id = after.heap.get? id :=
      Heap.get?_collect_of_inUse hafter ((hinUse id).2 hid)
    rw [hget, hkeeps.get?_eq id hid]

/-- New classes disturb nothing, and an object that nothing refers to goes with the next
    collection. -/
theorem Makes.restored {classes : Hierarchy} {result : Except RuntimeError ObjectId}
    (h : (before.withClasses classes).Makes result after) (hbefore : before.Sound)
    (hgrown : before.classes.Extends classes) : before.Restored after := by
  have hsame := hbefore.refs_eq hgrown
  apply restored_of_keeps h.sound.consistent hbefore.closed h.roots_eq h.cells_eq
  · exact Heap.Keeps.congr_model h.keeps fun id object hget => (hsame id object hget).symm
  · rw [h.classes_eq]
    exact hsame

/-- How the construction of an array fails: which error there is, and what it leaves. -/
structure FailsCleanly (before : Machine) (kind : Kind) (element : Option ClassId)
    (dimensions : List Int) (answer : Except RuntimeError ObjectId) (after : Machine) : Prop where
  noDimensions : dimensions = [] → answer = .error .noDimensions
  /-- The first negative length is reported. -/
  negative : ∀ front length back, dimensions = front ++ length :: back →
    (∀ each ∈ front, 0 ≤ each) → length < 0 → answer = .error (.negativeDimension length)
  missing : dimensions ≠ [] → (∀ length ∈ dimensions, 0 ≤ length) → kind = .reference →
    element = none → answer = .error .missingElementClass
  /-- Bad arguments change nothing, and no class is made for them. -/
  invalid : ¬ValidRequest kind element dimensions → after = before
  shortage : ValidRequest kind element dimensions → ∀ error, answer = .error error →
    error.IsShortage
  restored : ∀ error, answer = .error error → before.Restored after

/-- In every machine that comes about, the construction of an array that fails leaves what it
    found, wherever in the tree it failed. -/
theorem newArray_fails_cleanly (h : machine.ReachedByPermitted)
    (hclosed : machine.heap.Closed machine.classes.objectModel) (kind : Kind)
    (element : Option ClassId) (dimensions : List Int) :
    machine.FailsCleanly kind element dimensions ((newArray kind element dimensions).run machine).1
      ((newArray kind element dimensions).run machine).2 := by
  have hsound := h.sound hclosed
  constructor
  · rintro rfl
    rfl
  · rintro front length back rfl hfront hlength
    rw [run_newArray, planArray_negative machine kind element hfront hlength]
  · rintro hnonempty hnonneg rfl rfl
    rw [run_newArray, planArray_missing machine hnonempty hnonneg]
  · intro hinvalid
    rw [run_newArray]
    rcases hplan : machine.planArray kind element dimensions with
      error | ⟨⟨outermost, inner⟩, planned⟩
    · rfl
    · exact absurd (validRequest_of_planArray hplan) hinvalid
  · intro hvalid error herror
    obtain ⟨outermost, inner, planned, hplan⟩ :=
      planArray_of_valid hvalid h.isSome_primitiveArray?
    rw [run_newArray, hplan] at herror
    exact failsOnly_allocateLevels outermost inner planned error herror
  · intro error _
    obtain ⟨classes, -, hgrown, hmakes⟩ := hsound.newArray kind element dimensions
    exact hmakes.restored hsound hgrown

/-- There is room for the outer array and one of the three inner ones, and nothing of them is left
    after the next collection. -/
theorem newArray_fails_cleanly_of_pairs :
    let ran := (newArray .reference (some 3) [3, 6]).run pairsHeld
    (pairsHeld.ReachedByPermitted ∧ pairsHeld.heap.Closed pairsHeld.classes.objectModel ∧
      ran.1 = .error (.allocation (.outOfHeap 136 352 400)) ∧ ran.2.heap.order = [2, 0, 1, 3] ∧
      ran.2.collect.2.heap.order = [1, 0]) ∧
      pairsHeld.FailsCleanly .reference (some 3) [3, 6] ran.1 ran.2 := by
  intro ran
  have herror : ran.1 = .error (.allocation (.outOfHeap 136 352 400)) := by decide +kernel
  have horder : ran.2.heap.order = [2, 0, 1, 3] := by decide +kernel
  have hcollected : ran.2.collect.2.heap.order = [1, 0] := by decide +kernel
  exact ⟨⟨pairsHeld_reachedByPermitted, pairsHeld_closed, herror, horder, hcollected⟩,
    newArray_fails_cleanly pairsHeld_reachedByPermitted pairsHeld_closed .reference (some 3) [3, 6]⟩

end Machine

end ManagedRuntime
