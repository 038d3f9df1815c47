/-
  What an array construction yields
  =================================
  A construction of several dimensions that succeeds yields the tree that was asked for
  (`Machine.BuildsTree`), in every machine that comes about, as long as nothing dangles in it.
  It makes no difference how tight the heap is and how often it was collected meanwhile.
-/
import Mathlib.Algebra.BigOperators.Ring.Finset
import ManagedRuntime.Proofs.Machine.NestedArrays
import ManagedRuntime.Proofs.Machine.Sessions
import ManagedRuntime.Proofs.Machine.Visibility

namespace ManagedRuntime

namespace Machine

variable {machine planned after : Machine} {kind : Kind} {element : Option ClassId}
variable {dimensions : List Int} {root : ObjectId} {outermost : ArrayLevel}
variable {inner levels : List ArrayLevel}

/-! ### Machines in which nothing dangles -/

theorem ReachedByPermitted.arrays_lt (h : machine.ReachedByPermitted) :
    ∀ id ∈ machine.table.primitiveArrays, id < machine.classes.size := by
  induction h with
  | new hclasses hcore hnew => exact (sound_new hclasses hcore hnew).arrays_lt
  | build hmachine hbuild ih =>
    obtain ⟨classes, hresult, rfl⟩ := exists_of_build hbuild
    have hgrown := (hmachine.inShape.made.wellFormed.build hresult).grown
    intro array harray
    exact Nat.lt_of_lt_of_le (ih array harray) hgrown.size_le
  | register id _ ih => exact ih
  | @step machine step _ _ ih =>
    obtain ⟨hclasses, htable⟩ := machine.sameClasses_step step
    rw [hclasses, htable, eq_withClasses_prepared]
    intro array harray
    exact Nat.lt_of_lt_of_le (ih array harray) (machine.extends_prepared step).size_le

/-- A machine that came about is sound once nothing dangles in it. -/
theorem ReachedByPermitted.sound (h : machine.ReachedByPermitted)
    (hclosed : machine.heap.Closed machine.classes.objectModel) : machine.Sound where
  wellFormed := h.inShape.made.wellFormed
  rootClass_lt := h.inShape.rootClass_lt
  arrays_lt := h.arrays_lt
  consistent := h.inShape.consistent
  closed := hclosed
  formed id object hget := (h.inShape.shaped id object hget).formed

/-! ### The tree that was asked for -/

/-- What a construction makes of a machine: a complete tree of new arrays below `root`, and nothing
    else that can be told from outside. -/
structure BuildsTree (before : Machine) (kind : Kind) (element : Option ClassId)
    (dimensions : List Int) (root : ObjectId) (after : Machine) : Prop where
  nonempty : dimensions ≠ []
  /-- The class of an array follows from the class of the innermost ones, and that is the primitive
      array class of the kind or the class of arrays of the element class. -/
  classes : ∃ innermost, after.innermost? kind element = some innermost ∧
    ∀ depth < dimensions.length, ∀ id ∈ after.row depth root, after.classId? (some id) =
      after.classes.nestedArray? innermost (dimensions.length - 1 - depth)
  lengths : ∀ depth (hdepth : depth < dimensions.length), ∀ id ∈ after.row depth root,
    after.arrayLength? (some id) = some dimensions[depth]
  rows : ∀ depth < dimensions.length,
    ((after.row depth root).length : Int) = (dimensions.take depth).prod
  distinct : ((List.range dimensions.length).flatMap (after.row · root)).Nodup
  fresh : ∀ depth < dimensions.length, ∀ id ∈ after.row depth root,
    before.heap.get? id = none ∧ id ∈ after.heap.order
  /-- An element of an outer array refers to an array of the next row, with its dispatch table. -/
  slots : ∀ depth (hdepth : depth + 1 < dimensions.length), ∀ outer ∈ after.row depth root,
    ∀ index : Nat, (index : Int) < dimensions[depth] → ∃ below ∈ after.row (depth + 1) root,
      after.element? (some outer) .reference index = some (after.referenceTo (some below)) ∧
      (after.dispatchTable? (some below)).isSome
  slots_apart : ∀ depth, depth + 1 < dimensions.length → ∀ outer ∈ after.row depth root,
    ∀ other ∈ after.row depth root, ∀ (index index' : Nat) (slot slot' : ReferenceSlot),
      after.element? (some outer) .reference index = some slot →
      after.element? (some other) .reference index' = some slot' →
      slot.object = slot'.object → outer = other ∧ index = index'
  zeroed : ∀ length, dimensions.getLast? = some length →
    ∀ id ∈ after.row (dimensions.length - 1) root, ∀ index : Nat, (index : Int) < length →
      after.element? (some id) kind index = some kind.zero
  roots_eq : after.heap.roots = before.heap.roots
  cells_eq : after.heap.cells = before.heap.cells
  kept : ∀ id, before.heap.InUse before.classes.objectModel id →
    after.heap.get? id = before.heap.get? id

theorem Plans.buildable (h : machine.Plans kind element dimensions levels planned)
    (hsuits : ∀ each ∈ levels, each.Suits planned.classes)
    (hdimensions : ∀ length ∈ dimensions, length < lengthLimit) :
    Buildable planned.classes levels where
  suits := hsuits
  short each heach := by
    have hmem : (each.length : Int) ∈ dimensions := by
      rw [← h.lengths_eq]
      exact List.mem_map_of_mem heach
    exact Int.ofNat_lt.1 (hdimensions _ hmem)
  nested := h.nested.imp fun _ _ hpair => hpair.1

theorem Tree.fresh {low high : Nat} (h : after.Tree levels low high root) (hafter : after.Sound)
    (hlow : machine.heap.store.issued ≤ low) {depth : Nat} (hdepth : depth < levels.length)
    {id : ObjectId} (hid : id ∈ after.row depth root) :
    machine.heap.get? id = none ∧ id ∈ after.heap.order := by
  constructor
  · apply Store.get?_of_issued_le
    exact Nat.le_trans hlow (h.within_of_mem_row hdepth hid).1
  · obtain ⟨storage, hdata, -⟩ := (h.holdsArray_of_mem_row hdepth hid).exists_storage
    obtain ⟨object, hget, -⟩ := exists_of_data? hdata
    rw [hafter.consistent.mem_order_iff]
    exact Option.isSome_of_eq_some hget

/-- The slots of a tree are current: each has the table of the array in it. -/
theorem Tree.referenceTo_of_mem_row {low high : Nat} (h : after.Tree levels low high root)
    (hlayers : after.Layers levels) {depth : Nat} (hlevel : depth < levels.length)
    (hdepth : depth + 1 < levels.length) {outer : ObjectId} (houter : outer ∈ after.row depth root)
    {index : Nat} (hindex : index < levels[depth].length) :
    ∃ below ∈ after.row (depth + 1) root,
      after.element? (some outer) .reference index = some (after.referenceTo (some below)) ∧
      (after.dispatchTable? (some below)).isSome := by
  obtain ⟨below, hbelow, hslot⟩ := h.slot_of_mem_row hdepth houter hindex
  have htable := hlayers.dispatchTable?_eq (List.getElem_mem hdepth)
    (h.holdsArray_of_mem_row hdepth hbelow).classId?_eq
  refine ⟨below, hbelow, ?_, Option.isSome_of_eq_some htable⟩
  rw [hslot, referenceTo, htable]

theorem Plans.keeps (h : machine.Plans kind element dimensions levels planned)
    (hmachine : machine.Sound) {result : Except RuntimeError ObjectId}
    (hmakes : planned.Makes result after) :
    machine.heap.Keeps machine.classes.objectModel after.heap := by
  have hkeeps := hmakes.keeps
  rw [h.eq_withClasses] at hkeeps
  exact Heap.Keeps.congr_model hkeeps fun id object hget =>
    (hmachine.refs_eq h.grown id object hget).symm

theorem Plans.buildsTree (h : machine.Plans kind element dimensions levels planned)
    (hmachine : machine.Sound) (hmakes : planned.Makes (.ok root) after)
    (htree : after.Tree levels planned.heap.store.issued after.heap.store.issued root) :
    machine.BuildsTree kind element dimensions root after := by
  have hkeeps := h.keeps hmachine hmakes
  have hheap : planned.heap = machine.heap := by
    rw [h.eq_withClasses]
    rfl
  have hextends : planned.classes.Extends after.classes := by
    rw [hmakes.classes_eq]
    exact .refl _
  have hlayers : after.Layers levels := h.toLayers.extend hextends
  obtain ⟨last, hlast⟩ : ∃ last, levels.getLast? = some last := by
    rw [← Option.isSome_iff_exists, List.getLast?_isSome]
    rintro rfl
    exact htree
  obtain ⟨rfl, hinnermost⟩ := h.innermost last hlast
  obtain rfl := h.lengths_eq
  have hlength : (levels.map fun level => (level.length : Int)).length = levels.length :=
    List.length_map _
  constructor
  · intro hnil
    rw [List.map_eq_nil_iff.1 hnil] at htree
    exact htree
  · refine ⟨last.classId, innermost?_extend hmakes.table_eq hextends hinnermost, ?_⟩
    intro depth hdepth id hid
    rw [hlength] at hdepth ⊢
    rw [hlayers.nestedArray?_eq hlast hdepth]
    exact (htree.holdsArray_of_mem_row hdepth hid).classId?_eq
  · intro depth hdepth id hid
    rw [List.getElem_map]
    rw [hlength] at hdepth
    exact (htree.holdsArray_of_mem_row hdepth hid).arrayLength?_eq
  · intro depth hdepth
    rw [hlength] at hdepth
    rw [htree.length_row hdepth, Nat.cast_list_prod, List.map_map, ← List.map_take]
    rfl
  · rw [hlength]
    exact htree.nodup_rows
  · intro depth hdepth id hid
    rw [hlength] at hdepth
    apply htree.fresh hmakes.sound _ hdepth hid
    rw [hheap]
  · intro depth hdepth outer houter index hindex
    rw [List.getElem_map] at hindex
    rw [hlength] at hdepth
    exact htree.referenceTo_of_mem_row hlayers _ hdepth houter (Int.ofNat_lt.1 hindex)
  · intro depth hdepth outer houter other hother index index' slot slot' hslot hslot' hsame
    rw [hlength] at hdepth
    exact htree.slot_unique hdepth houter hother hslot hslot' hsame
  · intro length hlengthLast id hid index hindex
    rw [hlength] at hid
    rw [List.getLast?_map, hlast, Option.map_some] at hlengthLast
    cases hlengthLast
    exact htree.zeroed hlast hid (Int.ofNat_lt.1 hindex)
  · rw [hmakes.roots_eq, hheap]
  · rw [hmakes.cells_eq, hheap]
  · exact hkeeps.get?_eq

/-- Whatever there was before and however often it was collected meanwhile, a construction that
    succeeds yields the complete tree of arrays of the given dimensions. -/
theorem newArray_builds_tree (h : machine.ReachedByPermitted)
    (hclosed : machine.heap.Closed machine.classes.objectModel)
    (hdimensions : ∀ length ∈ dimensions, length < lengthLimit)
    (hrun : (newArray kind element dimensions).run machine = (.ok root, after)) :
    machine.BuildsTree kind element dimensions root after := by
  have hsound := h.sound hclosed
  rw [run_newArray] at hrun
  rcases hplan : machine.planArray kind element dimensions with
    error | ⟨⟨outermost, inner⟩, planned⟩
  · rw [hplan] at hrun
    cases hrun
  rw [hplan] at hrun
  have hplans := plans_of_planArray h.arrays_lt hplan
  obtain ⟨hinShape, hsuits⟩ := h.inShape.planArray hplan
  have hplanned : planned.Sound := by
    rw [hplans.eq_withClasses]
    exact hsound.grow hinShape.made.wellFormed hplans.grown
  obtain ⟨hmakes, -, htree⟩ := makesTree_allocateLevels (hplans.buildable hsuits hdimensions)
    planned after root ⟨hplanned, hinShape, rfl⟩ hrun
  exact hplans.buildsTree hsound hmakes htree

/-- Two pairs, one in a variable and one referred to by it. -/
def pairsHeld : Machine :=
  (pairMachine.run (pairRun.take 6)).2

def pairsTree : Machine :=
  ((newArray .reference (some 3) [2, 2]).run pairsHeld).2

theorem pairRun_take_permitted : pairMachine.Permitted (pairRun.take 6) := by
  obtain ⟨hfirst, hpush, hsecond, hset, hregister, hwrite, -⟩ := pairRun_permitted
  exact ⟨hfirst, hpush, hsecond, hset, hregister, hwrite, trivial⟩

theorem pairsHeld_reachedByPermitted : pairsHeld.ReachedByPermitted :=
  (ReachedByPermitted.new pairClasses_made pairCore_lt_size pairMachine_new).run
    pairRun_take_permitted

theorem pairsHeld_closed : pairsHeld.heap.Closed pairsHeld.classes.objectModel :=
  ((sound_new pairClasses_made pairCore_lt_size pairMachine_new).run pairRun_take_permitted).closed

theorem run_pairsTree :
    (newArray .reference (some 3) [2, 2]).run pairsHeld = (.ok 2, pairsTree) :=
  Prod.ext (by decide +kernel) rfl

/-- The heap is collected twice while the two inner arrays are made, and nothing is lost. -/
theorem newArray_builds_tree_of_pairs :
    (pairsHeld.ReachedByPermitted ∧ pairsHeld.heap.Closed pairsHeld.classes.objectModel ∧
      (∀ length ∈ [(2 : Int), 2], length < lengthLimit) ∧
      (newArray .reference (some 3) [2, 2]).run pairsHeld = (.ok 2, pairsTree) ∧
      pairsTree.heap.collections = pairsHeld.heap.collections + 2 ∧ pairsTree.row 1 2 = [3, 4]) ∧
      pairsHeld.BuildsTree .reference (some 3) [2, 2] 2 pairsTree := by
  have hpermitted : pairsHeld.ReachedByPermitted :=
    (ReachedByPermitted.new pairClasses_made pairCore_lt_size pairMachine_new).run
      pairRun_take_permitted
  have hdimensions : ∀ length ∈ [(2 : Int), 2], length < lengthLimit := by decide
  exact ⟨⟨hpermitted, pairsHeld_closed, hdimensions, run_pairsTree, by decide +kernel,
    by decide +kernel⟩,
    newArray_builds_tree hpermitted pairsHeld_closed hdimensions run_pairsTree⟩

end Machine

end ManagedRuntime
