/-
  Nested arrays
  =============
  What comes of the construction of an array of several dimensions (`Machine.BuildsTree`): a
  complete tree of new arrays.  A collection may happen before each array of the tree.  At any such
  moment the open arrays of the outer levels are roots, and the branches that are finished hang on
  them (`Machine.Growing`), so nothing of the tree is lost.
-/
import ManagedRuntime.Proofs.Machine.Shape
import ManagedRuntime.Proofs.Machine.Trees

namespace ManagedRuntime

theorem ArrayLevel.Suits.lt_size {level : ArrayLevel} {classes : Hierarchy}
    (h : level.Suits classes) : level.classId < classes.size := by
  obtain ⟨type, hshape, -⟩ := h
  exact Machine.lt_size_of_shape? hshape

namespace Machine

variable {machine base before mid made after left : Machine} {id outer inner : ObjectId}
variable {level next : ArrayLevel} {levels : List ArrayLevel} {classes : Hierarchy}
variable {roots : Roots} {index count : Nat} {table : DispatchTable}

/-! ### Arrays of one level -/

theorem holdsArray_of_data? {storage : Storage} (hdata : machine.heap.data? id = some storage)
    (hclass : storage.classId? = some level.classId)
    (harray : machine.classes.isArray level.classId) (hlength : storage.length = level.length) :
    machine.HoldsArray level id := by
  have hid := (classId?_eq hdata).trans hclass
  refine ⟨hid, ?_⟩
  rw [arrayLength?, isArray, hid, Option.any_some, if_pos harray, storage?, Option.bind_some, hdata,
    Option.map_some, hlength]

theorem HoldsArray.exists_storage (h : machine.HoldsArray level id) :
    ∃ storage, machine.heap.data? id = some storage ∧ storage.classId? = some level.classId ∧
      machine.classes.isArray level.classId ∧ storage.length = level.length := by
  obtain ⟨storage, hstorage, hclass⟩ := Option.bind_eq_some_iff.1 h.classId?_eq
  have hlength := h.arrayLength?_eq
  rw [arrayLength?, isArray, h.classId?_eq, Option.any_some, hstorage] at hlength
  split at hlength
  · rename_i harray
    exact ⟨storage, hstorage, hclass, harray, Option.some.inj hlength⟩
  · cases hlength

theorem data?_allocateFlat (h : machine.Sound)
    (hrun : (allocateFlat level).run machine = (.ok id, after)) :
    ∃ size, classWordSize ≤ size ∧
      after.heap.data? id = some (.newArray size level.classId level.length) := by
  rw [run_allocateFlat] at hrun
  split at hrun
  · cases hrun
  rename_i bytes hbytes
  have hword : classWordSize ≤ bytes := by
    rw [bytes?_eq hbytes]
    exact Nat.le_trans level.kind.classWordSize_le_elementsOffset (Nat.le_add_left ..)
  exact ⟨_, Nat.le_trans hword (le_dataSize bytes), data?_allocateAs h.consistent hrun⟩

/-- Levels of which arrays can be made, outermost first. -/
structure Buildable (classes : Hierarchy) (levels : List ArrayLevel) : Prop where
  suits : ∀ each ∈ levels, each.Suits classes
  short : ∀ each ∈ levels, each.length < lengthLimit
  nested : levels.IsChain fun outer _ => outer.kind = .reference

theorem Buildable.lt_size (h : Buildable classes levels) (hclasses : machine.classes = classes) :
    ∀ each ∈ levels, each.classId < machine.classes.size := by
  intro each heach
  rw [hclasses]
  exact (h.suits each heach).lt_size

theorem Buildable.tail (h : Buildable classes (level :: levels)) : Buildable classes levels where
  suits each heach := h.suits each (.tail _ heach)
  short each heach := h.short each (.tail _ heach)
  nested := h.nested.tail

/-- A machine that is in order, with certain classes. -/
structure Steady (classes : Hierarchy) (machine : Machine) : Prop where
  sound : machine.Sound
  shaped : machine.ShapedOver classes

theorem Steady.allocateFlat (h : machine.Steady classes) (hsuits : level.Suits classes)
    (hrun : (Machine.allocateFlat level).run machine = (.ok id, after)) :
    machine.Makes (.ok id) after ∧ after.ShapedOver classes := by
  have hlevel : level.classId < machine.classes.size := by
    rw [h.shaped.classes_eq]
    exact hsuits.lt_size
  have hmakes := h.sound.allocateFlat hlevel
  have hshaped := shapedOver_allocateFlat hsuits machine h.shaped
  rw [hrun] at hmakes hshaped
  exact ⟨hmakes, hshaped⟩

/-- A new array of one level. -/
theorem Steady.zeroed (h : machine.Steady classes) (hsuits : level.Suits classes)
    (hshort : level.length < lengthLimit)
    (hrun : (Machine.allocateFlat level).run machine = (.ok id, after)) :
    after.HoldsArray level id ∧ ∀ index : Nat, index < level.length →
      after.element? (some id) level.kind index = some level.kind.zero := by
  obtain ⟨size, hword, hdata⟩ := data?_allocateFlat h.sound hrun
  have hclasses : after.classes = classes := (h.allocateFlat hsuits hrun).2.classes_eq
  obtain ⟨type, hshape, hkind⟩ := hsuits
  obtain ⟨cls, hget, hcls⟩ := Option.map_eq_some_iff.1 hshape
  constructor
  · apply holdsArray_of_data? hdata (Storage.classId?_newArray hword ..)
    · rw [hclasses]
      exact Hierarchy.isArray_of_shape hget hcls
    · exact Storage.length_newArray hshort ..
  · intro index hindex
    rw [element?_eq hdata, hclasses, ← hkind]
    exact Storage.element?_newArray hword hshort hget hcls hindex

/-! ### What is kept -/

/-- Whatever is in use is kept, and so is all that its elements refer to. -/
theorem Advances.carries (h : before.Advances after) :
    Carries (before.heap.InUse before.classes.objectModel) 0 before after where
  classes_eq := h.classes_eq
  data?_eq id _ hid := by
    rw [Heap.data?, h.keeps.get?_eq id hid, Heap.data?]
  element id index slot inner hid hslot hinner := by
    obtain ⟨storage, hstorage, helement⟩ := Option.bind_eq_some_iff.1 hslot
    obtain ⟨object, hget, rfl⟩ := exists_of_data? hstorage
    have hmem := Storage.object_mem_refs_of_element? helement
    rw [hinner] at hmem
    have hedge : some inner ∈ before.heap.edges before.classes.objectModel id := by
      rw [Heap.edges_of_get? hget]
      exact hmem
    exact .edge hid hedge

/-- A store to an array is not seen in arrays with later names. -/
theorem carries_storeInner (machine : Machine) (outer : ObjectId) (index : Nat)
    (table : DispatchTable) (inner : ObjectId) :
    Carries (fun _ => True) (outer + 1) machine (machine.storeInner outer index table inner) := by
  unfold storeInner
  split
  · refine ⟨rfl, ?_, fun _ _ _ _ _ _ _ => trivial⟩
    intro id hid _
    exact data?_updateStorage_of_ne (Nat.ne_of_gt hid) _
  · exact ⟨rfl, fun _ _ _ => rfl, fun _ _ _ _ _ _ _ => trivial⟩

theorem carries_withRoots (machine : Machine) (roots : Roots) :
    Carries (fun _ => True) 0 machine (machine.withRoots roots) :=
  ⟨rfl, fun _ _ _ => rfl, fun _ _ _ _ _ _ _ => trivial⟩

/-! ### Storing an inner array -/

theorem HoldsArray.exists_place (h : machine.HoldsArray level outer)
    (hsuits : level.Suits machine.classes) (hkind : level.kind = .reference)
    (hindex : index < level.length) :
    ∃ storage offset, machine.heap.data? outer = some storage ∧
      storage.elementOffset? machine.classes .reference index = some offset ∧
      machine.storeInner outer index table inner = machine.updateStorage outer fun storage =>
        storage.write .reference offset { table := some table, object := some inner } := by
  obtain ⟨storage, hdata, hclass, -, hlength⟩ := h.exists_storage
  obtain ⟨type, hshape, htype⟩ := hsuits
  obtain ⟨cls, hget, hcls⟩ := Option.map_eq_some_iff.1 hshape
  have hlt : (index : Int) < storage.length := by
    rw [hlength]
    exact Int.ofNat_lt.2 hindex
  have hoffset := Storage.elementOffset?_of_array hclass hget hcls hlt
  rw [htype, hkind] at hoffset
  refine ⟨storage, _, hdata, hoffset, ?_⟩
  rw [Machine.storeInner, elementOffset?_eq hdata, hoffset]

/-- What the elements of an array are after one of them was stored. -/
theorem HoldsArray.storeInner (h : machine.HoldsArray level outer)
    (hsuits : level.Suits machine.classes) (hkind : level.kind = .reference)
    (hindex : index < level.length) (table : DispatchTable) (inner : ObjectId) :
    (machine.storeInner outer index table inner).HoldsArray level outer ∧
      (machine.storeInner outer index table inner).element? (some outer) .reference index =
        some { table := some table, object := some inner } ∧
      ∀ other : Nat, other ≠ index →
        (machine.storeInner outer index table inner).element? (some outer) .reference other =
          machine.element? (some outer) .reference other := by
  obtain ⟨storage, offset, hdata, hoffset, hstore⟩ := h.exists_place hsuits hkind hindex
  obtain ⟨found, hfound, hclass, harray, hlength⟩ := h.exists_storage
  obtain rfl : storage = found := Option.some.inj (hdata.symm.trans hfound)
  have hplace := Storage.isPlace_of_elementOffset? hoffset
  have hheader := hplace.header_le level.classId hclass harray
  rw [hstore]
  have hwritten := data?_updateStorage hdata fun storage =>
    storage.write .reference offset { table := some table, object := some inner }
  refine ⟨?_, ?_, ?_⟩
  · apply holdsArray_of_data? hwritten
    · exact (Storage.classId?_write hplace.le_offset _).trans hclass
    · exact harray
    · exact (Storage.length_write hheader _).trans hlength
  · rw [element?_eq hwritten]
    exact Storage.element?_write hoffset _
  · intro other hne
    rw [element?_eq hwritten, element?_eq hdata]
    exact Storage.element?_write_of_ne hoffset (by exact_mod_cast hne) _

theorem issued_storeInner (machine : Machine) (outer : ObjectId) (index : Nat)
    (table : DispatchTable) (inner : ObjectId) :
    (machine.storeInner outer index table inner).heap.store.issued =
      machine.heap.store.issued := by
  unfold Machine.storeInner
  split
  · exact Array.size_modify ..
  · rfl

/-! ### A growing tree -/

/-- The invariant while `outer` is filled: its first elements hold complete trees. -/
structure Growing (base : Machine) (outer : ObjectId) (roots : Roots) (level next : ArrayLevel)
    (levels : List ArrayLevel) (count : Nat) (machine : Machine) : Prop
    extends base.Filling outer roots machine where
  shaped : machine.ShapedOver base.classes
  holdsArray : machine.HoldsArray level outer
  branches : ∃ bounds child, machine.Branches (machine.Tree (next :: levels)) outer next.table count
    machine.heap.store.issued bounds child

theorem Growing.steady (h : base.Growing outer roots level next levels count mid) :
    mid.Steady base.classes :=
  ⟨h.sound, h.shaped⟩

/-- While one more tree is made, all that hangs on the outer array is kept. -/
theorem Growing.makes (h : base.Growing outer roots level next levels count mid)
    {result : Except RuntimeError ObjectId} (hmakes : mid.Makes result after) :
    after.HoldsArray level outer ∧ ∃ bounds child,
      after.Branches (after.Tree (next :: levels)) outer next.table count mid.heap.store.issued
        bounds child := by
  have hcarries := hmakes.carries
  have houter : mid.heap.InUse mid.classes.objectModel outer := .root h.rooted
  refine ⟨hcarries.holdsArray (Nat.zero_le _) houter h.holdsArray, ?_⟩
  obtain ⟨bounds, child, hbranches⟩ := h.branches
  refine ⟨bounds, child, hbranches.carry hcarries (Nat.zero_le _) houter ?_⟩
  intro low high id _ hid htree
  exact htree.carry hcarries (Nat.zero_le _) hid

theorem Branches.storeInner {high : Nat} {bounds : Nat → Nat} {child : Nat → ObjectId}
    (h : machine.Branches (machine.Tree levels) outer table count high bounds child)
    (hothers : ∀ other : Nat, other ≠ count →
      (machine.storeInner outer count table inner).element? (some outer) .reference other =
        machine.element? (some outer) .reference other) :
    (machine.storeInner outer count table inner).Branches
      ((machine.storeInner outer count table inner).Tree levels) outer table count high bounds
      child where
  lt_bounds := h.lt_bounds
  bounds_le := h.bounds_le
  slots index hindex := by
    rw [hothers index (Nat.ne_of_lt hindex)]
    exact h.slots index hindex
  subtrees index hindex := by
    have hmark := Nat.le_trans h.lt_bounds (h.mono (Nat.zero_le index) (Nat.le_of_lt hindex))
    exact (h.subtrees index hindex).carry (carries_storeInner ..) hmark trivial

theorem Growing.snoc (h : base.Growing outer roots level next levels count mid)
    (hbase : base.Sound) (houter : base.heap.store.issued ≤ outer)
    (hlevels : Buildable base.classes (level :: next :: levels)) (hcount : count < level.length)
    (hmakes : mid.Makes (.ok inner) after) (hshaped : after.ShapedOver base.classes)
    (htree : after.Tree (next :: levels) mid.heap.store.issued after.heap.store.issued inner) :
    base.Growing outer roots level next levels (count + 1)
      (after.storeInner outer count next.table inner) := by
  obtain ⟨harray, bounds, child, hbranches⟩ := h.makes hmakes
  have hkind : level.kind = .reference := hlevels.nested.rel
  have hsuits : level.Suits after.classes := by
    rw [hshaped.classes_eq]
    exact hlevels.suits level (.head _)
  obtain ⟨harray', hslot, hothers⟩ :=
    harray.storeInner hsuits hkind hcount next.table inner
  have hlater : outer + 1 ≤ mid.heap.store.issued := by
    apply Store.lt_issued_of_isSome
    exact h.sound.closed.roots _ h.rooted _ rfl
  have htree' := htree.carry (carries_storeInner after outer count next.table inner) hlater trivial
  exact {
    toFilling := (h.toFilling.makes hmakes).storeInner hbase houter (hmakes.fresh inner rfl).2
      count next.table
    shaped := hshaped.storeInner outer count next.table inner
    holdsArray := harray'
    branches := by
      rw [issued_storeInner]
      exact (hbranches.storeInner hothers).snoc hslot htree' }

/-- What the construction of an inner array owes. -/
def MakesTree (classes : Hierarchy) (levels : List ArrayLevel) (makeInner : Action ObjectId) :
    Prop :=
  ∀ mid after id, mid.Steady classes → makeInner.run mid = (.ok id, after) →
    mid.Makes (.ok id) after ∧ after.ShapedOver classes ∧
      after.Tree levels mid.heap.store.issued after.heap.store.issued id

theorem Growing.fill (h : base.Growing outer roots level next levels index mid)
    (hbase : base.Sound) (houter : base.heap.store.issued ≤ outer)
    (hlevels : Buildable base.classes (level :: next :: levels)) {makeInner : Action ObjectId}
    (hmake : MakesTree base.classes (next :: levels) makeInner)
    (hcount : index + count = level.length)
    (hrun : (Machine.fill outer next.table makeInner count index).run mid = (.ok (), left)) :
    base.Growing outer roots level next levels level.length left := by
  induction count generalizing index mid with
  | zero =>
    cases hrun
    rwa [← hcount]
  | succ count ih =>
    rw [run_fill_succ] at hrun
    rcases hinner : makeInner.run mid with ⟨error | inner, after⟩
    · rw [hinner] at hrun
      cases hrun
    · rw [hinner] at hrun
      obtain ⟨hmakes, hshaped, htree⟩ := hmake mid after inner h.steady hinner
      have hindex : index < level.length := by omega
      apply ih (h.snoc hbase houter hlevels hindex hmakes hshaped htree) _ hrun
      omega

/-! ### Arrays of all levels -/

theorem exists_of_nested {makeInner : Action ObjectId}
    (hrun : (nested level table makeInner).run machine = (.ok id, left)) :
    ∃ made shadow, (Machine.allocateFlat level).run machine = (.ok id, made) ∧
      made.heap.roots.shadow.push (.operand (some id)) = .ok shadow ∧
      (Machine.fill id table makeInner level.length 0).run
        (made.withRoots { made.heap.roots with shadow }) = (.ok (), left) := by
  rw [run_nested] at hrun
  rcases hflat : (Machine.allocateFlat level).run machine with ⟨error | array, made⟩
  · rw [hflat] at hrun
    cases hrun
  rw [hflat] at hrun
  dsimp only at hrun
  rw [run_pushOperand] at hrun
  rcases hpush : made.heap.roots.shadow.push (.operand (some array)) with error | shadow
  · rw [hpush] at hrun
    cases hrun
  rw [hpush] at hrun
  dsimp only at hrun
  rcases hfill : (Machine.fill array table makeInner level.length 0).run
      (made.withRoots { made.heap.roots with shadow }) with ⟨error | ⟨⟩, filled⟩
  · rw [hfill] at hrun
    cases hrun
  · rw [hfill] at hrun
    cases hrun
    exact ⟨made, shadow, rfl, hpush, hfill⟩

theorem Steady.nested (h : machine.Steady classes)
    (hlevels : Buildable classes (level :: next :: levels)) {makeInner : Action ObjectId}
    (hmake : MakesTree classes (next :: levels) makeInner)
    (hrun : (Machine.nested level next.table makeInner).run machine = (.ok id, left)) :
    left.Tree (level :: next :: levels) machine.heap.store.issued left.heap.store.issued id := by
  obtain rfl := h.shaped.classes_eq
  obtain ⟨made, shadow, hflat, hpush, hfill⟩ := exists_of_nested hrun
  have hsuits := hlevels.suits level (.head _)
  obtain ⟨hmakes, hshaped⟩ := h.allocateFlat hsuits hflat
  obtain ⟨hissued, hlive⟩ := hmakes.fresh id rfl
  obtain ⟨harray, -⟩ := h.zeroed hsuits (hlevels.short level (.head _)) hflat
  have hcarries := carries_withRoots made { made.heap.roots with shadow }
  have hgrowing : machine.Growing id { made.heap.roots with shadow } level next levels 0
      (made.withRoots { made.heap.roots with shadow }) := {
    toFilling := hmakes.filling hpush
    shaped := ⟨hshaped.reroot ⟨_, _, rfl⟩, hshaped.classes_eq⟩
    holdsArray := hcarries.holdsArray (Nat.zero_le _) trivial harray
    branches := by
      refine ⟨fun _ => made.heap.store.issued, fun _ => 0, ?_⟩
      exact ⟨Store.lt_issued_of_isSome hlive, Nat.le_refl _, nofun, nofun⟩ }
  have hfilled := hgrowing.fill h.sound hissued hlevels hmake (Nat.zero_add _) hfill
  have hname : id < left.heap.store.issued := by
    apply Store.lt_issued_of_isSome
    exact hfilled.sound.closed.roots _ hfilled.rooted _ rfl
  exact ⟨hissued, hname, hfilled.holdsArray, hfilled.branches⟩

theorem exists_of_inFrame {action : Action ObjectId}
    (h : machine.MakesAbove (action.run machine).1 (action.run machine).2)
    (hrun : (inFrame action).run machine = (.ok id, after)) :
    ∃ left, action.run machine = (.ok id, left) ∧ after = left.withRoots machine.heap.roots := by
  rw [run_inFrame_of_above h] at hrun
  rcases haction : action.run machine with ⟨result, left⟩
  rw [haction] at hrun
  cases hrun
  exact ⟨left, rfl, rfl⟩

theorem Steady.allocateLevels (h : machine.Steady classes)
    (hlevels : Buildable classes (level :: levels))
    (hrun : (Machine.allocateLevels level levels).run machine = (.ok id, after)) :
    machine.Makes (.ok id) after ∧ after.ShapedOver classes := by
  have hmakes := h.sound.allocateLevels (hlevels.lt_size h.shaped.classes_eq)
  have hshaped := shapedOver_allocateLevels hlevels.suits machine h.shaped
  rw [hrun] at hmakes hshaped
  exact ⟨hmakes, hshaped⟩

/-- What happens in the frame of the outermost level leaves the roots below it alone. -/
theorem Steady.nested_above (h : machine.Steady classes)
    (hlevels : Buildable classes (level :: next :: levels)) :
    machine.MakesAbove
      ((Machine.nested level next.table (Machine.allocateLevels next levels)).run machine).1
      ((Machine.nested level next.table (Machine.allocateLevels next levels)).run machine).2 := by
  apply h.sound.nested (hlevels.lt_size h.shaped.classes_eq level (.head _))
  intro mid hmid hclasses
  exact hmid.allocateLevels (hlevels.tail.lt_size (hclasses.trans h.shaped.classes_eq))

/-- A construction that succeeds leaves a complete tree, whatever was collected on the way. -/
theorem makesTree_allocateLevels (hlevels : Buildable classes (level :: levels)) :
    MakesTree classes (level :: levels) (allocateLevels level levels) := by
  induction levels generalizing level with
  | nil =>
    intro machine after id h hrun
    obtain ⟨hmakes, hshaped⟩ := h.allocateLevels hlevels hrun
    obtain ⟨hissued, hlive⟩ := hmakes.fresh id rfl
    obtain ⟨harray, hzero⟩ :=
      h.zeroed (hlevels.suits level (.head _)) (hlevels.short level (.head _)) hrun
    exact ⟨hmakes, hshaped, hissued, Store.lt_issued_of_isSome hlive, harray, hzero⟩
  | cons next levels ih =>
    intro machine after id h hrun
    obtain ⟨hmakes, hshaped⟩ := h.allocateLevels hlevels hrun
    obtain ⟨left, hleft, rfl⟩ := exists_of_inFrame (h.nested_above hlevels) hrun
    have htree := h.nested hlevels (ih hlevels.tail) hleft
    exact ⟨hmakes, hshaped, htree.carry (carries_withRoots ..) (Nat.zero_le _) trivial⟩

end Machine

end ManagedRuntime
