/-
  Soundness of a machine
  ======================
  The invariant under which nothing dangles (`Machine.Sound`): the books of the heap are in
  order, the heap is closed under the references that its objects hold, and what the
  objects are laid out by exists.  Objects that no root reaches and storage without a
  class are included.

  `Machine.Advances` relates a machine to an earlier one: it is sound, it has the same
  classes, and it keeps what was in use.  The operations on one object are proved here.
-/
import ManagedRuntime.Machine.Array
import ManagedRuntime.Proofs.Heap.Retention
import ManagedRuntime.Proofs.Object.References

namespace ManagedRuntime

/-! ### Actions as functions -/

namespace Action

theorem run_get (machine : Machine) : (get : Action Machine).run machine = (.ok machine, machine) :=
  rfl

end Action

namespace Machine

variable {machine before mid after : Machine} {id : ObjectId} {classId : ClassId}

theorem run_onHeap {ε β : Type} (wrap : ε → RuntimeError)
    (operation : Hierarchy → Heap Storage → Except ε β × Heap Storage) (machine : Machine) :
    (onHeap wrap operation).run machine =
      ((operation machine.classes machine.heap).1.mapError wrap,
        { machine with heap := (operation machine.classes machine.heap).2 }) :=
  rfl

/-! ### The invariant -/

/-- Nothing dangles in the machine, and its objects have classes that exist. -/
structure Sound (machine : Machine) : Prop where
  wellFormed : machine.classes.WellFormed
  rootClass_lt : machine.rootClass < machine.classes.size
  arrays_lt : ∀ id ∈ machine.table.primitiveArrays, id < machine.classes.size
  consistent : machine.heap.Consistent
  closed : machine.heap.Closed machine.classes.objectModel
  formed : ∀ id object, machine.heap.get? id = some object → object.data.Formed machine.classes

/-- A later machine is sound, has the same classes, and keeps what was in use. -/
structure Advances (before after : Machine) : Prop where
  sound : after.Sound
  classes_eq : after.classes = before.classes
  table_eq : after.table = before.table
  cells_eq : after.heap.cells = before.heap.cells
  keeps : before.heap.Keeps before.classes.objectModel after.heap

theorem Sound.refl_advances (h : machine.Sound) : machine.Advances machine :=
  ⟨h, rfl, rfl, rfl, .refl _ _⟩

theorem Advances.trans (hfirst : before.Advances mid) (hsecond : mid.Advances after) :
    before.Advances after where
  sound := hsecond.sound
  classes_eq := hsecond.classes_eq.trans hfirst.classes_eq
  table_eq := hsecond.table_eq.trans hfirst.table_eq
  cells_eq := hsecond.cells_eq.trans hfirst.cells_eq
  keeps := hfirst.keeps.trans (hfirst.classes_eq ▸ hsecond.keeps)

/-- With another heap over the same classes, the invariant is about the heap. -/
theorem Sound.withHeap (h : machine.Sound) {heap : Heap Storage} (hheap : heap.Consistent)
    (hclosed : heap.Closed machine.classes.objectModel)
    (hformed : ∀ id object, heap.get? id = some object → object.data.Formed machine.classes) :
    { machine with heap }.Sound where
  wellFormed := h.wellFormed
  rootClass_lt := h.rootClass_lt
  arrays_lt := h.arrays_lt
  consistent := hheap
  closed := hclosed
  formed := hformed

/-- What roots or variables change to makes no difference, if nothing dangling comes in. -/
theorem Sound.reroot (h : machine.Sound) {heap : Heap Storage}
    (hheap : machine.heap.Rerooted machine.heap.Admits heap) :
    { machine with heap }.Sound := by
  apply h.withHeap (hheap.consistent h.consistent) (hheap.closed h.closed)
  intro id object hget
  rw [Heap.get?, hheap.store_eq] at hget
  exact h.formed id object hget

theorem Sound.collect (h : machine.Sound) : machine.collect.2.Sound := by
  apply h.withHeap h.consistent.collect (h.closed.collect h.consistent)
  intro id object hget
  exact h.formed id object (Heap.get?_of_get?_collect h.consistent hget).2

/-! ### New classes -/

/-- New classes do not change what the objects of a sound machine refer to. -/
theorem Sound.refs_eq (h : machine.Sound) {classes : Hierarchy}
    (hgrown : machine.classes.Extends classes) :
    ∀ id object, machine.heap.get? id = some object →
      classes.objectModel.refs object.data = machine.classes.objectModel.refs object.data :=
  fun id object hget => (h.formed id object hget).refs_extend h.wellFormed hgrown

theorem Sound.grow (h : machine.Sound) {classes : Hierarchy} (hclasses : classes.WellFormed)
    (hgrown : machine.classes.Extends classes) : { machine with classes }.Sound where
  wellFormed := hclasses
  rootClass_lt := Nat.lt_of_lt_of_le h.rootClass_lt hgrown.size_le
  arrays_lt id hid := Nat.lt_of_lt_of_le (h.arrays_lt id hid) hgrown.size_le
  consistent := h.consistent
  closed := by
    refine ⟨h.closed.roots, ?_⟩
    intro id object hget ref href
    rw [h.refs_eq hgrown id object hget] at href
    exact h.closed.contents id object hget ref href
  formed id object hget := (h.formed id object hget).extend hgrown

/-! ### Objects on the heap -/

theorem exists_of_data? {heap : Heap Storage} {storage : Storage}
    (h : heap.data? id = some storage) :
    ∃ object, heap.get? id = some object ∧ object.data = storage :=
  Option.map_eq_some_iff.1 h

theorem data?_of_get? {heap : Heap Storage} {object : Object Storage}
    (h : heap.get? id = some object) : heap.data? id = some object.data := by
  rw [Heap.data?, h, Option.map_some]

theorem isSome_get?_of_classId? (h : machine.classId? (some id) = some classId) :
    (machine.heap.get? id).isSome := by
  obtain ⟨storage, hdata, -⟩ := Option.bind_eq_some_iff.1 h
  obtain ⟨object, hget, -⟩ := exists_of_data? hdata
  exact Option.isSome_of_eq_some hget

/-! ### Reading an object -/

section Reading

variable {storage : Storage} (hdata : machine.heap.data? id = some storage)
include hdata

theorem classId?_eq : machine.classId? (some id) = storage.classId? := by
  rw [classId?, storage?, Option.bind_some, hdata, Option.bind_some]

theorem field?_eq (owner : ClassId) (index : Nat) :
    machine.field? (some id) owner index = storage.field? machine.classes owner index := by
  rw [field?, storage?, Option.bind_some, hdata]
  rfl

theorem fieldOffset?_eq (owner : ClassId) (index : Nat) :
    machine.fieldOffset? (some id) owner index =
      storage.fieldOffset? machine.classes owner index := by
  rw [fieldOffset?, storage?, Option.bind_some, hdata]
  rfl

theorem element?_eq (kind : Kind) (index : Int) :
    machine.element? (some id) kind index = storage.element? machine.classes kind index := by
  rw [element?, storage?, Option.bind_some, hdata]
  rfl

theorem elementOffset?_eq (kind : Kind) (index : Int) :
    machine.elementOffset? (some id) kind index =
      storage.elementOffset? machine.classes kind index := by
  rw [elementOffset?, storage?, Option.bind_some, hdata]
  rfl

end Reading

/-! ### Stores -/

theorem data?_updateStorage_self (machine : Machine) (id : ObjectId) (change : Storage → Storage) :
    (machine.updateStorage id change).heap.data? id = (machine.heap.data? id).map change := by
  rw [Heap.data?, updateStorage, Heap.get?_modifyData, if_pos rfl, Heap.data?]
  cases machine.heap.get? id with
  | none => rfl
  | some object => rfl

theorem data?_updateStorage {storage : Storage} (hdata : machine.heap.data? id = some storage)
    (change : Storage → Storage) :
    (machine.updateStorage id change).heap.data? id = some (change storage) := by
  rw [data?_updateStorage_self, hdata, Option.map_some]

theorem data?_updateStorage_of_ne {other : ObjectId} (hne : other ≠ id)
    (change : Storage → Storage) :
    (machine.updateStorage id change).heap.data? other = machine.heap.data? other := by
  rw [Heap.data?, updateStorage, Heap.get?_modifyData, if_neg (Ne.symm hne), Heap.data?]

theorem classId?_updateStorage_of_ne {other : ObjectId} (hne : other ≠ id)
    (change : Storage → Storage) :
    (machine.updateStorage id change).classId? (some other) = machine.classId? (some other) := by
  rw [classId?, storage?, Option.bind_some, data?_updateStorage_of_ne hne]
  rfl

/-- No store to a field or an element changes the class of an object. -/
theorem classId?_store {storage : Storage} {kind : Kind} {offset : Nat}
    (hdata : machine.heap.data? id = some storage)
    (hplace : storage.IsPlace machine.classes offset) (value : kind.Value) (other : ObjectId) :
    (machine.updateStorage id (·.write kind offset value)).classId? (some other) =
      machine.classId? (some other) := by
  by_cases hsame : other = id
  · subst hsame
    rw [classId?_eq (data?_updateStorage hdata _), classId?_eq hdata]
    exact Storage.classId?_write hplace.le_offset value
  · exact classId?_updateStorage_of_ne hsame _

/-- Soundness asks of a store what it leaves of the object. -/
theorem Sound.updateStorage (h : machine.Sound) {change : Storage → Storage}
    (hformed : ∀ storage, machine.heap.data? id = some storage →
      (change storage).Formed machine.classes)
    (hrefs : ∀ storage, machine.heap.data? id = some storage →
      ∀ ref ∈ (change storage).refs machine.classes, machine.heap.Admits ref) :
    (machine.updateStorage id change).Sound := by
  apply h.withHeap (h.consistent.modifyData id change)
  · apply h.closed.modifyData
    intro object hget ref href
    exact hrefs object.data (data?_of_get? hget) ref href
  · apply Heap.forall_contents_modifyData (Storage.Formed · machine.classes) h.formed
    intro object hget
    exact hformed object.data (data?_of_get? hget)

/-- A store to a field or an element of a reference that does not dangle. -/
theorem Sound.store (h : machine.Sound) {kind : Kind} {offset : Nat} {value : kind.Value}
    (hplace : ∀ storage, machine.heap.data? id = some storage →
      storage.IsPlace machine.classes offset)
    (hvalue : machine.heap.Admits (kind.refOf value)) :
    (machine.updateStorage id (·.write kind offset value)).Sound := by
  apply h.updateStorage
  · intro storage hstorage
    obtain ⟨object, hget, rfl⟩ := exists_of_data? hstorage
    exact (h.formed id object hget).write (hplace _ hstorage) value
  · intro storage hstorage ref href
    obtain ⟨object, hget, rfl⟩ := exists_of_data? hstorage
    rcases (hplace _ hstorage).refs_write href with hold | rfl | rfl
    · exact h.closed.contents id object hget ref hold
    · exact Heap.admits_none _
    · exact hvalue

theorem Sound.isPlace_of_fieldOffset? (h : machine.Sound) {owner : ClassId} {index offset : Nat}
    (hoffset : machine.fieldOffset? (some id) owner index = some offset) :
    ∀ storage, machine.heap.data? id = some storage → storage.IsPlace machine.classes offset := by
  intro storage hstorage
  obtain ⟨found, hfound, hfield⟩ := Option.bind_eq_some_iff.1 hoffset
  obtain rfl : found = storage := Option.some.inj (hfound.symm.trans hstorage)
  exact Storage.isPlace_of_fieldOffset? h.wellFormed hfield

theorem isPlace_of_elementOffset? {kind : Kind} {index : Int} {offset : Nat}
    (hoffset : machine.elementOffset? (some id) kind index = some offset) :
    ∀ storage, machine.heap.data? id = some storage → storage.IsPlace machine.classes offset := by
  intro storage hstorage
  obtain ⟨found, hfound, helement⟩ := Option.bind_eq_some_iff.1 hoffset
  obtain rfl : found = storage := Option.some.inj (hfound.symm.trans hstorage)
  exact Storage.isPlace_of_elementOffset? helement

theorem Sound.initObject (h : machine.Sound) (hclass : classId < machine.classes.size)
    (hblank : ∀ storage, machine.heap.data? id = some storage → storage.classId? = none) :
    (machine.initObject id classId).Sound := by
  apply h.updateStorage
  · intro storage hstorage
    obtain ⟨object, hget, rfl⟩ := exists_of_data? hstorage
    exact (h.formed id object hget).setClass hclass
  · intro storage hstorage ref href
    obtain ⟨object, hget, rfl⟩ := exists_of_data? hstorage
    have hnothing := (h.formed id object hget).blank (hblank _ hstorage)
    rw [Storage.refs_of_blank (Storage.blank_setClass hnothing classId) href]
    exact Heap.admits_none _

theorem Advances.updateStorage (h : before.Advances mid) {change : Storage → Storage}
    (hid : before.heap.store.issued ≤ id) (hbefore : before.Sound)
    (hsound : (mid.updateStorage id change).Sound) :
    before.Advances (mid.updateStorage id change) where
  sound := hsound
  classes_eq := h.classes_eq
  table_eq := h.table_eq
  cells_eq := h.cells_eq
  keeps := by
    apply h.keeps.modifyData
    intro hinUse
    have hlive := hbefore.closed.isSome_of_inUse hinUse
    exact Nat.not_lt.2 hid (Store.lt_issued_of_isSome hlive)

/-! ### New objects -/

/-- How an action that makes an object comes out: the roots are as before, and the object
    is a new one. -/
structure Makes (before : Machine) (result : Except RuntimeError ObjectId)
    (after : Machine) : Prop extends before.Advances after where
  roots_eq : after.heap.roots = before.heap.roots
  fresh : ∀ id, result = .ok id → before.heap.store.issued ≤ id ∧ (after.heap.get? id).isSome

theorem makes_error (h : machine.Sound) (error : RuntimeError) :
    machine.Makes (.error error) machine :=
  { h.refl_advances with
    roots_eq := rfl
    fresh := nofun }

theorem placed_of_allocate {bytes : Nat} (hid : ((allocate bytes).run machine).1 = .ok id) :
    (machine.heap.allocate machine.classes.objectModel bytes).1 = .ok id := by
  rw [Machine.allocate, run_onHeap] at hid
  rcases hresult : (machine.heap.allocate machine.classes.objectModel bytes).1 with error | made
  · rw [hresult] at hid
    cases hid
  · rw [hresult] at hid
    cases hid
    rfl

/-- Fresh storage is zeroed. -/
theorem data?_allocate (h : machine.heap.Consistent) {bytes : Nat}
    (hid : ((allocate bytes).run machine).1 = .ok id) :
    ((allocate bytes).run machine).2.heap.data? id = some (.zeroed (dataSize bytes)) := by
  obtain ⟨-, -, object, hget, hdata⟩ :=
    (Heap.supplies machine.classes.objectModel h bytes).placed id (placed_of_allocate hid)
  rw [Machine.allocate, run_onHeap, data?_of_get? hget, hdata]
  rfl

/-- Fresh storage has no class. -/
structure MakesBlank (before : Machine) (bytes : Nat) (result : Except RuntimeError ObjectId)
    (after : Machine) : Prop extends before.Makes result after where
  data?_eq : ∀ id, result = .ok id → after.heap.data? id = some (.zeroed (dataSize bytes))

theorem Sound.allocate (h : machine.Sound) (bytes : Nat) :
    machine.MakesBlank bytes ((allocate bytes).run machine).1 ((allocate bytes).run machine).2 := by
  rw [Machine.allocate, run_onHeap]
  have hallocates := Heap.allocates h.consistent h.closed fun _ href =>
    Storage.refs_of_blank (Storage.refAt_zeroed (dataSize bytes)) href
  exact {
    sound := by
      apply h.withHeap hallocates.consistent hallocates.closed
      intro id object hget
      rcases hallocates.contents id object hget with hold | hnew
      · exact h.formed id object hold
      · rw [hnew]
        exact Storage.formed_zeroed _ (dataSize bytes)
    classes_eq := rfl
    table_eq := rfl
    cells_eq := hallocates.cells_eq
    keeps := hallocates.keeps
    roots_eq := hallocates.roots_eq
    fresh := by
      intro id hid
      obtain ⟨hissued, -, object, hget, -⟩ := hallocates.placed id (placed_of_allocate hid)
      exact ⟨hissued, by rw [hget]; rfl⟩
    data?_eq := fun _ hid => data?_allocate h.consistent hid }

/-- Allocates storage and gives it its first contents. -/
def allocateAs (bytes : Nat) (change : Storage → Storage) : Action ObjectId := do
  let id ← Machine.allocate bytes
  modify (·.updateStorage id change)
  return id

theorem run_allocateAs (bytes : Nat) (change : Storage → Storage) (machine : Machine) :
    (allocateAs bytes change).run machine =
      match (allocate bytes).run machine with
      | (.ok id, after) => (.ok id, after.updateStorage id change)
      | (.error error, after) => (.error error, after) := by
  rw [allocateAs, Action.run_bind]
  rcases (allocate bytes).run machine with ⟨error | id, after⟩
  · rfl
  · rfl

theorem data?_allocateAs (h : machine.heap.Consistent) {bytes : Nat} {change : Storage → Storage}
    (hrun : (allocateAs bytes change).run machine = (.ok id, after)) :
    after.heap.data? id = some (change (.zeroed (dataSize bytes))) := by
  rw [run_allocateAs] at hrun
  rcases hallocate : (Machine.allocate bytes).run machine with ⟨error | made, supplied⟩
  · rw [hallocate] at hrun
    cases hrun
  · rw [hallocate] at hrun
    cases hrun
    have hplaced : ((Machine.allocate bytes).run machine).1 = .ok id := by rw [hallocate]
    have hdata := data?_allocate h hplaced
    rw [hallocate] at hdata
    exact data?_updateStorage hdata change

/-- An object that refers to nothing yet, and whose class exists, makes no trouble. -/
theorem Sound.allocateAs (h : machine.Sound) {bytes : Nat} {change : Storage → Storage}
    (hformed : (change (.zeroed (dataSize bytes))).Formed machine.classes)
    (hblank : ∀ offset, (change (.zeroed (dataSize bytes))).refAt offset = none) :
    machine.Makes ((allocateAs bytes change).run machine).1
      ((allocateAs bytes change).run machine).2 := by
  have hmakes := h.allocate bytes
  rw [run_allocateAs]
  rcases hallocate : (Machine.allocate bytes).run machine with ⟨error | id, after⟩
  · rw [hallocate] at hmakes
    exact hmakes.toMakes
  rw [hallocate] at hmakes
  have hdata : ∀ storage, after.heap.data? id = some storage →
      storage = .zeroed (dataSize bytes) := by
    intro storage hstorage
    rw [hmakes.data?_eq id rfl] at hstorage
    exact (Option.some.inj hstorage).symm
  have hsound : (after.updateStorage id change).Sound := by
    apply hmakes.sound.updateStorage
    · intro storage hstorage
      rw [hdata storage hstorage, hmakes.classes_eq]
      exact hformed
    · intro storage hstorage ref href
      rw [hdata storage hstorage] at href
      rw [Storage.refs_of_blank hblank href]
      exact Heap.admits_none _
  exact {
    toAdvances := hmakes.toAdvances.updateStorage (hmakes.fresh id rfl).1 h hsound
    roots_eq := hmakes.roots_eq
    fresh := by
      rintro made ⟨⟩
      refine ⟨(hmakes.fresh id rfl).1, ?_⟩
      have hlive : ((after.heap.modifyData id change).get? id).isSome := by
        rw [Heap.isSome_get?_modifyData]
        exact (hmakes.fresh id rfl).2
      exact hlive }

theorem run_newObject (classId : ClassId) (machine : Machine) :
    (newObject classId).run machine =
      match machine.classes.shape? classId with
      | some (.instances size _) => (allocateAs size (·.setClass classId)).run machine
      | _ => (.error (.notInstantiable (machine.classes.name classId)), machine) := by
  rw [newObject, Action.run_bind, Action.run_get]
  dsimp only
  rcases machine.classes.shape? classId with _ | ⟨size, fields⟩ | _ | _
  · rfl
  · rfl
  · rfl
  · rfl

/-- A new instance has room for its class word. -/
theorem data?_newObject (h : machine.heap.Consistent) (hclasses : machine.classes.WellFormed)
    (hrun : (newObject classId).run machine = (.ok id, after)) :
    ∃ size, classWordSize ≤ size ∧
      after.heap.data? id = some ((Storage.zeroed size).setClass classId) := by
  rw [run_newObject] at hrun
  split at hrun
  · rename_i size fields hshape
    obtain ⟨cls, hget, hcls⟩ := Option.map_eq_some_iff.1 hshape
    obtain ⟨hword, hsize⟩ := hclasses.fields_within classId cls hget size fields hcls
    have hroom : classWordSize ≤ dataSize size :=
      Nat.le_trans hword (Nat.le_trans hsize (le_dataSize size))
    exact ⟨_, hroom, data?_allocateAs h hrun⟩
  · cases hrun

theorem lt_size_of_shape? {classes : Hierarchy} {shape : ClassShape}
    (h : classes.shape? classId = some shape) : classId < classes.size := by
  obtain ⟨cls, hget, -⟩ := Option.map_eq_some_iff.1 h
  exact Hierarchy.lt_size_of_get? hget

theorem Sound.newObject (h : machine.Sound) (classId : ClassId) :
    machine.Makes ((newObject classId).run machine).1 ((newObject classId).run machine).2 := by
  rw [run_newObject]
  split
  · rename_i size fields hshape
    apply h.allocateAs
    · exact (Storage.formed_zeroed _ _).setClass (lt_size_of_shape? hshape)
    · exact Storage.blank_setClass (Storage.refAt_zeroed _) classId
  · exact makes_error h _

end Machine

end ManagedRuntime
