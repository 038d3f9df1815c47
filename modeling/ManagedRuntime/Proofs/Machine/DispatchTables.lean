/-
  Dispatch tables in slots
  ========================
  A reference slot carries the dispatch table of the object that it refers to, so that calls need
  not go through the object.  Nothing ever updates these copies.  They stay right all the same
  (`Machine.TablesKept`): an object that a slot can refer to has its class already, and keeps it.
-/
import ManagedRuntime.Proofs.Machine.NestedArrays
import ManagedRuntime.Proofs.Machine.Safety
import ManagedRuntime.Proofs.Object.Slots

namespace ManagedRuntime

namespace Machine

variable {machine base before mid made after left : Machine} {id outer inner : ObjectId}
variable {slot : ReferenceSlot} {classes : Hierarchy} {classId : ClassId}

/-! ### Current slots -/

/-- A slot has the dispatch table of the object in it, and none for null only. -/
structure Current (machine : Machine) (slot : ReferenceSlot) : Prop where
  table_eq : slot.table = machine.dispatchTable? slot.object
  none_iff : slot.table = none ↔ slot.object = none

theorem current_null (machine : Machine) : machine.Current .null :=
  ⟨rfl, iff_of_true rfl rfl⟩

/-- The object in a current slot has a class. -/
theorem Current.exists_class (h : machine.Current slot) {target : ObjectId}
    (htarget : slot.object = some target) :
    ∃ storage classId, machine.heap.data? target = some storage ∧
      storage.classId? = some classId := by
  obtain ⟨htable, hnone⟩ := h
  cases hslot : slot.table with
  | none =>
    rw [hnone.1 hslot] at htarget
    cases htarget
  | some table =>
    rw [hslot, htarget] at htable
    obtain ⟨cls, hcls, -⟩ := Option.map_eq_some_iff.1 htable.symm
    obtain ⟨classId, hclass, -⟩ := Option.bind_eq_some_iff.1 hcls
    obtain ⟨storage, hstorage, hid⟩ := Option.bind_eq_some_iff.1 hclass
    exact ⟨storage, classId, hstorage, hid⟩

/-- A slot stays current as long as the object in it keeps its class. -/
theorem Current.carry (h : machine.Current slot)
    (hclass : ∀ target storage classId, slot.object = some target →
      machine.heap.data? target = some storage → storage.classId? = some classId →
      after.classId? (some target) = some classId ∧
        after.classes.get? classId = machine.classes.get? classId) : after.Current slot := by
  refine ⟨?_, h.none_iff⟩
  rw [h.table_eq]
  cases htarget : slot.object with
  | none => rfl
  | some target =>
    obtain ⟨storage, classId, hstorage, hid⟩ := h.exists_class htarget
    obtain ⟨hafter, hget⟩ := hclass target storage classId htarget hstorage hid
    have hbefore := (classId?_eq hstorage).trans hid
    rw [dispatchTable?, class?, hbefore, Option.bind_some, dispatchTable?, class?, hafter,
      Option.bind_some, hget]

/-! ### The invariant -/

/-- All slots of all objects are current, in a machine that is in order. -/
structure TablesKept (machine : Machine) : Prop where
  sound : machine.Sound
  inShape : machine.InShape
  current : ∀ id storage, machine.heap.data? id = some storage →
    ∀ slot, storage.HasSlot machine.classes slot → machine.Current slot

/-- New classes change no slot, and no class of an object. -/
theorem TablesKept.grow (h : machine.TablesKept) (hclasses : classes.Made)
    (hgrown : machine.classes.Extends classes) : (machine.withClasses classes).TablesKept where
  sound := h.sound.grow hclasses.wellFormed hgrown
  inShape := h.inShape.grow hclasses hgrown
  current id storage hdata slot hslot := by
    have hformed := (h.inShape.shaped_of_data? hdata).formed
    have hold := hslot.of_extend hformed h.sound.wellFormed hgrown
    apply (h.current id storage hdata slot hold).carry
    intro target found classId _ hfound hid
    have hkept : (machine.withClasses classes).heap.data? target = some found := hfound
    constructor
    · exact (classId?_eq hkept).trans hid
    · exact hgrown.get?_eq classId ((h.inShape.shaped_of_data? hfound).formed.lt_size classId hid)

/-- Every object of a later machine is an old one, or it has a new name and only null slots. -/
structure Inherits (machine after : Machine) : Prop where
  classes_eq : after.classes = machine.classes
  contents : ∀ id storage, after.heap.data? id = some storage →
    machine.heap.data? id = some storage ∨ machine.heap.data? id = none ∧
      ∀ slot, storage.HasSlot machine.classes slot → slot = .null

/-- What an object refers to is an object as long as it is there, so it is an old one too. -/
theorem TablesKept.inherits (h : machine.TablesKept) (hsound : after.Sound)
    (hinShape : after.InShape) (hinherits : machine.Inherits after) : after.TablesKept where
  sound := hsound
  inShape := hinShape
  current id storage hdata slot hslot := by
    rw [hinherits.classes_eq] at hslot
    rcases hinherits.contents id storage hdata with hold | ⟨-, hnull⟩
    · apply (h.current id storage hold slot hslot).carry
      intro target found classId htarget hfound hid
      refine ⟨?_, by rw [hinherits.classes_eq]⟩
      -- The target is there at the end too, for `after` is sound: so its name is not a new one.
      obtain ⟨object, hget, rfl⟩ := exists_of_data? hdata
      have hmem : some target ∈ after.classes.objectModel.refs object.data := by
        rw [hinherits.classes_eq, ← htarget]
        exact hslot.object_mem_refs
      have hlive := hsound.closed.contents id object hget _ hmem target rfl
      obtain ⟨there, hthere⟩ := Option.isSome_iff_exists.1 hlive
      rcases hinherits.contents target there.data (data?_of_get? hthere) with hsame | ⟨hnone, -⟩
      · rw [hfound] at hsame
        cases hsame
        exact (classId?_eq (data?_of_get? hthere)).trans hid
      · rw [hfound] at hnone
        cases hnone
    · rw [hnull slot hslot]
      exact after.current_null

theorem TablesKept.of_store_eq (h : machine.TablesKept) (hsound : after.Sound)
    (hinShape : after.InShape) (hclasses : after.classes = machine.classes)
    (hstore : after.heap.store = machine.heap.store) : after.TablesKept := by
  refine h.inherits hsound hinShape ⟨hclasses, ?_⟩
  intro id storage hdata
  rw [Heap.data?, Heap.get?, hstore] at hdata
  exact .inl hdata

theorem TablesKept.reroot (h : machine.TablesKept) {heap : Heap Storage}
    (hheap : machine.heap.Rerooted machine.heap.Admits heap) :
    { machine with heap }.TablesKept := by
  have hinShape := h.inShape.reroot ⟨heap.roots, heap.cells, hheap.eq⟩
  exact h.of_store_eq (h.sound.reroot hheap) hinShape rfl hheap.store_eq

/-- A change of one object that leaves it its class, if it has one, and current slots. -/
theorem TablesKept.updateStorage (h : machine.TablesKept) {change : Storage → Storage}
    (hsound : (machine.updateStorage id change).Sound)
    (hinShape : (machine.updateStorage id change).InShape)
    (hclass : ∀ storage classId, machine.heap.data? id = some storage →
      storage.classId? = some classId → (change storage).classId? = some classId)
    (hslots : ∀ storage, machine.heap.data? id = some storage →
      ∀ slot, (change storage).HasSlot machine.classes slot → machine.Current slot) :
    (machine.updateStorage id change).TablesKept where
  sound := hsound
  inShape := hinShape
  current other storage hdata slot hslot := by
    have hcurrent : machine.Current slot := by
      by_cases hsame : other = id
      · subst hsame
        rw [data?_updateStorage_self] at hdata
        obtain ⟨found, hfound, rfl⟩ := Option.map_eq_some_iff.1 hdata
        exact hslots found hfound slot hslot
      · rw [data?_updateStorage_of_ne hsame] at hdata
        exact h.current other storage hdata slot hslot
    apply hcurrent.carry
    intro target found classId _ hfound hid
    refine ⟨?_, rfl⟩
    by_cases hsame : target = id
    · subst hsame
      rw [classId?_eq (data?_updateStorage hfound change)]
      exact hclass found classId hfound hid
    · rw [← data?_updateStorage_of_ne hsame change] at hfound
      exact (classId?_eq hfound).trans hid

/-! ### Collections and new objects -/

theorem TablesKept.collect (h : machine.TablesKept) : machine.collect.2.TablesKept := by
  refine h.inherits h.sound.collect h.inShape.collect ⟨rfl, ?_⟩
  intro id storage hdata
  obtain ⟨object, hget, rfl⟩ := exists_of_data? hdata
  exact .inl (data?_of_get? (Heap.get?_of_get?_collect h.sound.consistent hget).2)

theorem TablesKept.allocate (h : machine.TablesKept) (bytes : Nat) :
    ((Machine.allocate bytes).run machine).2.TablesKept := by
  have hsupplies := Heap.supplies machine.classes.objectModel h.sound.consistent bytes
  refine h.inherits (h.sound.allocate bytes).sound (h.inShape.allocate bytes).1 ⟨rfl, ?_⟩
  intro id storage hdata
  obtain ⟨object, hget, rfl⟩ := exists_of_data? hdata
  by_cases hold : id < machine.heap.store.issued
  · exact .inl (data?_of_get? (Heap.get?_of_get?_allocate h.sound.consistent hget hold))
  have hnone : machine.heap.get? id = none := Store.get?_of_issued_le (Nat.not_lt.1 hold)
  right
  constructor
  · rw [Heap.data?, hnone, Option.map_none]
  · intro slot hslot
    rcases hsupplies.contents id object hget with hsame | hzeroed
    · rw [hsame] at hnone
      cases hnone
    · rw [hzeroed] at hslot
      exact absurd hslot (Storage.not_hasSlot_zeroed machine.classes (dataSize bytes) slot)

/-- New storage with a class has null slots only. -/
theorem TablesKept.allocateAs (h : machine.TablesKept) {bytes : Nat} {change : Storage → Storage}
    (hmakes : machine.Makes ((allocateAs bytes change).run machine).1
      ((allocateAs bytes change).run machine).2)
    (hinShape : ((allocateAs bytes change).run machine).2.InShape)
    (hblank : ∀ offset, offset ≠ 0 →
      (change (.zeroed (dataSize bytes))).pointerAt? offset = none) :
    ((allocateAs bytes change).run machine).2.TablesKept := by
  have hafter := h.allocate bytes
  have hdata := (h.sound.allocate bytes).data?_eq
  have hsound := hmakes.sound
  rw [run_allocateAs] at hsound hinShape ⊢
  rcases hallocate : (Machine.allocate bytes).run machine with ⟨error | id, made⟩
  · rw [hallocate] at hafter
    exact hafter
  rw [hallocate] at hafter hdata hsound hinShape
  apply hafter.updateStorage hsound hinShape
  · intro storage classId hstorage hclass
    rw [hdata id rfl] at hstorage
    cases hstorage
    rw [Storage.classId?_zeroed] at hclass
    cases hclass
  · intro storage hstorage slot hslot
    rw [hdata id rfl] at hstorage
    cases hstorage
    rw [hslot.eq_null hafter.sound.wellFormed hblank]
    exact made.current_null

theorem TablesKept.newObject (h : machine.TablesKept) (classId : ClassId) :
    ((newObject classId).run machine).2.TablesKept := by
  have hmakes := h.sound.newObject classId
  have hinShape := h.inShape.newObject classId
  rw [run_newObject] at hmakes hinShape ⊢
  rcases hshape : machine.classes.shape? classId with _ | ⟨size, fields⟩ | _ | _
  · exact h
  · rw [hshape] at hmakes hinShape
    exact h.allocateAs hmakes hinShape fun offset => Storage.pointerAt?_setClass_zeroed _ classId
  · exact h
  · exact h

theorem TablesKept.initObject (h : machine.TablesKept) (hawaits : machine.AwaitsClass id classId) :
    (machine.initObject id classId).TablesKept := by
  have hunclassed := hawaits.classId?_eq
  apply h.updateStorage (h.sound.initObject hawaits.lt_size hunclassed)
    (h.inShape.initObject hawaits)
  · intro storage classId' hstorage hclass
    rw [hunclassed storage hstorage] at hclass
    cases hclass
  · intro storage hstorage slot hslot
    have hblank := (h.inShape.shaped_of_data? hstorage).blank (hunclassed storage hstorage)
    rw [hblank] at hslot
    rw [hslot.eq_null h.sound.wellFormed fun offset => Storage.pointerAt?_setClass_zeroed _ classId]
    exact machine.current_null

/-! ### Stores -/

theorem TablesKept.setField? (h : machine.TablesKept) {object : Ref} {owner : ClassId} {index : Nat}
    (hlive : machine.heap.Admits slot.object) (hcurrent : machine.Current slot)
    (hset : machine.setField? object owner index slot = some after) : after.TablesKept := by
  have hsound := (h.sound.safe_setField hlive hset).sound
  have hinShape := h.inShape.setField? hset
  obtain ⟨id, storage, offset, -, hdata, hoffset, rfl⟩ := exists_of_setField? hset
  have hplace := Storage.isPlace_of_fieldOffset? h.sound.wellFormed hoffset
  apply h.updateStorage hsound hinShape
  · intro found classId hfound hclass
    rw [Storage.classId?_write hplace.le_offset, hclass]
  · intro found hfound slot' hslot
    obtain rfl : storage = found := Option.some.inj (hdata.symm.trans hfound)
    rcases hslot.of_write_field (h.inShape.shaped_of_data? hdata) h.inShape.made hoffset with
      rfl | hold
    · exact hcurrent
    · exact h.current id storage hdata slot' hold

theorem TablesKept.setElement? (h : machine.TablesKept) {array : Ref} {kind : Kind} {index : Int}
    {value : kind.Value} (hlive : machine.heap.Admits (kind.refOf value))
    (hcurrent : ∀ slot, kind.slot? value = some slot → machine.Current slot)
    (hset : machine.setElement? array kind index value = some after) : after.TablesKept := by
  have hsound := (h.sound.safe_setElement hlive hset).sound
  have hinShape := h.inShape.setElement? hset
  obtain ⟨id, storage, offset, -, hdata, hoffset, rfl⟩ := exists_of_setElement? hset
  have hplace := Storage.isPlace_of_elementOffset? hoffset
  apply h.updateStorage hsound hinShape
  · intro found classId hfound hclass
    rw [Storage.classId?_write hplace.le_offset, hclass]
  · intro found hfound slot' hslot
    obtain rfl : storage = found := Option.some.inj (hdata.symm.trans hfound)
    cases kind with
    | primitive primitive =>
      exact absurd hslot (Storage.not_hasSlot_of_write_primitive hoffset value slot')
    | reference =>
      rcases hslot.of_write_element hoffset with rfl | hold
      · exact hcurrent _ rfl
      · exact h.current id storage hdata slot' hold

/-! ### Construction of arrays -/

variable {level next : ArrayLevel} {levels : List ArrayLevel} {roots : Roots}
variable {result : Except RuntimeError ObjectId} {makeInner : Action ObjectId}

theorem TablesKept.withRoots (h : machine.TablesKept)
    (hsound : (machine.withRoots roots).Sound) : (machine.withRoots roots).TablesKept :=
  h.of_store_eq hsound (h.inShape.reroot ⟨roots, _, rfl⟩) rfl rfl

/-- How the construction of an array comes out: all slots are current, also where it failed, and
    the array has the class of its level. -/
structure Furnishes (level : ArrayLevel) (result : Except RuntimeError ObjectId)
    (after : Machine) : Prop where
  kept : after.TablesKept
  classed : ∀ id, result = .ok id → after.classId? (some id) = some level.classId

theorem TablesKept.allocateFlat (h : machine.TablesKept) (hsuits : level.Suits machine.classes) :
    Furnishes level ((Machine.allocateFlat level).run machine).1
      ((Machine.allocateFlat level).run machine).2 := by
  constructor
  · have hmakes := h.sound.allocateFlat hsuits.lt_size
    have hinShape := (shapedOver_allocateFlat hsuits machine ⟨h.inShape, rfl⟩).toInShape
    rw [run_allocateFlat] at hmakes hinShape ⊢
    cases hbytes : level.bytes? with
    | none => exact h
    | some bytes =>
      rw [hbytes] at hmakes hinShape
      exact h.allocateAs hmakes hinShape fun offset =>
        Storage.pointerAt?_newArray _ level.classId level.length
  · intro id hid
    obtain ⟨size, hword, hdata⟩ := data?_allocateFlat h.sound (Prod.ext hid rfl)
    rw [classId?_eq hdata, Storage.classId?_newArray hword]

theorem storeInner_eq (machine : Machine) (outer : ObjectId) (index : Nat) (table : DispatchTable)
    (inner : ObjectId) : machine.storeInner outer index table inner =
      (machine.setElement? (some outer) .reference index
        { table := some table, object := some inner }).getD machine := by
  unfold storeInner setElement?
  cases machine.elementOffset? (some outer) .reference index with
  | none => rfl
  | some offset => rfl

theorem classId?_storeInner (machine : Machine) (outer : ObjectId) (index : Nat)
    (table : DispatchTable) (inner id : ObjectId) :
    (machine.storeInner outer index table inner).classId? (some id) =
      machine.classId? (some id) := by
  rw [storeInner_eq]
  cases hset : machine.setElement? (some outer) .reference index
      { table := some table, object := some inner } with
  | none => rfl
  | some after => exact classId?_of_setElement? hset id

/-- The table that comes from the plan of an array is the one of the array in the slot. -/
theorem TablesKept.storeInner (h : machine.TablesKept) (hlayers : machine.Layers levels)
    (hnext : next ∈ levels) (hinner : machine.classId? (some inner) = some next.classId)
    (outer : ObjectId) (index : Nat) :
    (machine.storeInner outer index next.table inner).TablesKept := by
  have hcurrent : machine.Current { table := some next.table, object := some inner } :=
    ⟨(hlayers.dispatchTable?_eq hnext hinner).symm,
      iff_of_false (Option.some_ne_none _) (Option.some_ne_none _)⟩
  have hlive := Heap.admits_some_iff.2 (isSome_get?_of_classId? hinner)
  rw [storeInner_eq]
  cases hset : machine.setElement? (some outer) .reference index
      { table := some next.table, object := some inner } with
  | none => exact h
  | some after =>
    have hslot : ∀ slot, Kind.reference.slot? { table := some next.table, object := some inner } =
        some slot → machine.Current slot := by
      rintro slot ⟨⟩
      exact hcurrent
    refine h.setElement? ?_ hslot hset
    exact hlive

/-- The invariant while `outer` is filled: all slots are current, and the array keeps its class. -/
structure Furnishing (base : Machine) (outer : ObjectId) (roots : Roots) (classId : ClassId)
    (machine : Machine) : Prop extends base.Filling outer roots machine where
  kept : machine.TablesKept
  classed : machine.classId? (some outer) = some classId

theorem Furnishing.makes (h : base.Furnishing outer roots classId mid)
    (hmakes : mid.Makes result after) (hfurnishes : Furnishes next result after) :
    base.Furnishing outer roots classId after where
  toFilling := h.toFilling.makes hmakes
  kept := hfurnishes.kept
  classed := by
    have hdata := hmakes.carries.data?_eq outer (Nat.zero_le _) (.root h.rooted)
    rw [← h.classed, classId?, classId?, storage?, Option.bind_some, hdata]
    rfl

theorem Furnishing.storeInner (h : base.Furnishing outer roots classId mid) (hbase : base.Sound)
    (houter : base.heap.store.issued ≤ outer) (hlayers : base.Layers levels) (hnext : next ∈ levels)
    (hinner : mid.classId? (some inner) = some next.classId) (index : Nat) :
    base.Furnishing outer roots classId (mid.storeInner outer index next.table inner) where
  toFilling := h.toFilling.storeInner hbase houter (isSome_get?_of_classId? hinner) index next.table
  kept := h.kept.storeInner (hlayers.extend (h.classes_eq ▸ .refl _)) hnext hinner outer index
  classed := by
    rw [classId?_storeInner]
    exact h.classed

theorem Furnishing.fill (hbase : base.Sound) (houter : base.heap.store.issued ≤ outer)
    (hlayers : base.Layers levels) (hnext : next ∈ levels)
    (hmake : ∀ mid : Machine, mid.Sound → mid.classes = base.classes →
      mid.Makes (makeInner.run mid).1 (makeInner.run mid).2)
    (hfurnish : ∀ mid : Machine, mid.TablesKept → mid.classes = base.classes →
      Furnishes next (makeInner.run mid).1 (makeInner.run mid).2)
    (count index : Nat) (h : base.Furnishing outer roots classId mid) :
    base.Furnishing outer roots classId
      ((Machine.fill outer next.table makeInner count index).run mid).2 := by
  induction count generalizing mid index with
  | zero => exact h
  | succ count ih =>
    have hmade := h.makes (hmake mid h.sound h.classes_eq) (hfurnish mid h.kept h.classes_eq)
    have hclassed := (hfurnish mid h.kept h.classes_eq).classed
    rw [run_fill_succ]
    split
    · rename_i inner after hinner
      rw [hinner] at hmade hclassed
      exact ih _ (hmade.storeInner hbase houter hlayers hnext (hclassed inner rfl) index)
    · rename_i error after hinner
      rw [hinner] at hmade
      exact hmade

theorem TablesKept.nested (h : machine.TablesKept) (hsuits : level.Suits machine.classes)
    (hlayers : machine.Layers levels) (hnext : next ∈ levels)
    (hmake : ∀ mid : Machine, mid.Sound → mid.classes = machine.classes →
      mid.Makes (makeInner.run mid).1 (makeInner.run mid).2)
    (hfurnish : ∀ mid : Machine, mid.TablesKept → mid.classes = machine.classes →
      Furnishes next (makeInner.run mid).1 (makeInner.run mid).2) :
    Furnishes level ((Machine.nested level next.table makeInner).run machine).1
      ((Machine.nested level next.table makeInner).run machine).2 := by
  have hmakes := h.sound.allocateFlat hsuits.lt_size
  have hflat := h.allocateFlat hsuits
  rw [run_nested]
  rcases hrun : (Machine.allocateFlat level).run machine with ⟨error | array, made⟩
  · rw [hrun] at hflat
    exact hflat
  rw [hrun] at hmakes hflat
  dsimp only
  rw [run_pushOperand]
  rcases hpush : made.heap.roots.shadow.push (.operand (some array)) with error | shadow
  · exact ⟨hflat.kept, nofun⟩
  dsimp only
  have hfilling := hmakes.filling hpush
  have hpushed : machine.Furnishing array { made.heap.roots with shadow } level.classId
      (made.withRoots { made.heap.roots with shadow }) := {
    toFilling := hfilling
    kept := hflat.kept.withRoots hfilling.sound
    classed := hflat.classed array rfl }
  have hfilled := Furnishing.fill h.sound (hmakes.fresh array rfl).1 hlayers hnext hmake hfurnish
    level.length 0 hpushed
  rcases hfill : (Machine.fill array next.table makeInner level.length 0).run
      (made.withRoots { made.heap.roots with shadow }) with ⟨error | ⟨⟩, filled⟩
  · rw [hfill] at hfilled
    exact ⟨hfilled.kept, nofun⟩
  · rw [hfill] at hfilled
    refine ⟨hfilled.kept, ?_⟩
    rintro id ⟨⟩
    exact hfilled.classed

/-- Arrays of all levels are stored with the tables of their classes. -/
theorem TablesKept.allocateLevels (h : machine.TablesKept)
    (hlayers : machine.Layers (level :: levels))
    (hsuits : ∀ each ∈ level :: levels, each.Suits machine.classes) :
    Furnishes level ((Machine.allocateLevels level levels).run machine).1
      ((Machine.allocateLevels level levels).run machine).2 := by
  induction levels generalizing level machine with
  | nil => exact h.allocateFlat (hsuits level (.head _))
  | cons next levels ih =>
    have hmake : ∀ mid : Machine, mid.Sound → mid.classes = machine.classes →
        mid.Makes ((Machine.allocateLevels next levels).run mid).1
          ((Machine.allocateLevels next levels).run mid).2 := by
      intro mid hmid hclasses
      apply hmid.allocateLevels
      intro each heach
      rw [hclasses]
      exact (hsuits each (.tail _ heach)).lt_size
    have hfurnish : ∀ mid : Machine, mid.TablesKept → mid.classes = machine.classes →
        Furnishes next ((Machine.allocateLevels next levels).run mid).1
          ((Machine.allocateLevels next levels).run mid).2 := by
      intro mid hmid hclasses
      apply ih hmid (hlayers.tail.extend (hclasses ▸ .refl _))
      intro each heach
      rw [hclasses]
      exact hsuits each (.tail _ heach)
    have hlevel := hsuits level (.head _)
    have hnested := h.nested hlevel hlayers.tail (.head _) hmake hfurnish
    have habove := h.sound.nested hlevel.lt_size hmake next.table
    have hclosed := (makes_inFrame habove).sound
    rw [allocateLevels_cons, run_inFrame_of_above habove]
    rw [run_inFrame_of_above habove] at hclosed
    exact ⟨hnested.kept.withRoots hclosed, hnested.classed⟩

theorem TablesKept.newArray (h : machine.TablesKept) (kind : Kind) (element : Option ClassId)
    (dimensions : List Int) : ((newArray kind element dimensions).run machine).2.TablesKept := by
  rw [run_newArray]
  rcases hplan : machine.planArray kind element dimensions with
    error | ⟨⟨outermost, inner⟩, planned⟩
  · exact h
  · obtain ⟨hplanned, hsuits⟩ := h.inShape.planArray hplan
    have hplans := plans_of_planArray h.sound.arrays_lt hplan
    have hkept : planned.TablesKept := by
      rw [hplans.eq_withClasses]
      exact h.grow hplanned.made hplans.grown
    exact (hkept.allocateLevels hplans.toLayers hsuits).kept

end Machine

end ManagedRuntime
