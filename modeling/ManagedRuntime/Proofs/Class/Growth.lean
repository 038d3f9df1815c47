/-
  Growth of the hierarchy
  =======================
  What every hierarchy has that can be made (`Hierarchy.WellFormed`): a superclass stands
  before its subclasses, and the fields of a class lie behind the class word.

  Descriptors are only ever added (`Hierarchy.Extends`), so what was said of a class
  when it was made stays true: its chain, its fields and its element class never change.
-/
import ManagedRuntime.Class.Table

namespace ManagedRuntime

namespace Hierarchy

variable {classes old mid new : Hierarchy} {id : ClassId}

/-! ### Reading what was added -/

theorem isSome_get?_iff : (classes.get? id).isSome ↔ id < classes.size := by
  rw [get?, size, isSome_getElem?]

theorem lt_size_of_get? {cls : Class} (h : classes.get? id = some cls) : id < classes.size :=
  isSome_get?_iff.1 (by rw [h]; rfl)

theorem exists_of_superclass? {superclass : ClassId}
    (h : classes.superclass? id = some superclass) :
    ∃ cls, classes.get? id = some cls ∧ cls.superclass = some superclass :=
  Option.bind_eq_some_iff.1 h

/-! ### Extension -/

/-- One hierarchy grew out of another: the descriptors of the old one stand in the new one
    under the same names. -/
structure Extends (old new : Hierarchy) : Prop where
  size_le : old.size ≤ new.size
  get?_eq : ∀ id, id < old.size → new.get? id = old.get? id

theorem Extends.refl (classes : Hierarchy) : classes.Extends classes :=
  ⟨Nat.le_refl _, fun _ _ => rfl⟩

theorem Extends.trans (hold : old.Extends mid) (hnew : mid.Extends new) : old.Extends new where
  size_le := Nat.le_trans hold.size_le hnew.size_le
  get?_eq id hid := by
    rw [hnew.get?_eq id (Nat.lt_of_lt_of_le hid hold.size_le), hold.get?_eq id hid]

theorem size_push (classes : Hierarchy) (cls : Class) :
    (classes.push cls).2.size = classes.size + 1 :=
  Array.size_push ..

theorem extends_push (classes : Hierarchy) (cls : Class) :
    classes.Extends (classes.push cls).2 where
  size_le := by
    rw [size_push]
    exact Nat.le_succ _
  get?_eq id hid := by rw [get?_push, if_neg (Nat.ne_of_lt hid)]

theorem extends_newTable (classes : Hierarchy) (methods : List Method) :
    classes.Extends (classes.newTable methods).2 where
  size_le := Nat.le_refl _
  get?_eq _ _ := rfl

/-! ### Well-formedness -/

/-- What holds in every hierarchy that can be made. -/
structure WellFormed (classes : Hierarchy) : Prop where
  /-- A superclass stands before its subclasses. -/
  superclass_lt : ∀ id cls, classes.get? id = some cls →
    ∀ superclass, cls.superclass = some superclass → superclass < id
  /-- The fields of an instance class lie behind the class word and within the instance. -/
  fields_within : ∀ id cls, classes.get? id = some cls →
    ∀ size fields, cls.shape = .instances size fields →
      classWordSize ≤ fields.offset ∧ fields.offset ≤ size

theorem wellFormed_empty : ({} : Hierarchy).WellFormed where
  superclass_lt id cls h := by simp [get?] at h
  fields_within id cls h := by simp [get?] at h

/-- A new descriptor has to fit the descriptors that exist. -/
theorem WellFormed.push (hclasses : classes.WellFormed) {cls : Class}
    (hsuperclass : ∀ superclass, cls.superclass = some superclass → superclass < classes.size)
    (hfields : ∀ size fields, cls.shape = .instances size fields →
      classWordSize ≤ fields.offset ∧ fields.offset ≤ size) :
    (classes.push cls).2.WellFormed where
  superclass_lt id found hget superclass h := by
    rw [get?_push] at hget
    split at hget
    · rename_i hid
      cases hget
      rw [hid]
      exact hsuperclass superclass h
    · exact hclasses.superclass_lt id found hget superclass h
  fields_within id found hget size fields h := by
    rw [get?_push] at hget
    split at hget
    · cases hget
      exact hfields size fields h
    · exact hclasses.fields_within id found hget size fields h

theorem WellFormed.newTable (hclasses : classes.WellFormed) (methods : List Method) :
    (classes.newTable methods).2.WellFormed where
  superclass_lt := hclasses.superclass_lt
  fields_within := hclasses.fields_within

/-- Own fields do not overlap the class word. -/
theorem WellFormed.le_offset (hclasses : classes.WellFormed) {id : ClassId}
    (h : 0 < (classes.fields id).count) : classWordSize ≤ (classes.fields id).offset := by
  unfold fields at h ⊢
  rcases hget : classes.get? id with _ | cls
  · rw [hget] at h
    cases h
  · rw [hget] at h
    dsimp only at h ⊢
    unfold Class.fields at h ⊢
    cases hshape : cls.shape with
    | instances size fields => exact (hclasses.fields_within id cls hget size fields hshape).1
    | interface =>
      rw [hshape] at h
      cases h
    | array element =>
      rw [hshape] at h
      cases h

/-! ### What stays true of a class -/

theorem Extends.superclass?_eq (h : old.Extends new) (hid : id < old.size) :
    new.superclass? id = old.superclass? id := by
  rw [superclass?, superclass?, h.get?_eq id hid]

theorem Extends.elementClass?_eq (h : old.Extends new) (hid : id < old.size) :
    new.elementClass? id = old.elementClass? id := by
  rw [elementClass?, elementClass?, h.get?_eq id hid]

theorem Extends.isArray_eq (h : old.Extends new) (hid : id < old.size) :
    new.isArray id = old.isArray id := by
  rw [isArray, isArray, h.get?_eq id hid]

theorem Extends.fields_eq (h : old.Extends new) (hid : id < old.size) :
    new.fields id = old.fields id := by
  rw [fields, fields, h.get?_eq id hid]

theorem WellFormed.superclass?_lt (hclasses : classes.WellFormed) {superclass : ClassId}
    (h : classes.superclass? id = some superclass) : superclass < id := by
  obtain ⟨cls, hget, hsuperclass⟩ := exists_of_superclass? h
  exact hclasses.superclass_lt id cls hget superclass hsuperclass

/-- The classes of a chain stand before the class or are the class itself. -/
theorem WellFormed.le_of_mem_chainWithin (hclasses : classes.WellFormed) {steps : Nat}
    {level : ClassId} (h : level ∈ classes.chainWithin steps id) : level ≤ id := by
  induction steps generalizing id with
  | zero => cases h
  | succ steps ih =>
    rw [chainWithin, List.mem_cons] at h
    rcases h with rfl | h
    · exact Nat.le_refl _
    · cases hsuperclass : classes.superclass? id with
      | none =>
        rw [hsuperclass] at h
        cases h
      | some superclass =>
        rw [hsuperclass] at h
        exact Nat.le_trans (ih h) (Nat.le_of_lt (hclasses.superclass?_lt hsuperclass))

/-- A chain leads through older classes only, so it does not see new ones. -/
theorem Extends.chainWithin_eq (h : old.Extends new) (hold : old.WellFormed) (steps : Nat)
    (hid : id < old.size) : new.chainWithin steps id = old.chainWithin steps id := by
  induction steps generalizing id with
  | zero => rfl
  | succ steps ih =>
    rw [chainWithin, chainWithin, h.superclass?_eq hid]
    cases hsuperclass : old.superclass? id with
    | none => rfl
    | some superclass =>
      have hlt : superclass < id := hold.superclass?_lt hsuperclass
      dsimp only
      rw [ih (Nat.lt_trans hlt hid)]

theorem Extends.chain_eq (h : old.Extends new) (hold : old.WellFormed) (hid : id < old.size) :
    new.chain id = old.chain id :=
  h.chainWithin_eq hold (id + 1) hid

theorem WellFormed.lt_size_of_mem_chain (hclasses : classes.WellFormed) {level : ClassId}
    (hid : id < classes.size) (h : level ∈ classes.chain id) : level < classes.size :=
  Nat.lt_of_le_of_lt (hclasses.le_of_mem_chainWithin h) hid

end Hierarchy

/-! ### Array classes -/

namespace Hierarchy

variable {classes : Hierarchy} {object : ClassId}

/-- How a hierarchy grows when a class is added or looked up: it stays well-formed, and
    the class is in it. -/
structure Grows (classes : Hierarchy) (id : ClassId) (after : Hierarchy) : Prop where
  wellFormed : after.WellFormed
  grown : classes.Extends after
  lt_size : id < after.size

theorem WellFormed.pushArray (hclasses : classes.WellFormed) (hobject : object < classes.size)
    (name : String) (element : ElementType) :
    classes.Grows (classes.push (classes.arrayDescriptor object name element)).1
      (classes.push (classes.arrayDescriptor object name element)).2 where
  wellFormed := by
    apply hclasses.push
    · rintro superclass ⟨⟩
      exact hobject
    · rintro size fields ⟨⟩
  grown := extends_push classes _
  lt_size := by
    rw [size_push]
    exact Nat.lt_succ_self _

theorem lt_size_of_arrayClass? {element array : ClassId}
    (h : classes.arrayClass? element = some array) : array < classes.size :=
  (Array.findIdx?_eq_some_iff_getElem.1 h).1

theorem arrayClass?_eq_none {element : ClassId} (h : classes.arrayClass? element = none)
    (id : ClassId) : classes.elementClass? id ≠ some element := by
  intro hid
  obtain ⟨cls, hget, helement⟩ := Option.bind_eq_some_iff.1 hid
  obtain ⟨hlt, hcls⟩ := Array.getElem?_eq_some_iff.1 hget
  have hfind := Array.findIdx?_eq_none_iff.1 h cls (hcls ▸ Array.getElem_mem hlt)
  simp [helement] at hfind

theorem elementClass?_of_arrayClass? {element array : ClassId}
    (h : classes.arrayClass? element = some array) :
    classes.elementClass? array = some element := by
  obtain ⟨hlt, helement, -⟩ := Array.findIdx?_eq_some_iff_getElem.1 h
  rw [elementClass?, get?, Array.getElem?_eq_getElem hlt, Option.bind_some]
  simpa using helement

/-- Asking for an array class gives one with these elements, found or made. -/
theorem elementClass?_arrayOf (classes : Hierarchy) (object element : ClassId) :
    (classes.arrayOf object element).2.elementClass? (classes.arrayOf object element).1 =
      some element := by
  unfold Hierarchy.arrayOf
  split
  · rename_i hsome
    exact elementClass?_of_arrayClass? hsome
  · rw [elementClass?, get?_push]
    simp [push, arrayDescriptor, Class.elementClass?]

theorem WellFormed.arrayOf (hclasses : classes.WellFormed) (hobject : object < classes.size)
    (element : ClassId) :
    classes.Grows (classes.arrayOf object element).1 (classes.arrayOf object element).2 := by
  unfold Hierarchy.arrayOf
  split
  · rename_i array harray
    exact ⟨hclasses, .refl classes, lt_size_of_arrayClass? harray⟩
  · exact hclasses.pushArray hobject ..

/-! ### Built classes -/

theorem extends_entries (implemented : List (ClassId × List Method)) (classes : Hierarchy) :
    classes.Extends (Blueprint.entries implemented classes).2 := by
  induction implemented generalizing classes with
  | nil => exact .refl classes
  | cons entry rest ih => exact (extends_newTable classes entry.2).trans (ih _)

theorem WellFormed.entries (hclasses : classes.WellFormed)
    (implemented : List (ClassId × List Method)) :
    (Blueprint.entries implemented classes).2.WellFormed := by
  induction implemented generalizing classes with
  | nil => exact hclasses
  | cons entry rest ih => exact ih (hclasses.newTable entry.2)

end Hierarchy

namespace Blueprint

variable {classes : Hierarchy} {blueprint : Blueprint}

/-- A blueprint without a defect names an instance class as its superclass, or none. -/
theorem exists_superclass (h : blueprint.defect? classes = none) {superclass : ClassId}
    (hsuperclass : blueprint.superclass = some superclass) :
    ∃ cls size fields, classes.get? superclass = some cls ∧ cls.shape = .instances size fields := by
  unfold defect? at h
  split at h
  · cases h
  · rename_i hsound
    rw [hsuperclass, Option.any_some, Bool.not_eq_true', Bool.not_eq_false] at hsound
    obtain ⟨cls, hget, hkind⟩ := (Option.any_eq_true ..).1 hsound
    cases hshape : cls.shape with
    | instances size fields => exact ⟨cls, size, fields, hget, hshape⟩
    | interface => simp [Class.kind, hshape] at hkind
    | array element => simp [Class.kind, hshape] at hkind

theorem le_fieldsOffset (hclasses : classes.WellFormed) (h : blueprint.defect? classes = none) :
    classWordSize ≤ blueprint.fieldsOffset classes := by
  unfold fieldsOffset
  cases hsuperclass : blueprint.superclass with
  | none => exact Nat.le_refl _
  | some superclass =>
    obtain ⟨cls, size, fields, hget, hshape⟩ := exists_superclass h hsuperclass
    obtain ⟨hword, hsize⟩ := hclasses.fields_within superclass cls hget size fields hshape
    rw [Option.bind_some, hget]
    simp only [Class.instanceSize, hshape]
    exact Nat.le_trans hword hsize

/-- An instance has room for the fields of its superclasses. -/
theorem fieldsOffset_le {size : Nat} (h : blueprint.instanceSize classes = .ok size) :
    blueprint.fieldsOffset classes ≤ size := by
  unfold instanceSize at h
  rcases hend : (blueprint.layout classes).wordEnd with fault | fieldsEnd
  · rw [hend] at h
    cases h
  rw [hend] at h
  rcases hbytes : addWord fieldsEnd blueprint.primitiveBytes with fault | bytes
  · simp only [bind, Except.bind, hbytes] at h
    cases h
  simp only [bind, Except.bind, hbytes] at h
  have hpadded : bytes ≤ size := le_of_alignUp h
  obtain ⟨-, rfl⟩ := addWord_eq_ok_iff.1 hbytes
  have hfields : blueprint.fieldsOffset classes ≤ fieldsEnd := by
    unfold FieldLayout.wordEnd FieldLayout.wordOffsetOf at hend
    rcases hslots : mulWord (blueprint.layout classes).count slotSize with fault | slots
    · rw [hslots] at hend
      cases hend
    · rw [hslots] at hend
      obtain ⟨-, rfl⟩ := addWord_eq_ok_iff.1 hend
      exact Nat.le_add_right ..
  omega

end Blueprint

namespace Hierarchy

variable {classes after : Hierarchy} {id : ClassId} {object : ClassId}

theorem WellFormed.build (hclasses : classes.WellFormed) {blueprint : Blueprint}
    (h : classes.build blueprint = .ok (id, after)) : classes.Grows id after := by
  unfold Hierarchy.build at h
  split at h
  · cases h
  rename_i hdefect
  split at h
  · cases h
  rename_i shape hshape
  have hentries : (Blueprint.entries blueprint.implemented classes).2.WellFormed :=
    hclasses.entries _
  have hgrown : classes.Extends (Blueprint.entries blueprint.implemented classes).2 :=
    extends_entries ..
  cases h
  refine ⟨?_, ?_, ?_⟩
  · apply (hentries.newTable blueprint.methods).push
    · intro superclass hsuperclass
      obtain ⟨cls, size, fields, hget, -⟩ := Blueprint.exists_superclass hdefect hsuperclass
      exact Nat.lt_of_lt_of_le (lt_size_of_get? hget) hgrown.size_le
    · intro size fields hinstances
      obtain rfl : shape = .instances size fields := hinstances
      unfold Blueprint.shape at hshape
      split at hshape
      · cases hshape
      · rcases hsize : blueprint.instanceSize classes with fault | bytes
        · rw [hsize] at hshape
          cases hshape
        · rw [hsize] at hshape
          cases hshape
          exact ⟨Blueprint.le_fieldsOffset hclasses hdefect, Blueprint.fieldsOffset_le hsize⟩
  · exact (hgrown.trans (extends_newTable _ blueprint.methods)).trans (extends_push ..)
  · exact Nat.lt_of_lt_of_eq (Nat.lt_succ_self _) (size_push ..).symm

/-! ### Hierarchies that can be made -/

/-- The hierarchies that come about from nothing by building classes and making array
    classes. -/
inductive Made : Hierarchy → Prop where
  | empty : Made {}
  | build {classes after : Hierarchy} {blueprint : Blueprint} {id : ClassId} :
      Made classes → classes.build blueprint = .ok (id, after) → Made after
  | pushArray {classes : Hierarchy} {object : ClassId} (name : String) (element : ElementType) :
      Made classes → object < classes.size →
      Made (classes.push (classes.arrayDescriptor object name element)).2

theorem Made.wellFormed (h : classes.Made) : classes.WellFormed := by
  induction h with
  | empty => exact wellFormed_empty
  | build _ hbuild ih => exact (ih.build hbuild).wellFormed
  | pushArray name element _ hobject ih => exact (ih.pushArray hobject name element).wellFormed

theorem Made.arrayOf (h : classes.Made) (hobject : object < classes.size) (element : ClassId) :
    (classes.arrayOf object element).2.Made := by
  unfold Hierarchy.arrayOf
  split
  · exact h
  · exact .pushArray _ _ h hobject

theorem Made.bootstrap (h : classes.Made) {core : CoreClasses}
    (hcore : CoreClasses.bootstrap classes = .ok (core, after)) :
    after.Made ∧ core.object < after.size := by
  unfold CoreClasses.bootstrap at hcore
  rcases hobject : classes.build { name := "java.lang.Object" } with error | ⟨object, first⟩
  · rw [hobject] at hcore
    cases hcore
  simp only [hobject, bind, Except.bind] at hcore
  rcases hnull : first.build (CoreClasses.underRoot object "java.lang.NullPointerException") with
    error | ⟨nullReference, second⟩
  · rw [hnull] at hcore
    cases hcore
  simp only [hnull] at hcore
  rcases hbounds : second.build
      (CoreClasses.underRoot object "java.lang.ArrayIndexOutOfBoundsException") with
    error | ⟨indexOutOfBounds, third⟩
  · rw [hbounds] at hcore
    cases hcore
  simp only [hbounds] at hcore
  cases hcore
  have hfirst : first.Made := .build h hobject
  have hsecond : second.Made := .build hfirst hnull
  refine ⟨.build hsecond hbounds, ?_⟩
  have hgrown :=
    (hfirst.wellFormed.build hnull).grown.trans (hsecond.wellFormed.build hbounds).grown
  exact Nat.lt_of_lt_of_le (h.wellFormed.build hobject).lt_size hgrown.size_le

end Hierarchy

/-! ### The class table -/

namespace ClassTable

/-- The primitive array classes are in the hierarchy that their making leaves. -/
theorem grows_makePrimitiveArrays {classes : Hierarchy} {object : ClassId}
    (hclasses : classes.WellFormed) (hobject : object < classes.size) (kinds : List Primitive) :
    (makePrimitiveArrays object kinds classes).2.WellFormed ∧
      classes.Extends (makePrimitiveArrays object kinds classes).2 ∧
      ∀ id ∈ (makePrimitiveArrays object kinds classes).1,
        id < (makePrimitiveArrays object kinds classes).2.size := by
  induction kinds generalizing classes with
  | nil => exact ⟨hclasses, .refl classes, nofun⟩
  | cons kind kinds ih =>
    have hpush := hclasses.pushArray hobject kind.name (.primitive kind)
    obtain ⟨hafter, hgrown, harrays⟩ :=
      ih hpush.wellFormed (Nat.lt_of_lt_of_le hobject hpush.grown.size_le)
    refine ⟨hafter, hpush.grown.trans hgrown, ?_⟩
    intro id hid
    rcases List.mem_cons.1 hid with rfl | hid
    · exact Nat.lt_of_lt_of_le hpush.lt_size hgrown.size_le
    · exact harrays id hid

theorem made_makePrimitiveArrays {classes : Hierarchy} {object : ClassId} (hclasses : classes.Made)
    (hobject : object < classes.size) (kinds : List Primitive) :
    (makePrimitiveArrays object kinds classes).2.Made := by
  induction kinds generalizing classes with
  | nil => exact hclasses
  | cons kind kinds ih =>
    apply ih (hclasses.pushArray kind.name (.primitive kind) hobject)
    rw [Hierarchy.size_push]
    exact Nat.lt_succ_of_lt hobject

/-- Registering classes changes nothing but the names. -/
theorem foldl_register (classes : Hierarchy) (ids : List ClassId) (table : ClassTable) :
    (ids.foldl (·.register classes ·) table).core = table.core ∧
      (ids.foldl (·.register classes ·) table).primitiveArrays = table.primitiveArrays := by
  induction ids generalizing table with
  | nil => exact ⟨rfl, rfl⟩
  | cons id ids ih => exact ih (table.register classes id)

theorem core_new (core : CoreClasses) (classes : Hierarchy) : (new core classes).1.core = core :=
  (foldl_register ..).1

theorem hierarchy_new (core : CoreClasses) (classes : Hierarchy) :
    (new core classes).2 = (makePrimitiveArrays core.object Primitive.all classes).2 :=
  rfl

theorem primitiveArrays_new (core : CoreClasses) (classes : Hierarchy) :
    (new core classes).1.primitiveArrays =
      (makePrimitiveArrays core.object Primitive.all classes).1 :=
  (foldl_register ..).2

end ClassTable

end ManagedRuntime
