/-
  Array classes
  =============
  The array class of a class is the first descriptor with these elements
  (`Hierarchy.arrayClass?_eq_some_iff`).  First ones stay first when descriptors are added behind
  them, so an array class that was found once is found ever after (`Extends.arrayClass?_of_some`),
  and this makes it a cache.

  In a hierarchy with arrays under one class, nothing else makes array classes of references than
  asking for them, and each carries what was put into it when it was made
  (`MadeUnder.get?_of_elementClass?`).
-/
import ManagedRuntime.Proofs.Class.SubtypeOrder

namespace ManagedRuntime

namespace Hierarchy

variable {classes mid after old new : Hierarchy} {object id array element : ClassId}

/-! ### The first array class -/

theorem lt_size_of_elementClass? (h : classes.elementClass? id = some element) :
    id < classes.size := by
  obtain ⟨cls, hget, -⟩ := Option.bind_eq_some_iff.1 h
  exact lt_size_of_get? hget

theorem elementClass?_of_lt (hid : id < classes.size) :
    classes.elementClass? id = (classes.classes[id]).elementClass? := by
  rw [elementClass?, get?, Array.getElem?_eq_getElem hid, Option.bind_some]

theorem arrayClass?_eq_some_iff : classes.arrayClass? element = some array ↔
    classes.elementClass? array = some element ∧
      ∀ id, id < array → classes.elementClass? id ≠ some element := by
  rw [arrayClass?, Array.findIdx?_eq_some_iff_getElem]
  constructor
  · rintro ⟨hlt, hfound, hbefore⟩
    constructor
    · rw [elementClass?_of_lt hlt]
      exact eq_of_beq hfound
    · intro id hid helement
      rw [elementClass?_of_lt (Nat.lt_trans hid hlt)] at helement
      exact hbefore id hid (beq_iff_eq.2 helement)
  · rintro ⟨hfound, hbefore⟩
    have hlt := lt_size_of_elementClass? hfound
    rw [elementClass?_of_lt hlt] at hfound
    refine ⟨hlt, beq_iff_eq.2 hfound, ?_⟩
    intro id hid helement
    apply hbefore id hid
    rw [elementClass?_of_lt (Nat.lt_trans hid hlt)]
    exact eq_of_beq helement

/-- What was cached stays cached. -/
theorem Extends.arrayClass?_of_some (h : old.Extends new)
    (harray : old.arrayClass? element = some array) : new.arrayClass? element = some array := by
  have hlt := lt_size_of_arrayClass? harray
  rw [arrayClass?_eq_some_iff] at harray ⊢
  constructor
  · rw [h.elementClass?_eq hlt]
    exact harray.1
  · intro id hid
    rw [h.elementClass?_eq (Nat.lt_trans hid hlt)]
    exact harray.2 id hid

theorem arrayOf_of_some (h : classes.arrayClass? element = some array) (object : ClassId) :
    classes.arrayOf object element = (array, classes) := by
  rw [arrayOf, h]

/-- An array class that was asked for is cached. -/
theorem arrayClass?_arrayOf (classes : Hierarchy) (object element : ClassId) :
    (classes.arrayOf object element).2.arrayClass? element =
      some (classes.arrayOf object element).1 := by
  cases harray : classes.arrayClass? element with
  | some array => rw [arrayOf_of_some harray, harray]
  | none =>
    rw [arrayClass?_eq_some_iff]
    refine ⟨elementClass?_arrayOf classes object element, ?_⟩
    intro id hid
    rw [arrayOf, harray] at hid ⊢
    rw [(extends_push classes _).elementClass?_eq hid]
    exact arrayClass?_eq_none harray id

theorem extends_arrayOf (classes : Hierarchy) (object element : ClassId) :
    classes.Extends (classes.arrayOf object element).2 := by
  unfold Hierarchy.arrayOf
  split
  · exact .refl classes
  · exact extends_push ..

theorem arrayOf_lt_size (classes : Hierarchy) (object element : ClassId) :
    (classes.arrayOf object element).1 < (classes.arrayOf object element).2.size :=
  lt_size_of_arrayClass? (arrayClass?_arrayOf classes object element)

/-- The class of arrays of arrays, and so on, of a class, as far as these were made. -/
def nestedArray? (classes : Hierarchy) (element : ClassId) : (times : Nat) → Option ClassId
  | 0 => some element
  | times + 1 => (classes.nestedArray? element times).bind classes.arrayClass?

/-! ### Adding array classes -/

/-- One hierarchy grew out of another by asking for arrays of classes that exist. -/
inductive ArraysAdded (object : ClassId) (classes : Hierarchy) : Hierarchy → Prop where
  | refl : ArraysAdded object classes classes
  | arrayOf {mid : Hierarchy} {element : ClassId} :
      ArraysAdded object classes mid → element < mid.size →
      ArraysAdded object classes (mid.arrayOf object element).2

theorem ArraysAdded.grown (h : classes.ArraysAdded object after) : classes.Extends after := by
  induction h with
  | refl => exact .refl classes
  | arrayOf _ _ ih => exact ih.trans (extends_arrayOf ..)

theorem ArraysAdded.trans (hfirst : classes.ArraysAdded object mid)
    (hsecond : mid.ArraysAdded object after) : classes.ArraysAdded object after := by
  induction hsecond with
  | refl => exact hfirst
  | arrayOf _ helement ih => exact ih.arrayOf helement

theorem ArraysAdded.madeUnder (h : classes.ArraysAdded object after)
    (hclasses : classes.MadeUnder object) (hobject : object < classes.size) :
    after.MadeUnder object := by
  induction h with
  | refl => exact hclasses
  | arrayOf hadded helement ih =>
    exact ih.arrayOf (Nat.lt_of_lt_of_le hobject hadded.grown.size_le) helement

/-! ### What an array class carries -/

theorem Extends.arrayDescriptor_eq (h : old.Extends new) (hobject : object < old.size)
    (helement : element < old.size) :
    new.arrayDescriptor object (new.name element) (.references element) =
      old.arrayDescriptor object (old.name element) (.references element) := by
  rw [arrayDescriptor, name, table, h.get?_eq object hobject, h.get?_eq element helement,
    arrayDescriptor, name, table]

theorem exists_of_isArray (h : classes.isArray id) :
    ∃ cls, classes.get? id = some cls ∧ ∃ elements, cls.shape = .array elements := by
  obtain ⟨cls, hget, hkind⟩ := (Option.any_eq_true ..).1 h
  refine ⟨cls, hget, ?_⟩
  rcases hshape : cls.shape with _ | _ | elements
  · simp [Class.kind, hshape] at hkind
  · simp [Class.kind, hshape] at hkind
  · exact ⟨elements, rfl⟩

theorem MadeUnder.descriptor_extend {old new : Hierarchy} (h : old.MadeUnder object)
    (hgrown : old.Extends new) (helement : old.elementClass? id = some element)
    (hget : old.get? id =
      some (old.arrayDescriptor object (old.name element) (.references element))) :
    new.get? id = some (new.arrayDescriptor object (new.name element) (.references element)) := by
  have hlt := lt_size_of_elementClass? helement
  have hbefore := h.arraysUnder.element_lt id element helement
  have hobject := h.made.wellFormed.superclass?_lt
    (h.arraysUnder.superclass_eq id (isArray_of_elementClass? helement))
  rw [hgrown.get?_eq id hlt, hget, hgrown.arrayDescriptor_eq (Nat.lt_trans hobject hlt)
    (Nat.lt_trans hbefore hlt)]

theorem MadeUnder.get?_of_elementClass? (h : classes.MadeUnder object)
    (helement : classes.elementClass? id = some element) :
    classes.get? id =
      some (classes.arrayDescriptor object (classes.name element) (.references element)) := by
  induction h with
  | empty => simp [elementClass?, get?] at helement
  | @build classes after blueprint built hmade hbuild ih =>
    have houtcome := blueprint.outcome_build classes
    rw [hbuild] at houtcome
    cases houtcome with
    | built cls _ _ _ hafter _ hshape =>
      have hnew : cls.elementClass? = none := by
        rw [Blueprint.exactShape] at hshape
        split at hshape <;> simp [Class.elementClass?, hshape]
      have hid := helement
      rw [elementClass?_of_push hafter, hnew] at hid
      split at hid
      · cases hid
      · exact hmade.descriptor_extend (hmade.made.wellFormed.build hbuild).grown hid (ih hid)
  | @primitiveArray classes kind hmade hobject ih =>
    have hid := helement
    rw [elementClass?_of_push rfl] at hid
    split at hid
    · cases hid
    · exact hmade.descriptor_extend (extends_push ..) hid (ih hid)
  | @arrayOf classes asked hmade hobject hasked ih =>
    cases hfound : classes.arrayClass? asked with
    | some array =>
      rw [arrayOf_of_some hfound] at helement ⊢
      exact ih helement
    | none =>
      have hid := helement
      have hgrown := extends_arrayOf classes object asked
      rw [Hierarchy.arrayOf, hfound] at hid hgrown ⊢
      rw [elementClass?_of_push rfl] at hid
      split at hid
      · rename_i hnew
        cases hid
        rw [hgrown.arrayDescriptor_eq hobject hasked, get?_push, if_pos hnew]
      · exact hmade.descriptor_extend hgrown hid (ih hid)

/-! ### Primitive array classes -/

theorem shape?_of_push {cls : Class} (hpush : after.classes = classes.classes.push cls) :
    after.shape? id = if id = classes.size then some cls.shape else classes.shape? id := by
  rw [shape?, get?_of_push hpush]
  split
  · rfl
  · rfl

theorem shape?_eq_of_push {cls : Class} {kind : Primitive}
    (hpush : after.classes = classes.classes.push cls)
    (hcls : cls.shape ≠ .array (.primitive kind)) :
    after.shape? id = some (.array (.primitive kind)) ↔
      classes.shape? id = some (.array (.primitive kind)) := by
  rw [shape?_of_push hpush]
  split
  · rename_i hnew
    constructor
    · intro hshape
      exact absurd (Option.some.inj hshape) hcls
    · intro hshape
      obtain ⟨found, hget, -⟩ := Option.map_eq_some_iff.1 hshape
      exact absurd hnew (Nat.ne_of_lt (lt_size_of_get? hget))
  · rfl

/-- The primitive array classes of a table are all that there are. -/
def HoldsPrimitives (classes : Hierarchy) (table : ClassTable) : Prop :=
  ∀ id kind, classes.shape? id = some (.array (.primitive kind)) ↔
    table.primitiveArray? kind = some id

variable {table : ClassTable}

theorem HoldsPrimitives.build (h : classes.HoldsPrimitives table) {blueprint : Blueprint}
    (hbuild : classes.build blueprint = .ok (id, after)) : after.HoldsPrimitives table := by
  intro id kind
  have houtcome := blueprint.outcome_build classes
  rw [hbuild] at houtcome
  cases houtcome with
  | built cls _ _ _ hafter _ hshape =>
    rw [shape?_eq_of_push hafter, h id kind]
    rw [hshape, Blueprint.exactShape]
    split
    · intro hsame
      cases hsame
    · intro hsame
      cases hsame

theorem HoldsPrimitives.arrayOf (h : classes.HoldsPrimitives table) (object element : ClassId) :
    (classes.arrayOf object element).2.HoldsPrimitives table := by
  intro id kind
  unfold Hierarchy.arrayOf
  split
  · exact h id kind
  · rw [shape?_eq_of_push rfl, h id kind]
    intro hsame
    cases hsame

theorem ArraysAdded.holdsPrimitives (hadded : classes.ArraysAdded object after)
    (h : classes.HoldsPrimitives table) : after.HoldsPrimitives table := by
  induction hadded with
  | refl => exact h
  | arrayOf _ _ ih => exact ih.arrayOf _ _

end Hierarchy

theorem Primitive.getElem?_all (kind : Primitive) : all[kind.tag]? = some kind := by
  cases kind <;> rfl

namespace ClassTable

variable {classes : Hierarchy} {object : ClassId}

/-- Beyond the primitive array classes that were there, those of the table are made. -/
theorem exists_place_of_shape? {kinds : List Primitive} {kind : Primitive} {id : ClassId}
    (h : (makePrimitiveArrays object kinds classes).2.shape? id =
      some (.array (.primitive kind))) :
    classes.shape? id = some (.array (.primitive kind)) ∨
      ∃ place : Nat, kinds[place]? = some kind ∧
        (makePrimitiveArrays object kinds classes).1[place]? = some id := by
  induction kinds generalizing classes with
  | nil => exact .inl h
  | cons first kinds ih =>
    rcases ih h with hmid | ⟨place, hkind, hid⟩
    · rw [Hierarchy.shape?_of_push rfl] at hmid
      split at hmid
      · rename_i hnew
        cases hmid
        exact .inr ⟨0, rfl, congrArg some hnew.symm⟩
      · exact .inl hmid
    · exact .inr ⟨place + 1, hkind, hid⟩

theorem eq_tag_of_getElem?_all {place : Nat} {kind : Primitive}
    (h : Primitive.all[place]? = some kind) : place = kind.tag := by
  have hlt := (List.getElem?_eq_some_iff.1 h).1
  exact (List.getElem?_inj hlt (by decide)).1 (h.trans kind.getElem?_all.symm)

theorem shape?_makePrimitiveArrays (hclasses : classes.WellFormed) (hobject : object < classes.size)
    {kinds : List Primitive} {place : Nat} {kind : Primitive} {array : ClassId}
    (hkind : kinds[place]? = some kind)
    (harray : (makePrimitiveArrays object kinds classes).1[place]? = some array) :
    (makePrimitiveArrays object kinds classes).2.shape? array =
      some (.array (.primitive kind)) := by
  induction kinds generalizing classes place with
  | nil => cases hkind
  | cons first kinds ih =>
    have hpush := hclasses.pushArray hobject first.name (.primitive first)
    have hobject' := Nat.lt_of_lt_of_le hobject hpush.grown.size_le
    cases place with
    | zero =>
      obtain ⟨-, hgrown, -⟩ := grows_makePrimitiveArrays hpush.wellFormed hobject' kinds
      cases hkind
      cases harray
      apply hgrown.shape?_of_some
      rw [Hierarchy.shape?, Hierarchy.get?_push, if_pos rfl]
      rfl
    | succ place => exact ih hpush.wellFormed hobject' hkind harray

theorem shape?_primitiveArray? {core : CoreClasses} (hclasses : classes.WellFormed)
    (hobject : core.object < classes.size) {kind : Primitive} {array : ClassId}
    (harray : (new core classes).1.primitiveArray? kind = some array) :
    (new core classes).2.shape? array = some (.array (.primitive kind)) := by
  rw [primitiveArray?, primitiveArrays_new] at harray
  rw [hierarchy_new]
  exact shape?_makePrimitiveArrays hclasses hobject kind.getElem?_all harray

/-- A table over classes without primitive arrays holds all of them. -/
theorem holdsPrimitives_new {core : CoreClasses} (hclasses : classes.WellFormed)
    (hobject : core.object < classes.size)
    (hnone : ∀ id kind, classes.shape? id ≠ some (.array (.primitive kind))) :
    (new core classes).2.HoldsPrimitives (new core classes).1 := by
  intro id kind
  constructor
  · intro hshape
    rw [hierarchy_new] at hshape
    rcases exists_place_of_shape? hshape with hold | ⟨place, hkind, hid⟩
    · exact absurd hold (hnone id kind)
    · rw [primitiveArray?, primitiveArrays_new, ← eq_tag_of_getElem?_all hkind]
      exact hid
  · exact shape?_primitiveArray? hclasses hobject

end ClassTable

end ManagedRuntime
