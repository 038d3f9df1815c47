/-
  The subtype order
  =================
  The subtype test decides a relation that is declared by rules (`Hierarchy.Derives`): a class is
  below itself and its superclass, arrays of references follow their elements, and steps
  compose.  The test never composes anything.  It looks at the elements where both classes have
  some, and else at the chain alone, so what has to be shown is that no other derivation exists:
  all that is below an array of references is an array of references (`exists_element`), and above
  one stand only further arrays and the chain of the class that arrays derive from.

  The order is partial because an element class has a single array class.  Everything is about the
  hierarchies in which arrays derive from one class that is none (`Hierarchy.MadeUnder`).
-/
import ManagedRuntime.Class.Subtype
import ManagedRuntime.Proofs.Class.Layout

namespace ManagedRuntime

namespace Hierarchy

variable {classes after : Hierarchy} {object id array element sup sub : ClassId}

/-! ### Hierarchies with arrays under one class -/

/-- The hierarchies that come about by building classes and making array classes under `object`:
    those of primitive kinds, and those that are asked for. -/
inductive MadeUnder (object : ClassId) : Hierarchy → Prop where
  | empty : MadeUnder object {}
  | build {classes after : Hierarchy} {blueprint : Blueprint} {id : ClassId} :
      MadeUnder object classes → classes.build blueprint = .ok (id, after) → MadeUnder object after
  | primitiveArray {classes : Hierarchy} (kind : Primitive) :
      MadeUnder object classes → object < classes.size →
      MadeUnder object (classes.push
        (classes.arrayDescriptor object kind.name (.primitive kind))).2
  | arrayOf {classes : Hierarchy} {element : ClassId} :
      MadeUnder object classes → object < classes.size → element < classes.size →
      MadeUnder object (classes.arrayOf object element).2

theorem MadeUnder.made (h : classes.MadeUnder object) : classes.Made := by
  induction h with
  | empty => exact .empty
  | build _ hbuild ih => exact .build ih hbuild
  | primitiveArray kind _ hobject ih => exact .pushArray kind.name (.primitive kind) ih hobject
  | arrayOf _ hobject _ ih => exact ih.arrayOf hobject _

theorem MadeUnder.buildAll (h : classes.MadeUnder object) (blueprints : List Blueprint) :
    (classes.buildAll blueprints).MadeUnder object := by
  induction blueprints generalizing classes with
  | nil => exact h
  | cons blueprint blueprints ih =>
    rw [Hierarchy.buildAll]
    split
    · rename_i hbuild
      exact ih (h.build hbuild)
    · exact ih h

theorem MadeUnder.makePrimitiveArrays (h : classes.MadeUnder object)
    (hobject : object < classes.size) (kinds : List Primitive) :
    (ClassTable.makePrimitiveArrays object kinds classes).2.MadeUnder object := by
  induction kinds generalizing classes with
  | nil => exact h
  | cons kind kinds ih =>
    apply ih (h.primitiveArray kind hobject)
    rw [size_push]
    exact Nat.lt_succ_of_lt hobject

/-- A class table adds arrays under the root class of its core. -/
theorem MadeUnder.table {core : CoreClasses} (h : classes.MadeUnder core.object)
    (hobject : core.object < classes.size) :
    (ClassTable.new core classes).2.MadeUnder core.object :=
  h.makePrimitiveArrays hobject Primitive.all

/-! ### What is known of array classes -/

/-- How array classes stand in such a hierarchy. -/
structure ArraysUnder (object : ClassId) (classes : Hierarchy) : Prop where
  superclass_eq : ∀ id, classes.isArray id → classes.superclass? id = some object
  element_lt : ∀ id element, classes.elementClass? id = some element → element < id
  /-- An element class has one array class. -/
  unique : ∀ id id' element, classes.elementClass? id = some element →
    classes.elementClass? id' = some element → id = id'

theorem arraysUnder_empty : ArraysUnder object {} where
  superclass_eq id h := by simp [isArray, get?] at h
  element_lt id element h := by simp [elementClass?, get?] at h
  unique id id' element h := by simp [elementClass?, get?] at h

theorem elementClass?_of_push {cls : Class} (hpush : after.classes = classes.classes.push cls) :
    after.elementClass? id =
      if id = classes.size then cls.elementClass? else classes.elementClass? id := by
  rw [elementClass?, get?_of_push hpush]
  split
  · rfl
  · rfl

/-- A new array class has to derive from the one class, and to have new elements. -/
theorem ArraysUnder.push (h : classes.ArraysUnder object) {cls : Class}
    (hpush : after.classes = classes.classes.push cls)
    (hsuperclass : cls.kind = .array → cls.superclass = some object)
    (helement : ∀ element, cls.elementClass? = some element →
      element < classes.size ∧ ∀ id, classes.elementClass? id ≠ some element) :
    after.ArraysUnder object := by
  constructor
  · intro id hid
    rw [isArray, get?_of_push hpush] at hid
    rw [superclass?, get?_of_push hpush]
    split at hid
    · rename_i hnew
      rw [if_pos hnew]
      exact hsuperclass (by simpa using hid)
    · rename_i hold
      rw [if_neg hold]
      exact h.superclass_eq id hid
  · intro id element hid
    rw [elementClass?_of_push hpush] at hid
    split at hid
    · rename_i hnew
      rw [hnew]
      exact (helement element hid).1
    · exact h.element_lt id element hid
  · intro id id' element hid hid'
    rw [elementClass?_of_push hpush] at hid hid'
    split at hid <;> split at hid'
    · rename_i hnew hnew'
      rw [hnew, hnew']
    · exact absurd hid' ((helement element hid).2 id')
    · exact absurd hid ((helement element hid').2 id)
    · exact h.unique id id' element hid hid'

theorem ArraysUnder.arrayOf (h : classes.ArraysUnder object) (helement : element < classes.size) :
    (classes.arrayOf object element).2.ArraysUnder object := by
  unfold Hierarchy.arrayOf
  split
  · exact h
  · rename_i hnone
    apply h.push rfl
    · exact fun _ => rfl
    · rintro _ ⟨⟩
      exact ⟨helement, arrayClass?_eq_none hnone⟩

theorem MadeUnder.arraysUnder (h : classes.MadeUnder object) : classes.ArraysUnder object := by
  induction h with
  | empty => exact arraysUnder_empty
  | @build classes after blueprint built _ hbuild ih =>
    have houtcome := blueprint.outcome_build classes
    rw [hbuild] at houtcome
    cases houtcome with
    | built cls _ _ _ hafter _ hshape =>
      rw [Blueprint.exactShape] at hshape
      apply ih.push hafter
      · intro hkind
        split at hshape <;> simp [Class.kind, hshape] at hkind
      · intro element helement
        split at hshape <;> simp [Class.elementClass?, hshape] at helement
  | primitiveArray kind _ _ ih =>
    apply ih.push rfl
    · exact fun _ => rfl
    · rintro _ ⟨⟩
  | arrayOf _ _ helement ih => exact ih.arrayOf helement

theorem ArraysUnder.arrayClass?_eq_some_iff (h : classes.ArraysUnder object) :
    classes.arrayClass? element = some array ↔ classes.elementClass? array = some element := by
  constructor
  · exact elementClass?_of_arrayClass?
  · intro harray
    cases hfound : classes.arrayClass? element with
    | none => exact absurd harray (arrayClass?_eq_none hfound array)
    | some found =>
      rw [h.unique found array element (elementClass?_of_arrayClass? hfound) harray]

theorem isArray_of_elementClass? (h : classes.elementClass? id = some element) :
    classes.isArray id := by
  obtain ⟨cls, hget, helement⟩ := Option.bind_eq_some_iff.1 h
  unfold Class.elementClass? at helement
  split at helement
  · rename_i hshape
    simp [isArray, hget, Class.kind, hshape]
  · cases helement

/-! ### Chains past array classes -/

/-- No class derives from an array class. -/
theorem MadeUnder.isArray_superclass (h : classes.MadeUnder object)
    (hobject : classes.isArray object = false) {superclass : ClassId}
    (hsuperclass : classes.superclass? id = some superclass) :
    classes.isArray superclass = false := by
  cases harray : classes.isArray id with
  | true =>
    obtain rfl := Option.some.inj ((h.arraysUnder.superclass_eq id harray).symm.trans hsuperclass)
    exact hobject
  | false =>
    obtain ⟨cls, hget, hcls⟩ := exists_of_superclass? hsuperclass
    obtain ⟨blueprint, hdeclares⟩ := h.made.exists_declares hget (by
      intro hkind
      simp [isArray, hget, hkind] at harray)
    obtain ⟨found, hfound, hsame, -, hbase⟩ := hdeclares.exists_descriptor
    obtain rfl : cls = found := Option.some.inj (hget.symm.trans hfound)
    obtain ⟨base, hbaseGet, hkind⟩ :=
      exists_of_isInstances (hbase superclass (hsame.symm.trans hcls))
    simp [isArray, hbaseGet, hkind]

theorem MadeUnder.eq_of_mem_chain (h : classes.MadeUnder object)
    (hobject : classes.isArray object = false) (hsup : classes.isArray sup)
    (hmem : sup ∈ classes.chain sub) : sup = sub := by
  induction sub using h.made.wellFormed.chain_induction with
  | root sub hnone => rwa [chain_of_none hnone, List.mem_singleton] at hmem
  | derived sub superclass hsome ih =>
    rw [h.made.wellFormed.chain_of_some hsome, List.mem_cons] at hmem
    rcases hmem with hmem | hmem
    · exact hmem
    · have hsuperclass := h.isArray_superclass hobject hsome
      rw [← ih hmem, hsup] at hsuperclass
      cases hsuperclass

theorem MadeUnder.chain_of_isArray (h : classes.MadeUnder object) (hid : classes.isArray id) :
    classes.chain id = id :: classes.chain object :=
  h.made.wellFormed.chain_of_some (h.arraysUnder.superclass_eq id hid)

/-! ### Equations of the test -/

/-- Elements stand before their arrays, so they run out within as many steps as an array class
    has predecessors. -/
theorem ArraysUnder.isSubclassWithin_eq (h : classes.ArraysUnder object) {steps : Nat}
    (hsteps : sub < steps) :
    classes.isSubclassWithin steps sup sub = classes.isSubclass sup sub := by
  induction sub using Nat.strongRecOn generalizing sup steps with
  | ind sub ih =>
    cases steps with
    | zero => exact absurd hsteps (Nat.not_lt_zero sub)
    | succ more =>
      rw [isSubclass, isSubclassWithin, isSubclassWithin]
      cases classes.elementClass? sup with
      | none => rfl
      | some supElement =>
        cases hsub : classes.elementClass? sub with
        | none => rfl
        | some subElement =>
          have hlt : subElement < sub := h.element_lt sub subElement hsub
          have hmore : subElement < more := Nat.lt_of_lt_of_le hlt (Nat.le_of_lt_succ hsteps)
          dsimp only
          rw [ih subElement hlt hmore, ih subElement hlt hlt]

@[simp] theorem isSubclass_self (classes : Hierarchy) (id : ClassId) :
    classes.isSubclass id id := by
  simp [isSubclass, isSubclassWithin]

theorem ArraysUnder.isSubclass_of_elements (h : classes.ArraysUnder object)
    {supElement subElement : ClassId} (hsup : classes.elementClass? sup = some supElement)
    (hsub : classes.elementClass? sub = some subElement) :
    classes.isSubclass sup sub = classes.isSubclass supElement subElement := by
  have hlt : subElement < sub := h.element_lt sub subElement hsub
  rw [isSubclass, isSubclassWithin, hsup, hsub]
  dsimp only
  rw [h.isSubclassWithin_eq hlt]
  by_cases hsame : sup = sub
  · subst hsame
    cases hsup.symm.trans hsub
    simp
  · simp [hsame]

/-- All others compare by the chain. -/
theorem isSubclass_iff_mem_chain
    (h : classes.elementClass? sup = none ∨ classes.elementClass? sub = none) :
    classes.isSubclass sup sub ↔ sup ∈ classes.chain sub := by
  have hchain : (classes.isSubclass sup sub : Prop) ↔ sup = sub ∨ sup ∈ classes.chain sub := by
    rw [isSubclass, isSubclassWithin]
    rcases h with hnone | hnone
    · simp [hnone]
    · cases classes.elementClass? sup <;> simp [hnone]
  rw [hchain]
  constructor
  · rintro (rfl | hmem)
    · exact mem_chain_self classes sup
    · exact hmem
  · exact .inr

/-- Whatever is below an array of references is one, with elements below its elements. -/
theorem MadeUnder.exists_element (h : classes.MadeUnder object)
    (hobject : classes.isArray object = false) (hbelow : classes.isSubclass sup sub)
    {supElement : ClassId} (hsup : classes.elementClass? sup = some supElement) :
    ∃ subElement, classes.elementClass? sub = some subElement ∧
      classes.isSubclass supElement subElement := by
  cases hsub : classes.elementClass? sub with
  | some subElement =>
    rw [h.arraysUnder.isSubclass_of_elements hsup hsub] at hbelow
    exact ⟨subElement, rfl, hbelow⟩
  | none =>
    have hmem := (isSubclass_iff_mem_chain (.inr hsub)).1 hbelow
    obtain rfl := h.eq_of_mem_chain hobject (isArray_of_elementClass? hsup) hmem
    cases hsub.symm.trans hsup

/-! ### The test is a partial order -/

/-- Reflexivity is `isSubclass_self`.  In a composition that ends at an array of references all
    three are arrays of references.  In any other the last step is one in a chain, and the first
    one is too, unless it compares two arrays, which have the same chain above them. -/
theorem MadeUnder.isSubclass_trans (h : classes.MadeUnder object)
    (hobject : classes.isArray object = false) {low mid high : ClassId}
    (hlow : classes.isSubclass mid low) (hhigh : classes.isSubclass high mid) :
    classes.isSubclass high low := by
  induction high using Nat.strongRecOn generalizing low mid with
  | ind high ih =>
    cases helement : classes.elementClass? high with
    | some highElement =>
      obtain ⟨midElement, hmid, hhighElement⟩ := h.exists_element hobject hhigh helement
      obtain ⟨lowElement, hlow', hlowElement⟩ := h.exists_element hobject hlow hmid
      rw [h.arraysUnder.isSubclass_of_elements helement hlow']
      exact ih highElement (h.arraysUnder.element_lt high highElement helement) hlowElement
        hhighElement
    | none =>
      have hmem := (isSubclass_iff_mem_chain (.inl helement)).1 hhigh
      rw [isSubclass_iff_mem_chain (.inl helement)]
      cases hmid : classes.elementClass? mid with
      | none =>
        exact h.made.wellFormed.mem_chain_trans hmem
          ((isSubclass_iff_mem_chain (.inl hmid)).1 hlow)
      | some midElement =>
        obtain ⟨lowElement, hlow', -⟩ := h.exists_element hobject hlow hmid
        rw [h.chain_of_isArray (isArray_of_elementClass? hmid), List.mem_cons] at hmem
        rw [h.chain_of_isArray (isArray_of_elementClass? hlow'), List.mem_cons]
        rcases hmem with rfl | hmem
        · cases helement.symm.trans hmid
        · exact .inr hmem

theorem MadeUnder.isSubclass_antisymm (h : classes.MadeUnder object)
    (hobject : classes.isArray object = false) (hbelow : classes.isSubclass sup sub)
    (habove : classes.isSubclass sub sup) : sup = sub := by
  induction sup using Nat.strongRecOn generalizing sub with
  | ind sup ih =>
    cases hsup : classes.elementClass? sup with
    | some supElement =>
      obtain ⟨subElement, hsub, hbelow'⟩ := h.exists_element hobject hbelow hsup
      rw [h.arraysUnder.isSubclass_of_elements hsub hsup] at habove
      obtain rfl := ih supElement (h.arraysUnder.element_lt sup supElement hsup) hbelow' habove
      exact h.arraysUnder.unique sup sub supElement hsup hsub
    | none =>
      exact Nat.le_antisymm
        (h.made.wellFormed.le_of_mem_chain ((isSubclass_iff_mem_chain (.inl hsup)).1 hbelow))
        (h.made.wellFormed.le_of_mem_chain ((isSubclass_iff_mem_chain (.inr hsup)).1 habove))

/-! ### The declared relation -/

/-- The least relation with these rules; the first class is below the second. -/
inductive Derives (classes : Hierarchy) : (sub sup : ClassId) → Prop where
  | refl (id : ClassId) : Derives classes id id
  | trans {low mid high : ClassId} :
      Derives classes low mid → Derives classes mid high → Derives classes low high
  | superclass {id superclass : ClassId} :
      classes.superclass? id = some superclass → Derives classes id superclass
  | arrays {sub sup subArray supArray : ClassId} :
      Derives classes sub sup → classes.arrayClass? sub = some subArray →
      classes.arrayClass? sup = some supArray → Derives classes subArray supArray

theorem MadeUnder.derives_of_mem_chain (h : classes.MadeUnder object)
    (hmem : sup ∈ classes.chain sub) : classes.Derives sub sup := by
  induction sub using h.made.wellFormed.chain_induction with
  | root sub hnone =>
    rw [chain_of_none hnone, List.mem_singleton] at hmem
    rw [hmem]
    exact .refl sub
  | derived sub superclass hsome ih =>
    rw [h.made.wellFormed.chain_of_some hsome, List.mem_cons] at hmem
    rcases hmem with rfl | hmem
    · exact .refl sup
    · exact .trans (.superclass hsome) (ih hmem)

theorem MadeUnder.derives_of_isSubclass (h : classes.MadeUnder object)
    (hobject : classes.isArray object = false) (hbelow : classes.isSubclass sup sub) :
    classes.Derives sub sup := by
  induction sup using Nat.strongRecOn generalizing sub with
  | ind sup ih =>
    cases hsup : classes.elementClass? sup with
    | some supElement =>
      obtain ⟨subElement, hsub, hbelow'⟩ := h.exists_element hobject hbelow hsup
      have hderives := ih supElement (h.arraysUnder.element_lt sup supElement hsup) hbelow'
      exact hderives.arrays (h.arraysUnder.arrayClass?_eq_some_iff.2 hsub)
        (h.arraysUnder.arrayClass?_eq_some_iff.2 hsup)
    | none => exact h.derives_of_mem_chain ((isSubclass_iff_mem_chain (.inl hsup)).1 hbelow)

theorem MadeUnder.isSubclass_of_derives (h : classes.MadeUnder object)
    (hobject : classes.isArray object = false) (hderives : classes.Derives sub sup) :
    classes.isSubclass sup sub := by
  induction hderives with
  | refl id => exact isSubclass_self classes id
  | trans _ _ hlow hhigh => exact h.isSubclass_trans hobject hlow hhigh
  | @superclass id superclass hsuperclass =>
    have hchain := h.made.wellFormed.chain_of_some hsuperclass
    have hnone : classes.elementClass? superclass = none := by
      cases helement : classes.elementClass? superclass with
      | none => rfl
      | some element =>
        have harray := h.isArray_superclass hobject hsuperclass
        rw [isArray_of_elementClass? helement] at harray
        cases harray
    rw [isSubclass_iff_mem_chain (.inl hnone), hchain]
    exact .tail _ (mem_chain_self classes superclass)
  | arrays _ hsub hsup ih =>
    rwa [h.arraysUnder.isSubclass_of_elements (elementClass?_of_arrayClass? hsup)
      (elementClass?_of_arrayClass? hsub)]

/-! ### Growth -/

/-- Classes that are added later do not change how the older ones compare. -/
theorem MadeUnder.isSubclass_grown (h : classes.MadeUnder object) (hgrown : classes.Extends after)
    (hsup : sup < classes.size) (hsub : sub < classes.size) :
    after.isSubclass sup sub = classes.isSubclass sup sub := by
  suffices hwithin : ∀ steps, after.isSubclassWithin steps sup sub =
      classes.isSubclassWithin steps sup sub from hwithin (sub + 1)
  intro steps
  induction steps generalizing sup sub with
  | zero => rfl
  | succ steps ih =>
    rw [isSubclassWithin, isSubclassWithin, hgrown.elementClass?_eq hsup,
      hgrown.elementClass?_eq hsub, hgrown.chain_eq h.made.wellFormed hsub]
    cases hsupElement : classes.elementClass? sup with
    | none => rfl
    | some supElement =>
      cases hsubElement : classes.elementClass? sub with
      | none => rfl
      | some subElement =>
        dsimp only
        rw [ih (Nat.lt_trans (h.arraysUnder.element_lt sup supElement hsupElement) hsup)
          (Nat.lt_trans (h.arraysUnder.element_lt sub subElement hsubElement) hsub)]

theorem MadeUnder.isSubclass_arrayOf (h : classes.MadeUnder object)
    (hobject : object < classes.size) (hsup : sup < classes.size) (hsub : sub < classes.size) :
    let first := classes.arrayOf object sup
    let second := first.2.arrayOf object sub
    second.2.isSubclass first.1 second.1 = classes.isSubclass sup sub := by
  intro first second
  have hfirst : classes.Grows first.1 first.2 := h.made.wellFormed.arrayOf hobject sup
  have hobject' : object < first.2.size := Nat.lt_of_lt_of_le hobject hfirst.grown.size_le
  have hsub' : sub < first.2.size := Nat.lt_of_lt_of_le hsub hfirst.grown.size_le
  have hsecond : first.2.Grows second.1 second.2 := hfirst.wellFormed.arrayOf hobject' sub
  have hmade : second.2.MadeUnder object := (h.arrayOf hobject hsup).arrayOf hobject' hsub'
  have hsupElement : second.2.elementClass? first.1 = some sup := by
    rw [hsecond.grown.elementClass?_eq hfirst.lt_size]
    exact elementClass?_arrayOf classes object sup
  rw [hmade.arraysUnder.isSubclass_of_elements hsupElement
    (elementClass?_arrayOf first.2 object sub)]
  exact h.isSubclass_grown (hfirst.grown.trans hsecond.grown) hsup hsub

/-! ### The order as a whole -/

/-- What the subtype test is in a hierarchy with arrays under one class. -/
structure SubtypeOrder (object : ClassId) (classes : Hierarchy) : Prop where
  isSubclass_iff : ∀ sup sub, classes.isSubclass sup sub ↔ classes.Derives sub sup
  refl : ∀ id, classes.isSubclass id id
  trans : ∀ low mid high, classes.isSubclass mid low → classes.isSubclass high mid →
    classes.isSubclass high low
  antisymm : ∀ sup sub, classes.isSubclass sup sub → classes.isSubclass sub sup → sup = sub
  arrays_iff : ∀ sup sub supArray subArray, classes.arrayClass? sup = some supArray →
    classes.arrayClass? sub = some subArray →
    (classes.isSubclass supArray subArray ↔ classes.isSubclass sup sub)
  /-- The same where the array classes are still to be made. -/
  arrayOf_eq : ∀ sup sub, object < classes.size → sup < classes.size → sub < classes.size →
    let first := classes.arrayOf object sup
    let second := first.2.arrayOf object sub
    second.2.isSubclass first.1 second.1 = classes.isSubclass sup sub
  object_above : ∀ id, classes.isArray id → classes.isSubclass object id
  kinds_apart : ∀ id id' kind kind', classes.shape? id = some (.array (.primitive kind)) →
    classes.shape? id' = some (.array (.primitive kind')) → kind ≠ kind' →
    classes.isSubclass id id' = false

theorem primitive_of_shape? {kind : Primitive}
    (h : classes.shape? id = some (.array (.primitive kind))) :
    classes.isArray id ∧ classes.elementClass? id = none := by
  obtain ⟨cls, hget, hshape⟩ := Option.map_eq_some_iff.1 h
  constructor
  · simp [isArray, hget, Class.kind, hshape]
  · simp [elementClass?, hget, Class.elementClass?, hshape]

theorem MadeUnder.kinds_apart (h : classes.MadeUnder object)
    (hobject : classes.isArray object = false) {id' : ClassId} {kind kind' : Primitive}
    (hid : classes.shape? id = some (.array (.primitive kind)))
    (hid' : classes.shape? id' = some (.array (.primitive kind'))) (hne : kind ≠ kind') :
    classes.isSubclass id id' = false := by
  obtain ⟨harray, hnone⟩ := primitive_of_shape? hid
  rw [← Bool.not_eq_true]
  intro hbelow
  have hmem := (isSubclass_iff_mem_chain (.inl hnone)).1 hbelow
  obtain rfl := h.eq_of_mem_chain hobject harray hmem
  cases hid.symm.trans hid'
  exact hne rfl

theorem MadeUnder.isSubclass_object (h : classes.MadeUnder object)
    (hobject : classes.isArray object = false) (hid : classes.isArray id) :
    classes.isSubclass object id :=
  h.isSubclass_of_derives hobject (.superclass (h.arraysUnder.superclass_eq id hid))

/-- However the classes and arrays of a system were made, the subtype test decides the declared
    relation, and this is a partial order that arrays of references follow. -/
theorem subtype_order (h : classes.MadeUnder object) (hobject : classes.isArray object = false) :
    classes.SubtypeOrder object where
  isSubclass_iff _ _ :=
    ⟨h.derives_of_isSubclass hobject, h.isSubclass_of_derives hobject⟩
  refl := isSubclass_self classes
  trans _ _ _ hlow hhigh := h.isSubclass_trans hobject hlow hhigh
  antisymm _ _ hbelow habove := h.isSubclass_antisymm hobject hbelow habove
  arrays_iff sup sub supArray subArray hsup hsub := by
    rw [h.arraysUnder.isSubclass_of_elements (elementClass?_of_arrayClass? hsup)
      (elementClass?_of_arrayClass? hsub)]
  arrayOf_eq _ _ hlt hsup hsub := h.isSubclass_arrayOf hlt hsup hsub
  object_above _ hid := h.isSubclass_object hobject hid
  kinds_apart _ _ _ _ hid hid' hne := h.kinds_apart hobject hid hid' hne

/-- Two root classes and a class below the first. -/
def nestedRoots : Hierarchy :=
  Hierarchy.buildAll {}
    [{ name := "Object" }, { name := "Shape", superclass := some 0 }, { name := "Stray" }]

def nestedCore : CoreClasses :=
  ⟨0, 0, 0⟩

/-- Arrays of arrays of the first root and of the class below it. -/
def nestedArrays : Hierarchy :=
  let table := (ClassTable.new nestedCore nestedRoots).2
  let objects := (table.arrayOf 0 0).2
  let shapes := (objects.arrayOf 0 1).2
  let objectRows := (shapes.arrayOf 0 11).2
  (objectRows.arrayOf 0 12).2

theorem nestedArrays_made : nestedArrays.MadeUnder 0 := by
  have hroots : nestedRoots.MadeUnder nestedCore.object := MadeUnder.empty.buildAll _
  have htable := hroots.table (by decide)
  apply MadeUnder.arrayOf
  · apply MadeUnder.arrayOf
    · apply MadeUnder.arrayOf
      · exact htable.arrayOf (by decide +kernel) (by decide +kernel)
      · decide +kernel
      · decide +kernel
    · decide +kernel
    · decide +kernel
  · decide +kernel
  · decide +kernel

/-- The class of arrays of arrays of shapes is below that for objects and, since arrays are
    objects, below arrays of objects, but not below arrays of shapes or the other root. -/
theorem subtype_order_nested :
    (nestedArrays.MadeUnder 0 ∧ nestedArrays.isArray 0 = false ∧
      nestedArrays.isSubclass 13 14 ∧ nestedArrays.isSubclass 11 14 ∧
      nestedArrays.isSubclass 12 14 = false ∧ nestedArrays.isSubclass 2 14 = false) ∧
      nestedArrays.SubtypeOrder 0 :=
  ⟨⟨nestedArrays_made, by decide +kernel, by decide +kernel, by decide +kernel,
    by decide +kernel, by decide +kernel⟩, subtype_order nestedArrays_made (by decide +kernel)⟩

end Hierarchy

end ManagedRuntime
