/-
  The identity of array classes
  =============================
  Classes are compared by identity, so there must never be two classes of arrays of the same
  elements.  Two sorts of requests make array classes, direct ones and the plans of arrays of
  several dimensions, in any order and with whatever else happens in between.  Once a class of
  arrays is there, all of them answer with it (`Machine.YieldsAgain`), and no other array class is
  ever made (`Machine.ArrayClassesKnown`).
-/
import ManagedRuntime.Proofs.Machine.Plans
import ManagedRuntime.Proofs.Machine.Safety
import ManagedRuntime.Proofs.Machine.Sessions

namespace ManagedRuntime

namespace ClassTable

theorem length_makePrimitiveArrays (object : ClassId) (kinds : List Primitive)
    (classes : Hierarchy) : (makePrimitiveArrays object kinds classes).1.length = kinds.length := by
  induction kinds generalizing classes with
  | nil => rfl
  | cons kind kinds ih => exact congrArg (· + 1) (ih _)

theorem isSome_primitiveArray?_new (core : CoreClasses) (classes : Hierarchy) (kind : Primitive) :
    ((new core classes).1.primitiveArray? kind).isSome := by
  rw [primitiveArray?, primitiveArrays_new, isSome_getElem?, length_makePrimitiveArrays]
  exact (List.getElem?_eq_some_iff.1 kind.getElem?_all).1

end ClassTable

namespace Machine

variable {machine base after : Machine} {command : Command} {element array : ClassId}

/-! ### The invariant -/

/-- A program can name only classes that exist. -/
def Names (machine : Machine) : Command → Prop
  | .step (.operation (.arrayOf element)) => element < machine.classes.size
  | .step (.operation (.newArray _ element _)) =>
    ∀ id, element = some id → id < machine.classes.size
  | _ => True

/-- Arrays derive from the root class, and the primitive ones are those of the table. -/
structure ArraysKept (machine : Machine) : Prop where
  madeUnder : machine.classes.MadeUnder machine.rootClass
  rootClass_lt : machine.rootClass < machine.classes.size
  root_plain : machine.classes.isArray machine.rootClass = false
  arrays_lt : ∀ id ∈ machine.table.primitiveArrays, id < machine.classes.size
  primitives : machine.classes.HoldsPrimitives machine.table
  complete : ∀ kind, (machine.table.primitiveArray? kind).isSome

theorem ArraysKept.sameClasses (h : base.ArraysKept) (hsame : base.SameClasses machine) :
    machine.ArraysKept := by
  obtain ⟨classes, table, heap⟩ := machine
  obtain ⟨rfl, rfl⟩ : classes = base.classes ∧ table = base.table := hsame
  exact ⟨h.madeUnder, h.rootClass_lt, h.root_plain, h.arrays_lt, h.primitives, h.complete⟩

theorem ArraysKept.grow (h : machine.ArraysKept) {classes : Hierarchy}
    (hmade : classes.MadeUnder machine.rootClass) (hgrown : machine.classes.Extends classes)
    (hprimitives : classes.HoldsPrimitives machine.table) :
    (machine.withClasses classes).ArraysKept where
  madeUnder := hmade
  rootClass_lt := Nat.lt_of_lt_of_le h.rootClass_lt hgrown.size_le
  root_plain := (hgrown.isArray_eq h.rootClass_lt).trans h.root_plain
  arrays_lt id hid := Nat.lt_of_lt_of_le (h.arrays_lt id hid) hgrown.size_le
  primitives := hprimitives
  complete := h.complete

theorem ArraysKept.added (h : machine.ArraysKept) {classes : Hierarchy}
    (hadded : machine.classes.ArraysAdded machine.rootClass classes) :
    (machine.withClasses classes).ArraysKept :=
  h.grow (hadded.madeUnder h.madeUnder h.rootClass_lt) hadded.grown
    (hadded.holdsPrimitives h.primitives)

/-- The classes that a step needs are array classes of classes that exist. -/
theorem added_prepared (harrays : ∀ id ∈ machine.table.primitiveArrays, id < machine.classes.size)
    {step : Step} (hnames : machine.Names (.step step)) :
    machine.classes.ArraysAdded machine.rootClass (machine.prepared step).classes := by
  unfold prepared
  split
  · exact .arrayOf .refl hnames
  · split
    · rename_i hplan
      exact added_of_planArray harrays hnames hplan
    · exact .refl
  · exact .refl

theorem ArraysKept.prepared (h : machine.ArraysKept) {step : Step}
    (hnames : machine.Names (.step step)) : (machine.prepared step).ArraysKept := by
  rw [eq_withClasses_prepared]
  exact h.added (added_prepared h.arrays_lt hnames)

theorem ArraysKept.obey (h : machine.ArraysKept) (hnames : machine.Names command) :
    (machine.obey command).ArraysKept ∧
      machine.classes.Extends (machine.obey command).classes := by
  cases command with
  | build blueprint =>
    rcases machine.obey_build blueprint with hsame | ⟨id, classes, hbuild, hbuilt⟩
    · rw [hsame]
      exact ⟨h, .refl _⟩
    · have hgrown := (h.madeUnder.made.wellFormed.build hbuild).grown
      rw [hbuilt]
      exact ⟨h.grow (h.madeUnder.build hbuild) hgrown (h.primitives.build hbuild), hgrown⟩
  | register id =>
    exact ⟨⟨h.madeUnder, h.rootClass_lt, h.root_plain, h.arrays_lt, h.primitives, h.complete⟩,
      .refl _⟩
  | step step =>
    have hsame := machine.sameClasses_step step
    refine ⟨(h.prepared hnames).sameClasses hsame, ?_⟩
    rw [obey, hsame.1]
    exact machine.extends_prepared step

theorem ArraysKept.obeyAll (h : machine.ArraysKept) {commands : List Command}
    (hcommands : Along Names machine commands) :
    (machine.obeyAll commands).ArraysKept ∧
      machine.classes.Extends (machine.obeyAll commands).classes := by
  refine hcommands.induction
    (fun after => after.ArraysKept ∧ machine.classes.Extends after.classes) ?_ ⟨h, .refl _⟩
  intro mid command hmid hnames
  obtain ⟨hafter, hgrown⟩ := hmid.1.obey hnames
  exact ⟨hafter, hmid.2.trans hgrown⟩

/-! ### Requests -/

/-- Whoever asks for arrays of `element` gets `array`, and who asks for arrays of another class does
    not: directly, or through the dimensions of a new array. -/
structure YieldsAgain (machine : Machine) (element array : ClassId) : Prop where
  direct : ∀ asked, (machine.arrayOf asked).1 = array ↔ asked = element
  /-- A construction runs with the levels that are planned for it.  Of each two neighbours the outer
      one has the class of arrays of the class of the inner one, and innermost there are the arrays
      of the class that was named. -/
  planned : ∀ kind named dimensions outermost inner planned,
    machine.planArray kind named dimensions = .ok ((outermost, inner), planned) →
    (newArray kind named dimensions).run machine =
        (allocateLevels outermost inner).run planned ∧
      (∀ outer next, [outer, next] <:+: outermost :: inner →
        (outer.classId = array ↔ next.classId = element)) ∧
      ∀ last, (outermost :: inner).getLast? = some last →
        (last.classId = array ↔ kind = .reference ∧ named = some element)

theorem ArraysKept.arrayClass?_iff (h : machine.ArraysKept) :
    machine.classes.arrayClass? element = some array ↔
      machine.classes.elementClass? array = some element :=
  h.madeUnder.arraysUnder.arrayClass?_eq_some_iff

/-- Two classes with the same array class are the same. -/
theorem eq_of_arrayClass? {classes : Hierarchy} {other : ClassId}
    (h : classes.arrayClass? element = some array)
    (hother : classes.arrayClass? other = some array) : other = element := by
  have hsame := (Hierarchy.elementClass?_of_arrayClass? hother).symm.trans
    (Hierarchy.elementClass?_of_arrayClass? h)
  exact Option.some.inj hsame

theorem arrayOf_eq_iff (h : machine.classes.arrayClass? element = some array) (asked : ClassId) :
    (machine.arrayOf asked).1 = array ↔ asked = element := by
  have hgrown := Hierarchy.extends_arrayOf machine.classes machine.rootClass asked
  have hasked := Hierarchy.arrayClass?_arrayOf machine.classes machine.rootClass asked
  have hlater := hgrown.arrayClass?_of_some h
  constructor
  · intro hsame
    have hsame' : (machine.classes.arrayOf machine.rootClass asked).1 = array := hsame
    rw [hsame'] at hasked
    exact eq_of_arrayClass? hlater hasked
  · rintro rfl
    exact Option.some.inj (hasked.symm.trans hlater)

theorem innermost_eq_iff {kind : Kind} {named : Option ClassId} {innermost : ClassId}
    (hprimitives : ∀ kind id, machine.table.primitiveArray? kind = some id →
      machine.classes.shape? id = some (.array (.primitive kind)))
    (hinnermost : machine.innermost? kind named = some innermost)
    (harray : machine.classes.arrayClass? element = some array) :
    innermost = array ↔ kind = .reference ∧ named = some element := by
  cases kind with
  | primitive kind =>
    constructor
    · rintro rfl
      obtain ⟨-, hnone⟩ := Hierarchy.primitive_of_shape? (hprimitives kind _ hinnermost)
      rw [Hierarchy.elementClass?_of_arrayClass? harray] at hnone
      cases hnone
    · rintro ⟨⟨⟩, -⟩
  | reference =>
    cases named with
    | none => cases hinnermost
    | some base =>
      change machine.classes.arrayClass? base = some innermost at hinnermost
      constructor
      · rintro rfl
        exact ⟨rfl, congrArg some (eq_of_arrayClass? harray hinnermost)⟩
      · rintro ⟨-, ⟨⟩⟩
        exact Option.some.inj (hinnermost.symm.trans harray)

theorem ArraysKept.yieldsAgain (h : machine.ArraysKept)
    (harray : machine.classes.arrayClass? element = some array) :
    machine.YieldsAgain element array where
  direct := arrayOf_eq_iff harray
  planned kind named dimensions outermost inner planned hplan := by
    have hplans := plans_of_planArray h.arrays_lt hplan
    have hlater := hplans.grown.arrayClass?_of_some harray
    refine ⟨?_, ?_, ?_⟩
    · rw [run_newArray, hplan]
    · intro outer next hnext
      have hnested := List.IsChain.infix hplans.nested hnext
      have hpair := (List.isChain_pair.1 hnested).2
      constructor
      · rintro rfl
        exact eq_of_arrayClass? hlater hpair
      · intro hsame
        rw [hsame] at hpair
        exact Option.some.inj (hpair.symm.trans hlater)
    · intro last hlast
      refine innermost_eq_iff ?_ (hplans.innermost last hlast).2 hlater
      rw [hplans.eq_withClasses]
      intro kind id hid
      exact hplans.grown.shape?_of_some ((h.primitives id kind).2 hid)

/-! ### What array classes there are -/

/-- What a class of arrays of `element` holds. -/
structure DerivedArray (machine : Machine) (element : ClassId) (cls : Class) : Prop where
  name_eq : cls.name = "[" ++ machine.classes.name element
  superclass_eq : cls.superclass = some machine.rootClass
  table_eq : cls.table = machine.classes.table machine.rootClass
  interfaces_eq : cls.interfaces = []
  fields_eq : cls.fields.count = 0
  elementKind_eq : cls.elementKind? = some .reference
  elementClass_eq : cls.elementClass? = some element

/-- The array classes of a machine. -/
structure ArrayClassesKnown (machine : Machine) : Prop where
  primitive_or_cached : ∀ id, machine.classes.isArray id →
    (∃ kind, machine.table.primitiveArray? kind = some id) ∨
      ∃ element, machine.classes.elementClass? id = some element ∧
        machine.classes.arrayClass? element = some id
  primitives : machine.classes.HoldsPrimitives machine.table
  complete : ∀ kind, (machine.table.primitiveArray? kind).isSome
  derived : ∀ id element, machine.classes.elementClass? id = some element →
    ∃ cls, machine.classes.get? id = some cls ∧ machine.DerivedArray element cls
  injective : ∀ element other array, machine.classes.arrayClass? element = some array →
    machine.classes.arrayClass? other = some array → element = other
  never_superclass : ∀ id superclass, machine.classes.superclass? id = some superclass →
    machine.classes.isArray superclass = false
  cached : ∀ element, (machine.arrayOf element).2.classes.arrayClass? element =
    some (machine.arrayOf element).1

theorem ArraysKept.primitive_or_cached (h : machine.ArraysKept) {id : ClassId}
    (hid : machine.classes.isArray id) :
    (∃ kind, machine.table.primitiveArray? kind = some id) ∨
      ∃ element, machine.classes.elementClass? id = some element ∧
        machine.classes.arrayClass? element = some id := by
  obtain ⟨cls, hget, elements, hshape⟩ := Hierarchy.exists_of_isArray hid
  cases elements with
  | primitive kind =>
    refine .inl ⟨kind, (h.primitives id kind).1 ?_⟩
    rw [Hierarchy.shape?, hget, Option.map_some, hshape]
  | references element =>
    have helement : machine.classes.elementClass? id = some element := by
      rw [Hierarchy.elementClass?, hget, Option.bind_some, Class.elementClass?, hshape]
    exact .inr ⟨element, helement, h.arrayClass?_iff.2 helement⟩

theorem ArraysKept.derivedArray (h : machine.ArraysKept) {id : ClassId}
    (helement : machine.classes.elementClass? id = some element) :
    ∃ cls, machine.classes.get? id = some cls ∧ machine.DerivedArray element cls :=
  ⟨_, h.madeUnder.get?_of_elementClass? helement, rfl, rfl, rfl, rfl, rfl, rfl, rfl⟩

theorem ArraysKept.arrayClassesKnown (h : machine.ArraysKept) : machine.ArrayClassesKnown where
  primitive_or_cached _ := h.primitive_or_cached
  primitives := h.primitives
  complete := h.complete
  derived _ _ := h.derivedArray
  injective _ _ _ harray hother := eq_of_arrayClass? hother harray
  never_superclass _ _ := h.madeUnder.isArray_superclass h.root_plain
  cached element := Hierarchy.arrayClass?_arrayOf machine.classes machine.rootClass element

/-! ### Sessions -/

variable {config : HeapConfig} {system : SystemMemory} {cells : Cells} {issued : Nat}
variable {core : CoreClasses} {classes : Hierarchy}

theorem arraysKept_new (hclasses : classes.MadeUnder core.object)
    (hcore : core.object < classes.size) (hroot : classes.isArray core.object = false)
    (hnone : ∀ id kind, classes.shape? id ≠ some (.array (.primitive kind)))
    (hnew : new config system cells issued core classes = .ok machine) : machine.ArraysKept := by
  obtain rfl := eq_ofHeap_of_new hnew
  have hwellFormed := hclasses.made.wellFormed
  have hrootClass : (ofHeap (.empty config system cells issued) core classes).rootClass =
      core.object := by
    rw [rootClass]
    exact congrArg CoreClasses.object (ClassTable.core_new core classes)
  obtain ⟨-, hgrown, harrays⟩ :=
    ClassTable.grows_makePrimitiveArrays hwellFormed hcore Primitive.all
  constructor
  · rw [hrootClass]
    exact hclasses.table hcore
  · rw [hrootClass]
    exact Nat.lt_of_lt_of_le hcore hgrown.size_le
  · rw [hrootClass]
    exact (hgrown.isArray_eq hcore).trans hroot
  · change ∀ id ∈ (ClassTable.new core classes).1.primitiveArrays, _
    rw [ClassTable.primitiveArrays_new]
    exact harrays
  · exact ClassTable.holdsPrimitives_new hwellFormed hcore hnone
  · exact ClassTable.isSome_primitiveArray?_new core classes

/-- Through whatever happens to a machine there is one array class for each primitive kind and at
    most one for each class, and one that was made once is what all later requests answer with. -/
theorem array_classes_identified (hclasses : classes.MadeUnder core.object)
    (hcore : core.object < classes.size) (hroot : classes.isArray core.object = false)
    (hnone : ∀ id kind, classes.shape? id ≠ some (.array (.primitive kind)))
    (hnew : new config system cells issued core classes = .ok machine)
    {commands later : List Command} (hcommands : Along Names machine (commands ++ later)) :
    (machine.obeyAll commands).ArrayClassesKnown ∧
      (machine.obeyAll commands).classes.Extends (machine.obeyAll (commands ++ later)).classes ∧
      ∀ element array, (machine.obeyAll commands).classes.arrayClass? element = some array →
        (machine.obeyAll (commands ++ later)).YieldsAgain element array := by
  obtain ⟨hfirst, hlater⟩ := hcommands.split
  have hreached := ((arraysKept_new hclasses hcore hroot hnone hnew).obeyAll hfirst).1
  obtain ⟨hafter, hgrown⟩ := hreached.obeyAll hlater
  rw [obeyAll_append]
  refine ⟨hreached.arrayClassesKnown, hgrown, ?_⟩
  intro element array harray
  exact hafter.yieldsAgain (hgrown.arrayClass?_of_some harray)

/-- A machine over two root classes and a class below the first. -/
def shapesMachine : Machine :=
  ofHeap (.empty pairConfig .unlimited {} 0) Hierarchy.nestedCore Hierarchy.nestedRoots

theorem shapesMachine_new :
    new pairConfig .unlimited {} 0 Hierarchy.nestedCore Hierarchy.nestedRoots =
      .ok shapesMachine :=
  rfl

/-- Arrays of shapes, and then arrays of arrays of these, for which there is no room. -/
def shapesFirst : List Command :=
  [.step (.operation (.arrayOf 1)),
    .step (.operation (.newArray .reference (some 11) [1000000, 1]))]

def shapesLater : List Command :=
  [.build { name := "Circle", superclass := some 1 },
    .step (.operation (.newArray (.primitive .int) none [2, 2])), .register 12,
    .step (.operation (.arrayOf 14)), .step (.operation (.newArray .reference (some 1) [2, 1, 0]))]

theorem shapes_names : Along Names shapesMachine (shapesFirst ++ shapesLater) := by
  refine ⟨?_, ?_, trivial, ?_, trivial, ?_, ?_, trivial⟩
  · change 1 < Hierarchy.size _
    decide +kernel
  · rintro _ ⟨⟩
    decide +kernel
  · rintro _ ⟨⟩
  · change 14 < Hierarchy.size _
    decide +kernel
  · rintro _ ⟨⟩
    decide +kernel

/-- The class of arrays of arrays of shapes, made by the failed construction, is the one that all
    later ones use. -/
theorem array_classes_identified_of_shapes :
    (Hierarchy.nestedRoots.MadeUnder Hierarchy.nestedCore.object ∧
      Hierarchy.nestedCore.object < Hierarchy.nestedRoots.size ∧
      Hierarchy.nestedRoots.isArray Hierarchy.nestedCore.object = false ∧
      (∀ id kind, Hierarchy.nestedRoots.shape? id ≠ some (.array (.primitive kind))) ∧
      new pairConfig .unlimited {} 0 Hierarchy.nestedCore Hierarchy.nestedRoots =
        .ok shapesMachine ∧
      Along Names shapesMachine (shapesFirst ++ shapesLater) ∧
      (shapesMachine.obeyAll shapesFirst).classes.arrayClass? 11 = some 12) ∧
    (shapesMachine.obeyAll shapesFirst).ArrayClassesKnown ∧
      (shapesMachine.obeyAll (shapesFirst ++ shapesLater)).YieldsAgain 11 12 := by
  have hmade : Hierarchy.nestedRoots.MadeUnder Hierarchy.nestedCore.object :=
    Hierarchy.MadeUnder.empty.buildAll _
  have hcore : Hierarchy.nestedCore.object < Hierarchy.nestedRoots.size := by decide +kernel
  have hroot : Hierarchy.nestedRoots.isArray Hierarchy.nestedCore.object = false := by
    decide +kernel
  have hnone : ∀ id kind, Hierarchy.nestedRoots.shape? id ≠ some (.array (.primitive kind)) := by
    intro id kind hshape
    have hplain : ∀ id < 3, Hierarchy.nestedRoots.isArray id = false := by decide +kernel
    have harray := (Hierarchy.primitive_of_shape? hshape).1
    obtain ⟨cls, hget, -⟩ := Option.map_eq_some_iff.1 hshape
    have hid : id < 3 := Hierarchy.lt_size_of_get? hget
    rw [hplain id hid] at harray
    cases harray
  have harray : (shapesMachine.obeyAll shapesFirst).classes.arrayClass? 11 = some 12 := by
    decide +kernel
  obtain ⟨hknown, -, hagain⟩ := array_classes_identified hmade hcore hroot hnone
    shapesMachine_new shapes_names
  exact ⟨⟨hmade, hcore, hroot, hnone, shapesMachine_new, shapes_names, harray⟩, hknown,
    hagain 11 12 harray⟩

end Machine

end ManagedRuntime
