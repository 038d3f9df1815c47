/-
  Look-up in a session
  ====================
  Which class a name stands for depends on the order in which classes were registered, and on which
  classes of arrays were asked for since, directly or by the dimensions of new arrays.  After any
  session the table of a machine answers by the classes that it registered itself, followed by those
  that the session registered (`Machine.names_looked_up`).
-/
import ManagedRuntime.Proofs.Class.Lookup
import ManagedRuntime.Proofs.Machine.ArrayIdentity

namespace ManagedRuntime

namespace Machine

variable {machine base : Machine} {registered : List ClassId} {command : Command}

/-- A program can name and register only classes that exist. -/
def NamesExisting (machine : Machine) : Command → Prop
  | .register id => id < machine.classes.size
  | command => machine.Names command

/-- The class that a command registers, if it does. -/
def Command.registered? : Command → Option ClassId
  | .register id => some id
  | _ => none

/-- The table of a machine holds what was registered with it. -/
structure NamesKept (machine : Machine) (registered : List ClassId) : Prop where
  assembled : machine.classes.Assembled
  rootClass_lt : machine.rootClass < machine.classes.size
  arrays_lt : ∀ id ∈ machine.table.primitiveArrays, id < machine.classes.size
  registered_lt : ∀ id ∈ registered, id < machine.classes.size
  registers : machine.table.Registers machine.classes registered

theorem NamesKept.sameClasses (h : base.NamesKept registered) (hsame : base.SameClasses machine) :
    machine.NamesKept registered := by
  obtain ⟨classes, table, heap⟩ := machine
  obtain ⟨rfl, rfl⟩ : classes = base.classes ∧ table = base.table := hsame
  exact ⟨h.assembled, h.rootClass_lt, h.arrays_lt, h.registered_lt, h.registers⟩

theorem NamesKept.grow (h : machine.NamesKept registered) {classes : Hierarchy}
    (hclasses : classes.Assembled) (hgrown : machine.classes.Extends classes) :
    (machine.withClasses classes).NamesKept registered where
  assembled := hclasses
  rootClass_lt := Nat.lt_of_lt_of_le h.rootClass_lt hgrown.size_le
  arrays_lt id hid := Nat.lt_of_lt_of_le (h.arrays_lt id hid) hgrown.size_le
  registered_lt id hid := Nat.lt_of_lt_of_le (h.registered_lt id hid) hgrown.size_le
  registers := h.registers.extend hgrown h.registered_lt

theorem NamesKept.added (h : machine.NamesKept registered) {classes : Hierarchy}
    (hadded : machine.classes.ArraysAdded machine.rootClass classes) :
    (machine.withClasses classes).NamesKept registered :=
  h.grow (hadded.assembled h.assembled h.rootClass_lt) hadded.grown

theorem NamesKept.prepared (h : machine.NamesKept registered) {step : Step}
    (hnames : machine.Names (.step step)) : (machine.prepared step).NamesKept registered := by
  rw [eq_withClasses_prepared]
  exact h.added (added_prepared h.arrays_lt hnames)

theorem NamesKept.register (h : machine.NamesKept registered) {id : ClassId}
    (hid : id < machine.classes.size) :
    (machine.register id).NamesKept (registered ++ [id]) where
  assembled := h.assembled
  rootClass_lt := h.rootClass_lt
  arrays_lt := h.arrays_lt
  registered_lt other hother := by
    rcases List.mem_append.1 hother with hold | hnew
    · exact h.registered_lt other hold
    · rw [List.mem_singleton.1 hnew]
      exact hid
  registers := h.registers.register id

theorem NamesKept.obey (h : machine.NamesKept registered)
    (hcommand : machine.NamesExisting command) :
    (machine.obey command).NamesKept (registered ++ command.registered?.toList) := by
  cases command with
  | build blueprint =>
    change (machine.obey (.build blueprint)).NamesKept (registered ++ [])
    rw [List.append_nil]
    rcases machine.obey_build blueprint with hsame | ⟨id, classes, hbuild, hbuilt⟩
    · rw [hsame]
      exact h
    · rw [hbuilt]
      exact h.grow (h.assembled.build hbuild) (h.assembled.made.wellFormed.build hbuild).grown
  | register id => exact h.register hcommand
  | step step =>
    change (machine.obey (.step step)).NamesKept (registered ++ [])
    rw [List.append_nil]
    exact (h.prepared hcommand).sameClasses (machine.sameClasses_step step)

theorem NamesKept.obeyAll (h : machine.NamesKept registered) {commands : List Command}
    (hcommands : Along NamesExisting machine commands) :
    (machine.obeyAll commands).NamesKept (registered ++ commands.filterMap (·.registered?)) := by
  induction commands generalizing machine registered with
  | nil =>
    rw [List.filterMap_nil, List.append_nil]
    exact h
  | cons command commands ih =>
    have hrest := ih (h.obey hcommands.1) hcommands.2
    rw [List.append_assoc] at hrest
    cases hcommand : command.registered? with
    | none =>
      rw [hcommand] at hrest
      rwa [List.filterMap_cons_none hcommand]
    | some id =>
      rw [hcommand] at hrest
      rwa [List.filterMap_cons_some hcommand]

variable {config : HeapConfig} {system : SystemMemory} {cells : Cells} {issued : Nat}
variable {core : CoreClasses} {classes : Hierarchy}

/-- The classes that the system cannot do without exist. -/
structure CoreExists (core : CoreClasses) (classes : Hierarchy) : Prop where
  object : core.object < classes.size
  nullReference : core.nullReference < classes.size
  indexOutOfBounds : core.indexOutOfBounds < classes.size

theorem namesKept_new (hclasses : classes.Assembled) (hcore : CoreExists core classes)
    (hnew : new config system cells issued core classes = .ok machine) :
    machine.NamesKept machine.table.known := by
  obtain rfl := eq_ofHeap_of_new hnew
  obtain ⟨-, hgrown, harrays⟩ :=
    ClassTable.grows_makePrimitiveArrays hclasses.made.wellFormed hcore.object Primitive.all
  have hcoreClasses : (ofHeap (.empty config system cells issued) core classes).table.core = core :=
    ClassTable.core_new core classes
  have harrays' : (ofHeap (.empty config system cells issued) core classes).table.primitiveArrays =
      (ClassTable.makePrimitiveArrays core.object Primitive.all classes).1 :=
    ClassTable.primitiveArrays_new core classes
  constructor
  · exact hclasses.makePrimitiveArrays hcore.object Primitive.all
  · rw [rootClass, hcoreClasses]
    exact Nat.lt_of_lt_of_le hcore.object hgrown.size_le
  · rw [harrays']
    exact harrays
  · intro id hid
    rw [ClassTable.known, hcoreClasses, harrays'] at hid
    rcases List.mem_append.1 hid with hid | hid
    · have hlt : id < classes.size := by
        simp only [List.mem_cons, List.not_mem_nil, or_false] at hid
        rcases hid with rfl | rfl | rfl
        · exact hcore.object
        · exact hcore.nullReference
        · exact hcore.indexOutOfBounds
      exact Nat.lt_of_lt_of_le hlt hgrown.size_le
    · exact harrays id hid
  · exact ClassTable.registers_new core classes

/-- Through whatever happens to a machine, names are looked up by the classes that were registered
    and the classes of arrays that were made. -/
theorem names_looked_up (hclasses : classes.Assembled) (hcore : CoreExists core classes)
    (hnew : new config system cells issued core classes = .ok machine) {commands : List Command}
    (hcommands : Along NamesExisting machine commands) :
    (machine.obeyAll commands).table.LooksUp (machine.obeyAll commands).classes
      (machine.table.known ++ commands.filterMap (·.registered?)) := by
  have hkept := (namesKept_new hclasses hcore hnew).obeyAll hcommands
  exact hkept.registers.looksUp hkept.assembled hkept.registered_lt

/-- Shapes are registered and arrays of arrays of them made, and then another class takes the name
    of the arrays of shapes. -/
def shapesRenamed : List Command :=
  [.register 1, .step (.operation (.newArray .reference (some 1) [1, 1])),
    .build { name := "[Shape" }, .register 13]

theorem shapesRenamed_names : Along NamesExisting shapesMachine shapesRenamed := by
  refine ⟨?_, ?_, trivial, ?_, trivial⟩
  · change 1 < Hierarchy.size _
    decide +kernel
  · rintro _ ⟨⟩
    decide +kernel
  · change 13 < Hierarchy.size _
    decide +kernel

/-- Before the other class takes the name of the arrays of shapes, arrays of these are found, and
    after it they are not. -/
theorem names_looked_up_of_shapes :
    (Hierarchy.nestedRoots.Assembled ∧ CoreExists Hierarchy.nestedCore Hierarchy.nestedRoots ∧
      new pairConfig .unlimited {} 0 Hierarchy.nestedCore Hierarchy.nestedRoots =
        .ok shapesMachine ∧
      Along NamesExisting shapesMachine shapesRenamed ∧
      (shapesMachine.obeyAll (shapesRenamed.take 3)).lookup? "[[Shape" = some 12 ∧
      (shapesMachine.obeyAll shapesRenamed).lookup? "[Shape" = some 13 ∧
      (shapesMachine.obeyAll shapesRenamed).lookup? "[[Shape" = none) ∧
    (shapesMachine.obeyAll shapesRenamed).table.LooksUp
      (shapesMachine.obeyAll shapesRenamed).classes
      (shapesMachine.table.known ++ shapesRenamed.filterMap (·.registered?)) := by
  have hmade : Hierarchy.nestedRoots.MadeUnder Hierarchy.nestedCore.object :=
    Hierarchy.MadeUnder.empty.buildAll _
  have hclasses := hmade.assembled
  have hcore : CoreExists Hierarchy.nestedCore Hierarchy.nestedRoots :=
    ⟨by decide +kernel, by decide +kernel, by decide +kernel⟩
  exact ⟨⟨hclasses, hcore, shapesMachine_new, shapesRenamed_names, by decide +kernel,
    by decide +kernel, by decide +kernel⟩,
    names_looked_up hclasses hcore shapesMachine_new shapesRenamed_names⟩

end Machine

end ManagedRuntime
