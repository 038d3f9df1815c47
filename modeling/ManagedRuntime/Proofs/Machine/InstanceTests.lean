/-
  Instance tests and interface casts
  ==================================
  Compiled code asks in two ways whether an object can be used through an interface: by the
  instance test, which answers yes or no, and by the cast, which looks for the table to call
  through.  Both scan the interfaces that the class of the object names itself, each in a way of
  its own, and they agree on every reference: on null, on storage that has no class yet, and on
  arrays, whose classes name no interfaces (`MadeUnder.interfaces_eq_nil`).

  Against a class the instance test follows the subtype order, and so an instance of a class is
  one of every class above it.
-/
import ManagedRuntime.Machine.Check
import ManagedRuntime.Proofs.Machine.ArrayIdentity

namespace ManagedRuntime

/-! ### The two scans of a list of interfaces -/

namespace Class

variable {cls : Class} {interface : ClassId} {table : DispatchTable}

theorem isSome_interfaceTable? (cls : Class) (interface : ClassId) :
    (cls.interfaceTable? interface).isSome = cls.implements interface := by
  rw [interfaceTable?, Option.isSome_map, List.isSome_find?, implements]

theorem interfaceTable?_eq_none_iff :
    cls.interfaceTable? interface = none ↔ cls.implements interface = false := by
  rw [← isSome_interfaceTable?, Option.isSome_eq_false_iff, Option.isNone_iff_eq_none]

/-- The table of the first entry that a class has for an interface. -/
def FirstEntry (cls : Class) (interface : ClassId) (table : DispatchTable) : Prop :=
  ∃ before after, cls.interfaces = before ++ ⟨interface, table⟩ :: after ∧
    ∀ entry ∈ before, entry.interface ≠ interface

theorem interfaceTable?_eq_some_iff :
    cls.interfaceTable? interface = some table ↔ cls.FirstEntry interface table := by
  rw [interfaceTable?, Option.map_eq_some_iff]
  constructor
  · rintro ⟨entry, hfind, rfl⟩
    obtain ⟨hentry, before, after, hsplit, hbefore⟩ := List.find?_eq_some_iff_append.1 hfind
    obtain rfl : entry.interface = interface := eq_of_beq hentry
    refine ⟨before, after, hsplit, ?_⟩
    intro earlier hearlier
    simpa using hbefore earlier hearlier
  · rintro ⟨before, after, hsplit, hbefore⟩
    refine ⟨⟨interface, table⟩,
      List.find?_eq_some_iff_append.2 ⟨?_, before, after, hsplit, ?_⟩, rfl⟩
    · exact beq_self_eq_true interface
    · intro earlier hearlier
      simpa using hbefore earlier hearlier

end Class

namespace Hierarchy

variable {classes after : Hierarchy} {object id : ClassId} {cls : Class}

/-! ### Array classes name no interfaces -/

/-- No array class has an entry for an interface. -/
def ArraysPlain (classes : Hierarchy) : Prop :=
  ∀ id cls, classes.get? id = some cls → cls.kind = .array → cls.interfaces = []

theorem ArraysPlain.push (h : classes.ArraysPlain)
    (hpush : after.classes = classes.classes.push cls)
    (hcls : cls.kind = .array → cls.interfaces = []) : after.ArraysPlain := by
  intro id found hget hkind
  rw [get?_of_push hpush] at hget
  split at hget
  · cases hget
    exact hcls hkind
  · exact h id found hget hkind

theorem MadeUnder.arraysPlain (h : classes.MadeUnder object) : classes.ArraysPlain := by
  induction h with
  | empty =>
    intro id cls hget
    simp [get?] at hget
  | @build classes after blueprint built _ hbuild ih =>
    have houtcome := blueprint.outcome_build classes
    rw [hbuild] at houtcome
    cases houtcome with
    | built cls _ _ _ hafter _ hshape =>
      apply ih.push hafter
      intro hkind
      rw [Blueprint.exactShape] at hshape
      split at hshape <;> simp [Class.kind, hshape] at hkind
  | primitiveArray kind _ _ ih => exact ih.push rfl fun _ => rfl
  | arrayOf _ _ _ ih =>
    unfold Hierarchy.arrayOf
    split
    · exact ih
    · exact ih.push rfl fun _ => rfl

theorem MadeUnder.implements_of_isArray (h : classes.MadeUnder object) (hid : classes.isArray id)
    (interface : ClassId) : classes.implements id interface = false := by
  obtain ⟨cls, hget, hkind⟩ := (Option.any_eq_true ..).1 hid
  rw [implements, hget, Option.any_some, Class.implements,
    h.arraysPlain id cls hget (eq_of_beq hkind)]
  rfl

end Hierarchy

namespace Machine

variable {machine : Machine} {ref : Ref} {interface target : ClassId} {cls : Class}

/-! ### Casts to interfaces -/

theorem isInstance_of_isInterface (hinterface : machine.classes.isInterface interface) :
    machine.isInstance ref interface = (machine.class? ref).any (·.implements interface) := by
  rw [isInstance, class?]
  cases machine.classId? ref with
  | none => rfl
  | some id =>
    rw [Option.any_some, Option.bind_some, Hierarchy.isInstanceOf, if_pos hinterface]
    rfl

theorem interfaceTable_eq_none_iff :
    machine.interfaceTable ref interface = .ok none ↔ machine.class? ref = none := by
  unfold interfaceTable
  cases hclass : machine.class? ref with
  | none => simp
  | some cls =>
    dsimp only
    split <;> simp

theorem interfaceTable_eq_some_iff {table : DispatchTable} :
    machine.interfaceTable ref interface = .ok (some table) ↔
      ∃ cls, machine.class? ref = some cls ∧ cls.interfaceTable? interface = some table := by
  unfold interfaceTable
  cases hclass : machine.class? ref with
  | none => simp
  | some cls =>
    dsimp only
    split <;> rename_i hfound <;> simp [hfound]

theorem interfaceTable_eq_error_iff {error : RuntimeError} :
    machine.interfaceTable ref interface = .error error ↔
      ∃ cls, machine.class? ref = some cls ∧ cls.interfaceTable? interface = none ∧
        .interfaceMiss cls.name (machine.classes.name interface) = error := by
  unfold interfaceTable
  cases hclass : machine.class? ref with
  | none => simp
  | some cls =>
    dsimp only
    split <;> rename_i hfound <;> simp [hfound]

/-- An interface is found for the objects that pass the test for it. -/
theorem exists_interfaceTable_iff (hinterface : machine.classes.isInterface interface) :
    (∃ table, machine.interfaceTable ref interface = .ok (some table)) ↔
      machine.isInstance ref interface := by
  rw [isInstance_of_isInterface hinterface, Option.any_eq_true]
  constructor
  · rintro ⟨table, htable⟩
    obtain ⟨cls, hclass, hfound⟩ := interfaceTable_eq_some_iff.1 htable
    refine ⟨cls, hclass, ?_⟩
    rw [← Class.isSome_interfaceTable?, hfound]
    rfl
  · rintro ⟨cls, hclass, himplements⟩
    rw [← Class.isSome_interfaceTable?] at himplements
    obtain ⟨table, htable⟩ := Option.isSome_iff_exists.1 himplements
    exact ⟨table, interfaceTable_eq_some_iff.2 ⟨cls, hclass, htable⟩⟩

/-- It is missed for the objects that have a class and do not pass. -/
theorem interfaceTable_misses_iff (hinterface : machine.classes.isInterface interface)
    {error : RuntimeError} : machine.interfaceTable ref interface = .error error ↔
      ∃ cls, machine.class? ref = some cls ∧ machine.isInstance ref interface = false ∧
        .interfaceMiss cls.name (machine.classes.name interface) = error := by
  rw [interfaceTable_eq_error_iff]
  refine exists_congr fun cls => and_congr_right fun hclass => ?_
  rw [isInstance_of_isInterface hinterface, hclass, Option.any_some,
    Class.interfaceTable?_eq_none_iff]

theorem isInstance_of_isArray {object : ClassId} (h : machine.classes.MadeUnder object)
    (hinterface : machine.classes.isInterface interface) (harray : machine.isArray ref) :
    machine.isInstance ref interface = false := by
  obtain ⟨id, hid, hidArray⟩ := (Option.any_eq_true ..).1 harray
  rw [isInstance, hid, Option.any_some, Hierarchy.isInstanceOf, if_pos hinterface]
  exact h.implements_of_isArray hidArray interface

theorem exists_class?_of_isArray (harray : machine.isArray ref) :
    ∃ cls, machine.class? ref = some cls := by
  obtain ⟨id, hid, hidArray⟩ := (Option.any_eq_true ..).1 harray
  obtain ⟨cls, hget, -⟩ := (Option.any_eq_true ..).1 hidArray
  refine ⟨cls, ?_⟩
  rw [class?, hid, Option.bind_some, hget]

/-- How the cast of a reference to an interface goes with the instance test. -/
structure CastAgrees (machine : Machine) (ref : Ref) (interface : ClassId) : Prop where
  none_iff : machine.interfaceTable ref interface = .ok none ↔
    ref = none ∨ machine.class? ref = none
  some_iff : (∃ table, machine.interfaceTable ref interface = .ok (some table)) ↔
    machine.isInstance ref interface
  /-- The class's own first entry counts, whatever follows it or stands in superclasses. -/
  table_iff : ∀ table, machine.interfaceTable ref interface = .ok (some table) ↔
    ∃ cls, machine.class? ref = some cls ∧ cls.FirstEntry interface table
  miss_iff : ∀ error, machine.interfaceTable ref interface = .error error ↔
    ∃ cls, machine.class? ref = some cls ∧ machine.isInstance ref interface = false ∧
      .interfaceMiss cls.name (machine.classes.name interface) = error
  array_misses : machine.isArray ref → ∃ cls, machine.class? ref = some cls ∧
    machine.interfaceTable ref interface =
      .error (.interfaceMiss cls.name (machine.classes.name interface))

theorem castAgrees {object : ClassId} (h : machine.classes.MadeUnder object)
    (hinterface : machine.classes.isInterface interface) (ref : Ref) :
    machine.CastAgrees ref interface where
  none_iff := by
    rw [interfaceTable_eq_none_iff]
    constructor
    · exact .inr
    · rintro (rfl | hnone)
      · rfl
      · exact hnone
  some_iff := exists_interfaceTable_iff hinterface
  table_iff table := by
    rw [interfaceTable_eq_some_iff]
    refine exists_congr fun cls => and_congr_right fun _ => ?_
    exact Class.interfaceTable?_eq_some_iff
  miss_iff _ := interfaceTable_misses_iff hinterface
  array_misses harray := by
    obtain ⟨cls, hclass⟩ := exists_class?_of_isArray harray
    have hfails : machine.isInstance ref interface = false :=
      isInstance_of_isArray h hinterface harray
    exact ⟨cls, hclass, (interfaceTable_misses_iff hinterface).2 ⟨cls, hclass, hfails, rfl⟩⟩

/-! ### Tests against classes -/

theorem isInstance_of_not_isInterface (htarget : machine.classes.isInterface target = false) :
    machine.isInstance ref target ↔
      ∃ id, machine.classId? ref = some id ∧ machine.classes.isSubclass target id := by
  rw [isInstance, Option.any_eq_true]
  simp [Hierarchy.isInstanceOf, htarget]

/-- How the instance test of a reference goes with the subtype order. -/
structure FollowsSubtypes (machine : Machine) (ref : Ref) : Prop where
  isInstance_iff : ∀ target, machine.classes.isInterface target = false →
    (machine.isInstance ref target ↔
      ∃ id, machine.classId? ref = some id ∧ machine.classes.Derives id target)
  mono : ∀ target above, machine.classes.isInterface target = false →
    machine.classes.isInterface above = false → machine.isInstance ref target →
    machine.classes.isSubclass above target → machine.isInstance ref above

theorem followsSubtypes {object : ClassId} (h : machine.classes.MadeUnder object)
    (hobject : machine.classes.isArray object = false) (ref : Ref) :
    machine.FollowsSubtypes ref where
  isInstance_iff target htarget := by
    rw [isInstance_of_not_isInterface htarget]
    constructor
    · rintro ⟨id, hid, hbelow⟩
      exact ⟨id, hid, h.derives_of_isSubclass hobject hbelow⟩
    · rintro ⟨id, hid, hderives⟩
      exact ⟨id, hid, h.isSubclass_of_derives hobject hderives⟩
  mono target above htarget habove htest hbelow := by
    obtain ⟨id, hid, hlow⟩ := (isInstance_of_not_isInterface htarget).1 htest
    exact (isInstance_of_not_isInterface habove).2 ⟨id, hid, h.isSubclass_trans hobject hlow hbelow⟩

/-- Over classes with arrays under the root class, the cast of any reference to any interface
    agrees with the instance test, and the instance test against classes with the subtype order. -/
theorem instance_tests_agree (h : machine.classes.MadeUnder machine.rootClass)
    (hroot : machine.classes.isArray machine.rootClass = false) (ref : Ref) :
    (∀ interface, machine.classes.isInterface interface → machine.CastAgrees ref interface) ∧
      machine.FollowsSubtypes ref :=
  ⟨fun _ hinterface => castAgrees h hinterface ref, followsSubtypes h hroot ref⟩

/-- A task names one interface twice, and the class below it names none. -/
def taskClasses : Hierarchy :=
  Hierarchy.buildAll {}
    [{ name := "Object" }, { name := "Runnable", isInterface := true },
      { name := "Task", superclass := some 0, implemented := [(1, [7]), (1, [8])] },
      { name := "SubTask", superclass := some 2 }]

def taskStart : Machine :=
  ofHeap (.empty pairConfig .unlimited {} 0) Hierarchy.nestedCore taskClasses

theorem taskStart_kept : taskStart.ArraysKept := by
  have hmade : taskClasses.MadeUnder 0 := Hierarchy.MadeUnder.empty.buildAll _
  have hplain : ∀ id < 4, taskClasses.isArray id = false := by decide +kernel
  have hnew : new pairConfig .unlimited {} 0 Hierarchy.nestedCore taskClasses = .ok taskStart := rfl
  refine arraysKept_new hmade ?_ (hplain 0 (by decide)) ?_ hnew
  · decide +kernel
  · intro id kind hshape
    have harray := (Hierarchy.primitive_of_shape? hshape).1
    obtain ⟨cls, hget, -⟩ := Option.map_eq_some_iff.1 hshape
    have hid : id < 4 := Hierarchy.lt_size_of_get? hget
    rw [hplain id hid] at harray
    cases harray

/-- Makes a task, an object of the class below, an array of tasks, and storage without a class. -/
def taskSession : List Command :=
  [.step (.operation (.newObject 2)), .step (.operation (.newObject 3)),
    .step (.operation (.newArray .reference (some 2) [1])), .step (.operation (.allocate 8))]

theorem taskSession_names : Along Names taskStart taskSession := by
  refine ⟨trivial, trivial, ?_, trivial, trivial⟩
  rintro _ ⟨⟩
  decide +kernel

/-- The first of the two entries counts for the task.  The object of the class below it misses,
    as the array does, although it is a task and an object. -/
theorem instance_tests_agree_of_tasks :
    let machine := taskStart.obeyAll taskSession
    (machine.classes.MadeUnder machine.rootClass ∧
      machine.classes.isArray machine.rootClass = false ∧ machine.classes.isInterface 1 ∧
      machine.interfaceTable (some 0) 1 = .ok (some ⟨2, [7]⟩) ∧
      machine.interfaceTable (some 1) 1 = .error (.interfaceMiss "SubTask" "Runnable") ∧
      machine.interfaceTable (some 2) 1 = .error (.interfaceMiss "[Task" "Runnable") ∧
      machine.interfaceTable (some 3) 1 = .ok none ∧
      machine.isInstance (some 1) 2 ∧ machine.isInstance (some 1) 0) ∧
    machine.CastAgrees (some 0) 1 ∧ machine.CastAgrees (some 1) 1 ∧
      machine.CastAgrees (some 2) 1 ∧ machine.CastAgrees (some 3) 1 ∧
      machine.FollowsSubtypes (some 1) := by
  intro machine
  have hkept : machine.ArraysKept := (taskStart_kept.obeyAll taskSession_names).1
  have hagree := instance_tests_agree hkept.madeUnder hkept.root_plain
  have hinterface : machine.classes.isInterface 1 := by decide +kernel
  refine ⟨⟨hkept.madeUnder, hkept.root_plain, hinterface, ?_, ?_, ?_, ?_, ?_, ?_⟩,
    (hagree (some 0)).1 1 hinterface, (hagree (some 1)).1 1 hinterface,
    (hagree (some 2)).1 1 hinterface, (hagree (some 3)).1 1 hinterface, (hagree (some 1)).2⟩ <;>
    decide +kernel

end Machine

end ManagedRuntime
