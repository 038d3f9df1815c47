/-
  Steps of a program
  ==================
  What each operation does to a machine, free of the monad, and what a program owes for it
  (`Machine.Permits`): the references that it hands over, writes to a registered
  variable or registers with a variable have to be usable.  What usable means is left
  open: not dangling for the safety of a run, and reachable where two runs are compared.
-/
import ManagedRuntime.Machine.Operation
import ManagedRuntime.Proofs.Machine.Construction

namespace ManagedRuntime

namespace Machine

variable {machine after : Machine}

/-! ### Operations as functions -/

theorem run_replying {β : Type} (reply : β → Reply) (action : Action β) (machine : Machine) :
    (replying reply action).run machine =
      ((action.run machine).1.map reply, (action.run machine).2) := by
  change (ExceptT.map reply action).run machine = _
  simp only [ExceptT.map, ExceptT.run_mk]
  change StateT.bind action.run _ machine = _
  simp only [StateT.bind]
  rcases action.run machine with ⟨error | value, after⟩
  · rfl
  · rfl

theorem run_storing (store : Machine → Option Machine) (machine : Machine) :
    (storing store).run machine =
      match store machine with
      | some after => (.ok (.stored true), after)
      | none => (.ok (.stored false), machine) := by
  rw [storing, Action.run_bind, Action.run_get]
  dsimp only
  cases store machine with
  | none => rfl
  | some after => rfl

/-- A store leaves the machine that it makes, or the one before it where there is no place. -/
theorem storing_cases (inv : Machine → Prop) {store : Machine → Option Machine}
    (h : inv machine) (hstore : ∀ after, store machine = some after → inv after) :
    inv ((storing store).run machine).2 := by
  rw [run_storing]
  rcases hresult : store machine with _ | after
  · exact h
  · exact hstore after hresult

theorem step_operation (machine : Machine) (operation : Operation) :
    machine.step (.operation operation) =
      (((perform operation).run machine).1.mapError .fatal, ((perform operation).run machine).2) :=
  rfl

theorem step_check (machine : Machine) (check : Check) :
    machine.step (.check check) =
      ((machine.test check).1.map fun _ => .done, (machine.test check).2) :=
  rfl

def passes (machine : Machine) : Check → Except Fault Bool
  | .notNull ref => .ok ref.isSome
  | .bounds array index => machine.inBounds array index
  | .never _ => .ok false

def errorClass (machine : Machine) : Check → ClassId
  | .notNull _ => machine.table.core.nullReference
  | .bounds _ _ => machine.table.core.indexOutOfBounds
  | .never classId => classId

theorem test_eq (machine : Machine) (check : Check) :
    machine.test check = machine.check (machine.passes check) (machine.errorClass check) := by
  cases check with
  | notNull ref => rfl
  | bounds array index => rfl
  | never classId => rfl

/-- A failed check raises the error object, or the error for which there is none. -/
theorem check_false (machine : Machine) (classId : ClassId) :
    machine.check (.ok false) classId =
      (.error (match ((newObject classId).run machine).1 with
        | .ok id => .exception id
        | .error error => .fatal error),
        ((newObject classId).run machine).2) := by
  unfold check raise
  rcases (newObject classId).run machine with ⟨error | id, after⟩
  · rfl
  · rfl

theorem test_of_passes {check : Check} (h : machine.passes check = .ok true) :
    machine.test check = (.ok (), machine) := by
  rw [test_eq, h]
  rfl

theorem test_of_fails {check : Check} (h : machine.passes check = .ok false) :
    machine.test check =
      (.error (machine.raise (machine.errorClass check)).1,
        (machine.raise (machine.errorClass check)).2) := by
  rw [test_eq, h]
  rfl

theorem test_of_faults {check : Check} {fault : Fault} (h : machine.passes check = .error fault) :
    machine.test check = (.error (.fault fault), machine) := by
  rw [test_eq, h]
  rfl

theorem test_eq_ok_iff {check : Check} :
    (machine.test check).1 = .ok () ↔ machine.passes check = .ok true := by
  rcases hpasses : machine.passes check with fault | _ | _
  · simp [test_of_faults hpasses]
  · simp [test_of_fails hpasses]
  · simp [test_of_passes hpasses]

/-- What is raised is an error object or an error of the program. -/
theorem raise_ne_fault (machine : Machine) (classId : ClassId) (fault : Fault) :
    (machine.raise classId).1 ≠ .fault fault := by
  unfold raise
  rcases (newObject classId).run machine with ⟨error | id, after⟩
  · nofun
  · nofun

theorem test_eq_fault_iff {check : Check} {fault : Fault} :
    (machine.test check).1 = .error (.fault fault) ↔ machine.passes check = .error fault := by
  rcases hpasses : machine.passes check with reason | _ | _
  · simp [test_of_faults hpasses]
  · simp [test_of_fails hpasses, raise_ne_fault]
  · simp [test_of_passes hpasses]

/-- An array is as long as its storage says. -/
theorem inBounds_of_length {array : Ref} {length : Int}
    (hlength : machine.arrayLength? array = some length) (index : Int) :
    machine.inBounds array index = .ok (decide (0 ≤ index ∧ index < length)) := by
  unfold arrayLength? at hlength
  split at hlength
  · obtain ⟨storage, hstorage, rfl⟩ := Option.map_eq_some_iff.1 hlength
    by_cases hnegative : index < 0
    · simp [inBounds, hnegative, Int.not_le.2 hnegative]
    · simp [inBounds, hnegative, hstorage, Int.not_lt.1 hnegative]
  · cases hlength

theorem inBounds_eq_error_iff {array : Ref} {index : Int} {fault : Fault} :
    machine.inBounds array index = .error fault ↔
      fault = .nullReference ∧ 0 ≤ index ∧ machine.storage? array = none := by
  unfold inBounds
  split
  · rename_i hnegative
    exact ⟨nofun, fun hfault => absurd hfault.2.1 (Int.not_le.2 hnegative)⟩
  rename_i hpos
  cases machine.storage? array with
  | none => simp [Int.not_lt.1 hpos, eq_comm]
  | some storage => simp

/-- The only fault of a check is to look for a length where there is no object. -/
theorem passes_eq_error_iff {check : Check} {fault : Fault} :
    machine.passes check = .error fault ↔ fault = .nullReference ∧
      ∃ array index, check = .bounds array index ∧ 0 ≤ index ∧ machine.storage? array = none := by
  cases check with
  | notNull ref => simp [passes]
  | never classId => simp [passes]
  | bounds array index =>
    rw [passes, inBounds_eq_error_iff]
    constructor
    · rintro ⟨hfault, hpos, hnone⟩
      exact ⟨hfault, array, index, rfl, hpos, hnone⟩
    · rintro ⟨hfault, _, _, ⟨⟩, hpos, hnone⟩
      exact ⟨hfault, hpos, hnone⟩

/-- A check leaves the machine as it is, or it makes an object. -/
theorem test_cases (inv : Machine → Prop) (h : inv machine)
    (hraise : ∀ classId, inv ((newObject classId).run machine).2) (check : Check) :
    inv (machine.test check).2 := by
  rw [test_eq]
  rcases machine.passes check with fault | _ | _
  · exact h
  · rw [check_false]
    exact hraise _
  · exact h

theorem exists_of_setField? {object : Ref} {owner : ClassId} {index : Nat} {slot : ReferenceSlot}
    (hset : machine.setField? object owner index slot = some after) :
    ∃ id storage offset, object = some id ∧ machine.heap.data? id = some storage ∧
      storage.fieldOffset? machine.classes owner index = some offset ∧
      after = machine.updateStorage id (·.write .reference offset slot) := by
  obtain ⟨id, hid, hset⟩ := Option.bind_eq_some_iff.1 hset
  obtain ⟨offset, hoffset, hset⟩ := Option.bind_eq_some_iff.1 hset
  obtain ⟨storage, hdata, hfield⟩ := Option.bind_eq_some_iff.1 hoffset
  rw [hid] at hdata
  exact ⟨id, storage, offset, hid, hdata, hfield, (Option.some.inj hset).symm⟩

theorem exists_of_setElement? {array : Ref} {kind : Kind} {index : Int} {value : kind.Value}
    (hset : machine.setElement? array kind index value = some after) :
    ∃ id storage offset, array = some id ∧ machine.heap.data? id = some storage ∧
      storage.elementOffset? machine.classes kind index = some offset ∧
      after = machine.updateStorage id (·.write kind offset value) := by
  obtain ⟨id, hid, hset⟩ := Option.bind_eq_some_iff.1 hset
  obtain ⟨offset, hoffset, hset⟩ := Option.bind_eq_some_iff.1 hset
  obtain ⟨storage, hdata, helement⟩ := Option.bind_eq_some_iff.1 hoffset
  rw [hid] at hdata
  exact ⟨id, storage, offset, hid, hdata, helement, (Option.some.inj hset).symm⟩

theorem classId?_of_setField? (hclasses : machine.classes.WellFormed) {object : Ref}
    {owner : ClassId} {index : Nat} {slot : ReferenceSlot}
    (hset : machine.setField? object owner index slot = some after) (id : ObjectId) :
    after.classId? (some id) = machine.classId? (some id) := by
  obtain ⟨target, storage, offset, -, hdata, hoffset, rfl⟩ := exists_of_setField? hset
  exact classId?_store hdata (Storage.isPlace_of_fieldOffset? hclasses hoffset) _ id

theorem classId?_of_setElement? {array : Ref} {kind : Kind} {index : Int} {value : kind.Value}
    (hset : machine.setElement? array kind index value = some after) (id : ObjectId) :
    after.classId? (some id) = machine.classId? (some id) := by
  obtain ⟨target, storage, offset, -, hdata, hoffset, rfl⟩ := exists_of_setElement? hset
  exact classId?_store hdata (Storage.isPlace_of_elementOffset? hoffset) _ id

end Machine

/-! ### What a program owes -/

/-- Whether so many bytes of data can be given the class: interfaces have no instances, and
    an array has at least the bytes in front of its elements. -/
def Class.FitsInto (cls : Class) (size : Nat) : Prop :=
  match cls.shape with
  | .instances needed _ => needed ≤ size
  | .interface => False
  | .array element => element.kind.elementsOffset ≤ size

namespace Machine

variable {machine : Machine} {object : ObjectId} {classId : ClassId}

/-- An object has no class yet and room for an instance of a class. -/
def AwaitsClass (machine : Machine) (object : ObjectId) (classId : ClassId) : Prop :=
  ∃ storage cls, machine.heap.data? object = some storage ∧ storage.classId? = none ∧
    machine.classes.get? classId = some cls ∧ cls.FitsInto storage.size

theorem AwaitsClass.classId?_eq (h : machine.AwaitsClass object classId) :
    ∀ storage, machine.heap.data? object = some storage → storage.classId? = none := by
  intro storage hstorage
  obtain ⟨found, cls, hfound, hnone, -⟩ := h
  rw [hfound] at hstorage
  cases hstorage
  exact hnone

theorem AwaitsClass.lt_size (h : machine.AwaitsClass object classId) :
    classId < machine.classes.size := by
  obtain ⟨storage, cls, -, -, hget, -⟩ := h
  exact Hierarchy.lt_size_of_get? hget

/-- What a program owes for a step: the references that it passes in, writes to a registered
    variable or registers with a variable are usable, and only storage that awaits it is given
    a class. -/
def Permits (machine : Machine) (usable : Ref → Prop) : Step → Prop
  | .operation (.initObject object classId) =>
    usable (some object) ∧ machine.AwaitsClass object classId
  | .operation (.pushOperand ref) => usable ref
  | .operation (.registerLocal cell) => usable (machine.heap.readCell cell)
  | .operation (.addStaticRoot cell) => usable (machine.heap.readCell cell)
  | .operation (.writeCell cell ref) => machine.heap.Registered cell → usable ref
  | .operation (.getField object _ _) => usable object
  | .operation (.setField object _ _ slot) => usable object ∧ usable slot.object
  | .operation (.getElement array _ _) => usable array
  | .operation (.setElement array kind _ value) => usable array ∧ usable (kind.refOf value)
  | .check (.notNull ref) => usable ref
  | .check (.bounds array _) => usable array
  | _ => True

theorem Permits.mono {usable weaker : Ref → Prop} (hweaker : ∀ ref, usable ref → weaker ref)
    {step : Step} (h : machine.Permits usable step) : machine.Permits weaker step := by
  cases step with
  | operation operation =>
    cases operation with
    | initObject object classId => exact ⟨hweaker _ h.1, h.2⟩
    | pushOperand ref => exact hweaker _ h
    | registerLocal cell => exact hweaker _ h
    | addStaticRoot cell => exact hweaker _ h
    | writeCell cell ref => exact fun hcell => hweaker _ (h hcell)
    | getField object owner index => exact hweaker _ h
    | setField object owner index slot => exact ⟨hweaker _ h.1, hweaker _ h.2⟩
    | getElement array kind index => exact hweaker _ h
    | setElement array kind index value => exact ⟨hweaker _ h.1, hweaker _ h.2⟩
    | _ => trivial
  | check check =>
    cases check with
    | notNull ref => exact hweaker _ h
    | bounds array index => exact hweaker _ h
    | never classId => trivial

end Machine

/-- The object that a step stores into. -/
def Step.target? : Step → Ref
  | .operation (.initObject object _) => some object
  | .operation (.setField object _ _ _) => object
  | .operation (.setElement array _ _ _) => array
  | _ => none

end ManagedRuntime
