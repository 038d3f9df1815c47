/-
  Checks
  ======
  The tests that compiled code makes on references: instance tests, casts to
  interfaces, null checks and bounds checks.  A failed null or bounds check raises an
  error object of the core class for it, which takes an allocation that may itself
  fail; a check that passes changes nothing.  A bounds check looks for a length behind
  the reference, which is a fault where the reference is null.
-/
import ManagedRuntime.Machine.Basic

namespace ManagedRuntime.Machine

/-- Whether an object is an instance of a class or interface.  Null is an instance of
    nothing, and so is storage without a class. -/
def isInstance (machine : Machine) (ref : Ref) (target : ClassId) : Bool :=
  (machine.classId? ref).any (machine.classes.isInstanceOf · target)

/-- The table for calls on an object through an interface; none for null. -/
def interfaceTable (machine : Machine) (ref : Ref) (interface : ClassId) :
    Except RuntimeError (Option DispatchTable) :=
  match machine.class? ref with
  | none => .ok none
  | some cls =>
    match cls.interfaceTable? interface with
    | some table => .ok (some table)
    | none => .error (.interfaceMiss cls.name (machine.classes.name interface))

def raise (machine : Machine) (classId : ClassId) : Failure × Machine :=
  match (newObject classId).run machine with
  | (.ok id, machine) => (.exception id, machine)
  | (.error error, machine) => (.fatal error, machine)

def check (machine : Machine) (holds : Except Fault Bool) (classId : ClassId) :
    Except Failure Unit × Machine :=
  match holds with
  | .ok true => (.ok (), machine)
  | .ok false =>
    let (failure, machine) := machine.raise classId
    (.error failure, machine)
  | .error fault => (.error (.fault fault), machine)

def checkNotNull (machine : Machine) (ref : Ref) : Except Failure Unit × Machine :=
  machine.check (.ok ref.isSome) machine.table.core.nullReference

/-- Whether an index is within an array.  A negative one is out of bounds whatever the reference;
    for any other the bytes of the length are read, whether or not the object is an array. -/
def inBounds (machine : Machine) (array : Ref) (index : Int) : Except Fault Bool :=
  if index < 0 then .ok false
  else
    match machine.storage? array with
    | some storage => .ok (index < storage.length)
    | none => .error .nullReference

def checkBounds (machine : Machine) (array : Ref) (index : Int) : Except Failure Unit × Machine :=
  machine.check (machine.inBounds array index) machine.table.core.indexOutOfBounds

def uncaughtReport (machine : Machine) (ref : Ref) : String :=
  reportUncaught ((machine.class? ref).map (·.name))

end ManagedRuntime.Machine
