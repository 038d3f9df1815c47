/-
  Errors
  ======
  Contract violations and exhausted resources end the running program: they are
  `RuntimeError`s.  A check that fails in the program's own terms raises an error
  object instead, which the program may handle, and a check of something that is not
  there is a fault; `Failure` has all three.
-/
import ManagedRuntime.Class.Blueprint
import ManagedRuntime.Heap.Basic

namespace ManagedRuntime

inductive RuntimeError where
  | allocation (error : AllocationError)
  | root (error : RootError)
  /-- A class was cast to an interface that it does not name. -/
  | interfaceMiss (className interfaceName : String)
  /-- A class's initialisation came back to itself. -/
  | initializationLoop
  | negativeDimension (length : Int)
  | noDimensions
  | missingElementClass
  /-- No element kind has this tag. -/
  | unknownKind (tag : Nat)
  /-- Only instance classes have instances. -/
  | notInstantiable (name : String)
  | invalidClass (name reason : String)
  | notStarted
  deriving DecidableEq, Repr

def RuntimeError.message : RuntimeError → String
  | .allocation error => error.message
  | .root error => error.message
  | .interfaceMiss className interfaceName =>
    "Cant cast " ++ className ++ " to " ++ interfaceName
  | .initializationLoop => "Initialization loop"
  | .negativeDimension length => "Negative array dimension " ++ toString length
  | .noDimensions => "Array needs at least one dimension"
  | .missingElementClass => "Array element class is missing"
  | .unknownKind tag => "Unknown array element kind " ++ toString tag
  | .notInstantiable name => "Class " ++ name ++ " cannot be instantiated"
  | .invalidClass name reason => "Invalid class " ++ name ++ ": " ++ reason
  | .notStarted => "Runtime is not started"

def RuntimeError.ofBlueprint (name : String) (reason : BlueprintError) : RuntimeError :=
  .invalidClass name reason.message

/-- How a checked operation can go wrong. -/
inductive Failure where
  /-- An error object, to be raised in the running program. -/
  | exception (object : ObjectId)
  | fatal (error : RuntimeError)
  /-- The test itself has no result. -/
  | fault (fault : Fault)
  deriving DecidableEq, Repr

def uncaughtHeading : String := "Uncaught exception: "

def fatalHeading : String := "PANIC: "

def reportUncaught (className : Option String) : String :=
  uncaughtHeading ++ className.getD "<null>"

def reportFatal (message : String) : String :=
  fatalHeading ++ message

end ManagedRuntime
