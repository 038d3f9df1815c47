/-
  Links
  =====
  Access to reference fields that are known to be there.  A missing field is an
  error that says which field of which object is missing.
-/
import ManagedRuntime.Machine.Describe

namespace ManagedRuntime

/-- A field that an object does not have. -/
structure MissingField where
  object : Ref
  owner : ClassId
  index : Nat
  deriving DecidableEq, Repr

namespace Machine

def describeMissingField (machine : Machine) (missing : MissingField) : String :=
  machine.describeRef missing.object ++ " has no field " ++ toString missing.index ++ " in "
    ++ machine.classes.name missing.owner

def link (machine : Machine) (object : Ref) (owner : ClassId) (index : Nat) (target : Ref) :
    Except MissingField Machine :=
  match machine.setField? object owner index (machine.referenceTo target) with
  | some machine => .ok machine
  | none => .error { object, owner, index }

def linked (machine : Machine) (object : Ref) (owner : ClassId) (index : Nat) :
    Except MissingField Ref :=
  match machine.field? object owner index with
  | some slot => .ok slot.object
  | none => .error { object, owner, index }

end Machine

end ManagedRuntime
