/-
  Dispatch tables
  ===============
  A virtual or interface call goes through a table of method entry points.  Tables
  are compared by identity, so each carries a name of its own beside its methods.
-/

namespace ManagedRuntime

/-- The entry point of a compiled method. -/
abbrev Method := Nat

/-- Method slots in order, with the identity of the table. -/
structure DispatchTable where
  id : Nat
  methods : List Method
  deriving DecidableEq, Repr

namespace DispatchTable

def size (table : DispatchTable) : Nat :=
  table.methods.length

def isEmpty (table : DispatchTable) : Bool :=
  table.methods.isEmpty

def get? (table : DispatchTable) (slot : Nat) : Option Method :=
  table.methods[slot]?

end DispatchTable

end ManagedRuntime
