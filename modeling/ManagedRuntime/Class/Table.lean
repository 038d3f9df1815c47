/-
  The class table
  ===============
  The classes that a running system knows by itself: the root of all chains, the
  classes of its two error objects, the eight primitive array classes, and every
  class registered under its name.

  A derived array class has no entry.  Its name is a bracket followed by the name of
  its elements, so a name that is not registered is looked up without its bracket,
  and the array class of what is found is the answer, if it was made.
-/
import Std.Data.TreeMap
import ManagedRuntime.Class.Blueprint

namespace ManagedRuntime

/-- The classes without which nothing runs. -/
structure CoreClasses where
  /-- The root of every class chain. -/
  object : ClassId
  /-- The class of the error for a null reference. -/
  nullReference : ClassId
  /-- The class of the error for an index out of bounds. -/
  indexOutOfBounds : ClassId
  deriving DecidableEq, Repr

namespace CoreClasses

def underRoot (object : ClassId) (name : String) : Blueprint where
  name := name
  superclass := some object

/-- The smallest core, for a system that brings no classes of its own. -/
def bootstrap (classes : Hierarchy) : Except BuildError (CoreClasses × Hierarchy) := do
  let (object, classes) ← classes.build { name := "java.lang.Object" }
  let (nullReference, classes) ←
    classes.build (underRoot object "java.lang.NullPointerException")
  let (indexOutOfBounds, classes) ←
    classes.build (underRoot object "java.lang.ArrayIndexOutOfBoundsException")
  return ({ object, nullReference, indexOutOfBounds }, classes)

end CoreClasses

structure ClassTable where
  core : CoreClasses
  /-- The array classes of the primitive kinds, in the order of the kinds. -/
  primitiveArrays : List ClassId
  /-- The registered classes by name. -/
  names : Std.TreeMap String ClassId

namespace ClassTable

def makePrimitiveArrays (object : ClassId) : List Primitive → Hierarchy → List ClassId × Hierarchy
  | [], classes => ([], classes)
  | kind :: kinds, classes =>
    let (array, classes) :=
      classes.push (classes.arrayDescriptor object kind.name (.primitive kind))
    let (arrays, classes) := makePrimitiveArrays object kinds classes
    (array :: arrays, classes)

/-- Registers a class under its name, in place of an earlier one of that name. -/
def register (table : ClassTable) (classes : Hierarchy) (id : ClassId) : ClassTable :=
  { table with names := table.names.insert (classes.name id) id }

/-- The table over a core: the core classes and the primitive array classes, which
    are made now. -/
def new (core : CoreClasses) (classes : Hierarchy) : ClassTable × Hierarchy :=
  let (primitiveArrays, classes) := makePrimitiveArrays core.object Primitive.all classes
  let known := [core.object, core.nullReference, core.indexOutOfBounds] ++ primitiveArrays
  (known.foldl (·.register classes ·) { core, primitiveArrays, names := ∅ }, classes)

def size (table : ClassTable) : Nat :=
  table.names.size

def isEmpty (table : ClassTable) : Bool :=
  table.names.isEmpty

def primitiveArray? (table : ClassTable) (kind : Primitive) : Option ClassId :=
  table.primitiveArrays[kind.tag]?

def lookup (table : ClassTable) (classes : Hierarchy) : List Char → Option ClassId
  | [] => table.names[""]?
  | letter :: letters =>
    match table.names[String.ofList (letter :: letters)]? with
    | some id => some id
    | none =>
      if letter = '[' then (table.lookup classes letters).bind classes.arrayClass? else none

/-- Looks a class up by its name.  This makes no class. -/
def get? (table : ClassTable) (classes : Hierarchy) (name : String) : Option ClassId :=
  table.lookup classes name.toList

end ClassTable

end ManagedRuntime
