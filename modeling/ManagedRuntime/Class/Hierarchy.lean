/-
  The class hierarchy
  ===================
  All descriptors that exist, in the order in which they were made.  Descriptors
  are only ever added: a class keeps its name for good, and what a class refers to
  (superclass, interfaces, element class) stands before it.

  The array class of a class is the one descriptor whose element class it is
  (`arrayClass?`); `arrayOf` makes it where it is missing, so asking twice gives the
  same class.
-/
import ManagedRuntime.Class.Basic

namespace ManagedRuntime

/-- Every class descriptor, and the number of dispatch tables made so far. -/
structure Hierarchy where
  classes : Array Class := #[]
  tables : Nat := 0
  deriving Repr

namespace Hierarchy

def size (classes : Hierarchy) : Nat :=
  classes.classes.size

def get? (classes : Hierarchy) (id : ClassId) : Option Class :=
  classes.classes[id]?

/-- Adds a descriptor; its name is the number of those before it. -/
def push (classes : Hierarchy) (cls : Class) : ClassId × Hierarchy :=
  (classes.size, { classes with classes := classes.classes.push cls })

/-- A dispatch table with an identity of its own. -/
def newTable (classes : Hierarchy) (methods : List Method) : DispatchTable × Hierarchy :=
  (⟨classes.tables, methods⟩, { classes with tables := classes.tables + 1 })

theorem get?_push (classes : Hierarchy) (cls : Class) (id : ClassId) :
    (classes.push cls).2.get? id = if id = classes.size then some cls else classes.get? id := by
  simp only [get?, push, size, Array.getElem?_push]
  rfl

/-! ### Properties of a class by name -/

def name (classes : Hierarchy) (id : ClassId) : String :=
  match classes.get? id with
  | some cls => cls.name
  | none => ""

def shape? (classes : Hierarchy) (id : ClassId) : Option ClassShape :=
  (classes.get? id).map (·.shape)

def superclass? (classes : Hierarchy) (id : ClassId) : Option ClassId :=
  (classes.get? id).bind (·.superclass)

def elementClass? (classes : Hierarchy) (id : ClassId) : Option ClassId :=
  (classes.get? id).bind (·.elementClass?)

def table (classes : Hierarchy) (id : ClassId) : DispatchTable :=
  match classes.get? id with
  | some cls => cls.table
  | none => ⟨0, []⟩

def fields (classes : Hierarchy) (id : ClassId) : FieldLayout :=
  match classes.get? id with
  | some cls => cls.fields
  | none => {}

def isInterface (classes : Hierarchy) (id : ClassId) : Bool :=
  (classes.get? id).any (·.kind == .interface)

def isArray (classes : Hierarchy) (id : ClassId) : Bool :=
  (classes.get? id).any (·.kind == .array)

/-! ### Superclass chains -/

/-- At most `steps` classes of a chain, from a class towards the root. -/
def chainWithin (classes : Hierarchy) : (steps : Nat) → ClassId → List ClassId
  | 0, _ => []
  | steps + 1, id =>
    id :: match classes.superclass? id with
      | some superclass => classes.chainWithin steps superclass
      | none => []

/-- A class followed by its superclass and so on, up to the root.  A superclass
    stands before its subclasses, so the chain of class `id` has at most `id + 1`
    members. -/
def chain (classes : Hierarchy) (id : ClassId) : List ClassId :=
  classes.chainWithin (id + 1) id

/-! ### Array classes -/

/-- The class of arrays of `element`, once it has been made. -/
def arrayClass? (classes : Hierarchy) (element : ClassId) : Option ClassId :=
  classes.classes.findIdx? (·.elementClass? == some element)

/-- The array class with the given elements, under the class `object`, whose
    dispatch table arrays share. -/
def arrayDescriptor (classes : Hierarchy) (object : ClassId) (elementName : String)
    (element : ElementType) : Class where
  name := "[" ++ elementName
  shape := .array element
  superclass := some object
  table := classes.table object

/-- The class of arrays of `element`, made now if this is the first time. -/
def arrayOf (classes : Hierarchy) (object element : ClassId) : ClassId × Hierarchy :=
  match classes.arrayClass? element with
  | some array => (array, classes)
  | none => classes.push <|
      classes.arrayDescriptor object (classes.name element) (.references element)

end Hierarchy

end ManagedRuntime
