/-
  Classes
  =======
  A class descriptor says how the instances of a type are laid out and how calls on
  them are dispatched.  Descriptors are compared by identity: a class is named by
  its place among all descriptors that were ever made (`ClassId`).

  What a descriptor holds beyond its name and its tables depends on its shape: an
  instance class has a size and a block of reference slots, an interface has
  neither, and an array class has an element type.
-/
import ManagedRuntime.Class.Dispatch
import ManagedRuntime.Kind

namespace ManagedRuntime

abbrev ClassId := Nat

/-! ### Field layout -/

/-- Where the reference fields that a class declares itself lie in its instances: a
    block of reference slots that starts where the superclass's instances end. -/
structure FieldLayout where
  offset : Nat := 0
  count : Nat := 0
  deriving DecidableEq, Repr

namespace FieldLayout

def offsetOf (layout : FieldLayout) (index : Nat) : Nat :=
  layout.offset + index * slotSize

def slotOffset? (layout : FieldLayout) (index : Nat) : Option Nat :=
  if index < layout.count then some (layout.offsetOf index) else none

def wordOffsetOf (layout : FieldLayout) (index : Nat) : Except Fault Nat := do
  addWord layout.offset (← mulWord index slotSize)

def wordSlotOffset? (layout : FieldLayout) (index : Nat) : Except Fault (Option Nat) :=
  if index < layout.count then (layout.wordOffsetOf index).map some else .ok none

def wordEnd (layout : FieldLayout) : Except Fault Nat :=
  layout.wordOffsetOf layout.count

theorem wordOffsetOf_eq_ok {layout : FieldLayout} {index : Nat}
    (h : layout.offsetOf index < wordLimit) :
    layout.wordOffsetOf index = .ok (layout.offsetOf index) := by
  unfold offsetOf at h
  have hmul : mulWord index slotSize = .ok (index * slotSize) := by
    rw [mulWord_eq_ok_iff]; omega
  have hadd : addWord layout.offset (index * slotSize)
      = .ok (layout.offset + index * slotSize) := by
    rw [addWord_eq_ok_iff]; omega
  rw [wordOffsetOf, hmul]
  exact hadd

end FieldLayout

/-! ### Descriptors -/

inductive ElementType where
  | primitive (kind : Primitive)
  | references (element : ClassId)
  deriving DecidableEq, Repr

def ElementType.kind : ElementType → Kind
  | .primitive kind => .primitive kind
  | .references _ => .reference

inductive ClassShape where
  /-- Objects of a fixed size, class word included, with a block of own fields. -/
  | instances (size : Nat) (fields : FieldLayout)
  | interface
  | array (element : ElementType)
  deriving DecidableEq, Repr

/-- An interface that a class implements, with the table for calls through it. -/
structure InterfaceEntry where
  interface : ClassId
  table : DispatchTable
  deriving DecidableEq, Repr

structure Class where
  name : String
  shape : ClassShape
  superclass : Option ClassId := none
  /-- The table for virtual calls. -/
  table : DispatchTable
  /-- The interfaces that the class itself names, in order. -/
  interfaces : List InterfaceEntry := []
  /-- The code that initialises an error object of the class before it is raised. -/
  initializer : Option Method := none
  deriving DecidableEq, Repr

inductive ClassKind where
  | instances
  | interface
  | array
  deriving DecidableEq, Repr

def ClassKind.name : ClassKind → String
  | .instances => "Instance"
  | .interface => "Interface"
  | .array => "Array"

namespace Class

def kind (cls : Class) : ClassKind :=
  match cls.shape with
  | .instances .. => .instances
  | .interface => .interface
  | .array _ => .array

/-- Bytes of an instance; zero for interfaces and arrays. -/
def instanceSize (cls : Class) : Nat :=
  match cls.shape with
  | .instances size _ => size
  | _ => 0

def fields (cls : Class) : FieldLayout :=
  match cls.shape with
  | .instances _ fields => fields
  | _ => {}

def elementType? (cls : Class) : Option ElementType :=
  match cls.shape with
  | .array element => some element
  | _ => none

def elementKind? (cls : Class) : Option Kind :=
  cls.elementType?.map (·.kind)

/-- The class of the elements, for an array of references. -/
def elementClass? (cls : Class) : Option ClassId :=
  match cls.shape with
  | .array (.references element) => some element
  | _ => none

/-- Offset of the first element; zero for a class that is no array. -/
def elementsOffset (cls : Class) : Nat :=
  match cls.shape with
  | .array element => element.kind.elementsOffset
  | _ => 0

/-- The table for calls through an interface: that of the first entry for it. -/
def interfaceTable? (cls : Class) (interface : ClassId) : Option DispatchTable :=
  (cls.interfaces.find? (·.interface == interface)).map (·.table)

/-- Whether the class itself names an interface. -/
def implements (cls : Class) (interface : ClassId) : Bool :=
  cls.interfaces.any (·.interface == interface)

end Class

end ManagedRuntime
