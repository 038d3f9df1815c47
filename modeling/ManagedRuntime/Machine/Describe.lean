/-
  Descriptions
  ============
  One-line texts for people who debug a running program.  Where a text points at an
  object, a class, a table or a variable it shows a hexadecimal number that no other
  thing of the same sort has; zero is null.
-/
import ManagedRuntime.Machine.Check
import ManagedRuntime.Text.Quoted

namespace ManagedRuntime

def placeText (place : Nat) : String :=
  "0x" ++ String.ofList (Nat.toDigits 16 place)

def pointerText : Option Nat → String
  | none => placeText 0
  | some number => placeText ((number + 1) * 16)

def DispatchTable.describe (table : DispatchTable) : String :=
  "DispatchTable(" ++ pointerText (some table.id) ++ ", " ++ toString table.size ++ " slots)"

def FieldLayout.describe (layout : FieldLayout) : String :=
  "FieldLayout \x7b offset: " ++ toString layout.offset ++ ", count: " ++ toString layout.count
    ++ " \x7d"

def describeRefusal (name : String) (reason : BlueprintError) : String :=
  let quoted (text : String) := String.ofList (Text.quote text.toList)
  "InvalidClass \x7b name: " ++ quoted name ++ ", reason: " ++ quoted reason.message ++ " \x7d"

def Hierarchy.describe (classes : Hierarchy) (id : ClassId) : String :=
  match classes.get? id with
  | some cls => cls.kind.name ++ " " ++ cls.name ++ " (" ++ pointerText (some id) ++ ")"
  | none => pointerText none

namespace Machine

/-- An object by its class and its place; without a class by its place alone. -/
def describeRef (machine : Machine) (ref : Ref) : String :=
  match machine.class? ref with
  | some cls => cls.name ++ "@" ++ pointerText ref
  | none => pointerText ref

def describeSlot (machine : Machine) (slot : ReferenceSlot) : String :=
  let table := match slot.table with
    | some table => "Some(" ++ table.describe ++ ")"
    | none => "None"
  "ReferenceSlot \x7b vtable: " ++ table ++ ", object: " ++ machine.describeRef slot.object
    ++ " \x7d"

def describeRoot (machine : Machine) : RootSlot → String
  | .operand ref => "OPERAND " ++ pointerText ref
  | .localCell cell =>
    "LOCAL " ++ pointerText (some cell) ++ "(" ++ pointerText (machine.heap.readCell cell) ++ ")"

def describeFailure (machine : Machine) : Failure → String
  | .exception id => "Exception " ++ machine.describeRef (some id)
  | .fatal error => error.message
  | .fault fault => fault.message

end Machine

end ManagedRuntime
