/-
  The machine
  ===========
  Everything that compiled code talks to: the classes that exist, the table of those
  it can look up, and the heap of objects over them.

  An operation that may fail is an `Action`.  It leaves a machine behind in either
  case: a failed allocation, say, may have collected.
-/
import ManagedRuntime.Class.Table
import ManagedRuntime.Error
import ManagedRuntime.Object.Access

namespace ManagedRuntime

structure Machine where
  classes : Hierarchy
  table : ClassTable
  heap : Heap Storage

abbrev Action (β : Type) := ExceptT RuntimeError (StateM Machine) β

namespace Action

variable {β γ : Type}

/-- The second action runs on the machine that the first left, unless that failed. -/
theorem run_bind (first : Action β) (next : β → Action γ) (machine : Machine) :
    (first >>= next).run machine =
      match first.run machine with
      | (.ok value, machine) => (next value).run machine
      | (.error error, machine) => (.error error, machine) := by
  change (ExceptT.bind first next).run machine = _
  simp only [ExceptT.bind, ExceptT.run_mk]
  change StateT.bind first.run _ machine = _
  simp only [StateT.bind]
  rcases first.run machine with ⟨result, left⟩
  cases result <;> rfl

end Action

namespace Machine

def onHeap {ε β : Type} (wrap : ε → RuntimeError)
    (operation : Hierarchy → Heap Storage → Except ε β × Heap Storage) : Action β :=
  ExceptT.mk fun machine =>
    let (result, heap) := operation machine.classes machine.heap
    (result.mapError wrap, { machine with heap })

def ofHeap (heap : Heap Storage) (core : CoreClasses) (classes : Hierarchy) : Machine :=
  let (table, classes) := ClassTable.new core classes
  { classes, table, heap }

def new (config : HeapConfig) (system : SystemMemory) (cells : Cells) (issued : Nat)
    (core : CoreClasses) (classes : Hierarchy) : Except Fault Machine :=
  (Heap.new config system cells issued).map (ofHeap · core classes)

def bootstrap (config : HeapConfig) (system : SystemMemory) (cells : Cells) (issued : Nat)
    (classes : Hierarchy) : Except BuildError Machine := do
  let (core, classes) ← CoreClasses.bootstrap classes
  (new config system cells issued core classes).mapError .fault

/-! ### Classes -/

def build (machine : Machine) (blueprint : Blueprint) : Except BuildError (ClassId × Machine) := do
  let (id, classes) ← machine.classes.build blueprint
  return (id, { machine with classes })

def register (machine : Machine) (id : ClassId) : Machine :=
  { machine with table := machine.table.register machine.classes id }

def lookup? (machine : Machine) (name : String) : Option ClassId :=
  machine.table.get? machine.classes name

/-- The root of every class chain. -/
def rootClass (machine : Machine) : ClassId :=
  machine.table.core.object

def arrayOf (machine : Machine) (element : ClassId) : ClassId × Machine :=
  let (array, classes) := machine.classes.arrayOf machine.rootClass element
  (array, { machine with classes })

/-! ### Contents of objects -/

def storage? (machine : Machine) (ref : Ref) : Option Storage :=
  ref.bind machine.heap.data?

def updateStorage (machine : Machine) (id : ObjectId) (change : Storage → Storage) : Machine :=
  { machine with heap := machine.heap.modifyData id change }

/-- The class of an object; none for null and for storage without a class. -/
def classId? (machine : Machine) (ref : Ref) : Option ClassId :=
  (machine.storage? ref).bind (·.classId?)

def class? (machine : Machine) (ref : Ref) : Option Class :=
  (machine.classId? ref).bind machine.classes.get?

def dispatchTable? (machine : Machine) (ref : Ref) : Option DispatchTable :=
  (machine.class? ref).map (·.table)

def referenceTo (machine : Machine) (ref : Ref) : ReferenceSlot where
  table := machine.dispatchTable? ref
  object := ref

/-- Gives storage its class. -/
def initObject (machine : Machine) (id : ObjectId) (classId : ClassId) : Machine :=
  machine.updateStorage id (·.setClass classId)

def field? (machine : Machine) (ref : Ref) (owner : ClassId) (index : Nat) :
    Option ReferenceSlot := do
  let storage ← machine.storage? ref
  storage.field? machine.classes owner index

def fieldOffset? (machine : Machine) (ref : Ref) (owner : ClassId) (index : Nat) :
    Option Nat := do
  let storage ← machine.storage? ref
  storage.fieldOffset? machine.classes owner index

def setField? (machine : Machine) (ref : Ref) (owner : ClassId) (index : Nat)
    (slot : ReferenceSlot) : Option Machine := do
  let id ← ref
  let offset ← machine.fieldOffset? ref owner index
  return machine.updateStorage id (·.write .reference offset slot)

def isArray (machine : Machine) (ref : Ref) : Bool :=
  (machine.classId? ref).any machine.classes.isArray

def arrayLength? (machine : Machine) (ref : Ref) : Option Int :=
  if machine.isArray ref then (machine.storage? ref).map (·.length) else none

def element? (machine : Machine) (ref : Ref) (kind : Kind) (index : Int) :
    Option kind.Value := do
  let storage ← machine.storage? ref
  storage.element? machine.classes kind index

def elementOffset? (machine : Machine) (ref : Ref) (kind : Kind) (index : Int) : Option Nat := do
  let storage ← machine.storage? ref
  storage.elementOffset? machine.classes kind index

def setElement? (machine : Machine) (ref : Ref) (kind : Kind) (index : Int)
    (value : kind.Value) : Option Machine := do
  let id ← ref
  let offset ← machine.elementOffset? ref kind index
  return machine.updateStorage id (·.write kind offset value)

/-! ### Allocation and collection -/

/-- Zeroed storage without a class. -/
def allocate (bytes : Nat) : Action ObjectId :=
  onHeap .allocation fun classes heap => heap.allocate classes.objectModel bytes

/-- A zeroed instance of a class. -/
def newObject (classId : ClassId) : Action ObjectId := do
  let classes := (← get).classes
  match classes.shape? classId with
  | some (.instances size _) =>
    let id ← allocate size
    modify (·.initObject id classId)
    return id
  | _ => throw (.notInstantiable (classes.name classId))

def collect (machine : Machine) : Collection × Machine :=
  let (collection, heap) := machine.heap.collect machine.classes.objectModel
  (collection, { machine with heap })

/-! ### Roots and variables -/

def openFrame (machine : Machine) : Nat :=
  machine.heap.openFrame

def closeFrame (mark : Nat) : Action Unit :=
  onHeap .root fun _ heap => heap.closeFrame mark

def pushOperand (ref : Ref) : Action Unit :=
  onHeap .root fun _ heap => heap.pushOperand ref

def popOperand : Action Ref :=
  onHeap .root fun _ heap => heap.popOperand

def registerLocal (cell : CellId) : Action Unit :=
  onHeap .root fun _ heap => heap.registerLocal cell

def addStaticRoot (cell : CellId) : Action Unit :=
  onHeap .root fun _ heap => heap.addStaticRoot cell

def writeCell (machine : Machine) (cell : CellId) (ref : Ref) : Machine :=
  { machine with heap := machine.heap.writeCell cell ref }

end Machine

end ManagedRuntime
