/-
  Operations and runs
  ===================
  What a running program may ask of a machine, one step at a time, and what it is
  told.  An operation either answers or ends the program; a check may also raise an
  error object.  A run carries steps out in order, each on the machine that the step
  before left, failed ones included.
-/
import ManagedRuntime.Machine.Array
import ManagedRuntime.Machine.Check

namespace ManagedRuntime

/-- A request to a machine that raises nothing. -/
inductive Operation where
  | allocate (bytes : Nat)
  | newObject (classId : ClassId)
  | newArray (kind : Kind) (element : Option ClassId) (dimensions : List Int)
  | initObject (object : ObjectId) (classId : ClassId)
  | collect
  | arrayOf (element : ClassId)
  | pushOperand (ref : Ref)
  | popOperand
  | registerLocal (cell : CellId)
  | addStaticRoot (cell : CellId)
  | openFrame
  | closeFrame (mark : Nat)
  | writeCell (cell : CellId) (ref : Ref)
  | getField (object : Ref) (owner : ClassId) (index : Nat)
  | setField (object : Ref) (owner : ClassId) (index : Nat) (slot : ReferenceSlot)
  | getElement (array : Ref) (kind : Kind) (index : Int)
  | setElement (array : Ref) (kind : Kind) (index : Int) (value : kind.Value)

/-- A test that raises an error object when it fails. -/
inductive Check where
  | notNull (ref : Ref)
  | bounds (array : Ref) (index : Int)
  /-- Fails always, with an error object of the class. -/
  | never (classId : ClassId)
  deriving DecidableEq, Repr

inductive Reply where
  | done
  | reference (ref : Ref)
  | classId (id : ClassId)
  | depth (mark : Nat)
  | collected (collection : Collection)
  /-- What a field holds; nothing where there is no such field. -/
  | field (slot : Option ReferenceSlot)
  /-- What an element holds; nothing where there is no such element. -/
  | element (kind : Kind) (value : Option kind.Value)
  /-- Whether there was a place to store into. -/
  | stored (done : Bool)

inductive Step where
  | operation (operation : Operation)
  | check (check : Check)

namespace Machine

/-- An action that answers with a reply made from its result. -/
def replying {β : Type} (reply : β → Reply) (action : Action β) : Action Reply :=
  reply <$> action

/-- Stores where there is a place for it, and says whether there was. -/
def storing (store : Machine → Option Machine) : Action Reply := do
  match store (← get) with
  | some machine =>
    set machine
    return .stored true
  | none => return .stored false

def perform : Operation → Action Reply
  | .allocate bytes => replying (.reference ∘ some) (allocate bytes)
  | .newObject classId => replying (.reference ∘ some) (newObject classId)
  | .newArray kind element dimensions =>
    replying (.reference ∘ some) (newArray kind element dimensions)
  | .initObject object classId => do
    modify (·.initObject object classId)
    return .done
  | .collect => do
    let (collection, machine) := (← get).collect
    set machine
    return .collected collection
  | .arrayOf element => do
    let (array, machine) := (← get).arrayOf element
    set machine
    return .classId array
  | .pushOperand ref => replying (fun _ => .done) (pushOperand ref)
  | .popOperand => replying .reference popOperand
  | .registerLocal cell => replying (fun _ => .done) (registerLocal cell)
  | .addStaticRoot cell => replying (fun _ => .done) (addStaticRoot cell)
  | .openFrame => return .depth (← get).openFrame
  | .closeFrame mark => replying (fun _ => .done) (closeFrame mark)
  | .writeCell cell ref => do
    modify (·.writeCell cell ref)
    return .done
  | .getField object owner index => return .field ((← get).field? object owner index)
  | .setField object owner index slot => storing (·.setField? object owner index slot)
  | .getElement array kind index => return .element kind ((← get).element? array kind index)
  | .setElement array kind index value => storing (·.setElement? array kind index value)

def test (machine : Machine) : Check → Except Failure Unit × Machine
  | .notNull ref => machine.checkNotNull ref
  | .bounds array index => machine.checkBounds array index
  | .never classId => machine.check (.ok false) classId

def step (machine : Machine) : Step → Except Failure Reply × Machine
  | .operation operation =>
    let (result, machine) := (perform operation).run machine
    (result.mapError .fatal, machine)
  | .check check =>
    let (result, machine) := machine.test check
    (result.map fun _ => .done, machine)

def run (machine : Machine) : List Step → List (Except Failure Reply) × Machine
  | [] => ([], machine)
  | step :: steps =>
    let (answer, machine) := machine.step step
    let (answers, machine) := machine.run steps
    (answer :: answers, machine)

end Machine

end ManagedRuntime
