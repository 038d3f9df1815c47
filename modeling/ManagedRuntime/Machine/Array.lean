/-
  Array construction
  ==================
  An array of several dimensions is an array of references to arrays of the
  remaining dimensions, all made at once.  While the inner arrays are made, the
  outer one and with it those already stored stand on the shadow stack, in a frame
  of its own that is closed whether or not the construction succeeds.
-/
import ManagedRuntime.Machine.Basic

namespace ManagedRuntime

/-- The arrays of one dimension of a construction. -/
structure ArrayLevel where
  classId : ClassId
  kind : Kind
  table : DispatchTable
  length : Nat
  deriving DecidableEq, Repr

namespace ArrayLevel

def bytes? (level : ArrayLevel) : Option Nat := do
  addWord? (← mulWord? level.length level.kind.size) level.kind.elementsOffset

end ArrayLevel

namespace Machine

def inFrame {β : Type} (action : Action β) : Action β :=
  ExceptT.mk fun machine =>
    let mark := machine.openFrame
    let (result, left) := action.run machine
    match (closeFrame mark).run left with
    | (.ok (), closed) => (result, closed)
    | (.error error, closed) => (.error error, closed)

def allocateFlat (level : ArrayLevel) : Action ObjectId := do
  match level.bytes? with
  | none => throw (.allocation .tooBig)
  | some bytes =>
    let id ← allocate bytes
    modify (·.updateStorage id fun storage =>
      (storage.setClass level.classId).setLength level.length)
    return id

def storeInner (machine : Machine) (outer : ObjectId) (index : Nat) (table : DispatchTable)
    (inner : ObjectId) : Machine :=
  match machine.elementOffset? (some outer) .reference index with
  | some offset => machine.updateStorage outer fun storage =>
      storage.write .reference offset { table := some table, object := some inner }
  | none => machine

/-- Makes an inner array for each of `count` elements, from `index` on. -/
def fill (outer : ObjectId) (table : DispatchTable) (makeInner : Action ObjectId) :
    (count index : Nat) → Action Unit
  | 0, _ => return ()
  | count + 1, index => do
    let inner ← makeInner
    modify (·.storeInner outer index table inner)
    fill outer table makeInner count (index + 1)

/-- Makes an array of one level, with arrays of the inner levels in its elements. -/
def allocateLevels (level : ArrayLevel) : List ArrayLevel → Action ObjectId
  | [] => allocateFlat level
  | inner :: levels => inFrame do
    let array ← allocateFlat level
    pushOperand (some array)
    fill array inner.table (allocateLevels inner levels) level.length 0
    return array

/-- The class of the innermost arrays: the primitive array class of the kind, or the
    class of arrays of `element`. -/
def innermostClass (machine : Machine) (kind : Kind) (element : Option ClassId) :
    Except RuntimeError (ClassId × Machine) :=
  match kind, element with
  | .primitive kind, _ =>
    match machine.table.primitiveArray? kind with
    | some array => .ok (array, machine)
    | none => .error .missingElementClass
  | .reference, some element => .ok (machine.arrayOf element)
  | .reference, none => .error .missingElementClass

def level (machine : Machine) (classId : ClassId) (kind : Kind) (length : Nat) : ArrayLevel where
  classId := classId
  kind := kind
  table := machine.classes.table classId
  length := length

/-- Puts levels of arrays around a level, for the lengths given innermost first.  The
    array classes that are missing are made. -/
def surround (machine : Machine) (level : ArrayLevel) (inner : List ArrayLevel) :
    (lengths : List Nat) → (ArrayLevel × List ArrayLevel) × Machine
  | [] => ((level, inner), machine)
  | length :: lengths =>
    let (outer, machine) := machine.arrayOf level.classId
    machine.surround (machine.level outer .reference length) (level :: inner) lengths

/-- Makes an array.  The outermost dimension comes first; for references the
    innermost arrays hold objects of class `element`. -/
def newArray (kind : Kind) (element : Option ClassId) (dimensions : List Int) :
    Action ObjectId := do
  match dimensions.find? (· < 0), (dimensions.map (·.toNat)).reverse with
  | _, [] => throw .noDimensions
  | some length, _ => throw (.negativeDimension length)
  | none, length :: lengths =>
    match (← get).innermostClass kind element with
    | .error error => throw error
    | .ok (innermost, machine) =>
      let ((outermost, inner), machine) :=
        machine.surround (machine.level innermost kind length) [] lengths
      set machine
      allocateLevels outermost inner

end Machine

end ManagedRuntime
