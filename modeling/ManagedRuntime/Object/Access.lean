/-
  Fields, elements and traced references
  ======================================
  An object starts with its class word, zero until the object is initialised; an
  array continues with its 32-bit length.  Through the class word three readers see
  the same storage:

  * field access, by the class that declares the field and its index;
  * element access, by kind and index, refused out of bounds;
  * the collector, which asks for every reference that the object holds
    (`Storage.refs`).
-/
import ManagedRuntime.Class.Subtype
import ManagedRuntime.Heap.Store
import ManagedRuntime.Object.Value

namespace ManagedRuntime

namespace Storage

/-! ### Headers -/

def zeroed (size : Nat) : Storage where
  size := size

/-- The class in the class word.  Storage too small for the word has no class. -/
def classId? (storage : Storage) : Option ClassId :=
  if storage.size < classWordSize then none
  else
    match storage.pointerAt? 0 with
    | some (.classOf id) => some id
    | _ => none

def setClass (storage : Storage) (id : ClassId) : Storage :=
  storage.setPointer 0 (some (.classOf id))

/-- The length of an array, a signed 32-bit number. -/
def length (storage : Storage) : Int :=
  (storage.read (.primitive .int) classWordSize).toInt

def setLength (storage : Storage) (length : Nat) : Storage :=
  storage.write (.primitive .int) classWordSize (.ofNat 32 length)

def class? (storage : Storage) (classes : Hierarchy) : Option Class :=
  storage.classId?.bind classes.get?

/-! ### Reference fields -/

/-- Where field `index` of those that `owner` declares lies.  The owner has to be a
    class of the object's chain, and the object no array. -/
def fieldOffset? (storage : Storage) (classes : Hierarchy) (owner : ClassId) (index : Nat) :
    Option Nat := do
  let id ← storage.classId?
  if classes.isArray id || !(classes.chain id).contains owner then none
  else (classes.fields owner).slotOffset? index

def field? (storage : Storage) (classes : Hierarchy) (owner : ClassId) (index : Nat) :
    Option ReferenceSlot :=
  (storage.fieldOffset? classes owner index).map storage.slotAt

/-! ### Array elements -/

/-- Where an element lies.  The kind has to be that of the array's elements, and the
    index within its length. -/
def elementOffset? (storage : Storage) (classes : Hierarchy) (kind : Kind) (index : Int) :
    Option Nat := do
  let cls ← storage.class? classes
  if cls.elementKind? = some kind ∧ 0 ≤ index ∧ index < storage.length then
    some (cls.elementsOffset + index.toNat * kind.size)
  else none

def element? (storage : Storage) (classes : Hierarchy) (kind : Kind) (index : Int) :
    Option kind.Value :=
  (storage.elementOffset? classes kind index).map (storage.read kind ·)

/-! ### What the collector sees -/

def slotRefs (storage : Storage) (offset count : Nat) : List Ref :=
  (List.range count).map fun index => storage.refAt (offset + index * slotSize + pointerSize)

/-- Every reference that an object holds.  Instances are read from their own class
    towards the root; storage without a class and primitive arrays hold none. -/
def refs (storage : Storage) (classes : Hierarchy) : List Ref :=
  match storage.classId? with
  | none => []
  | some id =>
    if classes.isArray id then
      match classes.elementClass? id with
      | some _ => storage.slotRefs Kind.reference.elementsOffset storage.length.toNat
      | none => []
    else
      (classes.chain id).flatMap fun level =>
        storage.slotRefs (classes.fields level).offset (classes.fields level).count

end Storage

/-- The object model over the classes that exist. -/
def Hierarchy.objectModel (classes : Hierarchy) : ObjectModel Storage where
  zeroed := .zeroed
  refs := (·.refs classes)

end ManagedRuntime
