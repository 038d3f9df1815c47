/-
  The collected heap
  ==================
  A stop-the-world mark-sweep heap.  All allocations stand on one list, newest
  first.  An allocation that would pass the soft limit collects first, raises the
  soft limit if too little headroom is left, and fails where even that leaves the
  heap above the hard limit.  The system may also refuse the storage itself.

  A collection marks what the roots reach (`Marking.run`), frees the rest and clears
  the marks (`Sweeping.run`).
-/
import ManagedRuntime.Heap.Limits
import ManagedRuntime.Heap.Marking
import ManagedRuntime.Heap.Sweeping
import ManagedRuntime.SystemMemory

namespace ManagedRuntime

/-! ### Sizes -/

def headerSize : Nat := 24

/-- Bytes of data in an allocation that was asked for `size` bytes. -/
def dataSize (size : Nat) : Nat :=
  nextMultiple size objectAlignment

theorem le_dataSize (size : Nat) : size ≤ dataSize size :=
  le_nextMultiple (by decide)

/-- Bytes of an allocation for `size` bytes of data: the data rounded up to the
    alignment, and the header.  None where that is no word. -/
def totalSize? (size : Nat) : Option Nat := do
  let padded ← addWord? size (objectAlignment - 1)
  addWord? (padded / objectAlignment * objectAlignment) headerSize

/-- Bytes of a slot of the shadow stack: which of the two sorts it is, and a
    pointer. -/
def shadowSlotSize : Nat := 16

def staticRootSize : Nat := 8

/-! ### The heap -/

inductive AllocationError where
  /-- The heap would pass its hard limit, or the system has no storage left. -/
  | outOfHeap (requested used limit : Nat)
  /-- No allocation can be that large. -/
  | tooBig
  /-- The count of bytes in use would leave the word range. -/
  | uncountable
  deriving DecidableEq, Repr

def AllocationError.message : AllocationError → String
  | .outOfHeap requested used limit =>
    "Out of heap: " ++ toString requested ++ " bytes requested with " ++ toString used ++ " of "
      ++ toString limit ++ " bytes in use"
  | .tooBig => "Object is too big to be allocated"
  | .uncountable => Fault.addOverflow.message

/-- The counts that a collection reports. -/
structure Collection where
  /-- Objects freed. -/
  cleared : Nat
  /-- Objects that survive. -/
  remaining : Nat
  /-- Bytes freed. -/
  freed : Nat
  /-- Bytes in use afterwards. -/
  heap : Nat
  deriving DecidableEq, Repr

/-- A heap with its roots and the variables that the roots name. -/
structure Heap (α : Type) where
  roots : Roots
  cells : Cells
  limits : HeapLimits
  system : SystemMemory
  /-- How many requests the system has answered.  The first two are for the tables of roots. -/
  requests : Nat := 2
  store : Store α
  /-- The allocation list, newest object first. -/
  order : List ObjectId := []
  /-- Total bytes of the objects on the list. -/
  used : Nat := 0
  /-- How many objects are on the list. -/
  count : Nat := 0
  collections : Nat := 0

namespace Heap

variable {α : Type}

/-- An empty heap over some variables.  The first `issued` names are not given out
    again. -/
def empty (config : HeapConfig) (system : SystemMemory) (cells : Cells) (issued : Nat) :
    Heap α where
  roots := .empty config.shadowSlots config.staticRoots
  cells := cells
  limits := .ofConfig config
  system := system
  store := .vacant issued

/-- Sets up an empty heap, with storage reserved for all the roots that it may have. -/
def new (config : HeapConfig) (system : SystemMemory) (cells : Cells) (issued : Nat) :
    Except Fault (Heap α) := do
  system.reserve 0 config.shadowSlots shadowSlotSize
  system.reserve 1 config.staticRoots staticRootSize
  return empty config system cells issued

theorem new_eq_ok_iff {config : HeapConfig} {system : SystemMemory} {cells : Cells}
    {issued : Nat} {heap : Heap α} :
    new config system cells issued = .ok heap ↔
      system.reserve 0 config.shadowSlots shadowSlotSize = .ok () ∧
        system.reserve 1 config.staticRoots staticRootSize = .ok () ∧
        heap = empty config system cells issued := by
  unfold new
  rcases system.reserve 0 config.shadowSlots shadowSlotSize with fault | ⟨⟩
  · simp [bind, Except.bind]
  rcases system.reserve 1 config.staticRoots staticRootSize with fault | ⟨⟩
  · simp [bind, Except.bind]
  · simp [bind, Except.bind, pure, Except.pure, eq_comm]

def get? (heap : Heap α) (id : ObjectId) : Option (Object α) :=
  heap.store.get? id

def isLive (heap : Heap α) : Ref → Bool
  | none => false
  | some id => (heap.get? id).isSome

/-- Whether a reference is found on the allocation list. -/
def contains (heap : Heap α) : Ref → Bool
  | none => false
  | some id => heap.order.contains id

def rootRefs (heap : Heap α) : List Ref :=
  heap.roots.current heap.cells

/-! ### Collection -/

/-- Total bytes of an object; nothing for a free name. -/
def sizeOf (heap : Heap α) (id : ObjectId) : Nat :=
  heap.store.sizeOf id

/-- Frees the unmarked objects of the list and clears the other marks. -/
def sweep (heap : Heap α) : Collection × Heap α :=
  let swept := Sweeping.run heap.store heap.used heap.order
  ({ cleared := swept.cleared
     remaining := swept.remaining
     freed := swept.freed
     heap := swept.used },
    { heap with
      store := swept.store
      order := swept.survivors
      used := swept.used
      count := swept.remaining
      collections := heap.collections + 1 })

def marking (model : ObjectModel α) (heap : Heap α) : Marking α :=
  .run model heap.store heap.rootRefs

/-- Frees everything that the roots do not reach. -/
def collect (model : ObjectModel α) (heap : Heap α) : Collection × Heap α :=
  let refs := heap.rootRefs
  { heap with store := (Marking.run model heap.store refs).store }.sweep

theorem collect_eq_sweep (model : ObjectModel α) (heap : Heap α) :
    heap.collect model = { heap with store := (heap.marking model).store }.sweep :=
  rfl

/-! ### Allocation -/

def outOfHeap (heap : Heap α) (total : Nat) : AllocationError :=
  .outOfHeap total heap.used heap.limits.hard

def wouldPass (heap : Heap α) (limit total : Nat) : Bool :=
  limit < saturatingAdd heap.used total

/-- Collects where `total` more bytes would pass the soft limit, and raises the
    soft limit for them. -/
def makeRoom (model : ObjectModel α) (heap : Heap α) (total : Nat) : Heap α :=
  if heap.wouldPass heap.limits.soft total then
    let collected := (heap.collect model).2
    { collected with limits := collected.limits.growFor (saturatingAdd collected.used total) }
  else heap

/-- The heap after one more request to the system, whatever the answer. -/
def asked (heap : Heap α) : Heap α :=
  { heap with requests := heap.requests + 1 }

/-- Asks the system for the bytes of an object, and puts it at the head of the
    allocation list. -/
def place (heap : Heap α) (total : Nat) (data : α) : Except AllocationError ObjectId × Heap α :=
  if !heap.system.grants heap.requests total then (.error (heap.outOfHeap total), heap.asked)
  else if wordLimit ≤ heap.used + total then (.error .uncountable, heap.asked)
  else
    let id := heap.store.issued
    (.ok id, { heap.asked with
      store := heap.store.push { total, data }
      order := id :: heap.order
      used := heap.used + total
      count := heap.count + 1 })

/-- Allocates `size` zeroed bytes, collecting first if the heap is tight.  A heap
    that is still within its soft limit is never refused for its hard one. -/
def allocate (model : ObjectModel α) (heap : Heap α) (size : Nat) :
    Except AllocationError ObjectId × Heap α :=
  match totalSize? size with
  | none => (.error .tooBig, heap)
  | some total =>
    if largestAllocation < total then (.error .tooBig, heap)
    else
      let tight := heap.wouldPass heap.limits.soft total
      let roomy := heap.makeRoom model total
      if tight && roomy.wouldPass roomy.limits.hard total then
        (.error (roomy.outOfHeap total), roomy)
      else roomy.place total (model.zeroed (dataSize size))

/-! ### Roots, variables and contents -/

/-- Carries out an operation on the roots; a refused one changes nothing. -/
def updateRoots (heap : Heap α) (result : Except RootError Roots) :
    Except RootError Unit × Heap α :=
  match result with
  | .ok roots => (.ok (), { heap with roots })
  | .error error => (.error error, heap)

/-- The depth at which a frame opened now begins. -/
def openFrame (heap : Heap α) : Nat :=
  heap.roots.shadow.depth

def closeFrame (heap : Heap α) (mark : Nat) : Except RootError Unit × Heap α :=
  heap.updateRoots <| (heap.roots.shadow.closeFrame mark).map ({ heap.roots with shadow := · })

def pushOperand (heap : Heap α) (ref : Ref) : Except RootError Unit × Heap α :=
  heap.updateRoots <| (heap.roots.shadow.push (.operand ref)).map ({ heap.roots with shadow := · })

def registerLocal (heap : Heap α) (cell : CellId) : Except RootError Unit × Heap α :=
  heap.updateRoots <| (heap.roots.shadow.push (.localCell cell)).map
    ({ heap.roots with shadow := · })

def addStaticRoot (heap : Heap α) (cell : CellId) : Except RootError Unit × Heap α :=
  heap.updateRoots <| (heap.roots.statics.add cell).map ({ heap.roots with statics := · })

def popOperand (heap : Heap α) : Except RootError Ref × Heap α :=
  match heap.roots.shadow.pop with
  | .ok (ref, shadow) => (.ok ref, { heap with roots := { heap.roots with shadow } })
  | .error error => (.error error, heap)

def readCell (heap : Heap α) (cell : CellId) : Ref :=
  heap.cells.read cell

def writeCell (heap : Heap α) (cell : CellId) (ref : Ref) : Heap α :=
  { heap with cells := heap.cells.write cell ref }

def data? (heap : Heap α) (id : ObjectId) : Option α :=
  (heap.get? id).map (·.data)

def modifyData (heap : Heap α) (id : ObjectId) (change : α → α) : Heap α :=
  { heap with store := heap.store.modifyData id change }

end Heap

end ManagedRuntime
