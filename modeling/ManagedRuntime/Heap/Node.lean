/-
  Graph nodes
  ===========
  The smallest object model: a node holds a word of tag and a fixed number of
  references, and its data is the count, the tag and the references, eight bytes
  each.  Storage that is too small for the count and the tag holds no references.
-/
import ManagedRuntime.Heap.Basic

namespace ManagedRuntime

structure Node where
  tag : Nat := 0
  refs : Array Ref := #[]
  deriving DecidableEq, Repr

namespace Node

/-- Fresh storage holds no references, whatever its size. -/
def model : ObjectModel Node where
  zeroed _ := {}
  refs node := node.refs.toList

/-- Bytes of data of a node with so many references, in word arithmetic. -/
def bytes (count : Nat) : Except Fault Nat := do
  addWord 16 (← mulWord 8 count)

def blank (tag count : Nat) : Node where
  tag := tag
  refs := Array.replicate count none

/-- Replaces one reference; an index beyond the last changes nothing. -/
def setRef (node : Node) (index : Nat) (ref : Ref) : Node :=
  { node with refs := node.refs.setIfInBounds index ref }

end Node

namespace Heap

/-- Allocates a node whose references are all null.  A count of references whose
    bytes are no word is a fault, and the heap is not asked. -/
def allocateNode (heap : Heap Node) (tag count : Nat) :
    Except Fault (Except AllocationError ObjectId) × Heap Node :=
  match Node.bytes count with
  | .error fault => (.error fault, heap)
  | .ok bytes =>
    match heap.allocate Node.model bytes with
    | (.ok id, heap) => (.ok (.ok id), heap.modifyData id fun _ => .blank tag count)
    | (.error error, heap) => (.ok (.error error), heap)

/-- Stores a reference into a node, where the node has one of that index. -/
def setNodeRef? (heap : Heap Node) (id : ObjectId) (index : Nat) (ref : Ref) :
    Option (Heap Node) := do
  let node ← heap.data? id
  if index < node.refs.size then some (heap.modifyData id (·.setRef index ref)) else none

end Heap

end ManagedRuntime
