/-
  Marking
  =======
  The first half of a collection: reach every object from a list of references and
  set its mark bit.  Reached objects wait in a stack, and the one that was reached
  last is traced first.  An object enters the stack only while its mark is clear
  and is marked as it enters, so each is traced once: an unmarked object turns into
  a waiting one, and `Marking.pending`, which counts both, falls with each object
  traced.
-/
import ManagedRuntime.Heap.Store

namespace ManagedRuntime

/-- A mark phase under way. -/
structure Marking (α : Type) where
  store : Store α
  /-- Objects that are marked and not traced yet, the next one first. -/
  waiting : List ObjectId := []
  /-- Objects that were asked for their references, the last one first. -/
  traced : List ObjectId := []

namespace Marking

variable {α : Type}

/-- Objects that are not traced yet: the unmarked ones and those that wait. -/
def pending (marking : Marking α) : Nat :=
  marking.store.unmarkedCount + marking.waiting.length

/-- Looks at one reference: an unmarked object is marked and put on the stack. -/
def visit (marking : Marking α) : Ref → Marking α
  | none => marking
  | some id =>
    if marking.store.isUnmarked id then
      { marking with store := marking.store.mark id, waiting := id :: marking.waiting }
    else marking

def visitAll (marking : Marking α) (refs : List Ref) : Marking α :=
  refs.foldl visit marking

def refsOf (model : ObjectModel α) (store : Store α) (id : ObjectId) : List Ref :=
  match store.get? id with
  | some object => model.refs object.data
  | none => []

theorem pending_visit (marking : Marking α) (ref : Ref) :
    (marking.visit ref).pending = marking.pending := by
  rcases ref with _ | id
  · rfl
  · simp only [visit]
    split
    case isTrue h =>
      have := Store.unmarkedCount_mark h
      simp only [pending, List.length_cons]
      omega
    case isFalse => rfl

theorem pending_visitAll (marking : Marking α) (refs : List Ref) :
    (marking.visitAll refs).pending = marking.pending := by
  induction refs generalizing marking with
  | nil => rfl
  | cons ref refs ih =>
    rw [visitAll, List.foldl_cons, ← visitAll, ih, pending_visit]

/-- Traces waiting objects until none is left. -/
def drain (model : ObjectModel α) (marking : Marking α) : Marking α :=
  match _h : marking.waiting with
  | [] => marking
  | id :: waiting =>
    drain model <| visitAll { marking with waiting, traced := id :: marking.traced }
      (refsOf model marking.store id)
termination_by marking.pending
decreasing_by
  simp only [pending_visitAll]
  simp [pending, _h]

/-- Marks everything that the given references reach. -/
def run (model : ObjectModel α) (store : Store α) (refs : List Ref) : Marking α :=
  drain model (visitAll { store } refs)

def tracedInOrder (marking : Marking α) : List ObjectId :=
  marking.traced.reverse

end Marking

end ManagedRuntime
