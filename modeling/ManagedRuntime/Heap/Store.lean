/-
  Objects in storage
  ==================
  The heap is generic in what an object holds: an `ObjectModel` says what fresh
  storage looks like and which references an object holds.  Each object has a
  header with the bytes it takes in all and a mark bit, set while a collection has
  reached the object and clear at all other times.

  A store maps object names to objects.  A name is given out once, so the number
  of names given out (`Store.issued`) is also the next name; a freed name maps to
  nothing from then on.
-/
import ManagedRuntime.Heap.Roots

namespace ManagedRuntime

/-- Where the objects over a heap keep their references. -/
structure ObjectModel (α : Type) where
  /-- Fresh storage of a size in bytes. -/
  zeroed : Nat → α
  /-- The references that an object holds, in the order in which they are visited. -/
  refs : α → List Ref

structure Object (α : Type) where
  /-- Bytes of the whole allocation, header included. -/
  total : Nat
  marked : Bool := false
  data : α
  deriving Repr

/-- What a sweep leaves of an object: nothing of an unmarked one, and a marked one
    with its mark clear. -/
def Object.swept {α : Type} (object : Object α) : Option (Object α) :=
  if object.marked then some { object with marked := false } else none

structure Store (α : Type) where
  slots : Array (Option (Object α)) := #[]

namespace Store

variable {α : Type}

/-- A store in which the first `issued` names are taken and free of objects. -/
def vacant (issued : Nat) : Store α where
  slots := Array.replicate issued none

/-- How many names were given out. -/
def issued (store : Store α) : Nat :=
  store.slots.size

def get? (store : Store α) (id : ObjectId) : Option (Object α) :=
  store.slots[id]?.join

def push (store : Store α) (object : Object α) : Store α where
  slots := store.slots.push (some object)

/-- Changes the object of a name, if there is one. -/
def modify (store : Store α) (id : ObjectId) (change : Object α → Object α) : Store α where
  slots := store.slots.modify id (·.map change)

def modifyData (store : Store α) (id : ObjectId) (change : α → α) : Store α :=
  store.modify id fun object => { object with data := change object.data }

def mark (store : Store α) (id : ObjectId) : Store α :=
  store.modify id ({ · with marked := true })

def isMarked (store : Store α) (id : ObjectId) : Bool :=
  (store.get? id).any (·.marked)

def isUnmarked (store : Store α) (id : ObjectId) : Bool :=
  (store.get? id).any (!·.marked)

def unmarkedCount (store : Store α) : Nat :=
  store.slots.countP (·.any (!·.marked))

/-- Frees the object of a name if it is unmarked, and clears its mark otherwise. -/
def release (store : Store α) (id : ObjectId) : Store α where
  slots := store.slots.modify id (·.bind (·.swept))

def sizeOf (store : Store α) (id : ObjectId) : Nat :=
  match store.get? id with
  | some object => object.total
  | none => 0

theorem get?_vacant (issued id : Nat) : (vacant issued : Store α).get? id = none := by
  simp only [get?, vacant, Array.getElem?_replicate]
  split <;> rfl

theorem get?_push (store : Store α) (object : Object α) (id : ObjectId) :
    (store.push object).get? id = if id = store.issued then some object else store.get? id := by
  simp only [get?, push, issued, Array.getElem?_push]
  split <;> simp_all

theorem get?_modify (store : Store α) (id other : ObjectId) (change : Object α → Object α) :
    (store.modify id change).get? other =
      if id = other then (store.get? other).map change else store.get? other := by
  simp only [get?, modify, Array.getElem?_modify]
  split
  · cases store.slots[other]? with
    | none => rfl
    | some slot => rfl
  · rfl

theorem get?_release (store : Store α) (id other : ObjectId) :
    (store.release id).get? other =
      if id = other then (store.get? other).bind (·.swept) else store.get? other := by
  simp only [get?, release, Array.getElem?_modify]
  split
  · cases store.slots[other]? with
    | none => rfl
    | some slot => rfl
  · rfl

/-- Marking an unmarked object leaves one unmarked object fewer. -/
theorem unmarkedCount_mark {store : Store α} {id : ObjectId} (h : store.isUnmarked id) :
    (store.mark id).unmarkedCount + 1 = store.unmarkedCount := by
  unfold isUnmarked get? at h
  rcases hslot : store.slots[id]? with _ | slot
  · simp [hslot] at h
  obtain ⟨hid, rfl⟩ := Array.getElem?_eq_some_iff.1 hslot
  rw [hslot, Option.join_some] at h
  have hpos : 0 < store.slots.countP (·.any (!·.marked)) :=
    Array.countP_pos_iff.2 ⟨_, Array.getElem_mem hid, h⟩
  have hmark : (store.mark id).slots =
      store.slots.set id (store.slots[id].map ({ · with marked := true })) := by
    apply Array.ext_getElem?
    intro i
    rw [mark, modify, Array.getElem?_modify, Array.getElem?_set]
    split
    · subst id; simp [hslot]
    · rfl
  unfold unmarkedCount
  rw [hmark, Array.countP_set, if_pos h, if_neg (by cases store.slots[id] <;> simp)]
  omega

end Store

end ManagedRuntime
