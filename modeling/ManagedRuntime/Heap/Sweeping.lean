/-
  Sweeping
  ========
  The second half of a collection: walk the allocation list from the newest object
  on, free what is unmarked and clear the other marks.  Each survivor is relinked in
  front of the one before, so the survivors are left in reverse order.  The bytes in
  use fall with every object that is freed.
-/
import ManagedRuntime.Heap.Store

namespace ManagedRuntime

/-- A sweep under way. -/
structure Sweeping (α : Type) where
  store : Store α
  /-- The survivors so far, the last one first. -/
  survivors : List ObjectId := []
  /-- Total bytes of the survivors and of what was not met yet. -/
  used : Nat
  /-- How many objects survived. -/
  remaining : Nat := 0
  /-- How many objects were freed. -/
  cleared : Nat := 0
  /-- Bytes of the freed objects. -/
  freed : Nat := 0

namespace Sweeping

variable {α : Type}

/-- Comes to an object of the list: a marked one survives, any other is freed. -/
def meet (sweeping : Sweeping α) (id : ObjectId) : Sweeping α :=
  if sweeping.store.isMarked id then
    { sweeping with
      store := sweeping.store.release id
      survivors := id :: sweeping.survivors
      remaining := sweeping.remaining + 1 }
  else
    let size := sweeping.store.sizeOf id
    { sweeping with
      store := sweeping.store.release id
      used := sweeping.used - size
      cleared := sweeping.cleared + 1
      freed := sweeping.freed + size }

/-- Walks the objects of a list, which take `used` bytes. -/
def run (store : Store α) (used : Nat) (ids : List ObjectId) : Sweeping α :=
  ids.foldl meet { store, used }

end Sweeping

end ManagedRuntime
