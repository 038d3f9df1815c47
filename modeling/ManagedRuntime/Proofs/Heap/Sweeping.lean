/-
  The sweep
  =========
  What a sweep over a list without repetitions comes to: it releases every object of
  the list, keeps the marked ones in reverse order, and takes the bytes of the others
  off the bytes in use.
-/
import ManagedRuntime.Heap.Sweeping

namespace ManagedRuntime

variable {α : Type}

namespace Store

/-! ### Sizes -/

def bytesOf (store : Store α) : List ObjectId → Nat
  | [] => 0
  | id :: ids => store.sizeOf id + store.bytesOf ids

theorem sizeOf_of_get? {store : Store α} {id : ObjectId} {object : Object α}
    (h : store.get? id = some object) : store.sizeOf id = object.total := by
  simp only [sizeOf, h]

theorem sizeOf_eq (store : Store α) (id : ObjectId) :
    store.sizeOf id = ((store.get? id).map (·.total)).getD 0 := by
  rw [sizeOf]
  cases store.get? id <;> rfl

theorem sizeOf_congr {first second : Store α} {id : ObjectId}
    (h : first.get? id = second.get? id) : first.sizeOf id = second.sizeOf id := by
  simp only [sizeOf, h]

theorem bytesOf_congr {first second : Store α} {ids : List ObjectId}
    (h : ∀ id ∈ ids, first.sizeOf id = second.sizeOf id) :
    first.bytesOf ids = second.bytesOf ids := by
  induction ids with
  | nil => rfl
  | cons id ids ih =>
    rw [bytesOf, bytesOf, h id (List.mem_cons_self ..),
      ih fun other hother => h other (.tail _ hother)]

theorem bytesOf_perm (store : Store α) {first second : List ObjectId} (h : first.Perm second) :
    store.bytesOf first = store.bytesOf second := by
  induction h with
  | nil => rfl
  | cons id _ ih => rw [bytesOf, bytesOf, ih]
  | swap id other ids => simp only [bytesOf]; omega
  | trans _ _ ih₁ ih₂ => exact ih₁.trans ih₂

theorem bytesOf_filter_add (store : Store α) (keep : ObjectId → Bool) (ids : List ObjectId) :
    store.bytesOf (ids.filter keep) + store.bytesOf (ids.filter (!keep ·)) = store.bytesOf ids := by
  induction ids with
  | nil => rfl
  | cons id ids ih => by_cases h : keep id <;> simp [bytesOf, h] <;> omega

/-! ### Releasing -/

def releaseAll (store : Store α) (ids : List ObjectId) : Store α :=
  ids.foldl release store

/-- Each name of a list without repetitions is released once. -/
theorem get?_releaseAll (store : Store α) {ids : List ObjectId} (h : ids.Nodup)
    (other : ObjectId) :
    (store.releaseAll ids).get? other =
      if other ∈ ids then (store.get? other).bind (·.swept) else store.get? other := by
  induction ids generalizing store with
  | nil => simp [releaseAll]
  | cons id ids ih =>
    obtain ⟨hid, hids⟩ := List.nodup_cons.1 h
    rw [releaseAll, List.foldl_cons, ← releaseAll, ih _ hids, get?_release]
    by_cases hother : id = other
    · subst hother
      rw [if_neg hid, if_pos rfl, if_pos (List.mem_cons_self ..)]
    · rw [if_neg hother]
      simp [Ne.symm hother]

theorem issued_releaseAll (store : Store α) (ids : List ObjectId) :
    (store.releaseAll ids).issued = store.issued := by
  induction ids generalizing store with
  | nil => rfl
  | cons id ids ih =>
    rw [releaseAll, List.foldl_cons, ← releaseAll, ih]
    simp only [issued, release, Array.size_modify]

theorem isMarked_release_of_ne (store : Store α) {id other : ObjectId} (h : id ≠ other) :
    (store.release id).isMarked other = store.isMarked other := by
  unfold isMarked
  rw [get?_release, if_neg h]

theorem sizeOf_release_of_ne (store : Store α) {id other : ObjectId} (h : id ≠ other) :
    (store.release id).sizeOf other = store.sizeOf other :=
  sizeOf_congr (by rw [get?_release, if_neg h])

end Store

namespace Sweeping

theorem filter_release (store : Store α) {id : ObjectId} {ids : List ObjectId} (h : id ∉ ids) :
    ids.filter (store.release id).isMarked = ids.filter store.isMarked :=
  List.filter_congr fun _ hother =>
    store.isMarked_release_of_ne (ne_of_mem_of_not_mem hother h).symm

theorem filter_not_release (store : Store α) {id : ObjectId} {ids : List ObjectId} (h : id ∉ ids) :
    ids.filter (!(store.release id).isMarked ·) = ids.filter (!store.isMarked ·) :=
  List.filter_congr fun other hother => by
    rw [store.isMarked_release_of_ne (ne_of_mem_of_not_mem hother h).symm]

theorem bytesOf_release (store : Store α) {id : ObjectId} {ids : List ObjectId} (h : id ∉ ids)
    (keep : ObjectId → Bool) :
    (store.release id).bytesOf (ids.filter keep) = store.bytesOf (ids.filter keep) :=
  Store.bytesOf_congr fun _ hother =>
    store.sizeOf_release_of_ne (ne_of_mem_of_not_mem (List.mem_filter.1 hother).1 h).symm

/-- A sweep under way, and what it has come to at the end of a list. -/
theorem foldl_meet (sweeping : Sweeping α) {ids : List ObjectId} (h : ids.Nodup) :
    ids.foldl meet sweeping = {
      store := sweeping.store.releaseAll ids
      survivors := (ids.filter sweeping.store.isMarked).reverse ++ sweeping.survivors
      used := sweeping.used - sweeping.store.bytesOf (ids.filter (!sweeping.store.isMarked ·))
      remaining := sweeping.remaining + (ids.filter sweeping.store.isMarked).length
      cleared := sweeping.cleared + (ids.filter (!sweeping.store.isMarked ·)).length
      freed := sweeping.freed +
        sweeping.store.bytesOf (ids.filter (!sweeping.store.isMarked ·)) } := by
  induction ids generalizing sweeping with
  | nil => rfl
  | cons id ids ih =>
    obtain ⟨hid, hids⟩ := List.nodup_cons.1 h
    rw [List.foldl_cons, ih _ hids]
    by_cases hmarked : sweeping.store.isMarked id
    · simp only [meet, hmarked, if_true, filter_release _ hid, filter_not_release _ hid,
        bytesOf_release _ hid, List.filter_cons, Bool.not_true, Bool.false_eq_true, if_false,
        List.reverse_cons, List.append_assoc, List.singleton_append, List.length_cons, mk.injEq]
      exact ⟨rfl, trivial, trivial, by omega, trivial, trivial⟩
    · simp only [meet, hmarked, if_false, filter_release _ hid, filter_not_release _ hid,
        bytesOf_release _ hid, List.filter_cons, Bool.not_false, Bool.false_eq_true, if_true,
        Store.bytesOf, List.length_cons, mk.injEq]
      exact ⟨rfl, trivial, by omega, trivial, by omega, by omega⟩

theorem run_eq (store : Store α) (used : Nat) {ids : List ObjectId} (h : ids.Nodup) :
    run store used ids = {
      store := store.releaseAll ids
      survivors := (ids.filter store.isMarked).reverse
      used := used - store.bytesOf (ids.filter (!store.isMarked ·))
      remaining := (ids.filter store.isMarked).length
      cleared := (ids.filter (!store.isMarked ·)).length
      freed := store.bytesOf (ids.filter (!store.isMarked ·)) } := by
  rw [run, foldl_meet _ h]
  simp only [List.append_nil, Nat.zero_add]

end Sweeping

end ManagedRuntime
