/-
  The shadow stack from the bottom up
  ===================================
  Pushing puts a slot behind the others, and popping and closing frames cut the stack off.  So
  two stacks in the course of a program are compared by prefixes.  A stack that still lies at the
  bottom is what remains when everything above its height is closed (`closeFrame_of_prefix`).
-/
import ManagedRuntime.Heap.Basic

namespace ManagedRuntime

namespace ShadowStack

variable {stack base pushed popped closed : ShadowStack}

theorem length_bottomUp (stack : ShadowStack) : stack.bottomUp.length = stack.depth := by
  rw [bottomUp, List.length_reverse, stack.depth_eq]

theorem bottomUp_push {slot : RootSlot} (h : stack.push slot = .ok pushed) :
    pushed.bottomUp = stack.bottomUp ++ [slot] := by
  rw [bottomUp, slots_of_push h, List.reverse_cons, bottomUp]

theorem bottomUp_pop {ref : Ref} (h : stack.pop = .ok (ref, popped)) :
    stack.bottomUp = popped.bottomUp ++ [.operand ref] := by
  rw [bottomUp, slots_of_pop h, List.reverse_cons, bottomUp]

theorem bottomUp_closeFrame {mark : Nat} (h : stack.closeFrame mark = .ok closed) :
    closed.bottomUp <+: stack.bottomUp := by
  rw [bottomUp, slots_of_closeFrame h, bottomUp, List.reverse_drop]
  exact List.take_prefix ..

theorem capacity_push {slot : RootSlot} (h : stack.push slot = .ok pushed) :
    pushed.capacity = stack.capacity := by
  unfold push at h
  split at h
  · cases h
  · cases h
    rfl

theorem capacity_pop {ref : Ref} (h : stack.pop = .ok (ref, popped)) :
    popped.capacity = stack.capacity := by
  unfold pop at h
  split at h
  · cases h
  · cases h
  · cases h
    rfl

theorem capacity_closeFrame {mark : Nat} (h : stack.closeFrame mark = .ok closed) :
    closed.capacity = stack.capacity := by
  unfold closeFrame at h
  split at h
  · cases h
  · cases h
    rfl

theorem depth_push {slot : RootSlot} (h : stack.push slot = .ok pushed) :
    pushed.depth = stack.depth + 1 := by
  rw [pushed.depth_eq, slots_of_push h, List.length_cons, stack.depth_eq]

theorem depth_closeFrame {mark : Nat} (h : stack.closeFrame mark = .ok closed) :
    closed.depth = mark := by
  unfold closeFrame at h
  split at h
  · cases h
  · cases h
    rfl

/-- Closing down to the height of a stack that lies at the bottom brings it back. -/
theorem closeFrame_of_prefix (hcapacity : stack.capacity = base.capacity)
    (h : base.bottomUp <+: stack.bottomUp) : stack.closeFrame base.depth = .ok base := by
  have hle : base.depth ≤ stack.depth := by
    rw [← base.length_bottomUp, ← stack.length_bottomUp]
    exact h.length_le
  rcases hclose : stack.closeFrame base.depth with error | closed
  · unfold closeFrame at hclose
    rw [dif_neg (Nat.not_lt.2 hle)] at hclose
    cases hclose
  have hlength : closed.bottomUp.length = base.bottomUp.length := by
    rw [length_bottomUp, length_bottomUp, depth_closeFrame hclose]
  have hsame : closed.bottomUp = base.bottomUp :=
    (List.prefix_of_prefix_length_le (bottomUp_closeFrame hclose) h
      (Nat.le_of_eq hlength)).eq_of_length hlength
  rw [Except.ok.injEq]
  apply eq_of_slots_eq
  · exact List.reverse_inj.1 hsame
  · rw [capacity_closeFrame hclose, hcapacity]

/-! ### Refusals -/

theorem push_eq_error_iff {slot : RootSlot} {error : RootError} :
    stack.push slot = .error error ↔ error = .overflow ∧ stack.depth = stack.capacity := by
  unfold push
  split
  · rename_i hfull
    constructor
    · rintro ⟨⟩
      exact ⟨rfl, hfull⟩
    · rintro ⟨rfl, -⟩
      rfl
  · rename_i hroom
    constructor
    · rintro ⟨⟩
    · exact fun h => absurd h.2 hroom

theorem depth_ne_of_push {slot : RootSlot} (h : stack.push slot = .ok pushed) :
    stack.depth ≠ stack.capacity := by
  intro hfull
  have herror : stack.push slot = .error .overflow := push_eq_error_iff.2 ⟨rfl, hfull⟩
  rw [h] at herror
  cases herror

theorem pop_eq_error_iff {error : RootError} :
    stack.pop = .error error ↔ error = .underflow ∧ stack.bottomUp = [] ∨
      error = .popMismatch ∧ ∃ cell, stack.bottomUp.getLast? = some (.localCell cell) := by
  rw [bottomUp, List.reverse_eq_nil_iff, List.getLast?_reverse]
  unfold pop
  split
  · rename_i hslots
    rw [hslots]
    constructor
    · rintro ⟨⟩
      exact .inl ⟨rfl, rfl⟩
    · rintro (⟨rfl, -⟩ | ⟨-, cell, ⟨⟩⟩)
      rfl
  · rename_i cell slots hslots
    rw [hslots]
    constructor
    · rintro ⟨⟩
      exact .inr ⟨rfl, cell, rfl⟩
    · rintro (⟨-, ⟨⟩⟩ | ⟨rfl, -⟩)
      rfl
  · rename_i ref slots hslots
    constructor
    · rintro ⟨⟩
    · intro h
      rw [hslots] at h
      rcases h with ⟨-, ⟨⟩⟩ | ⟨-, cell, ⟨⟩⟩

theorem closeFrame_eq_error_iff {mark : Nat} {error : RootError} :
    stack.closeFrame mark = .error error ↔
      error = .frameAboveDepth mark stack.depth ∧ stack.depth < mark := by
  unfold closeFrame
  split
  · rename_i habove
    constructor
    · rintro ⟨⟩
      exact ⟨rfl, habove⟩
    · rintro ⟨rfl, -⟩
      rfl
  · rename_i hwithin
    constructor
    · rintro ⟨⟩
    · exact fun h => absurd h.2 hwithin

end ShadowStack

/-! ### Static roots -/

namespace StaticRoots

variable {statics added : StaticRoots} {cell : CellId}

theorem add_eq_error_iff {error : RootError} :
    statics.add cell = .error error ↔
      error = .tooManyRoots ∧ statics.size = statics.capacity := by
  unfold add
  split
  · rename_i hfull
    constructor
    · rintro ⟨⟩
      exact ⟨rfl, hfull⟩
    · rintro ⟨rfl, -⟩
      rfl
  · rename_i hroom
    constructor
    · rintro ⟨⟩
    · exact fun h => absurd h.2 hroom

end StaticRoots

end ManagedRuntime
