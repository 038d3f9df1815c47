/-
  Growth of the soft limit
  ========================
  However it is asked for, growth raises the soft limit only, and not past the hard
  one.
-/
import ManagedRuntime.Heap.Limits

namespace ManagedRuntime

namespace HeapLimits

theorem le_raise (growth ceiling needed : Nat) (growth_pos : 0 < growth) (soft : Nat) :
    soft ≤ raise growth ceiling needed growth_pos soft := by
  induction soft using raise.induct growth ceiling needed growth_pos with
  | case1 soft hstep ih =>
    rw [raise, if_pos hstep]
    omega
  | case2 soft hstop =>
    have hsame : raise growth ceiling needed growth_pos soft = soft := by
      rw [raise, if_neg hstop]
    exact Nat.le_of_eq hsame.symm

theorem raise_le {growth ceiling needed soft limit : Nat} (growth_pos : 0 < growth)
    (hsoft : soft ≤ limit) (hceiling : ceiling ≤ limit) :
    raise growth ceiling needed growth_pos soft ≤ limit := by
  induction soft using raise.induct growth ceiling needed growth_pos with
  | case1 soft hstep ih =>
    rw [raise, if_pos hstep]
    exact ih (Nat.le_trans hstep.2 hceiling)
  | case2 soft hstop =>
    rw [raise, if_neg hstop]
    exact hsoft

theorem ceiling_le (limits : HeapLimits) : limits.ceiling ≤ limits.hard :=
  Nat.min_le_left ..

@[simp] theorem hard_growFor (limits : HeapLimits) (needed : Nat) :
    (limits.growFor needed).hard = limits.hard := rfl

@[simp] theorem growth_growFor (limits : HeapLimits) (needed : Nat) :
    (limits.growFor needed).growth = limits.growth := rfl

theorem soft_growFor_le {limits : HeapLimits} (needed : Nat) (h : limits.soft ≤ limits.hard) :
    (limits.growFor needed).soft ≤ limits.hard :=
  raise_le limits.growth_pos h limits.ceiling_le

theorem soft_ofConfig_le (config : HeapConfig) : (ofConfig config).soft ≤ config.hardLimit :=
  Nat.min_le_right ..

end HeapLimits

end ManagedRuntime
