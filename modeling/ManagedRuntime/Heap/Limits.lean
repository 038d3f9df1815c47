/-
  Heap limits
  ===========
  A heap has a soft limit, which triggers a collection when an allocation would
  pass it, and a hard limit, which it never grows past.  When a collection leaves
  too little headroom the soft limit rises in whole steps of `growth` bytes
  (`HeapLimits.growFor`), for as long as another step fits under the hard limit.
-/
import ManagedRuntime.Word

namespace ManagedRuntime

structure HeapConfig where
  /-- The heap size that, once exceeded, triggers a collection. -/
  softLimit : Nat := 64 * mebibyte
  /-- The step by which the soft limit rises. -/
  growth : Nat := 16 * mebibyte
  /-- The size that the heap never grows past. -/
  hardLimit : Nat := gibibyte
  /-- Capacity of the shadow stack. -/
  shadowSlots : Nat := 65536
  /-- Capacity of the table of static roots. -/
  staticRoots : Nat := 1024
  deriving DecidableEq, Repr

/-- Limits for a heap of a size, with room to grow to 64 MiB. -/
def HeapConfig.ofSize (bytes : Nat) : HeapConfig where
  softLimit := bytes
  growth := bytes
  hardLimit := max bytes (64 * mebibyte)

/-- The soft limit of a heap and how it may rise.  A step is never empty, so
    raising the limit comes to an end. -/
structure HeapLimits where
  soft : Nat
  growth : Nat
  hard : Nat
  growth_pos : 0 < growth
  deriving DecidableEq

namespace HeapLimits

/-- A soft limit above the hard one is lowered to it, and a step of nothing
    becomes a step of one byte. -/
def new (soft growth hard : Nat) : HeapLimits where
  soft := min soft hard
  growth := max growth 1
  hard := hard
  growth_pos := by omega

def ofConfig (config : HeapConfig) : HeapLimits :=
  new config.softLimit config.growth config.hardLimit

/-- What the soft limit never rises past: the hard limit, and the largest word. -/
def ceiling (limits : HeapLimits) : Nat :=
  min limits.hard (wordLimit - 1)

/-- Raises a soft limit step by step while `needed` leaves less than one step of
    headroom and another step fits under the ceiling. -/
def raise (growth ceiling needed : Nat) (growth_pos : 0 < growth) (soft : Nat) : Nat :=
  if soft - growth < needed ∧ soft + growth ≤ ceiling then
    raise growth ceiling needed growth_pos (soft + growth)
  else soft
termination_by ceiling - soft

/-- Makes headroom for a heap of `needed` bytes, as far as it can be had. -/
def growFor (limits : HeapLimits) (needed : Nat) : HeapLimits :=
  { limits with
    soft := raise limits.growth limits.ceiling needed limits.growth_pos limits.soft }

/-- A step is made where it is wanted, the sum is a word and the hard limit allows it. -/
theorem growFor_of_step {limits : HeapLimits} {needed : Nat}
    (hwanted : limits.soft - limits.growth < needed)
    (hword : limits.soft + limits.growth < wordLimit)
    (hhard : limits.soft + limits.growth ≤ limits.hard) :
    limits.growFor needed =
      { limits with soft := limits.soft + limits.growth }.growFor needed := by
  have hfits : limits.soft + limits.growth ≤ limits.ceiling := by unfold ceiling; omega
  unfold growFor
  rw [raise, if_pos ⟨hwanted, hfits⟩]
  rfl

/-- Where there is enough headroom, or no step fits, nothing changes. -/
theorem growFor_of_stop {limits : HeapLimits} {needed : Nat}
    (h : needed ≤ limits.soft - limits.growth ∨ wordLimit ≤ limits.soft + limits.growth ∨
      limits.hard < limits.soft + limits.growth) :
    limits.growFor needed = limits := by
  have hstop : ¬(limits.soft - limits.growth < needed ∧
      limits.soft + limits.growth ≤ limits.ceiling) := by
    unfold ceiling wordLimit at *; omega
  unfold growFor
  rw [raise, if_neg hstop]

def growsFor (limits : HeapLimits) (needed : Nat) : Bool :=
  limits.soft < (limits.growFor needed).soft

end HeapLimits

end ManagedRuntime
