/-
  Growth over whole runs
  ======================
  The growth policy of a heap in every state that a run reaches (`Heap.growth_of_run`).
  The soft limit rises in whole steps and never falls, stays within the hard limit, and is
  passed by the bytes in use only in the last stretch below the hard limit, where no
  whole step fits any more.

  Three things come together in an allocation: the collection, which only lowers the
  bytes in use, the growth for what is needed then, and the test against the hard limit.
  `Heap.Paced` is the invariant that a single operation keeps.
-/
import ManagedRuntime.Proofs.Heap.Accounting

namespace ManagedRuntime

namespace HeapLimits

/-! ### One request for growth -/

/-- A raised limit is a whole number of steps above the old one. -/
theorem exists_raise_eq (growth ceiling needed : Nat) (growth_pos : 0 < growth) (soft : Nat) :
    ∃ k, raise growth ceiling needed growth_pos soft = soft + k * growth := by
  induction soft using raise.induct growth ceiling needed growth_pos with
  | case1 soft hstep ih =>
    obtain ⟨k, hk⟩ := ih
    refine ⟨k + 1, ?_⟩
    rw [raise, if_pos hstep, hk, Nat.succ_mul]
    omega
  | case2 soft hstop =>
    refine ⟨0, ?_⟩
    rw [raise, if_neg hstop, Nat.zero_mul, Nat.add_zero]

/-- Raising ends with a step of headroom, or where another step does not fit. -/
theorem raise_ends (growth ceiling needed : Nat) (growth_pos : 0 < growth) (soft : Nat) :
    needed ≤ raise growth ceiling needed growth_pos soft - growth ∨
      ceiling < raise growth ceiling needed growth_pos soft + growth := by
  induction soft using raise.induct growth ceiling needed growth_pos with
  | case1 soft hstep ih =>
    rw [raise, if_pos hstep]
    exact ih
  | case2 soft hstop =>
    rw [raise, if_neg hstop]
    omega

theorem le_soft_growFor (limits : HeapLimits) (needed : Nat) :
    limits.soft ≤ (limits.growFor needed).soft :=
  le_raise ..

/-- With a hard limit that is a word, growth ends with a step of headroom or below the
    hard limit by less than a step. -/
theorem growFor_ends {limits : HeapLimits} (hhard : limits.hard < wordLimit) (needed : Nat) :
    needed ≤ (limits.growFor needed).soft - limits.growth ∨
      limits.hard < (limits.growFor needed).soft + limits.growth := by
  have hceiling : limits.ceiling = limits.hard := by
    unfold ceiling
    omega
  rw [← hceiling]
  exact raise_ends limits.growth limits.ceiling needed limits.growth_pos limits.soft

/-! ### Limits over time -/

/-- The limits that a heap of a configuration can have: those that it starts with, and the
    soft one raised by whole steps. -/
structure Follows (config : HeapConfig) (limits : HeapLimits) : Prop where
  hard_eq : limits.hard = config.hardLimit
  growth_eq : limits.growth = max config.growth 1
  whole_steps : ∃ k, limits.soft =
    min config.softLimit config.hardLimit + k * max config.growth 1
  soft_le : limits.soft ≤ config.hardLimit

theorem follows_ofConfig (config : HeapConfig) : (ofConfig config).Follows config where
  hard_eq := rfl
  growth_eq := rfl
  whole_steps := ⟨0, by simp [ofConfig, new]⟩
  soft_le := soft_ofConfig_le config

theorem Follows.growFor {config : HeapConfig} {limits : HeapLimits} (h : limits.Follows config)
    (needed : Nat) : (limits.growFor needed).Follows config where
  hard_eq := h.hard_eq
  growth_eq := h.growth_eq
  whole_steps := by
    obtain ⟨before, hbefore⟩ := h.whole_steps
    obtain ⟨more, hmore⟩ :=
      exists_raise_eq limits.growth limits.ceiling needed limits.growth_pos limits.soft
    refine ⟨before + more, ?_⟩
    calc (limits.growFor needed).soft
      _ = limits.soft + more * limits.growth := hmore
      _ = min config.softLimit config.hardLimit + (before + more) * max config.growth 1 := by
        rw [hbefore, h.growth_eq, Nat.add_mul, Nat.add_assoc]
  soft_le := by
    have hsoft : limits.soft ≤ limits.hard := by
      rw [h.hard_eq]
      exact h.soft_le
    rw [← h.hard_eq]
    exact soft_growFor_le needed hsoft

end HeapLimits

namespace Heap

variable {α : Type} {model : ObjectModel α} {heap : Heap α} {config : HeapConfig}

/-! ### The invariant of an operation -/

/-- A heap under the growth policy of its configuration: above its soft limit there is no
    room for another step. -/
structure Paced (config : HeapConfig) (heap : Heap α) : Prop extends heap.Consistent where
  limits : heap.limits.Follows config
  crowded : heap.limits.soft < heap.used →
    config.hardLimit < heap.limits.soft + max config.growth 1

theorem Paced.of_eq {other : Heap α} (h : heap.Paced config) (hheap : other.Consistent)
    (hlimits : other.limits = heap.limits) (hused : other.used ≤ heap.used) :
    other.Paced config where
  toConsistent := hheap
  limits := by rw [hlimits]; exact h.limits
  crowded habove := by
    rw [hlimits] at habove ⊢
    exact h.crowded (Nat.lt_of_lt_of_le habove hused)

theorem Paced.collect (h : heap.Paced config) : (heap.collect model).2.Paced config :=
  h.of_eq h.toConsistent.collect rfl (used_collect_le h.toConsistent)

theorem Paced.asked (h : heap.Paced config) : heap.asked.Paced config :=
  h.of_eq h.toConsistent.asked rfl (Nat.le_refl _)

theorem Paced.makeRoom (h : heap.Paced config) (total : Nat) :
    (heap.makeRoom model total).Paced config := by
  by_cases htight : heap.wouldPass heap.limits.soft total
  · have hroomy : (heap.makeRoom model total).Consistent := h.toConsistent.makeRoom total
    rw [makeRoom_of_wouldPass htight] at hroomy ⊢
    constructor
    · exact hroomy
    · exact h.limits.growFor _
    · intro habove
      have hraised := heap.limits.le_soft_growFor
        (saturatingAdd (heap.collect model).2.used total)
      have hused : (heap.collect model).2.used ≤ heap.used := used_collect_le h.toConsistent
      dsimp only at habove ⊢
      have hcrowded := h.crowded (by omega)
      omega
  · rw [makeRoom_of_not_wouldPass htight]
    exact h

/-- An object that is placed passes the soft limit only where growth for it had to stop. -/
theorem Paced.added (h : heap.Paced config) (hhard : config.hardLimit < wordLimit) {total : Nat}
    (hcount : (heap.makeRoom model total).used + total < wordLimit) (data : α) :
    ((heap.makeRoom model total).added total data).Paced config where
  toConsistent := (h.makeRoom total).toConsistent.added total data
  limits := (h.makeRoom total).limits
  crowded := by
    intro habove
    change (heap.makeRoom model total).limits.soft < (heap.makeRoom model total).used + total
      at habove
    change config.hardLimit < (heap.makeRoom model total).limits.soft + max config.growth 1
    by_cases htight : heap.wouldPass heap.limits.soft total
    · rw [makeRoom_of_wouldPass htight] at habove hcount ⊢
      dsimp only at habove hcount ⊢
      rw [← h.limits.hard_eq] at hhard ⊢
      rw [← h.limits.growth_eq]
      have hends := heap.limits.growFor_ends hhard
        (saturatingAdd (heap.collect model).2.used total)
      rw [saturatingAdd_of_lt hcount] at hends habove ⊢
      omega
    · -- the heap did not even come up to its soft limit
      rw [makeRoom_of_not_wouldPass htight] at habove hcount
      rw [wouldPass, decide_eq_true_iff, saturatingAdd_of_lt hcount] at htight
      exact absurd habove htight

theorem Paced.allocate (h : heap.Paced config) (hhard : config.hardLimit < wordLimit)
    (size : Nat) : (heap.allocate model size).2.Paced config := by
  rcases hallocate : heap.allocate model size with ⟨result, after⟩
  cases outcome_of_allocate h.toConsistent hallocate with
  | tooBig hbig => exact h
  | full htotal hle htight hfull => exact h.makeRoom _
  | refused htotal hle hrefused => exact (h.makeRoom _).asked
  | uncountable htotal hle hroom hcount => exact (h.makeRoom _).asked
  | placed htotal hle hroom hcount => exact h.added hhard hcount _

theorem Paced.perform (h : heap.Paced config) (hhard : config.hardLimit < wordLimit)
    (operation : HeapOperation α) : (heap.perform model operation).Paced config := by
  obtain ⟨size, rfl⟩ | rfl | ⟨object, change, rfl⟩ | ⟨-, -, roots, cells, heq⟩ :=
    perform_cases model heap operation
  · exact h.allocate hhard size
  · exact h.collect
  · exact h.of_eq (h.toConsistent.modifyData object change) rfl (Nat.le_refl _)
  · rw [heq]
    exact h.of_eq (h.toConsistent.of_eq rfl rfl rfl rfl) rfl (Nat.le_refl _)

/-! ### The soft limit never falls -/

theorem soft_le_makeRoom (model : ObjectModel α) (heap : Heap α) (total : Nat) :
    heap.limits.soft ≤ (heap.makeRoom model total).limits.soft := by
  by_cases htight : heap.wouldPass heap.limits.soft total
  · rw [makeRoom_of_wouldPass htight]
    exact heap.limits.le_soft_growFor _
  · simp [makeRoom_of_not_wouldPass htight]

theorem soft_le_perform (hheap : heap.Consistent) (operation : HeapOperation α) :
    heap.limits.soft ≤ (heap.perform model operation).limits.soft := by
  obtain ⟨size, rfl⟩ | rfl | ⟨object, change, rfl⟩ | ⟨-, -, roots, cells, heq⟩ :=
    perform_cases model heap operation
  · rcases hallocate : heap.allocate model size with ⟨result, after⟩
    rw [perform, hallocate]
    cases outcome_of_allocate hheap hallocate with
    | tooBig hbig => exact Nat.le_refl _
    | full htotal hle htight hfull => exact soft_le_makeRoom ..
    | refused htotal hle hrefused => exact soft_le_makeRoom ..
    | uncountable htotal hle hroom hcount => exact soft_le_makeRoom ..
    | placed htotal hle hroom hcount => exact soft_le_makeRoom ..
  · exact Nat.le_refl _
  · exact Nat.le_refl _
  · simp [heq]

/-! ### Whole runs -/

theorem paced_empty (config : HeapConfig) (system : SystemMemory) (cells : Cells)
    (issued : Nat) : (empty config system cells issued : Heap α).Paced config where
  toConsistent := consistent_empty config system cells issued
  limits := HeapLimits.follows_ofConfig config
  crowded := nofun

theorem Paced.run (h : heap.Paced config) (hhard : config.hardLimit < wordLimit)
    (ledger : Ledger) (operations : List (HeapOperation α)) :
    (heap.run model ledger operations).1.Paced config ∧
      heap.limits.soft ≤ (heap.run model ledger operations).1.limits.soft := by
  induction operations generalizing heap ledger with
  | nil => exact ⟨h, Nat.le_refl _⟩
  | cons operation operations ih =>
    have hsoft : heap.limits.soft ≤ (heap.perform model operation).limits.soft :=
      soft_le_perform h.toConsistent operation
    obtain ⟨hpaced, hrest⟩ := ih (h.perform hhard operation) _
    exact ⟨hpaced, Nat.le_trans hsoft hrest⟩

theorem run_append (model : ObjectModel α) (heap : Heap α) (ledger : Ledger)
    (operations later : List (HeapOperation α)) :
    heap.run model ledger (operations ++ later) =
      (heap.run model ledger operations).1.run model (heap.run model ledger operations).2
        later := by
  induction operations generalizing heap ledger with
  | nil => rfl
  | cons operation operations ih => exact ih ..

/-- In every state of a run the limits follow the policy of the configuration, whatever it
    says.  The soft limit is the first one raised by whole steps, within the hard limit; it is
    passed only where one more step would pass the hard limit, and it is not lower in any
    later state. -/
theorem growth_of_run (model : ObjectModel α) (config : HeapConfig) (system : SystemMemory)
    (cells : Cells) (issued : Nat) (hhard : config.hardLimit < wordLimit)
    (operations later : List (HeapOperation α)) :
    let heap := ((empty config system cells issued).run model {} operations).1
    let after := ((empty config system cells issued).run model {} (operations ++ later)).1
    heap.limits.Follows config ∧
      (heap.limits.soft < heap.used →
        config.hardLimit < heap.limits.soft + max config.growth 1) ∧
      heap.limits.soft ≤ after.limits.soft := by
  have hempty := paced_empty (α := α) config system cells issued
  have hpaced : ((empty config system cells issued).run model {} operations).1.Paced config :=
    (hempty.run hhard {} operations).1
  refine ⟨hpaced.limits, hpaced.crowded, ?_⟩
  rw [run_append]
  exact (hpaced.run hhard _ later).2

/-- Two objects that stay fill the heap of `tightConfig` beyond its last whole step. -/
def crowdedRun : List (HeapOperation Node) :=
  [.allocate 16, .allocate 17, .pushOperand (some 1), .allocate 24, .pushOperand (some 2),
    .allocate 24]

theorem growth_of_crowdedRun :
    let heap := ((empty tightConfig .unlimited {} 0).run Node.model {} crowdedRun).1
    let after := ((empty tightConfig .unlimited {} 0).run Node.model {}
      (crowdedRun ++ [.popOperand, .collect])).1
    (tightConfig.hardLimit < wordLimit ∧ heap.limits.soft = 130 ∧ heap.used = 144) ∧
      heap.limits.Follows tightConfig ∧
      (heap.limits.soft < heap.used →
        tightConfig.hardLimit < heap.limits.soft + max tightConfig.growth 1) ∧
      heap.limits.soft ≤ after.limits.soft :=
  ⟨⟨by decide, by decide +kernel, by decide +kernel⟩,
    growth_of_run Node.model tightConfig .unlimited {} 0 (by decide) crowdedRun
      [.popOperand, .collect]⟩

end Heap

end ManagedRuntime
