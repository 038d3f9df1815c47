/-
  How far the soft limit rises
  ============================
  The soft limit is raised by a loop, whose guard takes a step away from the limit, clamped at zero,
  and whose body adds one, if that leaves neither the word range nor the hard limit.  The number of
  its turns has a closed form over the naturals (`HeapLimits.stepsFor`): as many steps as leave one
  of headroom, or as many as fit, whichever are fewer.

  Growing for one request and then for another is growing for the larger of both
  (`HeapLimits.growFor_growFor`), because neither reason to stop goes away while the limit rises.
  So of many requests only the largest counts, in whatever order they come.
-/
import Mathlib.Algebra.Order.Floor.Div
import ManagedRuntime.Proofs.Heap.Growth

namespace ManagedRuntime

namespace HeapLimits

variable {limits next after : HeapLimits} {needed count : Nat}

/-! ### The loop on words -/

/-- One turn of the loop, in word arithmetic; none where the loop ends. -/
def turn? (limits : HeapLimits) (needed : Nat) : Option HeapLimits :=
  if limits.soft - limits.growth < needed then
    match addWord? limits.soft limits.growth with
    | some soft => if soft ≤ limits.hard then some { limits with soft } else none
    | none => none
  else none

/-- The loop ends after so many turns. -/
inductive TurnsTo (needed : Nat) : (count : Nat) → (limits after : HeapLimits) → Prop where
  | stop {limits : HeapLimits} : limits.turn? needed = none → TurnsTo needed 0 limits limits
  | turn {count : Nat} {limits next after : HeapLimits} :
      limits.turn? needed = some next → TurnsTo needed count next after →
      TurnsTo needed (count + 1) limits after

/-- Another step is wanted, and it fits. -/
def Steps (limits : HeapLimits) (needed : Nat) : Prop :=
  limits.soft - limits.growth < needed ∧ limits.soft + limits.growth ≤ limits.hard

theorem turn?_of_steps (hhard : limits.hard < wordLimit) (h : limits.Steps needed) :
    limits.turn? needed = some { limits with soft := limits.soft + limits.growth } := by
  have hsum : addWord? limits.soft limits.growth = some (limits.soft + limits.growth) :=
    addWord?_eq_some_iff.2 ⟨Nat.lt_of_le_of_lt h.2 hhard, rfl⟩
  rw [turn?, if_pos h.1, hsum]
  exact if_pos h.2

theorem eq_of_turn? (h : limits.turn? needed = some next) :
    next = { limits with soft := limits.soft + limits.growth } := by
  unfold turn? at h
  split at h
  · split at h
    · rename_i soft hsum
      obtain ⟨-, rfl⟩ := addWord?_eq_some_iff.1 hsum
      split at h
      · exact (Option.some.inj h).symm
      · cases h
    · cases h
  · cases h

/-- So many turns are so many steps. -/
theorem TurnsTo.eq (h : TurnsTo needed count limits after) :
    after = { limits with soft := limits.soft + count * limits.growth } := by
  induction h with
  | @stop limits hstop => rw [Nat.zero_mul, Nat.add_zero]
  | @turn count limits next after hturn _ ih =>
    obtain rfl := eq_of_turn? hturn
    rw [ih, Nat.succ_mul, Nat.add_assoc, Nat.add_comm limits.growth]

theorem turn?_of_not_steps (h : ¬limits.Steps needed) : limits.turn? needed = none := by
  unfold turn?
  split
  · rename_i hwanted
    split
    · rename_i soft hsum
      obtain ⟨-, rfl⟩ := addWord?_eq_some_iff.1 hsum
      exact if_neg fun hfits => h ⟨hwanted, hfits⟩
    · rfl
  · rfl

/-! ### The number of turns -/

/-- How many steps the soft limit rises for a request. -/
def stepsFor (limits : HeapLimits) (needed : Nat) : Nat :=
  if needed = 0 ∨ needed + limits.growth ≤ limits.soft then 0
  else min ((needed + limits.growth - limits.soft) ⌈/⌉ limits.growth)
    ((limits.hard - limits.soft) / limits.growth)

theorem stepsFor_of_not_steps (h : ¬limits.Steps needed) : limits.stepsFor needed = 0 := by
  unfold stepsFor
  split
  · rfl
  · rename_i hmore
    have hfull : limits.hard - limits.soft < limits.growth := by
      have hpos := limits.growth_pos
      unfold Steps at h
      omega
    rw [Nat.div_eq_of_lt hfull, Nat.min_zero]

theorem stepsFor_of_steps (h : limits.Steps needed) :
    limits.stepsFor needed =
      { limits with soft := limits.soft + limits.growth }.stepsFor needed + 1 := by
  obtain ⟨hwanted, hfits⟩ := h
  have hpos := limits.growth_pos
  have hroom : (limits.hard - limits.soft) / limits.growth =
      (limits.hard - (limits.soft + limits.growth)) / limits.growth + 1 := by
    rw [← Nat.add_div_right _ hpos]
    congr 1
    omega
  unfold stepsFor
  dsimp only
  rw [if_neg (by omega), hroom]
  split
  · -- this step leaves enough headroom
    have hlast : (needed + limits.growth - limits.soft) ⌈/⌉ limits.growth = 1 := by
      rw [Nat.ceilDiv_eq_add_pred_div]
      apply Nat.div_eq_of_lt_le
      · omega
      · omega
    rw [hlast, Nat.min_eq_left (Nat.le_add_left ..)]
  · have hmore : (needed + limits.growth - limits.soft) ⌈/⌉ limits.growth =
        (needed + limits.growth - (limits.soft + limits.growth)) ⌈/⌉ limits.growth + 1 := by
      rw [Nat.ceilDiv_eq_add_pred_div, Nat.ceilDiv_eq_add_pred_div, ← Nat.add_div_right _ hpos]
      congr 1
      omega
    rw [hmore, Nat.add_min_add_right]

/-- The loop makes as many turns as the closed form says. -/
theorem turnsTo_growFor (hhard : limits.hard < wordLimit) (needed : Nat) :
    TurnsTo needed (limits.stepsFor needed) limits (limits.growFor needed) := by
  induction hcount : limits.stepsFor needed generalizing limits with
  | zero =>
    have hstop : ¬limits.Steps needed := by
      intro hsteps
      rw [stepsFor_of_steps hsteps] at hcount
      cases hcount
    have hsame : limits.growFor needed = limits := by
      apply growFor_of_stop
      unfold Steps at hstop
      omega
    rw [hsame]
    exact .stop (turn?_of_not_steps hstop)
  | succ count ih =>
    have hsteps : limits.Steps needed := by
      by_contra hstop
      rw [stepsFor_of_not_steps hstop] at hcount
      cases hcount
    rw [stepsFor_of_steps hsteps] at hcount
    rw [growFor_of_step hsteps.1 (Nat.lt_of_le_of_lt hsteps.2 hhard) hsteps.2]
    exact .turn (turn?_of_steps hhard hsteps) (ih hhard (Nat.add_right_cancel hcount))

/-- A request raises the limit exactly where the closed form is not zero. -/
theorem growsFor_iff (hhard : limits.hard < wordLimit) (needed : Nat) :
    limits.growsFor needed ↔ 0 < limits.stepsFor needed := by
  rw [growsFor, decide_eq_true_iff, (turnsTo_growFor hhard needed).eq]
  dsimp only
  rw [Nat.lt_add_right_iff_pos, Nat.mul_pos_iff_of_pos_right limits.growth_pos]

/-! ### Several requests -/

theorem raise_of_step {growth ceiling needed soft : Nat} (growth_pos : 0 < growth)
    (h : soft - growth < needed ∧ soft + growth ≤ ceiling) :
    raise growth ceiling needed growth_pos soft =
      raise growth ceiling needed growth_pos (soft + growth) := by
  rw [raise, if_pos h]

theorem raise_of_stop {growth ceiling needed soft : Nat} (growth_pos : 0 < growth)
    (h : ¬(soft - growth < needed ∧ soft + growth ≤ ceiling)) :
    raise growth ceiling needed growth_pos soft = soft := by
  rw [raise, if_neg h]

/-- A request that asks for no step makes no difference to another one. -/
theorem raise_max {growth ceiling first second soft : Nat} (growth_pos : 0 < growth)
    (hfirst : ¬(soft - growth < first ∧ soft + growth ≤ ceiling)) :
    raise growth ceiling second growth_pos soft =
      raise growth ceiling (max first second) growth_pos soft := by
  induction soft using raise.induct growth ceiling second growth_pos with
  | case1 soft hstep ih =>
    have hboth : soft - growth < max first second ∧ soft + growth ≤ ceiling := by omega
    rw [raise_of_step growth_pos hstep, raise_of_step growth_pos hboth]
    exact ih (by omega)
  | case2 soft hstop =>
    have hboth : ¬(soft - growth < max first second ∧ soft + growth ≤ ceiling) := by omega
    rw [raise_of_stop growth_pos hstop, raise_of_stop growth_pos hboth]

/-- The larger of two requests steps wherever the first one does, and from where that one stops the
    second one is alone. -/
theorem raise_raise {growth ceiling first second soft : Nat} (growth_pos : 0 < growth) :
    raise growth ceiling second growth_pos (raise growth ceiling first growth_pos soft) =
      raise growth ceiling (max first second) growth_pos soft := by
  induction soft using raise.induct growth ceiling first growth_pos with
  | case1 soft hstep ih =>
    have hboth : soft - growth < max first second ∧ soft + growth ≤ ceiling := by omega
    rw [raise_of_step growth_pos hstep, raise_of_step growth_pos hboth]
    exact ih
  | case2 soft hstop =>
    rw [raise_of_stop growth_pos hstop]
    exact raise_max growth_pos hstop

/-- Growing for two requests is growing for the larger one. -/
theorem growFor_growFor (limits : HeapLimits) (first second : Nat) :
    (limits.growFor first).growFor second = limits.growFor (max first second) := by
  unfold growFor
  congr 1
  exact raise_raise limits.growth_pos

theorem growFor_zero (limits : HeapLimits) : limits.growFor 0 = limits :=
  growFor_of_stop (.inl (Nat.zero_le _))

theorem foldl_growFor (limits : HeapLimits) (requests : List Nat) :
    requests.foldl growFor limits = limits.growFor (requests.foldl max 0) := by
  induction requests using List.reverseRecOn with
  | nil => exact limits.growFor_zero.symm
  | append_singleton requests request ih =>
    rw [List.foldl_append, List.foldl_append, ih]
    exact limits.growFor_growFor ..

theorem hard_foldl_growFor (limits : HeapLimits) (requests : List Nat) :
    (requests.foldl growFor limits).hard = limits.hard := by
  rw [foldl_growFor, hard_growFor]

/-! ### The closed form -/

/-- How the soft limit rises, for single requests and for lists of them. -/
structure GrowsByFormula (limits : HeapLimits) : Prop where
  /-- The loop ends, and its arithmetic stays within the words. -/
  turns : ∀ needed, TurnsTo needed (limits.stepsFor needed) limits (limits.growFor needed)
  word : ∀ needed, (limits.growFor needed).soft < wordLimit
  growFor_eq : ∀ needed, limits.growFor needed =
    { limits with soft := limits.soft + limits.stepsFor needed * limits.growth }
  growFor_zero : limits.growFor 0 = limits
  growsFor_iff : ∀ needed, limits.growsFor needed ↔ 0 < limits.stepsFor needed
  idempotent : ∀ needed, (limits.growFor needed).growFor needed = limits.growFor needed
  /-- Of several requests the largest one counts. -/
  largest : ∀ requests : List Nat,
    requests.foldl growFor limits = limits.growFor (requests.foldl max 0)
  order : ∀ first second : List Nat, first.Perm second →
    first.foldl growFor limits = second.foldl growFor limits

theorem soft_foldl_growFor_le (soft growth hard : Nat) (requests : List Nat) :
    (requests.foldl growFor (new soft growth hard)).soft ≤ hard := by
  rw [foldl_growFor]
  exact soft_growFor_le _ (Nat.min_le_right ..)

/-- Whatever limits a heap starts with and however often they were raised, the next request raises
    the soft limit by the closed form. -/
theorem growth_by_formula {hard : Nat} (hhard : hard < wordLimit) (soft growth : Nat)
    (earlier : List Nat) : (earlier.foldl growFor (new soft growth hard)).GrowsByFormula := by
  have hsame : (earlier.foldl growFor (new soft growth hard)).hard = hard :=
    hard_foldl_growFor ..
  have hword : (earlier.foldl growFor (new soft growth hard)).hard < wordLimit := by rwa [hsame]
  constructor
  · exact turnsTo_growFor hword
  · intro needed
    have hsoft := soft_foldl_growFor_le soft growth hard (earlier ++ [needed])
    rw [List.foldl_append] at hsoft
    exact Nat.lt_of_le_of_lt hsoft hhard
  · exact fun needed => (turnsTo_growFor hword needed).eq
  · exact growFor_zero _
  · exact growsFor_iff hword
  · intro needed
    rw [growFor_growFor, Nat.max_self]
  · exact foldl_growFor _
  · intro first second hperm
    rw [foldl_growFor _ first, foldl_growFor _ second, hperm.foldl_eq]

/-- With limits at the end of the words the last of the steps that are asked for would leave
    them. -/
theorem growth_by_formula_at_word_limit :
    let limits := [5, 0].foldl growFor (new 7 (wordLimit / 4) (wordLimit - 1))
    (wordLimit - 1 < wordLimit ∧ limits.soft = 7 + wordLimit / 4 ∧
      limits.stepsFor (wordLimit - 1) = 2) ∧ limits.GrowsByFormula := by
  intro limits
  have hsoft : limits.soft = 7 + wordLimit / 4 := by decide +kernel
  have hsteps : limits.stepsFor (wordLimit - 1) = 2 := by decide +kernel
  exact ⟨⟨by decide, hsoft, hsteps⟩, growth_by_formula (by decide) 7 (wordLimit / 4) [5, 0]⟩

end HeapLimits

end ManagedRuntime
