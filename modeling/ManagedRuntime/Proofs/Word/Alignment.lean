/-
  Rounding up to an alignment
  ===========================
  A size is rounded up to the least multiple of an alignment that is not below it, and
  `nextMultiple` is that multiple (`isLeast_nextMultiple`), whatever the alignment.

  `alignUp` computes it in words.  It adds the alignment before it takes the remainder away, so it
  faults where this sum is no word (`alignUp_eq`).  For an alignment that divides the word range,
  as every power of two below it does, the sum leaves the range only where the multiple does.  For
  any other alignment there are sizes whose multiple is a word that `alignUp` does not arrive at,
  and `RoundsExactly` says which they are.
-/
import Mathlib.Order.Bounds.Basic
import ManagedRuntime.Word

namespace ManagedRuntime

variable {bytes other alignment : Nat}

/-! ### The least multiple -/

def multiplesFrom (bytes alignment : Nat) : Set Nat :=
  {multiple | alignment ∣ multiple ∧ bytes ≤ multiple}

theorem isLeast_nextMultiple (bytes : Nat) (h : 0 < alignment) :
    IsLeast (multiplesFrom bytes alignment) (nextMultiple bytes alignment) := by
  refine ⟨⟨nextMultiple_dvd .., le_nextMultiple h⟩, ?_⟩
  rintro multiple ⟨⟨quotient, rfl⟩, hroom⟩
  have hquotient : (bytes + (alignment - 1)) / alignment < quotient + 1 := by
    rw [Nat.div_lt_iff_lt_mul h, Nat.add_mul, Nat.mul_comm quotient]
    omega
  rw [nextMultiple, Nat.mul_comm alignment]
  exact Nat.mul_le_mul_right _ (Nat.le_of_lt_succ hquotient)

/-- Less than one alignment is added. -/
theorem nextMultiple_lt_add (bytes : Nat) (h : 0 < alignment) :
    nextMultiple bytes alignment < bytes + alignment := by
  have hle := Nat.div_mul_le_self (bytes + (alignment - 1)) alignment
  unfold nextMultiple
  omega

theorem nextMultiple_mono (alignment : Nat) (hle : bytes ≤ other) :
    nextMultiple bytes alignment ≤ nextMultiple other alignment :=
  Nat.mul_le_mul_right _ (Nat.div_le_div_right (Nat.add_le_add_right hle _))

/-! ### Rounding in words -/

/-- The sum that a size is rounded up through is a word, or is not needed. -/
def SumFits (bytes alignment : Nat) : Prop :=
  alignment ∣ bytes ∨ bytes + alignment < wordLimit

instance : Decidable (SumFits bytes alignment) :=
  inferInstanceAs (Decidable (_ ∨ _))

theorem not_sumFits_iff :
    ¬SumFits bytes alignment ↔ ¬alignment ∣ bytes ∧ wordLimit ≤ bytes + alignment := by
  rw [SumFits, not_or, Nat.not_lt]

theorem alignUp_eq (h : 0 < alignment) :
    alignUp bytes alignment =
      if SumFits bytes alignment then .ok (nextMultiple bytes alignment)
      else .error .addOverflow := by
  by_cases hrest : bytes % alignment = 0
  · rw [if_pos (.inl (Nat.dvd_of_mod_eq_zero hrest)), nextMultiple_of_mod_eq_zero h hrest, alignUp,
      if_neg (Nat.ne_of_gt h), if_pos hrest]
  by_cases hsum : bytes + alignment < wordLimit
  · rw [if_pos (.inr hsum), alignUp_eq_nextMultiple h hsum]
  · have hfits : ¬SumFits bytes alignment :=
      not_or.2 ⟨fun hdvd => hrest (Nat.mod_eq_zero_of_dvd hdvd), hsum⟩
    rw [if_neg hfits, alignUp, if_neg (Nat.ne_of_gt h), if_neg hrest, addWord, if_neg hsum]
    rfl

theorem alignUp_eq_ok_iff (h : 0 < alignment) {rounded : Nat} :
    alignUp bytes alignment = .ok rounded ↔
      SumFits bytes alignment ∧ rounded = nextMultiple bytes alignment := by
  rw [alignUp_eq h]
  split <;> simp [*, eq_comm]

theorem alignUp_eq_error_iff (h : 0 < alignment) {fault : Fault} :
    alignUp bytes alignment = .error fault ↔ ¬SumFits bytes alignment ∧ fault = .addOverflow := by
  rw [alignUp_eq h]
  split <;> simp [*, eq_comm]

theorem nextMultiple_lt_wordLimit (hbytes : bytes < wordLimit) (h : 0 < alignment)
    (hfits : SumFits bytes alignment) : nextMultiple bytes alignment < wordLimit := by
  rcases hfits with haligned | hsum
  · rwa [nextMultiple_of_mod_eq_zero h (Nat.mod_eq_zero_of_dvd haligned)]
  · exact Nat.lt_trans (nextMultiple_lt_add bytes h) hsum

/-- Where the alignment divides the word range, the sum fits as soon as the multiple does: there
    is a whole alignment between that multiple and the end of the range. -/
theorem sumFits_of_dvd (h : 0 < alignment) (hdvd : alignment ∣ wordLimit)
    (hmultiple : nextMultiple bytes alignment < wordLimit) : SumFits bytes alignment := by
  by_cases hrest : bytes % alignment = 0
  · exact .inl (Nat.dvd_of_mod_eq_zero hrest)
  · right
    obtain ⟨quotient, hquotient⟩ := nextMultiple_dvd bytes alignment
    obtain ⟨words, hwords⟩ := hdvd
    have hlt : quotient < words := by
      rw [hquotient, hwords] at hmultiple
      exact Nat.lt_of_mul_lt_mul_left hmultiple
    have hgap : nextMultiple bytes alignment + alignment ≤ wordLimit := by
      rw [hquotient, hwords, ← Nat.mul_succ]
      exact Nat.mul_le_mul_left _ hlt
    have hmod := Nat.mod_lt bytes h
    rw [nextMultiple_of_mod_ne_zero h hrest] at hgap
    omega

/-! ### How rounding comes out -/

/-- Where some multiple is a word, the result is the least of them, and it is an overflow only
    where none is. -/
structure RoundsWell (bytes alignment : Nat) : Prop where
  reaches : (∃ multiple ∈ multiplesFrom bytes alignment, multiple < wordLimit) →
    ∃ least, IsLeast (multiplesFrom bytes alignment) least ∧ alignUp bytes alignment = .ok least
  overflows : ∀ fault, alignUp bytes alignment = .error fault →
    fault = .addOverflow ∧ ∀ multiple ∈ multiplesFrom bytes alignment, wordLimit ≤ multiple

theorem exists_multiple_lt_iff (h : 0 < alignment) :
    (∃ multiple ∈ multiplesFrom bytes alignment, multiple < wordLimit) ↔
      nextMultiple bytes alignment < wordLimit := by
  obtain ⟨hmember, hlower⟩ := isLeast_nextMultiple bytes h
  constructor
  · rintro ⟨multiple, hmultiple, hword⟩
    exact Nat.lt_of_le_of_lt (hlower hmultiple) hword
  · exact fun hword => ⟨_, hmember, hword⟩

theorem roundsWell_iff (h : 0 < alignment) :
    RoundsWell bytes alignment ↔
      (nextMultiple bytes alignment < wordLimit → SumFits bytes alignment) := by
  constructor
  · intro hwell hword
    obtain ⟨least, -, hok⟩ := hwell.reaches ((exists_multiple_lt_iff h).2 hword)
    exact ((alignUp_eq_ok_iff h).1 hok).1
  · intro hfits
    constructor
    · intro hmultiple
      have hsum := hfits ((exists_multiple_lt_iff h).1 hmultiple)
      exact ⟨_, isLeast_nextMultiple bytes h, (alignUp_eq_ok_iff h).2 ⟨hsum, rfl⟩⟩
    · intro fault hfault
      obtain ⟨hsum, rfl⟩ := (alignUp_eq_error_iff h).1 hfault
      refine ⟨rfl, fun multiple hmultiple => Nat.not_lt.1 fun hword => hsum (hfits ?_)⟩
      exact (exists_multiple_lt_iff h).1 ⟨multiple, hmultiple, hword⟩

/-- Every outcome of rounding a size up, with the condition under which it comes about. -/
structure RoundsExactly (bytes alignment : Nat) : Prop where
  ok_iff : ∀ rounded, alignUp bytes alignment = .ok rounded ↔
    IsLeast (multiplesFrom bytes alignment) rounded ∧
      (alignment ∣ bytes ∨ bytes + alignment < wordLimit)
  error_iff : ∀ fault, alignUp bytes alignment = .error fault ↔
    fault = .addOverflow ∧ ¬alignment ∣ bytes ∧ wordLimit ≤ bytes + alignment
  /-- No result is ever a wrapped one. -/
  word : ∀ rounded, alignUp bytes alignment = .ok rounded → rounded < wordLimit
  /-- Rounding goes wrong where the least multiple is a word and the sum is none. -/
  wrong_iff : ¬RoundsWell bytes alignment ↔
    (∃ multiple ∈ multiplesFrom bytes alignment, multiple < wordLimit) ∧
      ¬alignment ∣ bytes ∧ wordLimit ≤ bytes + alignment
  /-- An alignment that divides the word range leaves no such sizes. -/
  well_of_dvd : alignment ∣ wordLimit → RoundsWell bytes alignment

/-- Rounding in words fails exactly where the sum of a size and an alignment that does not divide
    it is no word. -/
theorem rounds_exactly (hbytes : bytes < wordLimit) (h : 0 < alignment) :
    RoundsExactly bytes alignment := by
  have hleast := isLeast_nextMultiple bytes h
  constructor
  · intro rounded
    rw [alignUp_eq_ok_iff h]
    constructor
    · rintro ⟨hfits, rfl⟩
      exact ⟨hleast, hfits⟩
    · rintro ⟨hrounded, hfits⟩
      exact ⟨hfits, hrounded.unique hleast⟩
  · intro fault
    rw [alignUp_eq_error_iff h, not_sumFits_iff, and_comm]
  · intro rounded hok
    obtain ⟨hfits, rfl⟩ := (alignUp_eq_ok_iff h).1 hok
    exact nextMultiple_lt_wordLimit hbytes h hfits
  · rw [roundsWell_iff h, exists_multiple_lt_iff h, ← not_sumFits_iff, Classical.not_imp]
  · exact fun hdvd => (roundsWell_iff h).2 fun hword => sumFits_of_dvd h hdvd hword

/-- The largest word is a multiple of three.  Rounding the word in front of it up to that fails. -/
theorem rounds_exactly_below_limit :
    (wordLimit - 2 < wordLimit ∧ 0 < 3 ∧ ¬3 ∣ wordLimit - 2 ∧ wordLimit ≤ wordLimit - 2 + 3) ∧
      RoundsExactly (wordLimit - 2) 3 :=
  ⟨by decide, rounds_exactly (by decide) (by decide)⟩

/-- Not every size is rounded up to its least multiple where this is a word. -/
theorem not_roundsWell_below_limit :
    ¬∀ bytes alignment, bytes < wordLimit → alignment < wordLimit → 0 < alignment →
      RoundsWell bytes alignment := by
  intro hall
  have hwell := hall (wordLimit - 2) 3 (by decide) (by decide) (by decide)
  have hmember : wordLimit - 1 ∈ multiplesFrom (wordLimit - 2) 3 := ⟨by decide, by decide⟩
  obtain ⟨least, -, hok⟩ := hwell.reaches ⟨_, hmember, by decide⟩
  have hfault : alignUp (wordLimit - 2) 3 = .error .addOverflow := rfl
  rw [hfault] at hok
  cases hok

end ManagedRuntime
