/-
  Machine words
  =============
  Every size, count and offset of the runtime is an unsigned 64-bit word.  Words
  are natural numbers here, and the bound is a side condition of the operations:
  an addition or multiplication either fits (`addWord?`, `mulWord?`), clamps to
  the largest word (`saturatingAdd`), or is a `Fault` (`addWord`, `mulWord`).

  `alignUp` rounds a size up to a multiple of an alignment in word arithmetic;
  `nextMultiple` is the same rounding over the naturals.  Where no intermediate
  sum leaves the word range they agree (`alignUp_eq_nextMultiple`).
-/
namespace ManagedRuntime

/-- Words are the natural numbers below this bound, the 64th power of two. -/
def wordLimit : Nat := 18446744073709551616

/-! ### Units of storage -/

def kibibyte : Nat := 1024

def mebibyte : Nat := 1024 * kibibyte

def gibibyte : Nat := 1024 * mebibyte

/-! ### Faults -/

/-- An operation that has no result: arithmetic that leaves the word range, a look
    behind the null reference, or a table that there is no storage for. -/
inductive Fault where
  | addOverflow
  | mulOverflow
  | zeroDivisor
  | nullReference
  /-- A table would be larger than any storage. -/
  | capacityOverflow
  /-- The system refused storage of so many bytes. -/
  | storageRefused (bytes : Nat)
  deriving DecidableEq, Repr

def Fault.message : Fault → String
  | .addOverflow => "attempt to add with overflow"
  | .mulOverflow => "attempt to multiply with overflow"
  | .zeroDivisor => "attempt to calculate the remainder with a divisor of zero"
  | .nullReference => "Pointer is null"
  | .capacityOverflow => "capacity overflow"
  | .storageRefused bytes => "memory allocation of " ++ toString bytes ++ " bytes failed"

/-! ### Checked and saturating arithmetic -/

def addWord? (a b : Nat) : Option Nat :=
  if a + b < wordLimit then some (a + b) else none

def mulWord? (a b : Nat) : Option Nat :=
  if a * b < wordLimit then some (a * b) else none

def addWord (a b : Nat) : Except Fault Nat :=
  if a + b < wordLimit then .ok (a + b) else .error .addOverflow

def mulWord (a b : Nat) : Except Fault Nat :=
  if a * b < wordLimit then .ok (a * b) else .error .mulOverflow

def saturatingAdd (a b : Nat) : Nat :=
  min (a + b) (wordLimit - 1)

theorem addWord?_eq_some_iff {a b c : Nat} :
    addWord? a b = some c ↔ a + b < wordLimit ∧ c = a + b := by
  unfold addWord?; split <;> grind

theorem mulWord?_eq_some_iff {a b c : Nat} :
    mulWord? a b = some c ↔ a * b < wordLimit ∧ c = a * b := by
  unfold mulWord?; split <;> grind

theorem addWord_eq_ok_iff {a b c : Nat} :
    addWord a b = .ok c ↔ a + b < wordLimit ∧ c = a + b := by
  unfold addWord; split <;> grind

theorem mulWord_eq_ok_iff {a b c : Nat} :
    mulWord a b = .ok c ↔ a * b < wordLimit ∧ c = a * b := by
  unfold mulWord; split <;> grind

/-- Below the largest word nothing is clamped. -/
theorem saturatingAdd_of_lt {a b : Nat} (h : a + b < wordLimit) :
    saturatingAdd a b = a + b := by
  unfold saturatingAdd; omega

/-- A clamped sum exceeds a limit below the largest word exactly when the true
    sum does. -/
theorem lt_saturatingAdd_iff {limit a b : Nat} (h : limit < wordLimit - 1) :
    limit < saturatingAdd a b ↔ limit < a + b := by
  unfold saturatingAdd; omega

/-! ### Alignment -/

/-- The least multiple of `alignment` that is at least `bytes`. -/
def nextMultiple (bytes alignment : Nat) : Nat :=
  (bytes + (alignment - 1)) / alignment * alignment

/-- Rounds `bytes` up to a multiple of `alignment`.  The alignment is added before
    the remainder is taken away, so the sum of both has to be a word. -/
def alignUp (bytes alignment : Nat) : Except Fault Nat :=
  if alignment = 0 then .error .zeroDivisor
  else if bytes % alignment = 0 then .ok bytes
  else (addWord bytes alignment).map (· - bytes % alignment)

theorem nextMultiple_dvd (bytes alignment : Nat) : alignment ∣ nextMultiple bytes alignment :=
  Nat.dvd_mul_left ..

theorem le_nextMultiple {bytes alignment : Nat} (h : 0 < alignment) :
    bytes ≤ nextMultiple bytes alignment := by
  have hlt := Nat.lt_div_mul_add (a := bytes + (alignment - 1)) h
  unfold nextMultiple; omega

/-- An aligned size is left alone. -/
theorem nextMultiple_of_mod_eq_zero {bytes alignment : Nat} (h : 0 < alignment)
    (haligned : bytes % alignment = 0) : nextMultiple bytes alignment = bytes := by
  obtain ⟨k, rfl⟩ := Nat.dvd_of_mod_eq_zero haligned
  unfold nextMultiple
  rw [Nat.mul_add_div h, Nat.div_eq_of_lt (by omega), Nat.add_zero, Nat.mul_comm]

/-- Any other size grows to the multiple just above it. -/
theorem nextMultiple_of_mod_ne_zero {bytes alignment : Nat} (h : 0 < alignment)
    (hrest : bytes % alignment ≠ 0) :
    nextMultiple bytes alignment = bytes + alignment - bytes % alignment := by
  have hdiv := Nat.div_add_mod bytes alignment
  have hlt := Nat.mod_lt bytes h
  have hquot : (bytes + (alignment - 1)) / alignment = bytes / alignment + 1 := by
    have hsum : bytes + (alignment - 1)
        = (bytes % alignment - 1) + alignment * (bytes / alignment + 1) := by
      rw [Nat.mul_add]; omega
    rw [hsum, Nat.add_mul_div_left _ _ h, Nat.div_eq_of_lt (by omega), Nat.zero_add]
  unfold nextMultiple
  rw [hquot, Nat.add_mul, Nat.mul_comm (bytes / alignment)]
  omega

/-- Rounding up makes nothing smaller. -/
theorem le_of_alignUp {bytes alignment rounded : Nat} (h : alignUp bytes alignment = .ok rounded) :
    bytes ≤ rounded := by
  unfold alignUp at h
  split at h
  · cases h
  · rename_i hzero
    split at h
    · cases h
      exact Nat.le_refl _
    · rcases hsum : addWord bytes alignment with fault | sum
      · rw [hsum] at h
        cases h
      · rw [hsum] at h
        cases h
        obtain ⟨-, rfl⟩ := addWord_eq_ok_iff.1 hsum
        have hlt := Nat.mod_lt bytes (Nat.pos_of_ne_zero hzero)
        dsimp only
        omega

theorem alignUp_eq_nextMultiple {bytes alignment : Nat} (h : 0 < alignment)
    (hfits : bytes + alignment < wordLimit) :
    alignUp bytes alignment = .ok (nextMultiple bytes alignment) := by
  unfold alignUp
  rw [if_neg (by omega)]
  by_cases hrest : bytes % alignment = 0
  · rw [if_pos hrest, nextMultiple_of_mod_eq_zero h hrest]
  · rw [if_neg hrest, nextMultiple_of_mod_ne_zero h hrest, addWord, if_pos hfits]
    rfl

end ManagedRuntime
