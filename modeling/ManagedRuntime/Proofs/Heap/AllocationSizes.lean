/-
  The arithmetic of allocation sizes
  ==================================
  The total of an allocation is its header and its data rounded up to the alignment, and
  `totalSize?` has it for every size whose total is a word (`TotalsExactly`).

  The rounding is one of two in the system: it divides and multiplies, where `alignUp` takes a
  remainder.  `auditedTotalSize` is the computation with every step that could leave the word
  range, and with a comparison of the two.  No step of it faults and no comparison fails, since
  sizes for which `alignUp` could overflow are turned away before it is asked.
-/
import ManagedRuntime.Proofs.Heap.ExactAllocation
import ManagedRuntime.Proofs.Word.Alignment

namespace ManagedRuntime

/-! ### Sizes that are checked on the way -/

/-- How the computation of a total can break off. -/
inductive SizeFault where
  | fault (fault : Fault)
  /-- The two ways of rounding the data up differ. -/
  | roundedApart (padded aligned : Nat)
  deriving DecidableEq, Repr

/-- `totalSize?` with its product in words, and with the rounding compared with `alignUp`. -/
def auditedTotalSize (size : Nat) : Except SizeFault (Option Nat) :=
  match addWord? size (objectAlignment - 1) with
  | none => .ok none
  | some sum => do
    let padded ← (mulWord (sum / objectAlignment) objectAlignment).mapError .fault
    let aligned ← (alignUp size objectAlignment).mapError .fault
    if padded = aligned then return addWord? padded headerSize
    else throw (.roundedApart padded aligned)

variable {size larger : Nat}

theorem objectAlignment_pos : 0 < objectAlignment := by
  decide

theorem objectAlignment_dvd_wordLimit : objectAlignment ∣ wordLimit := by
  decide

/-- A size that the alignment can be added to is rounded up within the word range. -/
theorem nextMultiple_lt_of_addWord? {sum : Nat}
    (hsum : addWord? size (objectAlignment - 1) = some sum) :
    nextMultiple size objectAlignment < wordLimit := by
  obtain ⟨hfits, -⟩ := addWord?_eq_some_iff.1 hsum
  exact Nat.lt_of_le_of_lt (Nat.div_mul_le_self ..) hfits

theorem auditedTotalSize_eq (size : Nat) : auditedTotalSize size = .ok (totalSize? size) := by
  unfold auditedTotalSize totalSize?
  cases hsum : addWord? size (objectAlignment - 1) with
  | none => rfl
  | some sum =>
    have hword := nextMultiple_lt_of_addWord? hsum
    have hfits := sumFits_of_dvd objectAlignment_pos objectAlignment_dvd_wordLimit hword
    have haligned : alignUp size objectAlignment = .ok (nextMultiple size objectAlignment) :=
      (alignUp_eq_ok_iff objectAlignment_pos).2 ⟨hfits, rfl⟩
    obtain ⟨-, rfl⟩ := addWord?_eq_some_iff.1 hsum
    have hpadded : mulWord ((size + (objectAlignment - 1)) / objectAlignment) objectAlignment =
        .ok (nextMultiple size objectAlignment) :=
      mulWord_eq_ok_iff.2 ⟨hword, rfl⟩
    dsimp only
    rw [hpadded, haligned]
    change (if nextMultiple size objectAlignment = nextMultiple size objectAlignment then _
      else _) = _
    rw [if_pos rfl]
    rfl

/-! ### Exact totals -/

theorem totalBytes_mono (hle : size ≤ larger) : totalBytes size ≤ totalBytes larger :=
  Nat.add_le_add_left (nextMultiple_mono objectAlignment hle) _

theorem totalBytes_le (size : Nat) : totalBytes size ≤ size + 31 := by
  have hlt := nextMultiple_lt_add size objectAlignment_pos
  unfold totalBytes dataSize headerSize
  unfold objectAlignment at *
  omega

/-- The total of an allocation for some bytes of data, and how it is arrived at. -/
structure TotalsExactly (size : Nat) : Prop where
  audited : auditedTotalSize size = .ok (totalSize? size)
  eq_some_iff : ∀ total, totalSize? size = some total ↔
    total < wordLimit ∧ ∃ padded, IsLeast (multiplesFrom size objectAlignment) padded ∧
      total = headerSize + padded
  /-- There is no total exactly where it would be no word. -/
  eq_none_iff : totalSize? size = none ↔
    ∀ padded, IsLeast (multiplesFrom size objectAlignment) padded →
      wordLimit ≤ headerSize + padded
  dvd : ∀ total, totalSize? size = some total → objectAlignment ∣ total
  bounds : ∀ total, totalSize? size = some total → headerSize ≤ total ∧ total ≤ size + 31
  /-- Less data takes no more, and it has a total where more data has one. -/
  mono : ∀ larger total, size ≤ larger → totalSize? larger = some total →
    ∃ less, totalSize? size = some less ∧ less ≤ total

/-- For every size the total is computed without a fault, and exactly. -/
theorem totals_exactly (size : Nat) : TotalsExactly size := by
  have hleast := isLeast_nextMultiple size objectAlignment_pos
  constructor
  · exact auditedTotalSize_eq size
  · intro total
    rw [totalSize?_eq_some_iff]
    constructor
    · rintro ⟨hword, rfl⟩
      exact ⟨hword, _, hleast, rfl⟩
    · rintro ⟨hword, padded, hpadded, rfl⟩
      obtain rfl := hpadded.unique hleast
      exact ⟨hword, rfl⟩
  · rw [Option.eq_none_iff_forall_ne_some]
    constructor
    · intro hnone padded hpadded
      obtain rfl := hpadded.unique hleast
      exact Nat.not_lt.1 fun hword => hnone _ (totalSize?_eq_some_iff.2 ⟨hword, rfl⟩)
    · intro hlimit total htotal
      obtain ⟨hword, -⟩ := totalSize?_eq_some_iff.1 htotal
      exact Nat.not_lt.2 (hlimit _ hleast) hword
  · exact fun total htotal => (dvd_of_totalSize? htotal).1
  · intro total htotal
    refine ⟨(dvd_of_totalSize? htotal).2, ?_⟩
    obtain ⟨-, rfl⟩ := totalSize?_eq_some_iff.1 htotal
    exact totalBytes_le size
  · intro larger total hle htotal
    obtain ⟨hword, rfl⟩ := totalSize?_eq_some_iff.1 htotal
    have hless := totalBytes_mono hle
    exact ⟨_, totalSize?_eq_some_iff.2 ⟨Nat.lt_of_le_of_lt hless hword, rfl⟩, hless⟩

/-- The largest size that has a total, and the one after it. -/
theorem totals_exactly_at_limit :
    (totalSize? (wordLimit - 32) = some (wordLimit - 8) ∧ totalSize? (wordLimit - 31) = none) ∧
      TotalsExactly (wordLimit - 32) ∧ TotalsExactly (wordLimit - 31) :=
  ⟨⟨rfl, rfl⟩, totals_exactly _, totals_exactly _⟩

end ManagedRuntime
