/-
  The language of byte counts
  ===========================
  A text is accepted as a byte count exactly where a short grammar derives it (`WritesBytes`):
  blanks, a number in decimal digits with a plus sign or without, blanks, the letter of a unit or
  none, blanks.  Leading zeros make no difference, and the two places where a word can overflow, the
  number and its product with the unit, come down to two bounds on what the grammar says it denotes.

  The letter is cut off by an index into the bytes of the text.  Whatever character stands last,
  this index is never inside of one (`cutSuffix?_eq`).
-/
import Mathlib.Data.List.Basic
import Mathlib.Data.List.TakeWhile
import Mathlib.Data.Nat.Digits.Defs
import ManagedRuntime.Settings.ByteCount

namespace ManagedRuntime

namespace Text

/-! ### Blanks around a text -/

def Blank (text : List Char) : Prop :=
  ∀ c ∈ text, isBlank c

variable {before core after : List Char}

theorem blank_nil : Blank [] :=
  nofun

theorem Blank.append (hbefore : Blank before) (hafter : Blank after) : Blank (before ++ after) :=
  fun c hc => (List.mem_append.1 hc).elim (hbefore c) (hafter c)

theorem dropWhile_blank (hbefore : Blank before)
    (hfirst : ∀ c, core.head? = some c → isBlank c = false) :
    (before ++ core).dropWhile isBlank = core := by
  rw [List.dropWhile_append_of_pos hbefore]
  cases core with
  | nil => rfl
  | cons c core => simp [hfirst c rfl]

/-- What starts and ends with other characters is what is left when the blanks are gone. -/
theorem trim_of_surrounded (hbefore : Blank before) (hafter : Blank after) (hcore : core ≠ [])
    (hfirst : ∀ c, core.head? = some c → isBlank c = false)
    (hlast : ∀ c, core.getLast? = some c → isBlank c = false) :
    trim (before ++ core ++ after) = core := by
  have hfront : (before ++ (core ++ after)).dropWhile isBlank = core ++ after := by
    apply dropWhile_blank hbefore
    rwa [List.head?_append_of_ne_nil _ hcore]
  have hback : (after.reverse ++ core.reverse).dropWhile isBlank = core.reverse := by
    apply dropWhile_blank
    · exact fun c hc => hafter c (List.mem_reverse.1 hc)
    · rwa [List.head?_reverse]
  rw [trim, List.append_assoc, hfront, List.reverse_append, hback, List.reverse_reverse]

/-- Only blanks are taken away. -/
theorem exists_trim (text : List Char) :
    ∃ before after, Blank before ∧ Blank after ∧ text = before ++ trim text ++ after := by
  have hfront := (text.takeWhile_append_dropWhile (p := isBlank)).symm
  have hback := ((text.dropWhile isBlank).reverse.takeWhile_append_dropWhile (p := isBlank)).symm
  refine ⟨text.takeWhile isBlank, ((text.dropWhile isBlank).reverse.takeWhile isBlank).reverse,
    ?_, ?_, ?_⟩
  · exact fun c hc => List.mem_takeWhile_imp hc
  · exact fun c hc => List.mem_takeWhile_imp (List.mem_reverse.1 hc)
  · rw [List.reverse_eq_iff] at hback
    rw [trim, List.append_assoc, ← List.reverse_append, ← hback]
    exact hfront

end Text

open Text

/-! ### The grammar -/

def decimalValue (digits : List Char) : Nat :=
  Nat.ofDigits 10 (digits.reverse.map fun c => c.toNat - '0'.toNat)

/-- A text writes a number in decimal digits. -/
inductive WritesNumber : List Char → Nat → Prop where
  | plain {digits : List Char} :
      digits ≠ [] → (∀ c ∈ digits, c.isDigit) → WritesNumber digits (decimalValue digits)
  | signed {digits : List Char} :
      digits ≠ [] → (∀ c ∈ digits, c.isDigit) → WritesNumber ('+' :: digits) (decimalValue digits)

/-- A text stands for a power of two. -/
inductive WritesUnit : List Char → Nat → Prop where
  | bytes : WritesUnit [] 0
  | kibibytes {c : Char} : c = 'k' ∨ c = 'K' → WritesUnit [c] 10
  | mebibytes {c : Char} : c = 'm' ∨ c = 'M' → WritesUnit [c] 20
  | gibibytes {c : Char} : c = 'g' ∨ c = 'G' → WritesUnit [c] 30

/-- A text writes a count of bytes.  Both the number and the count have to be words. -/
inductive WritesBytes : List Char → Nat → Prop where
  | intro {before number gap unit after : List Char} {count exponent : Nat} :
      Blank before → WritesNumber number count → Blank gap → WritesUnit unit exponent →
      Blank after → count < wordLimit → count * 2 ^ exponent < wordLimit →
      WritesBytes (before ++ number ++ gap ++ unit ++ after) (count * 2 ^ exponent)

variable {text digits number : List Char} {c : Char} {count unit exponent : Nat}

/-! ### Characters of the grammar -/

theorem isBlank_of_isDigit (h : c.isDigit) : isBlank c = false := by
  have hrange : 48 ≤ c.toNat ∧ c.toNat ≤ 57 := by
    simpa [Char.isDigit, UInt32.le_iff_toNat_le] using h
  simp only [isBlank, Ranges.contains, blankRanges, List.any_cons, List.any_nil, Bool.or_false,
    Bool.or_eq_false_iff, Bool.and_eq_false_iff, decide_eq_false_iff_not]
  omega

theorem toNat_toLower (c : Char) :
    c.toLower.toNat = if 65 ≤ c.toNat ∧ c.toNat ≤ 90 then c.toNat + 32 else c.toNat := by
  have hrange : (c.val ≥ 'A'.val ∧ c.val ≤ 'Z'.val) ↔ 65 ≤ c.toNat ∧ c.toNat ≤ 90 := by
    simp [UInt32.le_iff_toNat_le]
  unfold Char.toLower
  split
  · rename_i hupper
    rw [if_pos (hrange.1 hupper)]
    change (c.val + 32).toNat = c.val.toNat + 32
    have hlt : c.val.toNat ≤ 90 := (hrange.1 hupper).2
    rw [UInt32.toNat_add]
    change (c.val.toNat + 32) % _ = _
    omega
  · rename_i hother
    rw [if_neg (hrange.not.1 hother)]

theorem toLower_eq_iff {lower upper : Char} (hlower : 97 ≤ lower.toNat ∧ lower.toNat ≤ 122)
    (hupper : upper.toNat + 32 = lower.toNat) : c.toLower = lower ↔ c = lower ∨ c = upper := by
  rw [← Char.toNat_inj, toNat_toLower, ← Char.toNat_inj, ← Char.toNat_inj]
  split <;> omega

theorem suffixUnit?_eq_some_iff :
    suffixUnit? c = some unit ↔ ∃ exponent, WritesUnit [c] exponent ∧ unit = 2 ^ exponent := by
  have hkibi : c.toLower = 'k' ↔ c = 'k' ∨ c = 'K' := toLower_eq_iff (by decide) (by decide)
  have hmebi : c.toLower = 'm' ↔ c = 'm' ∨ c = 'M' := toLower_eq_iff (by decide) (by decide)
  have hgibi : c.toLower = 'g' ↔ c = 'g' ∨ c = 'G' := toLower_eq_iff (by decide) (by decide)
  unfold suffixUnit?
  constructor
  · intro h
    split at h
    · rename_i hc
      cases h
      exact ⟨10, .kibibytes (hkibi.1 hc), rfl⟩
    · rename_i hc
      cases h
      exact ⟨20, .mebibytes (hmebi.1 hc), rfl⟩
    · rename_i hc
      cases h
      exact ⟨30, .gibibytes (hgibi.1 hc), rfl⟩
    · cases h
  · rintro ⟨exponent, hunit, rfl⟩
    cases hunit with
    | kibibytes hc => rw [hkibi.2 hc]; rfl
    | mebibytes hc => rw [hmebi.2 hc]; rfl
    | gibibytes hc => rw [hgibi.2 hc]; rfl

def unitLetters : List Char :=
  ['k', 'K', 'm', 'M', 'g', 'G']

theorem WritesUnit.mem_unitLetters (h : WritesUnit [c] exponent) : c ∈ unitLetters := by
  cases h with
  | kibibytes hc => rcases hc with rfl | rfl <;> decide
  | mebibytes hc => rcases hc with rfl | rfl <;> decide
  | gibibytes hc => rcases hc with rfl | rfl <;> decide

theorem WritesUnit.of_all {p : Char → Bool} (hall : unitLetters.all p)
    (h : WritesUnit [c] exponent) : p c :=
  List.all_eq_true.1 hall c h.mem_unitLetters

theorem WritesUnit.isBlank_eq (h : WritesUnit [c] exponent) : isBlank c = false := by
  have hletters : unitLetters.all fun letter => !isBlank letter := by decide
  simpa using h.of_all hletters

theorem WritesUnit.isDigit_eq (h : WritesUnit [c] exponent) : c.isDigit = false := by
  have hletters : unitLetters.all fun letter => !letter.isDigit := by decide
  simpa using h.of_all hletters

theorem WritesUnit.utf8Size_eq (h : WritesUnit [c] exponent) : c.utf8Size = 1 := by
  have hletters : unitLetters.all fun letter => letter.utf8Size == 1 := by decide
  simpa using h.of_all hletters

theorem suffixUnit?_of_isDigit (h : c.isDigit) : suffixUnit? c = none := by
  rw [Option.eq_none_iff_forall_ne_some]
  intro unit hunit
  obtain ⟨exponent, hwrites, -⟩ := suffixUnit?_eq_some_iff.1 hunit
  rw [hwrites.isDigit_eq] at h
  cases h

/-! ### Numbers -/

theorem decimalValue_cons (c : Char) (digits : List Char) :
    decimalValue (c :: digits) =
      (c.toNat - '0'.toNat) * 10 ^ digits.length + decimalValue digits := by
  rw [decimalValue, List.reverse_cons, List.map_append, Nat.ofDigits_append, List.length_map,
    List.length_reverse, List.map_singleton, Nat.ofDigits_singleton, decimalValue]
  ring

theorem appendDigit_eq_ok_iff {start next : Nat} :
    appendDigit start c = .ok next ↔
      c.isDigit ∧ next = start * 10 + (c.toNat - '0'.toNat) ∧ next < wordLimit := by
  unfold appendDigit digit?
  by_cases hdigit : c.isDigit
  · simp only [hdigit, if_true]
    split <;> grind
  · simp [hdigit]

/-- The value of a prefix is at most that of the whole, so only the last one counts. -/
theorem foldlM_appendDigit_eq_ok_iff {start : Nat} (hstart : start < wordLimit) :
    digits.foldlM appendDigit start = .ok count ↔
      (∀ c ∈ digits, c.isDigit) ∧ count = start * 10 ^ digits.length + decimalValue digits ∧
        count < wordLimit := by
  induction digits generalizing start with
  | nil =>
    have hnil : decimalValue [] = 0 := rfl
    simp only [List.foldlM_nil, List.length_nil, hnil]
    constructor
    · rintro ⟨⟩
      exact ⟨nofun, by omega, hstart⟩
    · rintro ⟨-, rfl, -⟩
      exact congrArg Except.ok (by omega)
  | cons c digits ih =>
    rw [List.foldlM_cons, decimalValue_cons, List.length_cons]
    -- what the digits so far and this one write, moved up by the digits that follow
    have hvalue : start * 10 ^ (digits.length + 1) +
        ((c.toNat - '0'.toNat) * 10 ^ digits.length + decimalValue digits) =
        (start * 10 + (c.toNat - '0'.toNat)) * 10 ^ digits.length + decimalValue digits := by
      ring
    rw [hvalue]
    constructor
    · intro h
      rcases hnext : appendDigit start c with error | next
      · rw [hnext] at h
        cases h
      · rw [hnext] at h
        obtain ⟨hdigit, rfl, hlt⟩ := appendDigit_eq_ok_iff.1 hnext
        obtain ⟨hdigits, hcount, hword⟩ := (ih hlt).1 h
        exact ⟨List.forall_mem_cons.2 ⟨hdigit, hdigits⟩, hcount, hword⟩
    · rintro ⟨hdigits, hcount, hword⟩
      obtain ⟨hdigit, hrest⟩ := List.forall_mem_cons.1 hdigits
      have hle : start * 10 + (c.toNat - '0'.toNat) ≤
          (start * 10 + (c.toNat - '0'.toNat)) * 10 ^ digits.length :=
        Nat.le_mul_of_pos_right _ (Nat.pow_pos (by decide))
      have hlt : start * 10 + (c.toNat - '0'.toNat) < wordLimit := by omega
      rw [appendDigit_eq_ok_iff.2 ⟨hdigit, rfl, hlt⟩]
      exact (ih hlt).2 ⟨hrest, hcount, hword⟩

theorem readWord_plain (hne : digits ≠ []) (hfirst : digits.head? ≠ some '+') :
    readWord digits = digits.foldlM appendDigit 0 := by
  unfold readWord
  split
  · exact absurd rfl hne
  · exact absurd rfl hfirst
  · exact absurd rfl hfirst
  · rfl

theorem readWord_signed (hne : digits ≠ []) :
    readWord ('+' :: digits) = digits.foldlM appendDigit 0 := by
  cases digits with
  | nil => exact absurd rfl hne
  | cons c digits => rfl

theorem foldlM_eq_ok_iff : digits.foldlM appendDigit 0 = .ok count ↔
    (∀ c ∈ digits, c.isDigit) ∧ decimalValue digits = count ∧ count < wordLimit := by
  rw [foldlM_appendDigit_eq_ok_iff (by decide), Nat.zero_mul, Nat.zero_add]
  exact and_congr_right fun _ => and_congr_left fun _ => eq_comm

theorem readWord_eq_ok_iff :
    readWord text = .ok count ↔ WritesNumber text count ∧ count < wordLimit := by
  constructor
  · intro h
    rcases text with _ | ⟨c, rest⟩
    · cases h
    · by_cases hsign : c = '+'
      · subst hsign
        have hne : rest ≠ [] := by
          rintro rfl
          cases h
        rw [readWord_signed hne] at h
        obtain ⟨hdigits, rfl, hword⟩ := foldlM_eq_ok_iff.1 h
        exact ⟨.signed hne hdigits, hword⟩
      · have hne : c :: rest ≠ [] := List.cons_ne_nil c rest
        rw [readWord_plain hne (by simpa using hsign)] at h
        obtain ⟨hdigits, rfl, hword⟩ := foldlM_eq_ok_iff.1 h
        exact ⟨.plain hne hdigits, hword⟩
  · rintro ⟨hwrites, hword⟩
    cases hwrites with
    | plain hne hdigits =>
      have hfirst : text.head? ≠ some '+' := by
        intro hsign
        have hdigit := hdigits '+' (List.mem_of_head? hsign)
        cases hdigit
      rw [readWord_plain hne hfirst]
      exact foldlM_eq_ok_iff.2 ⟨hdigits, rfl, hword⟩
    | signed hne hdigits =>
      rw [readWord_signed hne]
      exact foldlM_eq_ok_iff.2 ⟨hdigits, rfl, hword⟩

/-! ### Byte counts -/

theorem WritesNumber.ne_nil (h : WritesNumber number count) : number ≠ [] := by
  cases h with
  | plain hne _ => exact hne
  | signed _ _ => exact List.cons_ne_nil '+' _

/-- A number starts and ends with other characters than blanks, and it ends with a digit. -/
theorem WritesNumber.isBlank_head (h : WritesNumber number count) :
    ∀ c, number.head? = some c → isBlank c = false := by
  cases h with
  | plain _ hdigits => exact fun c hc => isBlank_of_isDigit (hdigits c (List.mem_of_head? hc))
  | signed _ _ =>
    rintro c ⟨⟩
    decide

theorem WritesNumber.isDigit_last (h : WritesNumber number count) :
    ∀ c, number.getLast? = some c → c.isDigit := by
  cases h with
  | plain _ hdigits => exact fun c hc => hdigits c (List.mem_of_getLast? hc)
  | signed hne hdigits =>
    intro c hc
    rw [List.getLast?_cons_of_ne_nil hne] at hc
    exact hdigits c (List.mem_of_getLast? hc)

theorem WritesNumber.trim_eq {before after : List Char} (h : WritesNumber number count)
    (hbefore : Blank before) (hafter : Blank after) : trim (before ++ number ++ after) = number :=
  trim_of_surrounded hbefore hafter h.ne_nil h.isBlank_head
    fun c hc => isBlank_of_isDigit (h.isDigit_last c hc)

/-- A number with blanks around it and a unit is read as their product. -/
theorem readByteCount_eq_ok_iff {bytes : Nat} (hsplit : splitSuffix text = (digits, unit)) :
    readByteCount text = .ok bytes ↔ ∃ count, WritesNumber (trim digits) count ∧
      count < wordLimit ∧ count * unit < wordLimit ∧ bytes = count * unit := by
  rw [readByteCount, hsplit]
  dsimp only
  constructor
  · intro h
    rcases hcount : readWord (trim digits) with reason | count
    · rw [hcount] at h
      cases h
    · rw [hcount] at h
      obtain ⟨hwrites, hword⟩ := readWord_eq_ok_iff.1 hcount
      rcases hproduct : mulWord? count unit with _ | product
      · simp [hproduct] at h
      · obtain ⟨hfits, rfl⟩ := mulWord?_eq_some_iff.1 hproduct
        simp only [hproduct, Except.ok.injEq] at h
        exact ⟨count, hwrites, hword, hfits, h.symm⟩
  · rintro ⟨count, hwrites, hword, hfits, rfl⟩
    rw [readWord_eq_ok_iff.2 ⟨hwrites, hword⟩]
    dsimp only
    rw [mulWord?_eq_some_iff.2 ⟨hfits, rfl⟩]

theorem splitSuffix_of_unit (h : suffixUnit? c = some unit) :
    splitSuffix (digits ++ [c]) = (digits, unit) := by
  rw [splitSuffix, List.getLast?_concat, Option.bind_some, h, List.dropLast_concat]

theorem splitSuffix_of_none (h : text.getLast?.bind suffixUnit? = none) :
    splitSuffix text = (text, 1) := by
  rw [splitSuffix, h]

/-- What is cut off is the letter of a unit, or nothing. -/
theorem exists_of_splitSuffix (text : List Char) :
    ∃ digits letter exponent, WritesUnit letter exponent ∧ text = digits ++ letter ∧
      splitSuffix text = (digits, 2 ^ exponent) := by
  rcases hunit : text.getLast?.bind suffixUnit? with _ | unit
  · exact ⟨text, [], 0, .bytes, text.append_nil.symm, splitSuffix_of_none hunit⟩
  · obtain ⟨c, hlast, hc⟩ := Option.bind_eq_some_iff.1 hunit
    obtain ⟨exponent, hwrites, rfl⟩ := suffixUnit?_eq_some_iff.1 hc
    have htext : text = text.dropLast ++ [c] := (List.dropLast_append_getLast? c hlast).symm
    refine ⟨text.dropLast, [c], exponent, hwrites, htext, ?_⟩
    rw [htext, splitSuffix_of_unit hc, List.dropLast_concat]

theorem writesBytes_of_readByteCount {bytes : Nat}
    (h : readByteCount (trim text) = .ok bytes) : WritesBytes text bytes := by
  obtain ⟨digits, letter, exponent, hletter, htrimmed, hsplit⟩ := exists_of_splitSuffix (trim text)
  obtain ⟨count, hnumber, hword, hfits, rfl⟩ := (readByteCount_eq_ok_iff hsplit).1 h
  obtain ⟨before, after, hbefore, hafter, htext⟩ := exists_trim text
  obtain ⟨lead, gap, hlead, hgap, hdigits⟩ := exists_trim digits
  have hwhole : text = before ++ lead ++ trim digits ++ gap ++ letter ++ after := by
    rw [htrimmed, hdigits] at htext
    simpa only [List.append_assoc] using htext
  rw [hwhole]
  exact .intro (hbefore.append hlead) hnumber hgap hletter hafter hword hfits

/-- The blanks in front of the letter are taken away with those in front of the number. -/
theorem WritesNumber.splitSuffix_trim {before gap letter after : List Char}
    (h : WritesNumber number count) (hbefore : Blank before) (hgap : Blank gap)
    (hletter : WritesUnit letter exponent) (hafter : Blank after) :
    ∃ digits, splitSuffix (trim (before ++ number ++ gap ++ letter ++ after)) =
      (digits, 2 ^ exponent) ∧ trim digits = number := by
  rcases letter with _ | ⟨c, rest⟩
  · cases hletter
    have htrim : trim (before ++ number ++ gap ++ [] ++ after) = number := by
      rw [List.append_nil, List.append_assoc (before ++ number)]
      exact h.trim_eq hbefore (hgap.append hafter)
    have hnone : number.getLast?.bind suffixUnit? = none := by
      rw [Option.bind_eq_none_iff]
      exact fun c hc => suffixUnit?_of_isDigit (h.isDigit_last c hc)
    refine ⟨number, ?_, ?_⟩
    · rw [htrim, splitSuffix_of_none hnone, Nat.pow_zero]
    · simpa using h.trim_eq blank_nil blank_nil
  · obtain rfl : rest = [] := by
      cases hletter <;> rfl
    have hcore : number ++ gap ++ [c] ≠ [] := List.append_ne_nil_of_right_ne_nil _ (by simp)
    have htrim : trim (before ++ number ++ gap ++ [c] ++ after) = number ++ gap ++ [c] := by
      have hsurrounded :
          trim (before ++ (number ++ gap ++ [c]) ++ after) = number ++ gap ++ [c] := by
        apply trim_of_surrounded hbefore hafter hcore
        · rw [List.append_assoc, List.head?_append_of_ne_nil _ h.ne_nil]
          exact h.isBlank_head
        · rw [List.getLast?_concat]
          rintro _ ⟨⟩
          exact hletter.isBlank_eq
      simpa only [List.append_assoc] using hsurrounded
    refine ⟨number ++ gap, ?_, ?_⟩
    · rw [htrim]
      exact splitSuffix_of_unit (suffixUnit?_eq_some_iff.2 ⟨exponent, hletter, rfl⟩)
    · exact h.trim_eq blank_nil hgap

theorem readByteCount_of_writesBytes {bytes : Nat} (h : WritesBytes text bytes) :
    readByteCount (trim text) = .ok bytes := by
  obtain ⟨hbefore, hnumber, hgap, hunit, hafter, hword, hfits⟩ := h
  obtain ⟨digits, hsplit, hdigits⟩ := hnumber.splitSuffix_trim hbefore hgap hunit hafter
  rw [readByteCount_eq_ok_iff hsplit, hdigits]
  exact ⟨_, hnumber, hword, hfits, rfl⟩

theorem readByteCount_trim_eq_ok_iff {bytes : Nat} :
    readByteCount (trim text) = .ok bytes ↔ WritesBytes text bytes :=
  ⟨writesBytes_of_readByteCount, readByteCount_of_writesBytes⟩

/-- A sign, leading zeros, blanks inside and outside, and a capital letter. -/
example : readByteCount (trim " +0016 K ".toList) = .ok 16384 := by decide

/-- A text writes one count of bytes at most. -/
theorem WritesBytes.unique {bytes other : Nat} (h : WritesBytes text bytes)
    (hother : WritesBytes text other) : bytes = other :=
  Except.ok.inj ((readByteCount_of_writesBytes h).symm.trans (readByteCount_of_writesBytes hother))

/-! ### The cut by bytes -/

/-- The first bytes of a text, if a character ends there. -/
def takeBytes? : (bytes : Nat) → List Char → Option (List Char)
  | 0, _ => some []
  | _ + 1, [] => none
  | bytes + 1, c :: text =>
    if c.utf8Size ≤ bytes + 1 then (takeBytes? (bytes + 1 - c.utf8Size) text).map (c :: ·)
    else none

def utf8Length (text : List Char) : Nat :=
  (text.map Char.utf8Size).sum

/-- The letter of a unit as it is cut off: by an index into the bytes, one before the end. -/
def cutSuffix? (text : List Char) : Option (List Char × Nat) :=
  match text.getLast?.bind suffixUnit? with
  | some unit => (takeBytes? (utf8Length text - 1) text).map (·, unit)
  | none => some (text, 1)

theorem utf8Length_cons (c : Char) (text : List Char) :
    utf8Length (c :: text) = utf8Length text + c.utf8Size := by
  rw [utf8Length, List.map_cons, List.sum_cons, Nat.add_comm, utf8Length]

theorem utf8Length_concat (text : List Char) (c : Char) :
    utf8Length (text ++ [c]) = utf8Length text + c.utf8Size := by
  rw [utf8Length, List.map_append, List.sum_append_nat, List.map_singleton, List.sum_singleton,
    utf8Length]

/-- Behind the last character of a prefix the text can be cut. -/
theorem takeBytes?_append (front back : List Char) :
    takeBytes? (utf8Length front) (front ++ back) = some front := by
  induction front with
  | nil => cases back <;> rfl
  | cons c front ih =>
    have hpos := c.utf8Size_pos
    obtain ⟨bytes, hbytes⟩ : ∃ bytes, utf8Length (c :: front) = bytes + 1 :=
      Nat.exists_eq_add_one_of_ne_zero (by rw [utf8Length_cons]; omega)
    have hrest : bytes + 1 - c.utf8Size = utf8Length front := by
      rw [← hbytes, utf8Length_cons, Nat.add_sub_cancel]
    have hle : c.utf8Size ≤ bytes + 1 := by
      rw [← hbytes, utf8Length_cons]
      exact Nat.le_add_left ..
    rw [hbytes, List.cons_append, takeBytes?, if_pos hle, hrest, ih, Option.map_some]

/-- The letter of a unit takes up one byte, so in front of it a character ends. -/
theorem cutSuffix?_eq (text : List Char) : cutSuffix? text = some (splitSuffix text) := by
  rw [cutSuffix?, splitSuffix]
  rcases hunit : text.getLast?.bind suffixUnit? with _ | unit
  · rfl
  · obtain ⟨c, hlast, hc⟩ := Option.bind_eq_some_iff.1 hunit
    obtain ⟨exponent, hwrites, -⟩ := suffixUnit?_eq_some_iff.1 hc
    have hlength : utf8Length text - 1 = utf8Length text.dropLast := by
      rw [← List.dropLast_append_getLast? c hlast, utf8Length_concat, hwrites.utf8Size_eq,
        Nat.add_sub_cancel, List.dropLast_concat]
    have hcut : takeBytes? (utf8Length text.dropLast) text = some text.dropLast := by
      have happend := takeBytes?_append text.dropLast [c]
      rwa [List.dropLast_append_getLast? c hlast] at happend
    dsimp only
    rw [hlength, hcut, Option.map_some]

end ManagedRuntime
