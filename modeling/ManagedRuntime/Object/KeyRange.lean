/-
  Ranges of keys
  ==============
  Changes to a map that concern a whole range of consecutive keys: forgetting
  values, and putting a list of values at consecutive keys.  Each is pinned by what
  every key holds afterwards.
-/
import Std.Data.TreeMap

namespace ManagedRuntime

/-- Forgets what a test picks among the `count` keys from `first` on. -/
def discard {β : Type} (picked : β → Bool) (map : Std.TreeMap Nat β) (first : Nat) :
    (count : Nat) → Std.TreeMap Nat β
  | 0 => map
  | count + 1 =>
    let rest := discard picked map first count
    if rest[first + count]?.any picked then rest.erase (first + count) else rest

theorem getElem?_discard {β : Type} (picked : β → Bool) (map : Std.TreeMap Nat β)
    (first count key : Nat) :
    (discard picked map first count)[key]? =
      if first ≤ key ∧ key < first + count then map[key]?.filter (!picked ·) else map[key]? := by
  induction count generalizing key with
  | zero => rw [discard, if_neg (by omega)]
  | succ count ih =>
    by_cases hkey : first + count = key
    · subst hkey
      have hrest : (discard picked map first count)[first + count]? = map[first + count]? := by
        rw [ih, if_neg (by omega)]
      rw [if_pos (by omega), discard, hrest]
      cases hold : map[first + count]? with
      | none => simp [hrest, hold]
      | some value => cases hpicked : picked value <;> simp [hrest, hold, hpicked, Option.filter]
    · have hrange : first ≤ key ∧ key < first + (count + 1) ↔
          first ≤ key ∧ key < first + count := by omega
      rw [discard]
      split
      · simp only [Std.TreeMap.getElem?_erase, Nat.compare_eq_eq, if_neg hkey, ih, hrange]
      · simp only [ih, hrange]

def insertFrom {β : Type} (map : Std.TreeMap Nat β) (first : Nat) : List β → Std.TreeMap Nat β
  | [] => map
  | value :: values => (insertFrom map (first + 1) values).insert first value

theorem getElem?_insertFrom {β : Type} (map : Std.TreeMap Nat β) (first key : Nat)
    (values : List β) :
    (insertFrom map first values)[key]? =
      if first ≤ key ∧ key < first + values.length then values[key - first]? else map[key]? := by
  induction values generalizing first with
  | nil => rw [insertFrom, if_neg (by simp)]
  | cons value values ih =>
    simp only [insertFrom, Std.TreeMap.getElem?_insert, Nat.compare_eq_eq, ih, List.length_cons]
    grind

end ManagedRuntime
