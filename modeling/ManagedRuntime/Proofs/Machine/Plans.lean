/-
  Plans of arrays
  ===============
  Before any storage is asked for, the construction of an array looks up the class of its
  innermost arrays and then asks for arrays of arrays, once for each further dimension.  What comes
  of it is a plan (`Machine.Plans`): levels that fit together, each with the class of arrays of the
  next one, and a machine in which these classes exist and nothing else is new.
-/
import Mathlib.Data.List.Chain
import ManagedRuntime.Proofs.Class.ArrayClasses
import ManagedRuntime.Proofs.Machine.Construction

namespace ManagedRuntime

namespace Machine

variable {machine mid prepared planned : Machine} {kind : Kind} {element : Option ClassId}
variable {dimensions : List Int} {level : ArrayLevel} {inner levels : List ArrayLevel}
variable {classId : ClassId}

/-! ### Only classes are new -/

theorem eq_withClasses_surround (machine : Machine) (level : ArrayLevel) (inner : List ArrayLevel)
    (lengths : List Nat) : (machine.surround level inner lengths).2 =
      machine.withClasses (machine.surround level inner lengths).2.classes := by
  induction lengths generalizing machine level inner with
  | nil => rfl
  | cons length lengths ih => exact ih (machine.arrayOf level.classId).2 _ _

theorem eq_withClasses_innermostClass
    (h : machine.innermostClass kind element = .ok (classId, prepared)) :
    prepared = machine.withClasses prepared.classes := by
  unfold innermostClass at h
  split at h
  · split at h
    · cases h
      rfl
    · cases h
  · cases h
    rfl
  · cases h

/-- How a plan comes about. -/
theorem exists_of_planArray {outermost : ArrayLevel}
    (h : machine.planArray kind element dimensions = .ok ((outermost, inner), planned)) :
    ∃ length lengths innermost prepared,
      dimensions.find? (· < 0) = none ∧
      (dimensions.map (·.toNat)).reverse = length :: lengths ∧
      machine.innermostClass kind element = .ok (innermost, prepared) ∧
      prepared.surround (prepared.level innermost kind length) [] lengths =
        ((outermost, inner), planned) := by
  unfold planArray at h
  split at h
  · cases h
  · cases h
  rename_i length lengths hnonneg hlengths
  rcases hinnermost : machine.innermostClass kind element with error | ⟨innermost, prepared⟩
  · rw [hinnermost] at h
    cases h
  · rw [hinnermost] at h
    exact ⟨length, lengths, innermost, prepared, hnonneg, hlengths, rfl, Except.ok.inj h⟩

theorem eq_withClasses_planArray {outermost : ArrayLevel}
    (h : machine.planArray kind element dimensions = .ok ((outermost, inner), planned)) :
    planned = machine.withClasses planned.classes := by
  obtain ⟨length, lengths, innermost, prepared, -, -, hinnermost, hsurround⟩ :=
    exists_of_planArray h
  have hplanned :=
    eq_withClasses_surround prepared (prepared.level innermost kind length) [] lengths
  rw [hsurround, eq_withClasses_innermostClass hinnermost] at hplanned
  exact hplanned

/-- What keeps while one array class is asked for keeps while arrays are planned. -/
theorem planArray_induction (inv : Machine → Prop)
    (harrayOf : ∀ machine element, inv machine → inv (machine.arrayOf element).2)
    (h : inv machine) {outermost : ArrayLevel}
    (hplan : machine.planArray kind element dimensions = .ok ((outermost, inner), planned)) :
    inv planned := by
  have hsurround : ∀ lengths machine level inner, inv machine →
      inv (surround machine level inner lengths).2 := by
    intro lengths
    induction lengths with
    | nil => exact fun _ _ _ h => h
    | cons length lengths ih => exact fun _ _ _ h => ih _ _ _ (harrayOf _ _ h)
  obtain ⟨length, lengths, innermost, prepared, -, -, hinnermost, hresult⟩ :=
    exists_of_planArray hplan
  have hprepared : inv prepared := by
    unfold innermostClass at hinnermost
    split at hinnermost
    · split at hinnermost
      · cases hinnermost
        exact h
      · cases hinnermost
    · rename_i element
      have harray := harrayOf machine element h
      cases hinnermost
      exact harray
    · cases hinnermost
  have hplanned := hsurround lengths _ (prepared.level innermost kind length) [] hprepared
  rwa [hresult] at hplanned

/-! ### Levels that fit together -/

/-- Levels of arrays, outermost first: every class exists, and each level is of arrays of the
    next. -/
structure Layers (machine : Machine) (levels : List ArrayLevel) : Prop where
  nested : levels.IsChain fun outer inner =>
    outer.kind = .reference ∧ machine.classes.arrayClass? inner.classId = some outer.classId
  known : ∀ each ∈ levels, each.classId < machine.classes.size ∧
    each.table = machine.classes.table each.classId

theorem layers_level (hclass : classId < machine.classes.size) (kind : Kind) (length : Nat) :
    machine.Layers [machine.level classId kind length] where
  nested := .singleton _
  known each heach := by
    rw [List.mem_singleton.1 heach]
    exact ⟨hclass, rfl⟩

theorem Layers.extend (h : machine.Layers levels) {after : Machine}
    (hgrown : machine.classes.Extends after.classes) : after.Layers levels where
  nested := h.nested.imp fun _ _ hpair => ⟨hpair.1, hgrown.arrayClass?_of_some hpair.2⟩
  known each heach := by
    obtain ⟨hlt, htable⟩ := h.known each heach
    refine ⟨Nat.lt_of_lt_of_le hlt hgrown.size_le, ?_⟩
    rw [htable, Hierarchy.table, Hierarchy.table, hgrown.get?_eq _ hlt]

theorem Layers.tail (h : machine.Layers (level :: levels)) : machine.Layers levels where
  nested := h.nested.tail
  known each heach := h.known each (.tail _ heach)

/-- A level knows the dispatch table of its arrays. -/
theorem Layers.dispatchTable?_eq (h : machine.Layers levels) {id : ObjectId}
    (hlevel : level ∈ levels)
    (hclass : machine.classId? (some id) = some level.classId) :
    machine.dispatchTable? (some id) = some level.table := by
  obtain ⟨hlt, htable⟩ := h.known level hlevel
  obtain ⟨cls, hget⟩ := Option.isSome_iff_exists.1 (Hierarchy.isSome_get?_iff.2 hlt)
  rw [dispatchTable?, class?, hclass, Option.bind_some, hget, Option.map_some, htable,
    Hierarchy.table, hget]

/-- From the class of the innermost level the classes of all others follow. -/
theorem Layers.nestedArray?_eq (h : machine.Layers levels) {last : ArrayLevel}
    (hlast : levels.getLast? = some last) {depth : Nat} (hdepth : depth < levels.length) :
    machine.classes.nestedArray? last.classId (levels.length - 1 - depth) =
      some levels[depth].classId := by
  induction levels generalizing depth with
  | nil => cases hlast
  | cons outer levels ih =>
    rcases levels with _ | ⟨inner, levels⟩
    · obtain rfl := Option.some.inj hlast
      obtain rfl : depth = 0 := Nat.lt_one_iff.1 hdepth
      rfl
    · have hrest := h.tail
      rw [List.getLast?_cons_cons] at hlast
      cases depth with
      | zero =>
        have hinner := ih hrest hlast (Nat.zero_lt_succ _)
        change (machine.classes.nestedArray? last.classId levels.length).bind _ = _
        rw [show machine.classes.nestedArray? last.classId levels.length = _ from hinner]
        exact h.nested.rel.2
      | succ depth =>
        have hdepth := Nat.lt_of_succ_lt_succ hdepth
        have hsame : (outer :: inner :: levels).length - 1 - (depth + 1) =
            (inner :: levels).length - 1 - depth := by
          simp only [List.length_cons]
          omega
        rw [hsame]
        exact ih hrest hlast hdepth

/-- A level around others is of the array class of the outermost of them. -/
theorem Layers.arrayOf (h : machine.Layers (level :: inner)) (length : Nat) :
    (machine.arrayOf level.classId).2.Layers
      ((machine.arrayOf level.classId).2.level (machine.arrayOf level.classId).1 .reference
        length :: level :: inner) := by
  have hold : (machine.arrayOf level.classId).2.Layers (level :: inner) :=
    h.extend (Hierarchy.extends_arrayOf machine.classes machine.rootClass level.classId)
  constructor
  · apply List.IsChain.cons_cons _ hold.nested
    exact ⟨rfl, Hierarchy.arrayClass?_arrayOf ..⟩
  · intro each heach
    rcases List.mem_cons.1 heach with rfl | heach
    · exact ⟨Hierarchy.arrayOf_lt_size .., rfl⟩
    · exact hold.known each heach

structure Surrounds (machine : Machine) (level : ArrayLevel) (inner : List ArrayLevel)
    (lengths : List Nat) (levels : List ArrayLevel) (planned : Machine) : Prop where
  layers : planned.Layers levels
  added : machine.classes.ArraysAdded machine.rootClass planned.classes
  lengths_eq : levels.map (·.length) = lengths.reverse ++ (level :: inner).map (·.length)
  last_eq : levels.getLast? = (level :: inner).getLast?

theorem Layers.surround (h : machine.Layers (level :: inner)) (lengths : List Nat) :
    machine.Surrounds level inner lengths
      ((machine.surround level inner lengths).1.1 :: (machine.surround level inner lengths).1.2)
      (machine.surround level inner lengths).2 := by
  induction lengths generalizing machine level inner with
  | nil => exact ⟨h, .refl, rfl, rfl⟩
  | cons length lengths ih =>
    have hmid := ih (h.arrayOf length)
    have hlevel := (h.known level (.head _)).1
    refine ⟨hmid.layers, (Hierarchy.ArraysAdded.arrayOf .refl hlevel).trans hmid.added, ?_, ?_⟩
    · rw [List.reverse_cons, List.append_assoc]
      exact hmid.lengths_eq
    · exact hmid.last_eq.trans List.getLast?_cons_cons

/-! ### The innermost arrays -/

/-- The class of the innermost arrays, once it exists. -/
def innermost? (machine : Machine) (kind : Kind) (element : Option ClassId) : Option ClassId :=
  match kind, element with
  | .primitive kind, _ => machine.table.primitiveArray? kind
  | .reference, some element => machine.classes.arrayClass? element
  | .reference, none => none

theorem innermost?_extend {after : Machine} (htable : after.table = machine.table)
    (hgrown : machine.classes.Extends after.classes)
    (h : machine.innermost? kind element = some classId) :
    after.innermost? kind element = some classId := by
  cases kind with
  | primitive kind =>
    rw [innermost?, htable]
    exact h
  | reference =>
    cases element with
    | none => cases h
    | some element => exact hgrown.arrayClass?_of_some h

theorem innermost?_of_innermostClass
    (h : machine.innermostClass kind element = .ok (classId, prepared)) :
    prepared.innermost? kind element = some classId := by
  unfold innermostClass at h
  split at h
  · split at h
    · rename_i harray
      cases h
      exact harray
    · cases h
  · have harray := Hierarchy.arrayClass?_arrayOf machine.classes machine.rootClass
    cases h
    exact harray _
  · cases h

theorem grown_of_innermostClass (harrays : ∀ id ∈ machine.table.primitiveArrays,
      id < machine.classes.size)
    (h : machine.innermostClass kind element = .ok (classId, prepared)) :
    machine.classes.Extends prepared.classes ∧ classId < prepared.classes.size := by
  unfold innermostClass at h
  split at h
  · split at h
    · rename_i harray
      cases h
      exact ⟨.refl _, harrays _ (List.mem_of_getElem? harray)⟩
    · cases h
  · rename_i element
    have hgrown := Hierarchy.extends_arrayOf machine.classes machine.rootClass element
    have hlt := Hierarchy.arrayOf_lt_size machine.classes machine.rootClass element
    cases h
    exact ⟨hgrown, hlt⟩
  · cases h

theorem added_of_innermostClass (helement : ∀ id, element = some id → id < machine.classes.size)
    (h : machine.innermostClass kind element = .ok (classId, prepared)) :
    machine.classes.ArraysAdded machine.rootClass prepared.classes := by
  unfold innermostClass at h
  split at h
  · split at h
    · cases h
      exact .refl
    · cases h
  · rename_i element
    have hadded : machine.classes.ArraysAdded machine.rootClass
        (machine.classes.arrayOf machine.rootClass element).2 :=
      .arrayOf .refl (helement element rfl)
    cases h
    exact hadded
  · cases h

/-! ### Plans -/

/-- What a plan is for arrays of given dimensions, outermost first. -/
structure Plans (machine : Machine) (kind : Kind) (element : Option ClassId)
    (dimensions : List Int) (levels : List ArrayLevel) (planned : Machine) : Prop
    extends planned.Layers levels where
  eq_withClasses : planned = machine.withClasses planned.classes
  grown : machine.classes.Extends planned.classes
  lengths_eq : levels.map (fun level => (level.length : Int)) = dimensions
  innermost : ∀ last, levels.getLast? = some last →
    last.kind = kind ∧ planned.innermost? kind element = some last.classId

theorem toNat_dimensions (h : dimensions.find? (· < 0) = none) :
    dimensions.map (fun length => (length.toNat : Int)) = dimensions := by
  have hnonneg : ∀ length ∈ dimensions, (length.toNat : Int) = id length := by
    intro length hlength
    have hfound := List.find?_eq_none.1 h length hlength
    exact Int.toNat_of_nonneg (by simpa using hfound)
  rw [List.map_congr_left hnonneg, List.map_id]

theorem plans_of_planArray (harrays : ∀ id ∈ machine.table.primitiveArrays,
      id < machine.classes.size) {outermost : ArrayLevel}
    (h : machine.planArray kind element dimensions = .ok ((outermost, inner), planned)) :
    machine.Plans kind element dimensions (outermost :: inner) planned := by
  have heq := eq_withClasses_planArray h
  obtain ⟨length, lengths, innermost, prepared, hnonneg, hlengths, hinnermost, hsurround⟩ :=
    exists_of_planArray h
  obtain ⟨hgrown, hclass⟩ := grown_of_innermostClass harrays hinnermost
  have hresult := (layers_level hclass kind length).surround lengths
  have hplanned :=
    eq_withClasses_surround prepared (prepared.level innermost kind length) [] lengths
  rw [hsurround] at hresult hplanned
  have hlater := hresult.added.grown
  refine { hresult.layers with
    eq_withClasses := heq
    grown := hgrown.trans hlater
    lengths_eq := ?_
    innermost := ?_ }
  · have hall : (outermost :: inner).map (·.length) = dimensions.map (·.toNat) := by
      rw [← List.reverse_reverse (dimensions.map _), hlengths, List.reverse_cons]
      exact hresult.lengths_eq
    have hints := congrArg (List.map fun length : Nat => (length : Int)) hall
    rw [List.map_map, List.map_map] at hints
    exact hints.trans (toNat_dimensions hnonneg)
  · intro last hlast
    obtain rfl := Option.some.inj (hresult.last_eq.symm.trans hlast)
    refine ⟨rfl, ?_⟩
    apply innermost?_extend _ hlater (innermost?_of_innermostClass hinnermost)
    rw [hplanned]
    rfl

/-- A plan asks for arrays of classes that exist, one after the other. -/
theorem added_of_planArray (harrays : ∀ id ∈ machine.table.primitiveArrays,
      id < machine.classes.size) (helement : ∀ id, element = some id → id < machine.classes.size)
    {outermost : ArrayLevel}
    (h : machine.planArray kind element dimensions = .ok ((outermost, inner), planned)) :
    machine.classes.ArraysAdded machine.rootClass planned.classes := by
  obtain ⟨length, lengths, innermost, prepared, -, -, hinnermost, hsurround⟩ :=
    exists_of_planArray h
  obtain ⟨-, hclass⟩ := grown_of_innermostClass harrays hinnermost
  have hadded := ((layers_level hclass kind length).surround lengths).added
  have hroot : prepared.rootClass = machine.rootClass := by
    rw [eq_withClasses_innermostClass hinnermost]
    rfl
  rw [hsurround, hroot] at hadded
  exact (added_of_innermostClass helement hinnermost).trans hadded

end Machine

end ManagedRuntime
