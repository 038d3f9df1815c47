/-
  Elements as variables
  =====================
  To a program the elements of an array are variables of their own.  They are found by their kind
  and an index within the length, and the bounds check passes for exactly these indices.  In memory
  they lie behind the header of the array, aligned, apart from one another and within the array,
  and a store to one of them is read back from it and from no other (`Machine.StoresElement`).

  This holds of every array in a machine that comes about, so of those that a request for an array
  of arrays makes for the inner dimensions too.
-/
import ManagedRuntime.Proofs.Machine.BuiltTrees
import ManagedRuntime.Proofs.Machine.FieldVariables

namespace ManagedRuntime

namespace Machine

variable {machine after : Machine} {ref : Ref} {id : ObjectId} {storage : Storage}
variable {kind other : Kind} {length index : Int} {value : kind.Value}

/-! ### Arrays -/

/-- The reference is to an array of so many elements of the kind. -/
structure HasElements (machine : Machine) (ref : Ref) (kind : Kind) (length : Int) : Prop where
  elementKind?_eq : (machine.class? ref).bind (·.elementKind?) = some kind
  arrayLength?_eq : machine.arrayLength? ref = some length

/-- The storage of an array, with the class in its class word. -/
structure StoresArray (machine : Machine) (id : ObjectId) (type : ElementType) (storage : Storage)
    (classId : ClassId) (cls : Class) : Prop where
  data?_eq : machine.heap.data? id = some storage
  classId?_eq : storage.classId? = some classId
  get?_eq : machine.classes.get? classId = some cls
  shape_eq : cls.shape = .array type

theorem HasElements.exists_storage (h : machine.HasElements ref kind length) :
    ∃ id type storage classId cls, ref = some id ∧ type.kind = kind ∧ storage.length = length ∧
      machine.StoresArray id type storage classId cls := by
  obtain ⟨cls, hclass, hkind⟩ := Option.bind_eq_some_iff.1 h.elementKind?_eq
  obtain ⟨classId, hclassId, hget⟩ := Option.bind_eq_some_iff.1 hclass
  obtain ⟨storage, hstorage, hid⟩ := Option.bind_eq_some_iff.1 hclassId
  obtain ⟨id, rfl, hdata⟩ := Option.bind_eq_some_iff.1 hstorage
  obtain ⟨type, htype, rfl⟩ := Option.map_eq_some_iff.1 hkind
  have hshape : cls.shape = .array type := by
    unfold Class.elementType? at htype
    split at htype
    · cases htype
      assumption
    · cases htype
  have hlength := h.arrayLength?_eq
  rw [arrayLength?, isArray, hclassId, Option.any_some, Hierarchy.isArray_of_shape hget hshape,
    if_pos rfl, hstorage] at hlength
  exact ⟨id, type, storage, classId, cls, rfl, rfl, Option.some.inj hlength, hdata, hid, hget,
    hshape⟩

theorem exists_hasElements (h : machine.isArray ref) :
    ∃ kind length, machine.HasElements ref kind length := by
  obtain ⟨classId, hid, harray⟩ := (Option.any_eq_true ..).1 h
  obtain ⟨storage, hstorage, -⟩ := Option.bind_eq_some_iff.1 hid
  obtain ⟨cls, hget, type, hshape⟩ := Hierarchy.exists_of_isArray harray
  refine ⟨type.kind, storage.length, ?_, ?_⟩
  · rw [class?, hid, Option.bind_some, hget, Option.bind_some, Class.elementKind?,
      Class.elementType?, hshape, Option.map_some]
  · rw [arrayLength?, h, if_pos rfl, hstorage, Option.map_some]

/-! ### Which elements there are -/

theorem isSome_element? :
    (machine.element? ref kind index).isSome = (machine.elementOffset? ref kind index).isSome := by
  unfold element? elementOffset?
  cases machine.storage? ref with
  | none => rfl
  | some storage => exact Option.isSome_map

theorem isSome_setElement? :
    (machine.setElement? ref kind index value).isSome =
      (machine.elementOffset? ref kind index).isSome := by
  cases ref with
  | none => rfl
  | some id =>
    unfold setElement?
    cases machine.elementOffset? (some id) kind index with
    | none => rfl
    | some offset => rfl

theorem HasElements.isSome_elementOffset?_iff (h : machine.HasElements ref kind length) :
    (machine.elementOffset? ref other index).isSome ↔
      other = kind ∧ 0 ≤ index ∧ index < length := by
  obtain ⟨id, type, storage, classId, cls, rfl, rfl, rfl, hdata, hid, hget, hshape⟩ :=
    h.exists_storage
  rw [elementOffset?_eq hdata, Storage.elementOffset?_of_shape hid hget hshape, @eq_comm _ other]
  split
  · rename_i hinside
    exact iff_of_true rfl hinside
  · rename_i hinside
    exact iff_of_false Bool.false_ne_true hinside

/-- The bounds check passes for the indices of the elements, and for no others. -/
theorem HasElements.checkBounds_iff (h : machine.HasElements ref kind length) :
    machine.checkBounds ref index = (.ok (), machine) ↔ 0 ≤ index ∧ index < length := by
  rw [checkBounds, inBounds_of_length h.arrayLength?_eq]
  by_cases hinside : 0 ≤ index ∧ index < length
  · rw [decide_eq_true hinside]
    exact iff_of_true rfl hinside
  · rw [decide_eq_false hinside, check_false]
    exact iff_of_false (fun heq => nomatch congrArg Prod.fst heq) hinside

/-! ### Stores -/

structure StoresElement (machine : Machine) (ref : Ref) (kind : Kind) (index : Int)
    (value : kind.Value) (after : Machine) : Prop where
  element?_eq : after.element? ref kind index = some value
  otherElements : ∀ place, place ≠ index →
    after.element? ref kind place = machine.element? ref kind place
  classId?_eq : after.classId? ref = machine.classId? ref
  arrayLength?_eq : after.arrayLength? ref = machine.arrayLength? ref
  otherObjects : ∀ place, place ≠ ref → machine.ReadsAlike after place
  sameClasses : machine.SameClasses after
  reachedByPermitted : after.ReachedByPermitted

theorem ReachedByPermitted.setElement? (h : machine.ReachedByPermitted)
    (hset : machine.setElement? ref kind index value = some after) : after.ReachedByPermitted := by
  have hstep := h.step (.operation (.setElement ref kind index value)) ⟨trivial, trivial⟩
  rw [step_operation, perform, run_storing, hset] at hstep
  exact hstep

theorem ReachedByPermitted.storesElement (h : machine.ReachedByPermitted)
    (hset : machine.setElement? ref kind index value = some after) :
    machine.StoresElement ref kind index value after := by
  have hafter := h.setElement? hset
  obtain ⟨id, storage, offset, rfl, hdata, hoffset, rfl⟩ := exists_of_setElement? hset
  have hwritten := data?_updateStorage hdata (·.write kind offset value)
  have hplace := Storage.isPlace_of_elementOffset? hoffset
  have hclassId : (machine.updateStorage id (·.write kind offset value)).classId? (some id) =
      machine.classId? (some id) := by
    rw [classId?_eq hwritten, classId?_eq hdata]
    exact Storage.classId?_write hplace.le_offset value
  constructor
  · rw [element?_eq hwritten]
    exact Storage.element?_write hoffset value
  · intro place hne
    rw [element?_eq hwritten, element?_eq hdata]
    exact Storage.element?_write_of_ne hoffset hne value
  · exact hclassId
  · obtain ⟨classId, cls, type, hid, hget, hshape, -⟩ := Storage.exists_of_elementOffset? hoffset
    have hheader := hplace.header_le classId hid (Hierarchy.isArray_of_shape hget hshape)
    have hlength : (storage.write kind offset value).length = storage.length :=
      Storage.length_write hheader value
    rw [arrayLength?, isArray, hclassId, storage?, Option.bind_some, hwritten, Option.map_some,
      hlength, arrayLength?, isArray, storage?, Option.bind_some, hdata, Option.map_some]
    rfl
  · exact fun place hne => readsAlike_updateStorage _ hne
  · exact ⟨rfl, rfl⟩
  · exact hafter

/-! ### Where elements lie -/

/-- Where an element lies: aligned, behind the header and in the array. -/
structure ElementPlaced (machine : Machine) (ref : Ref) (kind : Kind) (index : Nat) : Prop where
  elementOffset?_eq : machine.elementOffset? ref kind index = some (kind.element index).start
  aligned : kind.align ∣ (kind.element index).start
  behind_header : arrayHeaderEnd ≤ (kind.element index).start
  within : ∃ storage, machine.storage? ref = some storage ∧
    (kind.element index).stop ≤ storage.size

theorem HasElements.placed (h : machine.HasElements ref kind length)
    (hpermitted : machine.ReachedByPermitted) {index : Nat} (hindex : (index : Int) < length) :
    machine.ElementPlaced ref kind index := by
  obtain ⟨id, type, storage, classId, cls, rfl, rfl, rfl, hdata, hid, hget, hshape⟩ :=
    h.exists_storage
  refine ⟨?_, type.kind.element_aligned index, type.kind.arrayHeaderEnd_le_element index, ?_⟩
  · rw [elementOffset?_eq hdata]
    exact Storage.elementOffset?_of_array hid hget hshape hindex
  · obtain ⟨found, hfound, hroom⟩ := (hpermitted.inShape.shaped_of_data? hdata).room classId hid
    obtain rfl : cls = found := Option.some.inj (hget.symm.trans hfound)
    rw [Storage.HasRoomFor, hshape] at hroom
    have hlt : index < storage.length.toNat := by omega
    exact ⟨storage, hdata, Nat.le_trans (type.kind.element_stop_le hlt) hroom⟩

/-! ### The main result -/

/-- The elements of an array are variables of their own. -/
structure ElementsAreVariables (machine : Machine) (ref : Ref) (kind : Kind) (length : Int) :
    Prop where
  readable_iff : ∀ other index,
    (machine.element? ref other index).isSome ↔ other = kind ∧ 0 ≤ index ∧ index < length
  writable_iff : ∀ other index value,
    (machine.setElement? ref other index value).isSome ↔
      other = kind ∧ 0 ≤ index ∧ index < length
  check_iff : ∀ index,
    machine.checkBounds ref index = (.ok (), machine) ↔ (machine.element? ref kind index).isSome
  raises : ∀ index, machine.element? ref kind index = none →
    machine.checkBounds ref index =
      (.error (machine.raise machine.table.core.indexOutOfBounds).1,
        (machine.raise machine.table.core.indexOutOfBounds).2)
  placed : ∀ index : Nat, (index : Int) < length → machine.ElementPlaced ref kind index
  apart : ∀ index other : Nat, index ≠ other → (kind.element index).Apart (kind.element other)
  stores : ∀ index value after, machine.setElement? ref kind index value = some after →
    machine.StoresElement ref kind index value after
  refuses : ∀ other index value, ¬(other = kind ∧ 0 ≤ index ∧ index < length) →
    machine.step (.operation (.setElement ref other index value)) = (.ok (.stored false), machine)

theorem HasElements.elementsAreVariables (harray : machine.HasElements ref kind length)
    (h : machine.ReachedByPermitted) : machine.ElementsAreVariables ref kind length := by
  have hreadable : ∀ other index, (machine.element? ref other index).isSome ↔
      other = kind ∧ 0 ≤ index ∧ index < length := by
    intro other index
    rw [isSome_element?, harray.isSome_elementOffset?_iff]
  have hwritable : ∀ other index value, (machine.setElement? ref other index value).isSome ↔
      other = kind ∧ 0 ≤ index ∧ index < length := by
    intro other index value
    rw [isSome_setElement?, harray.isSome_elementOffset?_iff]
  constructor
  · exact hreadable
  · exact hwritable
  · intro index
    rw [harray.checkBounds_iff, hreadable]
    exact (and_iff_right rfl).symm
  · intro index hnone
    have houtside : ¬(0 ≤ index ∧ index < length) := by
      intro hinside
      have hsome := (hreadable kind index).2 ⟨rfl, hinside⟩
      rw [hnone] at hsome
      cases hsome
    rw [checkBounds, inBounds_of_length harray.arrayLength?_eq, decide_eq_false houtside]
    rfl
  · exact fun index hindex => harray.placed h hindex
  · exact fun index other hne => kind.elements_apart hne
  · exact fun index value after hset => h.storesElement hset
  · intro other index value houtside
    rw [← hwritable other index value, Option.not_isSome_iff_eq_none] at houtside
    rw [step_operation, perform, run_storing, houtside]
    rfl

/-- In every machine that comes about, the elements of every array are variables of their own. -/
theorem elements_are_variables (h : machine.ReachedByPermitted) (hisArray : machine.isArray ref) :
    ∃ kind length, machine.HasElements ref kind length ∧
      machine.ElementsAreVariables ref kind length := by
  obtain ⟨kind, length, harray⟩ := exists_hasElements hisArray
  exact ⟨kind, length, harray, harray.elementsAreVariables h⟩

theorem pairsTree_reachedByPermitted : pairsTree.ReachedByPermitted := by
  have hstep :=
    pairsHeld_reachedByPermitted.step (.operation (.newArray .reference (some 3) [2, 2])) trivial
  rw [step_operation, perform, run_replying] at hstep
  exact hstep

/-- The first inner array has two elements, of the kind of references only. -/
theorem elements_are_variables_of_pairs :
    (pairsTree.ReachedByPermitted ∧ pairsTree.isArray (some 3) ∧
      pairsTree.element? (some 3) .reference 1 = some .null ∧
      pairsTree.element? (some 3) .reference 2 = none ∧
      pairsTree.element? (some 3) (.primitive .long) 0 = none) ∧
      ∃ kind length, pairsTree.HasElements (some 3) kind length ∧
        pairsTree.ElementsAreVariables (some 3) kind length := by
  have harray : pairsTree.isArray (some 3) := by decide +kernel
  exact ⟨⟨pairsTree_reachedByPermitted, harray, by decide +kernel, by decide +kernel,
    by decide +kernel⟩,
    elements_are_variables pairsTree_reachedByPermitted harray⟩

end Machine

end ManagedRuntime
