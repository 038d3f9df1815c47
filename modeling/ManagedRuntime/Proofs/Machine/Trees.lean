/-
  Trees of arrays
  ===============
  An array of arrays of arrays is a tree: an array of the outermost level at the root, and below
  the array of each level one of the next level for each of its elements (`Machine.Tree`).  The
  arrays of a tree are made from the root on and one branch after the other, and names are never
  given out twice.  So the names of a tree lie between two marks, those of its branches between
  marks in between, and the root stands before all of them.  No two places of a tree can then hold
  the same array.

  A tree is in place as long as its arrays are (`Tree.carry`).
-/
import Mathlib.Algebra.BigOperators.Group.List.Basic
import Mathlib.Data.List.Nodup
import ManagedRuntime.Proofs.Machine.Plans
import ManagedRuntime.Proofs.Object.Elements

namespace ManagedRuntime

namespace Machine

variable {machine after : Machine} {id outer : ObjectId} {low high : Nat}
variable {level next : ArrayLevel} {levels : List ArrayLevel}

/-! ### Trees -/

/-- An object is an array of a level. -/
structure HoldsArray (machine : Machine) (level : ArrayLevel) (id : ObjectId) : Prop where
  classId?_eq : machine.classId? (some id) = some level.classId
  arrayLength?_eq : machine.arrayLength? (some id) = some (level.length : Int)

/-- The elements of an array up to `count` hold subtrees, one behind the other.  The names of
    subtree `index` lie between the marks `bounds index` and `bounds (index + 1)`. -/
structure Branches (machine : Machine) (subtree : (low high : Nat) → ObjectId → Prop)
    (outer : ObjectId) (table : DispatchTable) (count high : Nat) (bounds : Nat → Nat)
    (child : Nat → ObjectId) : Prop where
  lt_bounds : outer < bounds 0
  bounds_le : bounds count ≤ high
  slots : ∀ index : Nat, index < count → machine.element? (some outer) .reference index =
    some { table := some table, object := some (child index) }
  subtrees : ∀ index, index < count → subtree (bounds index) (bounds (index + 1)) (child index)

/-- An object is the root of a complete tree of arrays of some levels, outermost first, with
    names between two marks. -/
def Tree (machine : Machine) : (levels : List ArrayLevel) → (low high : Nat) → ObjectId → Prop
  | [], _, _, _ => False
  | [level], low, high, id => low ≤ id ∧ id < high ∧ machine.HoldsArray level id ∧
      ∀ index : Nat, index < level.length →
        machine.element? (some id) level.kind index = some level.kind.zero
  | level :: next :: levels, low, high, id => low ≤ id ∧ id < high ∧ machine.HoldsArray level id ∧
      ∃ bounds child, machine.Branches (machine.Tree (next :: levels)) id next.table level.length
        high bounds child

theorem Tree.root (h : machine.Tree (level :: levels) low high id) :
    low ≤ id ∧ id < high ∧ machine.HoldsArray level id := by
  cases levels with
  | nil => exact ⟨h.1, h.2.1, h.2.2.1⟩
  | cons next levels => exact ⟨h.1, h.2.1, h.2.2.1⟩

theorem Tree.branches (h : machine.Tree (level :: next :: levels) low high id) :
    ∃ bounds child, machine.Branches (machine.Tree (next :: levels)) id next.table level.length
      high bounds child :=
  h.2.2.2

theorem Tree.within (h : machine.Tree levels low high id) : low ≤ id ∧ id < high := by
  cases levels with
  | nil => exact h.elim
  | cons level levels => exact ⟨h.root.1, h.root.2.1⟩

variable {table : DispatchTable} {count : Nat} {bounds : Nat → Nat} {child : Nat → ObjectId}

theorem Branches.mono (h : machine.Branches (machine.Tree levels) outer table count high bounds
    child) {first last : Nat} (hle : first ≤ last) (hlast : last ≤ count) :
    bounds first ≤ bounds last := by
  induction last, hle using Nat.le_induction with
  | base => exact Nat.le_refl _
  | succ last _ ih =>
    obtain ⟨hlow, hhigh⟩ := (h.subtrees last hlast).within
    exact Nat.le_trans (ih (Nat.le_of_succ_le hlast)) (Nat.le_trans hlow (Nat.le_of_lt hhigh))

/-- A name lies in one branch only. -/
theorem Branches.index_unique (h : machine.Branches (machine.Tree levels) outer table count high
    bounds child) {index other name : Nat} (hindex : index < count) (hother : other < count)
    (hname : bounds index ≤ name ∧ name < bounds (index + 1))
    (hname' : bounds other ≤ name ∧ name < bounds (other + 1)) : index = other := by
  rcases Nat.lt_trichotomy index other with hlt | heq | hgt
  · have hmono := h.mono (Nat.succ_le_of_lt hlt) (Nat.le_of_lt hother)
    exact absurd (Nat.lt_of_lt_of_le hname.2 (Nat.le_trans hmono hname'.1)) (Nat.lt_irrefl _)
  · exact heq
  · have hmono := h.mono (Nat.succ_le_of_lt hgt) (Nat.le_of_lt hindex)
    exact absurd (Nat.lt_of_lt_of_le hname'.2 (Nat.le_trans hmono hname.1)) (Nat.lt_irrefl _)

/-! ### Trees in a later machine -/

/-- Some objects, and with them all that their elements refer to, are the same in a later machine,
    as far as their names are not below a mark. -/
structure Carries (kept : ObjectId → Prop) (mark : Nat) (machine after : Machine) : Prop where
  classes_eq : after.classes = machine.classes
  data?_eq : ∀ id, mark ≤ id → kept id → after.heap.data? id = machine.heap.data? id
  element : ∀ id (index : Nat) slot inner, kept id →
    machine.element? (some id) .reference index = some slot → slot.object = some inner → kept inner

variable {kept : ObjectId → Prop} {mark : Nat}

theorem Carries.element?_eq (h : Carries kept mark machine after) (hmark : mark ≤ id)
    (hid : kept id) (kind : Kind) (index : Int) :
    after.element? (some id) kind index = machine.element? (some id) kind index := by
  simp only [element?, storage?, Option.bind_some, h.data?_eq id hmark hid, h.classes_eq]

theorem Carries.holdsArray (h : Carries kept mark machine after) (hmark : mark ≤ id)
    (hid : kept id) (harray : machine.HoldsArray level id) : after.HoldsArray level id := by
  have hstorage : after.storage? (some id) = machine.storage? (some id) := h.data?_eq id hmark hid
  constructor
  · rw [classId?, hstorage]
    exact harray.classId?_eq
  · rw [arrayLength?, isArray, classId?, hstorage, h.classes_eq]
    exact harray.arrayLength?_eq

theorem Branches.carry (h : machine.Branches (machine.Tree levels) outer table count high bounds
      child) (hcarry : Carries kept mark machine after) (hmark : mark ≤ outer) (houter : kept outer)
    (hsubtrees : ∀ low high id, mark ≤ low → kept id → machine.Tree levels low high id →
      after.Tree levels low high id) :
    after.Branches (after.Tree levels) outer table count high bounds child where
  lt_bounds := h.lt_bounds
  bounds_le := h.bounds_le
  slots index hindex := by
    rw [hcarry.element?_eq hmark houter]
    exact h.slots index hindex
  subtrees index hindex := by
    apply hsubtrees
    · have hmono := h.mono (Nat.zero_le index) (Nat.le_of_lt hindex)
      exact Nat.le_trans hmark (Nat.le_trans (Nat.le_of_lt h.lt_bounds) hmono)
    · exact hcarry.element outer index _ _ houter (h.slots index hindex) rfl
    · exact h.subtrees index hindex

theorem Tree.carry (hcarry : Carries kept mark machine after) (hmark : mark ≤ low)
    (hid : kept id) (h : machine.Tree levels low high id) : after.Tree levels low high id := by
  induction levels generalizing low high id with
  | nil => exact h.elim
  | cons level levels ih =>
    obtain ⟨hlow, hhigh, harray⟩ := h.root
    have hname := Nat.le_trans hmark hlow
    have harray' := hcarry.holdsArray hname hid harray
    cases levels with
    | nil =>
      refine ⟨hlow, hhigh, harray', ?_⟩
      intro index hindex
      rw [hcarry.element?_eq hname hid]
      exact h.2.2.2 index hindex
    | cons next levels =>
      obtain ⟨bounds, child, hbranches⟩ := h.branches
      refine ⟨hlow, hhigh, harray', bounds, child, ?_⟩
      exact hbranches.carry hcarry hname hid fun low high id hmark hid htree =>
        ih hmark hid htree

/-- The marks of a tree may lie further apart. -/
theorem Tree.widen (h : machine.Tree levels low high id) {low' high' : Nat} (hlow : low' ≤ low)
    (hhigh : high ≤ high') : machine.Tree levels low' high' id := by
  rcases levels with _ | ⟨level, _ | ⟨next, levels⟩⟩
  · exact h.elim
  · exact ⟨Nat.le_trans hlow h.1, Nat.lt_of_lt_of_le h.2.1 hhigh, h.2.2⟩
  · obtain ⟨bounds, child, hbranches⟩ := h.branches
    refine ⟨Nat.le_trans hlow h.1, Nat.lt_of_lt_of_le h.2.1 hhigh, h.2.2.1, bounds, child, ?_⟩
    exact { hbranches with bounds_le := Nat.le_trans hbranches.bounds_le hhigh }

/-- One more branch behind those that are there. -/
theorem Branches.snoc (h : machine.Branches (machine.Tree levels) outer table count low bounds
      child) {inner : ObjectId}
    (hslot : machine.element? (some outer) .reference count =
      some { table := some table, object := some inner })
    (htree : machine.Tree levels low high inner) :
    ∃ bounds child, machine.Branches (machine.Tree levels) outer table (count + 1) high bounds
      child := by
  refine ⟨Function.update bounds (count + 1) high, Function.update child count inner, ?_⟩
  have hbounds : ∀ index, index ≤ count → Function.update bounds (count + 1) high index =
      bounds index := by
    intro index hindex
    exact Function.update_of_ne (Nat.ne_of_lt (Nat.lt_succ_of_le hindex)) ..
  constructor
  · rw [hbounds 0 (Nat.zero_le _)]
    exact h.lt_bounds
  · rw [Function.update_self]
  · intro index hindex
    rcases Nat.lt_succ_iff_lt_or_eq.1 hindex with hlt | rfl
    · rw [Function.update_of_ne (Nat.ne_of_lt hlt)]
      exact h.slots index hlt
    · rw [Function.update_self]
      exact hslot
  · intro index hindex
    rcases Nat.lt_succ_iff_lt_or_eq.1 hindex with hlt | rfl
    · rw [hbounds index (Nat.le_of_lt hlt), hbounds (index + 1) hlt,
        Function.update_of_ne (Nat.ne_of_lt hlt)]
      exact h.subtrees index hlt
    · rw [hbounds index (Nat.le_refl _), Function.update_self, Function.update_self]
      exact htree.widen h.bounds_le (Nat.le_refl _)

/-! ### Rows -/

/-- The arrays that an array of arrays holds, in order. -/
def inner (machine : Machine) (id : ObjectId) : List ObjectId :=
  (List.range ((machine.arrayLength? (some id)).getD 0).toNat).filterMap fun index : Nat =>
    (machine.element? (some id) .reference index).bind (·.object)

/-- The arrays some levels below an array, in order. -/
def row (machine : Machine) : (depth : Nat) → ObjectId → List ObjectId
  | 0, id => [id]
  | depth + 1, id => (machine.inner id).flatMap (machine.row depth)

theorem Branches.inner_eq {subtree : (low high : Nat) → ObjectId → Prop}
    (h : machine.Branches subtree outer table count high bounds child)
    (hlength : machine.arrayLength? (some outer) = some (count : Int)) :
    machine.inner outer = (List.range count).map child := by
  rw [inner, hlength, Option.getD_some, Int.toNat_natCast, ← List.filterMap_eq_map]
  apply List.filterMap_congr
  intro index hindex
  rw [h.slots index (List.mem_range.1 hindex)]
  rfl

theorem Branches.row_succ {subtree : (low high : Nat) → ObjectId → Prop}
    (h : machine.Branches subtree outer table count high bounds child)
    (hlength : machine.arrayLength? (some outer) = some (count : Int)) (depth : Nat) :
    machine.row (depth + 1) outer =
      (List.range count).flatMap fun index => machine.row depth (child index) := by
  rw [row, h.inner_eq hlength, List.flatMap_map]

/-- A row is the rows of all branches, one behind the other. -/
theorem Tree.row_succ (h : machine.Tree (level :: next :: levels) low high id) :
    ∃ bounds child, machine.Branches (machine.Tree (next :: levels)) id next.table level.length
        high bounds child ∧
      ∀ depth, machine.row (depth + 1) id =
        (List.range level.length).flatMap fun index => machine.row depth (child index) := by
  obtain ⟨bounds, child, hbranches⟩ := h.branches
  exact ⟨bounds, child, hbranches, hbranches.row_succ h.root.2.2.arrayLength?_eq⟩

theorem exists_of_mem_branches {depth : Nat} {name : ObjectId}
    (h : name ∈ (List.range count).flatMap fun index => machine.row depth (child index)) :
    ∃ index < count, name ∈ machine.row depth (child index) := by
  obtain ⟨index, hindex, hname⟩ := List.mem_flatMap.1 h
  exact ⟨index, List.mem_range.1 hindex, hname⟩

/-- Below an array of a row stands a tree of the levels from there on. -/
theorem Tree.of_mem_row (h : machine.Tree levels low high id) {depth : Nat}
    (hdepth : depth < levels.length) {name : ObjectId} (hname : name ∈ machine.row depth id) :
    ∃ low' high', low ≤ low' ∧ high' ≤ high ∧ machine.Tree (levels.drop depth) low' high' name := by
  induction depth generalizing levels low high id with
  | zero =>
    obtain rfl := List.mem_singleton.1 hname
    exact ⟨low, high, Nat.le_refl _, Nat.le_refl _, h⟩
  | succ depth ih =>
    rcases levels with _ | ⟨level, _ | ⟨next, levels⟩⟩
    · exact h.elim
    · exact absurd (Nat.lt_of_succ_lt_succ hdepth) (Nat.not_lt_zero _)
    · obtain ⟨bounds, child, hbranches, hrow⟩ := h.row_succ
      rw [hrow] at hname
      obtain ⟨index, hindex, hname⟩ := exists_of_mem_branches hname
      obtain ⟨low', high', hlow, hhigh, htree⟩ :=
        ih (hbranches.subtrees index hindex) (Nat.lt_of_succ_lt_succ hdepth) hname
      have hfirst := hbranches.mono (Nat.zero_le index) (Nat.le_of_lt hindex)
      have hlast := hbranches.mono (Nat.succ_le_of_lt hindex) (Nat.le_refl _)
      refine ⟨low', high', ?_, ?_, htree⟩
      · have hroot := Nat.le_trans h.within.1 (Nat.le_of_lt hbranches.lt_bounds)
        exact Nat.le_trans hroot (Nat.le_trans hfirst hlow)
      · exact Nat.le_trans hhigh (Nat.le_trans hlast hbranches.bounds_le)

theorem Tree.within_of_mem_row (h : machine.Tree levels low high id) {depth : Nat}
    (hdepth : depth < levels.length) {name : ObjectId} (hname : name ∈ machine.row depth id) :
    low ≤ name ∧ name < high := by
  obtain ⟨low', high', hlow, hhigh, htree⟩ := h.of_mem_row hdepth hname
  exact ⟨Nat.le_trans hlow htree.within.1, Nat.lt_of_lt_of_le htree.within.2 hhigh⟩

theorem Tree.length_row (h : machine.Tree levels low high id) {depth : Nat}
    (hdepth : depth < levels.length) :
    (machine.row depth id).length = ((levels.take depth).map (·.length)).prod := by
  induction depth generalizing levels low high id with
  | zero => rfl
  | succ depth ih =>
    rcases levels with _ | ⟨level, _ | ⟨next, levels⟩⟩
    · exact h.elim
    · exact absurd (Nat.lt_of_succ_lt_succ hdepth) (Nat.not_lt_zero _)
    · obtain ⟨bounds, child, hbranches, hrow⟩ := h.row_succ
      have hsame : ∀ index ∈ List.range level.length, (machine.row depth (child index)).length =
          (((next :: levels).take depth).map (·.length)).prod := by
        intro index hindex
        exact ih (hbranches.subtrees index (List.mem_range.1 hindex))
          (Nat.lt_of_succ_lt_succ hdepth)
      rw [hrow, List.length_flatMap, List.map_congr_left hsame, List.map_const',
        List.sum_replicate, List.length_range, List.take_succ_cons, List.map_cons, List.prod_cons]
      rfl

/-! ### No array stands in two places -/

theorem Branches.within_of_mem_row (h : machine.Branches (machine.Tree levels) outer table count
      high bounds child) {index depth : Nat} (hindex : index < count)
    (hdepth : depth < levels.length) {name : ObjectId}
    (hname : name ∈ machine.row depth (child index)) :
    bounds index ≤ name ∧ name < bounds (index + 1) :=
  (h.subtrees index hindex).within_of_mem_row hdepth hname

theorem Tree.nodup_row (h : machine.Tree levels low high id) {depth : Nat}
    (hdepth : depth < levels.length) : (machine.row depth id).Nodup := by
  induction depth generalizing levels low high id with
  | zero => exact List.nodup_singleton id
  | succ depth ih =>
    rcases levels with _ | ⟨level, _ | ⟨next, levels⟩⟩
    · exact h.elim
    · exact absurd (Nat.lt_of_succ_lt_succ hdepth) (Nat.not_lt_zero _)
    · obtain ⟨bounds, child, hbranches, hrow⟩ := h.row_succ
      have hbelow := Nat.lt_of_succ_lt_succ hdepth
      rw [hrow, List.nodup_flatMap]
      constructor
      · intro index hindex
        exact ih (hbranches.subtrees index (List.mem_range.1 hindex)) hbelow
      · refine List.pairwise_lt_range.imp_of_mem ?_
        intro index other hindex hother hlt name hname hname'
        rw [List.mem_range] at hindex hother
        have hwithin := hbranches.within_of_mem_row hindex hbelow hname
        have hwithin' := hbranches.within_of_mem_row hother hbelow hname'
        exact Nat.ne_of_lt hlt (hbranches.index_unique hindex hother hwithin hwithin')

theorem Tree.root_notMem_row (h : machine.Tree levels low high id) {depth : Nat}
    (hdepth : depth + 1 < levels.length) : id ∉ machine.row (depth + 1) id := by
  intro hname
  rcases levels with _ | ⟨level, _ | ⟨next, levels⟩⟩
  · exact h.elim
  · exact absurd (Nat.lt_of_succ_lt_succ hdepth) (Nat.not_lt_zero _)
  · obtain ⟨bounds, child, hbranches, hrow⟩ := h.row_succ
    rw [hrow] at hname
    obtain ⟨index, hindex, hname⟩ := exists_of_mem_branches hname
    have hwithin := hbranches.within_of_mem_row hindex (Nat.lt_of_succ_lt_succ hdepth) hname
    have hfirst := hbranches.mono (Nat.zero_le index) (Nat.le_of_lt hindex)
    exact Nat.lt_irrefl id (Nat.lt_of_lt_of_le hbranches.lt_bounds (Nat.le_trans hfirst hwithin.1))

/-- Rows of different depths have no array in common. -/
theorem Tree.depth_unique (h : machine.Tree levels low high id) {depth other : Nat}
    (hdepth : depth < levels.length) (hother : other < levels.length) {name : ObjectId}
    (hname : name ∈ machine.row depth id) (hname' : name ∈ machine.row other id) :
    depth = other := by
  induction depth generalizing other levels low high id with
  | zero =>
    obtain rfl := List.mem_singleton.1 hname
    cases other with
    | zero => rfl
    | succ other => exact absurd hname' (h.root_notMem_row hother)
  | succ depth ih =>
    cases other with
    | zero =>
      obtain rfl := List.mem_singleton.1 hname'
      exact absurd hname (h.root_notMem_row hdepth)
    | succ other =>
      rcases levels with _ | ⟨level, _ | ⟨next, levels⟩⟩
      · exact h.elim
      · exact absurd (Nat.lt_of_succ_lt_succ hdepth) (Nat.not_lt_zero _)
      · obtain ⟨bounds, child, hbranches, hrow⟩ := h.row_succ
        have hbelow := Nat.lt_of_succ_lt_succ hdepth
        have hbelow' := Nat.lt_of_succ_lt_succ hother
        rw [hrow] at hname hname'
        obtain ⟨index, hindex, hname⟩ := exists_of_mem_branches hname
        obtain ⟨index', hindex', hname'⟩ := exists_of_mem_branches hname'
        have hwithin := hbranches.within_of_mem_row hindex hbelow hname
        have hwithin' := hbranches.within_of_mem_row hindex' hbelow' hname'
        obtain rfl := hbranches.index_unique hindex hindex' hwithin hwithin'
        rw [ih (hbranches.subtrees index hindex) hbelow hbelow' hname hname']

/-- Row by row, no array of a tree comes twice. -/
theorem Tree.nodup_rows (h : machine.Tree levels low high id) :
    ((List.range levels.length).flatMap (machine.row · id)).Nodup := by
  rw [List.nodup_flatMap]
  constructor
  · intro depth hdepth
    exact h.nodup_row (List.mem_range.1 hdepth)
  · refine List.pairwise_lt_range.imp_of_mem ?_
    intro depth other hdepth hother hlt name hname hname'
    rw [List.mem_range] at hdepth hother
    exact Nat.ne_of_lt hlt (h.depth_unique hdepth hother hname hname')

/-! ### Elements -/

theorem HoldsArray.lt_length (h : machine.HoldsArray level id) {kind : Kind} {index : Nat}
    {value : kind.Value} (hvalue : machine.element? (some id) kind index = some value) :
    index < level.length := by
  obtain ⟨storage, hstorage, helement⟩ := Option.bind_eq_some_iff.1 hvalue
  obtain ⟨offset, hoffset, -⟩ := Option.map_eq_some_iff.1 helement
  obtain ⟨_, _, _, -, -, -, -, -, hlt, -⟩ := Storage.exists_of_elementOffset? hoffset
  have hlength := h.arrayLength?_eq
  unfold arrayLength? at hlength
  split at hlength
  · rw [hstorage, Option.map_some] at hlength
    rw [Option.some.inj hlength] at hlt
    exact Int.ofNat_lt.1 hlt
  · cases hlength

theorem mem_row_succ {depth : Nat} {name below : ObjectId} (hname : name ∈ machine.row depth id)
    (hbelow : below ∈ machine.inner name) : below ∈ machine.row (depth + 1) id := by
  induction depth generalizing id with
  | zero =>
    obtain rfl := List.mem_singleton.1 hname
    exact List.mem_flatMap.2 ⟨below, hbelow, List.mem_singleton.2 rfl⟩
  | succ depth ih =>
    obtain ⟨branch, hbranch, hname⟩ := List.mem_flatMap.1 hname
    exact List.mem_flatMap.2 ⟨branch, hbranch, ih hname⟩

theorem Tree.holdsArray_of_mem_row (h : machine.Tree levels low high id) {depth : Nat}
    (hdepth : depth < levels.length) {name : ObjectId} (hname : name ∈ machine.row depth id) :
    machine.HoldsArray levels[depth] name := by
  obtain ⟨low', high', -, -, htree⟩ := h.of_mem_row hdepth hname
  rw [List.drop_eq_getElem_cons hdepth] at htree
  exact htree.root.2.2

/-- Each element of the arrays of a row holds an array of the next one. -/
theorem Tree.slot_of_mem_row (h : machine.Tree levels low high id) {depth : Nat}
    (hdepth : depth + 1 < levels.length) (houter : outer ∈ machine.row depth id) {index : Nat}
    (hindex : index < levels[depth].length) :
    ∃ below ∈ machine.row (depth + 1) id, machine.element? (some outer) .reference index =
      some { table := some levels[depth + 1].table, object := some below } := by
  obtain ⟨low', high', -, -, htree⟩ := h.of_mem_row (Nat.lt_of_succ_lt hdepth) houter
  rw [List.drop_eq_getElem_cons (Nat.lt_of_succ_lt hdepth), List.drop_eq_getElem_cons hdepth]
    at htree
  obtain ⟨bounds, child, hbranches⟩ := htree.branches
  refine ⟨child index, mem_row_succ houter ?_, hbranches.slots index hindex⟩
  rw [hbranches.inner_eq htree.root.2.2.arrayLength?_eq]
  exact List.mem_map.2 ⟨index, List.mem_range.2 hindex, rfl⟩

theorem Tree.zeroed (h : machine.Tree levels low high id) {last : ArrayLevel}
    (hlast : levels.getLast? = some last) {name : ObjectId}
    (hname : name ∈ machine.row (levels.length - 1) id) {index : Nat}
    (hindex : index < last.length) :
    machine.element? (some name) last.kind index = some last.kind.zero := by
  obtain ⟨front, rfl⟩ := List.getLast?_eq_some_iff.1 hlast
  rw [List.length_append, List.length_singleton, Nat.add_sub_cancel] at hname
  have hdepth : front.length < (front ++ [last]).length := by
    rw [List.length_append]
    exact Nat.lt_succ_self _
  obtain ⟨low', high', -, -, htree⟩ := h.of_mem_row hdepth hname
  rw [List.drop_left] at htree
  exact htree.2.2.2 index hindex

theorem Tree.object_of_mem_row (h : machine.Tree levels low high id) {depth : Nat}
    (hdepth : depth + 1 < levels.length) (houter : outer ∈ machine.row depth id) {index : Nat}
    {slot : ReferenceSlot} (hslot : machine.element? (some outer) .reference index = some slot) :
    ∃ below ∈ machine.row (depth + 1) id, slot.object = some below := by
  have harray := h.holdsArray_of_mem_row (Nat.lt_of_succ_lt hdepth) houter
  obtain ⟨below, hmem, hread⟩ := h.slot_of_mem_row hdepth houter (harray.lt_length hslot)
  cases hslot.symm.trans hread
  exact ⟨below, hmem, rfl⟩

/-- No two elements of one array hold the same branch. -/
theorem Branches.slot_unique (h : machine.Branches (machine.Tree levels) outer table count high
    bounds child) {index index' : Nat} (hindex : index < count) (hindex' : index' < count)
    {slot slot' : ReferenceSlot}
    (hslot : machine.element? (some outer) .reference index = some slot)
    (hslot' : machine.element? (some outer) .reference index' = some slot')
    (hsame : slot.object = slot'.object) : index = index' := by
  rw [h.slots index hindex] at hslot
  rw [h.slots index' hindex'] at hslot'
  cases hslot
  cases hslot'
  have hchild : child index = child index' := Option.some.inj hsame
  have hwithin := (h.subtrees index hindex).within
  have hwithin' := (h.subtrees index' hindex').within
  rw [← hchild] at hwithin'
  exact h.index_unique hindex hindex' hwithin hwithin'

/-- Each of these elements holds an array of its own. -/
theorem Tree.slot_unique (h : machine.Tree levels low high id) {depth : Nat}
    (hdepth : depth + 1 < levels.length) {other : ObjectId}
    (houter : outer ∈ machine.row depth id) (hother : other ∈ machine.row depth id)
    {index index' : Nat} {slot slot' : ReferenceSlot}
    (hslot : machine.element? (some outer) .reference index = some slot)
    (hslot' : machine.element? (some other) .reference index' = some slot')
    (hsame : slot.object = slot'.object) : outer = other ∧ index = index' := by
  induction depth generalizing levels low high id with
  | zero =>
    obtain rfl := List.mem_singleton.1 houter
    obtain rfl := List.mem_singleton.1 hother
    rcases levels with _ | ⟨level, _ | ⟨next, levels⟩⟩
    · exact h.elim
    · exact absurd (Nat.lt_of_succ_lt_succ hdepth) (Nat.not_lt_zero _)
    · obtain ⟨bounds, child, hbranches⟩ := h.branches
      have hindex := h.root.2.2.lt_length hslot
      have hindex' := h.root.2.2.lt_length hslot'
      exact ⟨rfl, hbranches.slot_unique hindex hindex' hslot hslot' hsame⟩
  | succ depth ih =>
    rcases levels with _ | ⟨level, _ | ⟨next, levels⟩⟩
    · exact h.elim
    · exact absurd (Nat.lt_of_succ_lt_succ hdepth) (Nat.not_lt_zero _)
    · obtain ⟨bounds, child, hbranches, hrow⟩ := h.row_succ
      have hbelow := Nat.lt_of_succ_lt_succ hdepth
      rw [hrow] at houter hother
      obtain ⟨place, hplace, houter⟩ := exists_of_mem_branches houter
      obtain ⟨place', hplace', hother⟩ := exists_of_mem_branches hother
      have htree := hbranches.subtrees place hplace
      have htree' := hbranches.subtrees place' hplace'
      obtain ⟨below, hmem, hobject⟩ := htree.object_of_mem_row hbelow houter hslot
      obtain ⟨below', hmem', hobject'⟩ := htree'.object_of_mem_row hbelow hother hslot'
      rw [hobject, hobject'] at hsame
      cases hsame
      have hwithin := hbranches.within_of_mem_row hplace hbelow hmem
      have hwithin' := hbranches.within_of_mem_row hplace' hbelow hmem'
      obtain rfl := hbranches.index_unique hplace hplace' hwithin hwithin'
      exact ih htree hbelow houter hother

end Machine

end ManagedRuntime
