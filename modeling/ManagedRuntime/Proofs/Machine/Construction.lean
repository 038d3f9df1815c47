/-
  Arrays under construction
  =========================
  An array of several dimensions is built while collections happen.  `Machine.Filling` is
  the invariant of the loop that fills an outer array: the array is a root, and what was
  in use before the construction is kept.  Each inner array is made by the same
  procedure and stored at once, so nothing that was built is lost.

  Whatever happens inside, the frame of the construction is closed down to the depth at
  which it was opened (`Roots.Above`).
-/
import ManagedRuntime.Proofs.Heap.ShadowStack
import ManagedRuntime.Proofs.Machine.Soundness

namespace ManagedRuntime

/-! ### Frames -/

/-- Roots that differ from other ones in slots on top of the shadow stack only. -/
structure Roots.Above (base roots : Roots) : Prop where
  statics_eq : roots.statics = base.statics
  capacity_eq : roots.shadow.capacity = base.shadow.capacity
  slots_eq : ∃ pushed, roots.shadow.slots = pushed ++ base.shadow.slots

theorem Roots.Above.refl (roots : Roots) : roots.Above roots :=
  ⟨rfl, rfl, [], rfl⟩

theorem Roots.Above.push {base roots : Roots} {slot : RootSlot} {shadow : ShadowStack}
    (h : base.Above roots) (hpush : roots.shadow.push slot = .ok shadow) :
    base.Above { roots with shadow } := by
  obtain ⟨pushed, hslots⟩ := h.slots_eq
  refine ⟨h.statics_eq, ?_, slot :: pushed, ?_⟩
  · exact (ShadowStack.capacity_push hpush).trans h.capacity_eq
  · rw [ShadowStack.slots_of_push hpush, hslots, List.cons_append]

theorem Roots.Above.bottomUp_prefix {base roots : Roots} (h : base.Above roots) :
    base.shadow.bottomUp <+: roots.shadow.bottomUp := by
  obtain ⟨pushed, hslots⟩ := h.slots_eq
  rw [ShadowStack.bottomUp, ShadowStack.bottomUp, hslots, List.reverse_append]
  exact List.prefix_append ..

theorem Roots.above_of_prefix {base roots : Roots} (hstatics : roots.statics = base.statics)
    (hcapacity : roots.shadow.capacity = base.shadow.capacity)
    (hbelow : base.shadow.bottomUp <+: roots.shadow.bottomUp) : base.Above roots where
  statics_eq := hstatics
  capacity_eq := hcapacity
  slots_eq := by
    obtain ⟨pushed, hpushed⟩ := hbelow
    refine ⟨pushed.reverse, ?_⟩
    rw [← List.reverse_inj, List.reverse_append, List.reverse_reverse]
    exact hpushed.symm

/-- Closing a frame brings back the roots with which it was opened. -/
theorem Heap.closeFrame_of_above {α : Type} {heap : Heap α} {base : Roots}
    (h : base.Above heap.roots) :
    heap.closeFrame base.shadow.depth = (.ok (), { heap with roots := base }) := by
  have hclose := ShadowStack.closeFrame_of_prefix h.capacity_eq h.bottomUp_prefix
  have hroots : { heap.roots with shadow := base.shadow } = base :=
    congrArg (Roots.mk · base.shadow) h.statics_eq
  rw [Heap.closeFrame, hclose]
  change (Except.ok (), { heap with roots := { heap.roots with shadow := base.shadow } }) = _
  rw [hroots]

namespace Machine

variable {machine base before mid after : Machine} {classId : ClassId}
variable {result : Except RuntimeError ObjectId}

def withRoots (machine : Machine) (roots : Roots) : Machine :=
  { machine with heap := { machine.heap with roots } }

theorem run_closeFrame_of_above {roots : Roots} (h : roots.Above machine.heap.roots) :
    (closeFrame roots.shadow.depth).run machine = (.ok (), machine.withRoots roots) := by
  rw [closeFrame, run_onHeap, Heap.closeFrame_of_above h]
  rfl

theorem Sound.withRoots_of_above (h : machine.Sound) {roots : Roots}
    (habove : roots.Above machine.heap.roots) : (machine.withRoots roots).Sound := by
  have hclosed := h.reroot (Heap.rerooted_closeFrame roots.shadow.depth)
  rwa [Heap.closeFrame_of_above habove] at hclosed

theorem run_inFrame {β : Type} (action : Action β) (machine : Machine) :
    (inFrame action).run machine =
      match (closeFrame machine.openFrame).run (action.run machine).2 with
      | (.ok (), closed) => ((action.run machine).1, closed)
      | (.error error, closed) => (.error error, closed) :=
  rfl

/-- How the part of a construction inside a frame comes out: slots may be left on the
    shadow stack. -/
structure MakesAbove (before : Machine) (result : Except RuntimeError ObjectId)
    (after : Machine) : Prop extends before.Advances after where
  above : before.heap.roots.Above after.heap.roots
  fresh : ∀ id, result = .ok id → before.heap.store.issued ≤ id ∧ (after.heap.get? id).isSome

theorem Makes.makesAbove (h : before.Makes result after) : before.MakesAbove result after :=
  { h.toAdvances with
    above := by
      rw [h.roots_eq]
      exact .refl _
    fresh := h.fresh }

/-- The frame of an action is closed however the action came out. -/
theorem run_inFrame_of_above {action : Action ObjectId}
    (h : machine.MakesAbove (action.run machine).1 (action.run machine).2) :
    (inFrame action).run machine =
      ((action.run machine).1, (action.run machine).2.withRoots machine.heap.roots) := by
  rw [run_inFrame, openFrame, Heap.openFrame, run_closeFrame_of_above h.above]

theorem makes_inFrame {action : Action ObjectId}
    (h : machine.MakesAbove (action.run machine).1 (action.run machine).2) :
    machine.Makes ((inFrame action).run machine).1 ((inFrame action).run machine).2 := by
  rw [run_inFrame_of_above h]
  have hkeeps : machine.heap.Keeps machine.classes.objectModel
      ((action.run machine).2.withRoots machine.heap.roots).heap := by
    refine Heap.Keeps.reroot h.keeps ?_ ?_
    · rfl
    · intro ref href
      rw [Heap.rootRefs] at href ⊢
      rwa [← h.cells_eq] at href
  exact {
    sound := h.sound.withRoots_of_above h.above
    classes_eq := h.classes_eq
    table_eq := h.table_eq
    cells_eq := h.cells_eq
    keeps := hkeeps
    roots_eq := rfl
    fresh := h.fresh }

/-! ### Arrays of one level -/

theorem run_allocateFlat (level : ArrayLevel) (machine : Machine) :
    (allocateFlat level).run machine =
      match level.bytes? with
      | none => (.error (.allocation .tooBig), machine)
      | some bytes => (allocateAs bytes fun storage =>
          (storage.setClass level.classId).setLength level.length).run machine := by
  rw [allocateFlat]
  cases level.bytes? with
  | none => rfl
  | some bytes => rfl

theorem bytes?_eq {level : ArrayLevel} {bytes : Nat} (h : level.bytes? = some bytes) :
    bytes = level.length * level.kind.size + level.kind.elementsOffset := by
  obtain ⟨elements, helements, hbytes⟩ := Option.bind_eq_some_iff.1 h
  obtain ⟨-, rfl⟩ := mulWord?_eq_some_iff.1 helements
  exact (addWord?_eq_some_iff.1 hbytes).2

theorem formed_arrayOf_zeroed {classes : Hierarchy} {level : ArrayLevel}
    (hlevel : level.classId < classes.size) (size : Nat) :
    (((Storage.zeroed size).setClass level.classId).setLength level.length).Formed classes :=
  ((Storage.formed_zeroed classes size).setClass hlevel).setLength level.length

theorem blank_arrayOf_zeroed (level : ArrayLevel) (size offset : Nat) :
    (((Storage.zeroed size).setClass level.classId).setLength level.length).refAt offset = none :=
  Storage.blank_setLength (Storage.blank_setClass (Storage.refAt_zeroed size) level.classId)
    level.length offset

theorem Sound.allocateFlat (h : machine.Sound) {level : ArrayLevel}
    (hlevel : level.classId < machine.classes.size) :
    machine.Makes ((allocateFlat level).run machine).1 ((allocateFlat level).run machine).2 := by
  rw [run_allocateFlat]
  split
  · exact makes_error h _
  rename_i bytes hbytes
  apply h.allocateAs
  · exact formed_arrayOf_zeroed hlevel _
  · exact blank_arrayOf_zeroed level _

/-! ### Filling an array -/

/-- The invariant while the array `outer` is filled: it is a root, the roots stay `roots`,
    and what was in use in the machine `base` is kept. -/
structure Filling (base : Machine) (outer : ObjectId) (roots : Roots)
    (machine : Machine) : Prop extends base.Advances machine where
  roots_eq : machine.heap.roots = roots
  rooted : some outer ∈ machine.heap.rootRefs

variable {outer : ObjectId} {roots : Roots}

theorem Makes.rootRefs_eq (h : before.Makes result after) :
    after.heap.rootRefs = before.heap.rootRefs := by
  rw [Heap.rootRefs, h.roots_eq, h.cells_eq, Heap.rootRefs]

/-- Making an inner array breaks nothing, also where it fails. -/
theorem Filling.makes (h : base.Filling outer roots mid) (hmakes : mid.Makes result after) :
    base.Filling outer roots after where
  toAdvances := h.toAdvances.trans hmakes.toAdvances
  roots_eq := hmakes.roots_eq.trans h.roots_eq
  rooted := by
    rw [hmakes.rootRefs_eq]
    exact h.rooted

/-- Storing the inner array breaks nothing: it is an object, and the outer array was not
    in use before. -/
theorem Filling.storeInner (h : base.Filling outer roots mid) (hbase : base.Sound)
    (houter : base.heap.store.issued ≤ outer) {inner : ObjectId}
    (hinner : (mid.heap.get? inner).isSome) (index : Nat) (table : DispatchTable) :
    base.Filling outer roots (mid.storeInner outer index table inner) := by
  unfold Machine.storeInner
  split
  · rename_i offset hoffset
    have hstored : (mid.updateStorage outer
        (·.write .reference offset { table := some table, object := some inner })).Sound :=
      h.sound.store (isPlace_of_elementOffset? hoffset) (Heap.admits_some_iff.2 hinner)
    exact {
      toAdvances := h.toAdvances.updateStorage houter hbase hstored
      roots_eq := h.roots_eq
      rooted := h.rooted }
  · exact h

theorem run_fill_succ (outer : ObjectId) (table : DispatchTable) (makeInner : Action ObjectId)
    (count index : Nat) (machine : Machine) :
    (fill outer table makeInner (count + 1) index).run machine =
      match makeInner.run machine with
      | (.ok inner, after) =>
        (fill outer table makeInner count (index + 1)).run
          (after.storeInner outer index table inner)
      | (.error error, after) => (.error error, after) := by
  rw [fill, Action.run_bind]
  rcases makeInner.run machine with ⟨error | inner, after⟩
  · rfl
  · rfl

theorem Filling.fill (hbase : base.Sound) (houter : base.heap.store.issued ≤ outer)
    {makeInner : Action ObjectId}
    (hmake : ∀ machine : Machine, machine.Sound → machine.classes = base.classes →
      machine.Makes (makeInner.run machine).1 (makeInner.run machine).2)
    (table : DispatchTable) (count index : Nat) (h : base.Filling outer roots mid) :
    base.Filling outer roots ((Machine.fill outer table makeInner count index).run mid).2 := by
  induction count generalizing mid index with
  | zero => exact h
  | succ count ih =>
    have hmakes := hmake mid h.sound h.classes_eq
    rw [run_fill_succ]
    split
    · rename_i inner after hinner
      rw [hinner] at hmakes
      exact ih _ ((h.makes hmakes).storeInner hbase houter (hmakes.fresh inner rfl).2 index table)
    · rename_i error after hinner
      rw [hinner] at hmakes
      exact h.makes hmakes

/-! ### Arrays of all levels -/

theorem run_pushOperand (ref : Ref) (machine : Machine) :
    (pushOperand ref).run machine =
      match machine.heap.roots.shadow.push (.operand ref) with
      | .ok shadow => (.ok (), machine.withRoots { machine.heap.roots with shadow })
      | .error error => (.error (.root error), machine) := by
  rw [pushOperand, run_onHeap, Heap.pushOperand]
  rcases machine.heap.roots.shadow.push (.operand ref) with error | shadow
  · rfl
  · rfl

/-- With a new array on the shadow stack, filling can begin. -/
theorem Makes.filling {shadow : ShadowStack} (h : before.Makes (.ok outer) mid)
    (hpush : mid.heap.roots.shadow.push (.operand (some outer)) = .ok shadow) :
    before.Filling outer { mid.heap.roots with shadow }
      (mid.withRoots { mid.heap.roots with shadow }) := by
  have hslots := ShadowStack.slots_of_push hpush
  have hrerooted : mid.heap.Rerooted mid.heap.Admits (mid.heap.pushOperand (some outer)).2 :=
    Heap.rerooted_pushOperand (Heap.admits_some_iff.2 (h.fresh outer rfl).2)
  rw [Heap.pushOperand, hpush] at hrerooted
  have hkeeps : before.heap.Keeps before.classes.objectModel
      (mid.withRoots { mid.heap.roots with shadow }).heap := by
    refine Heap.Keeps.reroot h.keeps rfl ?_
    intro ref href
    rw [← h.rootRefs_eq, Heap.mem_rootRefs_iff] at href
    rw [Heap.mem_rootRefs_iff]
    rcases href with hstatic | ⟨slot, hslot, hcurrent⟩
    · exact .inl hstatic
    · refine .inr ⟨slot, ?_, hcurrent⟩
      change slot ∈ shadow.slots
      rw [hslots]
      exact .tail _ hslot
  have hrooted : some outer ∈ (mid.withRoots { mid.heap.roots with shadow }).heap.rootRefs := by
    rw [Heap.mem_rootRefs_iff]
    refine .inr ⟨.operand (some outer), ?_, rfl⟩
    change _ ∈ shadow.slots
    rw [hslots]
    exact .head _
  exact {
    sound := h.sound.reroot hrerooted
    classes_eq := h.classes_eq
    table_eq := h.table_eq
    cells_eq := h.cells_eq
    keeps := hkeeps
    roots_eq := rfl
    rooted := hrooted }

/-- The part of the construction of an array of arrays that happens in a frame. -/
def nested (level : ArrayLevel) (table : DispatchTable) (makeInner : Action ObjectId) :
    Action ObjectId := do
  let array ← Machine.allocateFlat level
  pushOperand (some array)
  Machine.fill array table makeInner level.length 0
  return array

theorem allocateLevels_cons (level inner : ArrayLevel) (levels : List ArrayLevel) :
    allocateLevels level (inner :: levels) =
      inFrame (nested level inner.table (allocateLevels inner levels)) :=
  rfl

theorem run_nested (level : ArrayLevel) (table : DispatchTable) (makeInner : Action ObjectId)
    (machine : Machine) :
    (nested level table makeInner).run machine =
      match (Machine.allocateFlat level).run machine with
      | (.error error, made) => (.error error, made)
      | (.ok array, made) =>
        match (pushOperand (some array)).run made with
        | (.error error, pushed) => (.error error, pushed)
        | (.ok (), pushed) =>
          match (Machine.fill array table makeInner level.length 0).run pushed with
          | (.error error, filled) => (.error error, filled)
          | (.ok (), filled) => (.ok array, filled) := by
  rw [nested, Action.run_bind]
  rcases (Machine.allocateFlat level).run machine with ⟨error | array, made⟩
  · rfl
  dsimp only
  rw [Action.run_bind]
  rcases (pushOperand (some array)).run made with ⟨error | ⟨⟩, pushed⟩
  · rfl
  dsimp only
  rw [Action.run_bind]
  rcases (Machine.fill array table makeInner level.length 0).run pushed with
    ⟨error | ⟨⟩, filled⟩
  · rfl
  · rfl

theorem Sound.nested (h : machine.Sound) {level : ArrayLevel}
    (hlevel : level.classId < machine.classes.size) {makeInner : Action ObjectId}
    (hmake : ∀ mid : Machine, mid.Sound → mid.classes = machine.classes →
      mid.Makes (makeInner.run mid).1 (makeInner.run mid).2) (table : DispatchTable) :
    machine.MakesAbove ((nested level table makeInner).run machine).1
      ((nested level table makeInner).run machine).2 := by
  have hmakes := h.allocateFlat hlevel
  rw [run_nested]
  rcases hflat : (Machine.allocateFlat level).run machine with ⟨error | array, made⟩
  · rw [hflat] at hmakes
    exact hmakes.makesAbove
  rw [hflat] at hmakes
  obtain ⟨hissued, hlive⟩ := hmakes.fresh array rfl
  dsimp only
  rw [run_pushOperand]
  rcases hpush : made.heap.roots.shadow.push (.operand (some array)) with error | shadow
  · exact { hmakes.makesAbove with fresh := nofun }
  dsimp only
  have hfilled := (hmakes.filling hpush).fill h hissued hmake table level.length 0
  have habove : machine.heap.roots.Above { made.heap.roots with shadow } := by
    apply Roots.Above.push _ hpush
    rw [hmakes.roots_eq]
    exact .refl _
  rcases hfill : (Machine.fill array table makeInner level.length 0).run
      (made.withRoots { made.heap.roots with shadow }) with ⟨error | ⟨⟩, filled⟩
  · rw [hfill] at hfilled
    exact { hfilled.toAdvances with
      above := by
        rw [hfilled.roots_eq]
        exact habove
      fresh := nofun }
  · rw [hfill] at hfilled
    exact { hfilled.toAdvances with
      above := by
        rw [hfilled.roots_eq]
        exact habove
      fresh := by
        rintro id ⟨⟩
        exact ⟨hissued, hfilled.sound.closed.roots _ hfilled.rooted _ rfl⟩ }

/-- An array of any number of levels is made without losing anything. -/
theorem Sound.allocateLevels (h : machine.Sound) {level : ArrayLevel} {levels : List ArrayLevel}
    (hlevels : ∀ each ∈ level :: levels, each.classId < machine.classes.size) :
    machine.Makes ((allocateLevels level levels).run machine).1
      ((allocateLevels level levels).run machine).2 := by
  induction levels generalizing level machine with
  | nil => exact h.allocateFlat (hlevels level (.head _))
  | cons inner levels ih =>
    rw [allocateLevels_cons]
    apply makes_inFrame
    apply h.nested (hlevels level (.head _))
    intro mid hmid hclasses
    apply ih hmid
    intro each heach
    rw [hclasses]
    exact hlevels each (.tail _ heach)

/-! ### The classes of an array -/

def withClasses (machine : Machine) (classes : Hierarchy) : Machine :=
  { machine with classes }

/-- Only classes were added, and `classId` is among those that exist now. -/
structure Prepares (before : Machine) (classId : ClassId) (after : Machine) : Prop where
  eq : after = before.withClasses after.classes
  grows : before.classes.Grows classId after.classes

theorem Prepares.sound (h : before.Prepares classId after) (hbefore : before.Sound) :
    after.Sound := by
  rw [h.eq]
  exact hbefore.grow h.grows.wellFormed h.grows.grown

theorem Sound.arrayOf (h : machine.Sound) (element : ClassId) :
    machine.Prepares (machine.arrayOf element).1 (machine.arrayOf element).2 :=
  ⟨rfl, h.wellFormed.arrayOf h.rootClass_lt element⟩

theorem Sound.innermostClass (h : machine.Sound) {kind : Kind} {element : Option ClassId}
    (hclass : machine.innermostClass kind element = .ok (classId, after)) :
    machine.Prepares classId after := by
  unfold Machine.innermostClass at hclass
  split at hclass
  · rename_i primitive
    split at hclass
    · rename_i array harray
      cases hclass
      exact ⟨rfl, h.wellFormed, .refl _, h.arrays_lt _ (List.mem_of_getElem? harray)⟩
    · cases hclass
  · rename_i element
    have harray := h.arrayOf element
    cases hclass
    exact harray
  · cases hclass

/-- The levels that are put around an array have classes, and only classes are added. -/
theorem Sound.surround (h : machine.Sound) {level : ArrayLevel} {inner : List ArrayLevel}
    (hlevels : ∀ each ∈ level :: inner, each.classId < machine.classes.size)
    (lengths : List Nat) :
    (machine.surround level inner lengths).2 =
        machine.withClasses (machine.surround level inner lengths).2.classes ∧
      (machine.surround level inner lengths).2.classes.WellFormed ∧
      machine.classes.Extends (machine.surround level inner lengths).2.classes ∧
      ∀ each ∈ (machine.surround level inner lengths).1.1 ::
          (machine.surround level inner lengths).1.2,
        each.classId < (machine.surround level inner lengths).2.classes.size := by
  induction lengths generalizing machine level inner with
  | nil => exact ⟨rfl, h.wellFormed, .refl _, hlevels⟩
  | cons length lengths ih =>
    have hprepares := h.arrayOf level.classId
    have hgrow : ∀ each ∈ (machine.arrayOf level.classId).2.level
        (machine.arrayOf level.classId).1 .reference length :: level :: inner,
        each.classId < (machine.arrayOf level.classId).2.classes.size := by
      intro each heach
      rcases List.mem_cons.1 heach with rfl | heach
      · exact hprepares.grows.lt_size
      · exact Nat.lt_of_lt_of_le (hlevels each heach) hprepares.grows.grown.size_le
    obtain ⟨heq, hclasses, hgrown, houter⟩ := ih (hprepares.sound h) hgrow
    refine ⟨?_, hclasses, hprepares.grows.grown.trans hgrown, houter⟩
    exact heq

/-- The levels of an array and the classes with which they are made. -/
def planArray (machine : Machine) (kind : Kind) (element : Option ClassId)
    (dimensions : List Int) : Except RuntimeError ((ArrayLevel × List ArrayLevel) × Machine) :=
  match dimensions.find? (· < 0), (dimensions.map (·.toNat)).reverse with
  | _, [] => .error .noDimensions
  | some length, _ => .error (.negativeDimension length)
  | none, length :: lengths =>
    match machine.innermostClass kind element with
    | .error error => .error error
    | .ok (innermost, prepared) =>
      .ok (prepared.surround (prepared.level innermost kind length) [] lengths)

theorem run_newArray (kind : Kind) (element : Option ClassId) (dimensions : List Int)
    (machine : Machine) :
    (newArray kind element dimensions).run machine =
      match machine.planArray kind element dimensions with
      | .error error => (.error error, machine)
      | .ok ((outermost, inner), planned) =>
        (Machine.allocateLevels outermost inner).run planned := by
  unfold newArray planArray
  generalize dimensions.find? (· < 0) = negative
  generalize (dimensions.map (·.toNat)).reverse = counts
  rcases counts with _ | ⟨length, lengths⟩
  · cases negative with
    | none => rfl
    | some found => rfl
  · cases negative with
    | some found => rfl
    | none =>
      dsimp only
      rw [Action.run_bind, Action.run_get]
      dsimp only
      rcases machine.innermostClass kind element with error | ⟨innermost, prepared⟩
      · rfl
      · rfl

theorem Sound.planArray (h : machine.Sound) {kind : Kind} {element : Option ClassId}
    {dimensions : List Int} {outermost : ArrayLevel} {inner : List ArrayLevel} {planned : Machine}
    (hplan : machine.planArray kind element dimensions = .ok ((outermost, inner), planned)) :
    planned = machine.withClasses planned.classes ∧ planned.classes.WellFormed ∧
      machine.classes.Extends planned.classes ∧
      ∀ each ∈ outermost :: inner, each.classId < planned.classes.size := by
  unfold Machine.planArray at hplan
  split at hplan
  · cases hplan
  · cases hplan
  rename_i length lengths _ _
  rcases hinnermost : machine.innermostClass kind element with error | ⟨innermost, prepared⟩
  · rw [hinnermost] at hplan
    cases hplan
  rw [hinnermost] at hplan
  have hprepares := h.innermostClass hinnermost
  have hlevel : ∀ each ∈ [prepared.level innermost kind length],
      each.classId < prepared.classes.size := by
    intro each heach
    rcases List.mem_singleton.1 heach with rfl
    exact hprepares.grows.lt_size
  have hsurround := (hprepares.sound h).surround hlevel lengths
  have hresult : prepared.surround (prepared.level innermost kind length) [] lengths =
      ((outermost, inner), planned) := Except.ok.inj hplan
  rw [hresult] at hsurround
  obtain ⟨heq, hclasses, hgrown, hlevels⟩ := hsurround
  refine ⟨?_, hclasses, hprepares.grows.grown.trans hgrown, hlevels⟩
  rw [show planned = _ from heq, hprepares.eq]
  rfl

/-- A new array is made after its classes; nothing else happens to the machine. -/
theorem Sound.newArray (h : machine.Sound) (kind : Kind) (element : Option ClassId)
    (dimensions : List Int) :
    ∃ classes, classes.WellFormed ∧ machine.classes.Extends classes ∧
      (machine.withClasses classes).Makes ((newArray kind element dimensions).run machine).1
        ((newArray kind element dimensions).run machine).2 := by
  rw [run_newArray]
  rcases hplan : machine.planArray kind element dimensions with
    error | ⟨⟨outermost, inner⟩, planned⟩
  · exact ⟨machine.classes, h.wellFormed, .refl _, makes_error h error⟩
  obtain ⟨heq, hclasses, hgrown, hlevels⟩ := h.planArray hplan
  refine ⟨planned.classes, hclasses, hgrown, ?_⟩
  have hplanned : planned.Sound := by
    rw [heq]
    exact h.grow hclasses hgrown
  rw [← heq]
  exact hplanned.allocateLevels hlevels

end Machine

end ManagedRuntime
