/-
  Arrays on twins
  ===============
  Twins build arrays alike (`Twins.newArray`).  Each of them may collect anywhere while the
  inner arrays are made, and the half-built outer array is then a root on both.

  A loop that fills an array is compared step by step.  On the first machine the
  invariant of the loop (`Machine.Filling`) says that the outer array is reached, so
  that the stores into it happen on both.
-/
import ManagedRuntime.Proofs.Machine.Twins

namespace ManagedRuntime

namespace Machine

variable {first second left right base mid mid' : Machine} {hard : Nat} {grip less : List Ref}
variable {outer inner : ObjectId} {roots : Roots}

/-! ### Frames -/

theorem Twins.withRoots (h : Twins hard grip first second)
    (hroots : first.heap.Rerooted (first.Holds grip) { first.heap with roots })
    (hless : ∀ ref ∈ less, first.Holds grip ref) :
    Twins hard less (first.withRoots roots) (second.withRoots roots) := by
  have hsecond : second.withRoots roots =
      { second with heap := { second.heap with roots, cells := first.heap.cells } } := by
    rw [← h.agree.cells_eq]
    rfl
  rw [hsecond]
  exact h.reroot hroots hless

/-- Frames are closed alike, whatever was left in them. -/
theorem InStep.inFrame {action : Action ObjectId}
    (h : InStep hard first second (action.run first) (action.run second))
    (hroots : second.heap.roots = first.heap.roots)
    (habove : first.heap.roots.Above (action.run first).2.heap.roots) :
    InStep hard first second ((Machine.inFrame action).run first)
      ((Machine.inFrame action).run second) := by
  have habove' : first.heap.roots.Above (action.run second).2.heap.roots := by
    rw [h.twins.agree.roots_eq]
    exact habove
  rw [run_inFrame, run_inFrame, openFrame, openFrame, Heap.openFrame, Heap.openFrame, hroots,
    run_closeFrame_of_above habove, run_closeFrame_of_above habove']
  have hclosed : (action.run first).2.heap.Rerooted
      ((action.run first).2.Holds (Heap.made (action.run first).1))
      { (action.run first).2.heap with roots := first.heap.roots } := by
    have hframe : (action.run first).2.heap.Rerooted
        ((action.run first).2.Holds (Heap.made (action.run first).1))
        ((action.run first).2.heap.closeFrame first.heap.roots.shadow.depth).2 :=
      Heap.rerooted_closeFrame first.heap.roots.shadow.depth
    rwa [Heap.closeFrame_of_above habove] at hframe
  refine ⟨h.result_eq, h.twins.withRoots hclosed holds_of_mem, ?_⟩
  intro hquiet
  obtain ⟨hfirst, hsecond⟩ := h.still hquiet
  dsimp only
  rw [hfirst, hsecond]
  refine ⟨rfl, ?_⟩
  rw [← hroots]
  rfl

/-! ### Arrays of all levels -/

theorem Twins.allocateFlat (h : Twins hard grip first second) (hhard : hard < wordLimit - 1)
    {level : ArrayLevel} (hlevel : level.classId < first.classes.size) :
    InStep hard first second ((allocateFlat level).run first)
      ((allocateFlat level).run second) := by
  rw [run_allocateFlat, run_allocateFlat]
  split
  · exact h.inStep_error _
  rename_i bytes hbytes
  apply h.allocateAs hhard
  · exact formed_arrayOf_zeroed hlevel _
  · exact blank_arrayOf_zeroed level _

theorem Twins.storeInner (h : Twins hard [some inner] first second)
    (houter : some outer ∈ first.heap.rootRefs) (index : Nat) (table : DispatchTable) :
    Twins hard [] (first.storeInner outer index table inner)
      (second.storeInner outer index table inner) := by
  have hreached : first.Reaches [some inner] outer := holds_of_mem_rootRefs houter outer rfl
  have hplace : second.elementOffset? (some outer) .reference index =
      first.elementOffset? (some outer) .reference index := by
    rw [elementOffset?, storage?, Option.bind_some, h.data?_eq hreached, h.classes_eq]
    rfl
  unfold Machine.storeInner
  rw [hplace]
  split
  · rename_i offset hoffset
    apply Twins.drop
    exact h.store hreached (isPlace_of_elementOffset? hoffset) (holds_of_mem _ (.head _))
  · exact h.drop

/-- An action makes an object without losing anything, and alike on twins, over given
    classes. -/
structure MakesAlike (hard : Nat) (classes : Hierarchy) (action : Action ObjectId) : Prop where
  makes : ∀ machine : Machine, machine.Sound → machine.classes = classes →
    machine.Makes (action.run machine).1 (action.run machine).2
  alike : ∀ first second : Machine, Twins hard [] first second → first.classes = classes →
    InStep hard first second (action.run first) (action.run second)

variable {makeInner : Action ObjectId}

theorem Twins.fill (h : Twins hard [] mid mid') (hfilling : base.Filling outer roots mid)
    (hbase : base.Sound) (houter : base.heap.store.issued ≤ outer)
    (hmake : MakesAlike hard base.classes makeInner) (table : DispatchTable) (count index : Nat) :
    ((Machine.fill outer table makeInner count index).run mid').1 =
        ((Machine.fill outer table makeInner count index).run mid).1 ∧
      Twins hard [] ((Machine.fill outer table makeInner count index).run mid).2
        ((Machine.fill outer table makeInner count index).run mid').2 := by
  -- The loop invariant of the first machine says that the array is a root, and twins agree on
  -- the roots, so the invariant is not needed for the second machine.
  induction count generalizing mid mid' index with
  | zero => exact ⟨rfl, h⟩
  | succ count ih =>
    have hmakes := hmake.makes mid hfilling.sound hfilling.classes_eq
    have hstep := hmake.alike mid mid' h hfilling.classes_eq
    rw [run_fill_succ, run_fill_succ]
    rcases hfirst : makeInner.run mid with ⟨result, left⟩
    rcases hsecond : makeInner.run mid' with ⟨result', right⟩
    rw [hfirst] at hmakes hstep
    rw [hsecond] at hstep
    obtain rfl : result' = result := hstep.result_eq
    rcases result' with error | inner
    · exact ⟨rfl, hstep.twins⟩
    have hmade : base.Filling outer roots left := hfilling.makes hmakes
    exact ih (hstep.twins.storeInner hmade.rooted index table)
      (hmade.storeInner hbase houter (hmakes.fresh inner rfl).2 index table) (index + 1)

/-- With the outer array pushed on both shadow stacks, filling can begin. -/
theorem Twins.pushed {array : ObjectId} {shadow : ShadowStack}
    (h : Twins hard [some array] first second)
    (hpush : first.heap.roots.shadow.push (.operand (some array)) = .ok shadow) :
    Twins hard [] (first.withRoots { first.heap.roots with shadow })
      (second.withRoots { second.heap.roots with shadow }) := by
  have hrerooted : first.heap.Rerooted (first.Holds [some array])
      (first.heap.pushOperand (some array)).2 :=
    Heap.rerooted_pushOperand (holds_of_mem _ (.head _))
  rw [Heap.pushOperand, hpush] at hrerooted
  rw [h.agree.roots_eq]
  apply h.withRoots hrerooted
  intro ref href
  cases href

/-- What a root holds may be taken in hand. -/
theorem Twins.grab (h : Twins hard [] first second) {array : ObjectId}
    (harray : some array ∈ first.heap.rootRefs) : Twins hard [some array] first second := by
  apply h.regrip
  intro ref href
  rw [List.mem_singleton.1 href]
  exact holds_of_mem_rootRefs harray

theorem Twins.pushAndFill {array : ObjectId} {made made' : Machine}
    (h : Twins hard [some array] made made') (hmakes : first.Makes (.ok array) made)
    (hfirst : first.Sound) (hmake : MakesAlike hard first.classes makeInner) {shadow : ShadowStack}
    (hpush : made.heap.roots.shadow.push (.operand (some array)) = .ok shadow)
    (table : DispatchTable) (count : Nat) :
    ((Machine.fill array table makeInner count 0).run
          (made'.withRoots { made'.heap.roots with shadow })).1 =
        ((Machine.fill array table makeInner count 0).run
          (made.withRoots { made.heap.roots with shadow })).1 ∧
      Twins hard [some array]
        ((Machine.fill array table makeInner count 0).run
          (made.withRoots { made.heap.roots with shadow })).2
        ((Machine.fill array table makeInner count 0).run
          (made'.withRoots { made'.heap.roots with shadow })).2 ∧
      first.heap.store.issued <
        ((Machine.fill array table makeInner count 0).run
          (made.withRoots { made.heap.roots with shadow })).2.heap.store.issued := by
  obtain ⟨hissued, -⟩ := hmakes.fresh array rfl
  have hfilling := hmakes.filling hpush
  have hfilled := hfilling.fill hfirst hissued hmake.makes table count 0
  obtain ⟨hresult, htwins⟩ := (h.pushed hpush).fill hfilling hfirst hissued hmake table count 0
  refine ⟨hresult, htwins.grab hfilled.rooted, ?_⟩
  have hlive := hfilled.sound.closed.roots _ hfilled.rooted array rfl
  exact Nat.lt_of_le_of_lt hissued (Store.lt_issued_of_isSome hlive)

theorem Twins.nested (h : Twins hard grip first second) (hhard : hard < wordLimit - 1)
    {level : ArrayLevel} (hlevel : level.classId < first.classes.size)
    (hmake : MakesAlike hard first.classes makeInner) (table : DispatchTable) :
    InStep hard first second ((nested level table makeInner).run first)
      ((nested level table makeInner).run second) := by
  have hstep := h.allocateFlat hhard hlevel
  have hmakes := h.sound.allocateFlat hlevel
  rw [run_nested, run_nested]
  rcases hfirst : (Machine.allocateFlat level).run first with ⟨result, made⟩
  rcases hsecond : (Machine.allocateFlat level).run second with ⟨result', made'⟩
  rw [hfirst] at hstep hmakes
  rw [hsecond] at hstep
  obtain rfl : result' = result := hstep.result_eq
  rcases result' with error | array
  · exact hstep
  -- There is one more object now, so something did happen.
  have hroots : made'.heap.roots = made.heap.roots := hstep.twins.agree.roots_eq
  dsimp only
  rw [run_pushOperand, run_pushOperand, hroots]
  rcases hpush : made.heap.roots.shadow.push (.operand (some array)) with error | shadow
  · refine ⟨rfl, hstep.twins.drop, ?_⟩
    intro hquiet
    exact absurd hquiet.1 (Nat.ne_of_gt hmakes.issued_lt)
  have hfilled := hstep.twins.pushAndFill hmakes h.sound hmake hpush table level.length
  dsimp only at hfilled ⊢
  rw [hroots] at hfilled
  rcases hfill : (Machine.fill array table makeInner level.length 0).run
    (made.withRoots { made.heap.roots with shadow }) with ⟨result, filled⟩
  rcases hfill' : (Machine.fill array table makeInner level.length 0).run
    (made'.withRoots { made.heap.roots with shadow }) with ⟨result', filled'⟩
  rw [hfill, hfill'] at hfilled
  obtain ⟨hresult, htwins, hnew⟩ := hfilled
  obtain rfl : result' = result := hresult
  have hstill : filled.heap.store.issued ≠ first.heap.store.issued := Nat.ne_of_gt hnew
  rcases result' with error | ⟨⟩
  · exact ⟨rfl, htwins.drop, fun hquiet => absurd hquiet.1 hstill⟩
  · exact ⟨rfl, htwins, fun hquiet => absurd hquiet.1 hstill⟩

/-- Arrays of any number of levels are made alike. -/
theorem makesAlike_allocateLevels (hhard : hard < wordLimit - 1) {classes : Hierarchy}
    {level : ArrayLevel} {levels : List ArrayLevel}
    (hlevels : ∀ each ∈ level :: levels, each.classId < classes.size) :
    MakesAlike hard classes (allocateLevels level levels) := by
  induction levels generalizing level with
  | nil =>
    have hlevel : level.classId < classes.size := hlevels level (.head _)
    constructor
    · rintro machine hmachine rfl
      exact hmachine.allocateFlat hlevel
    · rintro first second htwins rfl
      exact htwins.allocateFlat hhard hlevel
  | cons inner levels ih =>
    have hlevel : level.classId < classes.size := hlevels level (.head _)
    have hinner : MakesAlike hard classes (allocateLevels inner levels) :=
      ih fun each heach => hlevels each (.tail _ heach)
    rw [allocateLevels_cons]
    constructor
    · rintro machine hmachine rfl
      exact makes_inFrame (hmachine.nested hlevel hinner.makes inner.table)
    · rintro first second htwins rfl
      apply (htwins.nested hhard hlevel hinner inner.table).inFrame htwins.agree.roots_eq
      exact (htwins.sound.nested hlevel hinner.makes inner.table).above

/-! ### Arrays with their classes -/

/-- Which classes an array needs has nothing to do with the heap. -/
theorem innermostClass_withHeap (machine : Machine) (heap : Heap Storage) (kind : Kind)
    (element : Option ClassId) :
    { machine with heap }.innermostClass kind element =
      (machine.innermostClass kind element).map fun (array, prepared) =>
        (array, { prepared with heap }) := by
  unfold innermostClass
  cases kind with
  | primitive kind =>
    dsimp only
    cases machine.table.primitiveArray? kind with
    | none => rfl
    | some array => rfl
  | reference =>
    cases element with
    | none => rfl
    | some element => rfl

theorem surround_withHeap (machine : Machine) (heap : Heap Storage) (level : ArrayLevel)
    (inner : List ArrayLevel) (lengths : List Nat) :
    { machine with heap }.surround level inner lengths =
      ((machine.surround level inner lengths).1,
        { (machine.surround level inner lengths).2 with heap }) := by
  induction lengths generalizing machine level inner with
  | nil => rfl
  | cons length lengths ih =>
    exact ih (machine.arrayOf level.classId).2
      ((machine.arrayOf level.classId).2.level (machine.arrayOf level.classId).1 .reference length)
      (level :: inner)

theorem planArray_withHeap (machine : Machine) (heap : Heap Storage) (kind : Kind)
    (element : Option ClassId) (dimensions : List Int) :
    { machine with heap }.planArray kind element dimensions =
      (machine.planArray kind element dimensions).map fun (levels, planned) =>
        (levels, { planned with heap }) := by
  unfold planArray
  split
  · rfl
  · rfl
  · rw [innermostClass_withHeap]
    rcases machine.innermostClass kind element with error | ⟨innermost, prepared⟩
    · rfl
    · exact congrArg Except.ok (surround_withHeap prepared heap _ [] _)

/-- An action may as well add no classes. -/
theorem Twins.exists_classes (h : Twins hard grip first second)
    {left right : Except RuntimeError ObjectId × Machine}
    (hstep : InStep hard first second left right) :
    ∃ classes, classes.WellFormed ∧ first.classes.Extends classes ∧
      InStep hard (first.withClasses classes) (second.withClasses classes) left right := by
  have hsame : second.withClasses first.classes = second := by
    rw [← h.classes_eq]
    rfl
  refine ⟨first.classes, h.sound.wellFormed, .refl _, ?_⟩
  rw [hsame]
  exact hstep

/-- Twins make arrays alike, after the same new classes. -/
theorem Twins.newArray (h : Twins hard grip first second) (hhard : hard < wordLimit - 1)
    (kind : Kind) (element : Option ClassId) (dimensions : List Int) :
    ∃ classes, classes.WellFormed ∧ first.classes.Extends classes ∧
      InStep hard (first.withClasses classes) (second.withClasses classes)
        ((newArray kind element dimensions).run first)
        ((newArray kind element dimensions).run second) := by
  have hsecond : second = { first with heap := second.heap } := by
    rw [← h.classes_eq, ← h.table_eq]
  have hplan' := planArray_withHeap first second.heap kind element dimensions
  rw [← hsecond] at hplan'
  rw [run_newArray, run_newArray, hplan']
  rcases hplan : first.planArray kind element dimensions with
    error | ⟨⟨outermost, inner⟩, planned⟩
  · exact h.exists_classes (h.inStep_error error)
  obtain ⟨heq, hclasses, hgrown, hlevels⟩ := h.sound.planArray hplan
  refine ⟨planned.classes, hclasses, hgrown, ?_⟩
  have hplanned : { planned with heap := second.heap } = second.withClasses planned.classes := by
    rw [heq, hsecond]
    rfl
  have halike := (makesAlike_allocateLevels hhard hlevels).alike _ _
    (h.grow hclasses hgrown).drop rfl
  dsimp only [Except.map]
  rw [hplanned]
  rw [← heq] at halike ⊢
  exact halike

end Machine

end ManagedRuntime
