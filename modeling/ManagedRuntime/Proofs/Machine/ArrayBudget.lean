/-
  When an array construction succeeds
  ===================================
  A construction succeeds exactly where what the roots reach and all its arrays fit under the hard
  limit together, and the shadow stack has room for the arrays that are filled at once
  (`Machine.newArray_succeeds_iff`).

  Each array is allocated with the arrays before it reachable and nothing else of the construction.
  So at any moment the machine bears what it bore before and the arrays that are made
  (`Machine.Bearing`), however often it was collected on the way.
-/
import ManagedRuntime.Proofs.Machine.ArrayCosts
import ManagedRuntime.Proofs.Machine.FailedArrays
import ManagedRuntime.Proofs.Machine.HeapSteps

namespace ManagedRuntime

namespace Machine

variable {machine base before mid after left : Machine} {id outer inner : ObjectId}
variable {level next : ArrayLevel} {levels : List ArrayLevel} {classes : Hierarchy}
variable {hard index count spent bytes slots : Nat} {roots : Roots} {table : DispatchTable}
variable {kind : Kind} {element : Option ClassId} {dimensions : List Int} {planned : Machine}

/-! ### Storing an inner array -/

/-- An array of references refers to what its elements do. -/
theorem HoldsArray.mem_edges_iff (h : machine.HoldsArray level outer)
    (hsuits : level.Suits machine.classes) (hkind : level.kind = .reference) :
    some inner ∈ machine.heap.edges machine.classes.objectModel outer ↔
      ∃ index : Nat, index < level.length ∧ ∃ slot,
        machine.element? (some outer) .reference index = some slot ∧ slot.object = some inner := by
  obtain ⟨storage, hdata, hclass, -, hlength⟩ := h.exists_storage
  obtain ⟨object, hget, rfl⟩ := exists_of_data? hdata
  obtain ⟨type, hshape, htype⟩ := hsuits
  obtain ⟨cls, hcls, harray⟩ := Option.map_eq_some_iff.1 hshape
  rw [hkind] at htype
  obtain ⟨element, rfl⟩ : ∃ element, type = .references element := by
    cases type with
    | primitive kind => cases htype
    | references element => exact ⟨element, rfl⟩
  have hrefs := Storage.refs_of_references hclass
    (Hierarchy.elementClass?_of_shape hcls harray)
  have hmem : some inner ∈ object.data.refs machine.classes ↔
      some (some inner) ∈ (object.data.refs machine.classes).map some := by simp
  rw [Heap.edges_of_get? hget]
  change some inner ∈ object.data.refs machine.classes ↔ _
  rw [hmem, hrefs, hlength]
  simp [element?_eq hdata, Option.map_eq_some_iff]

/-- An inner array that is stored into an empty element of a root is held by the root. -/
theorem HoldsArray.load_storeInner (h : machine.HoldsArray level outer)
    (hconsistent : machine.heap.Consistent) (hrooted : some outer ∈ machine.heap.rootRefs)
    (hsuits : level.Suits machine.classes) (hkind : level.kind = .reference)
    (hindex : index < level.length)
    (hempty : machine.element? (some outer) .reference index = some .null)
    (table : DispatchTable) (inner : ObjectId) :
    (machine.storeInner outer index table inner).load [] = machine.load [some inner] := by
  obtain ⟨harray, hslot, hothers⟩ := h.storeInner hsuits hkind hindex table inner
  obtain ⟨storage, offset, -, -, hstore⟩ : ∃ storage offset, _ ∧ _ ∧
      machine.storeInner outer index table inner = _ := h.exists_place hsuits hkind hindex
  rw [hstore] at harray hslot hothers ⊢
  rw [load, load, List.append_nil]
  apply Heap.weight_modifyData hconsistent hrooted
  intro next
  refine (harray.mem_edges_iff hsuits hkind).trans ?_
  refine Iff.trans ?_ (or_congr (h.mem_edges_iff hsuits hkind).symm .rfl)
  constructor
  · rintro ⟨other, hother, slot, hget, hnext⟩
    by_cases hsame : other = index
    · subst hsame
      obtain rfl := Option.some.inj (hslot.symm.trans hget)
      exact .inr (Option.some.inj hnext).symm
    · rw [hothers other hsame] at hget
      exact .inl ⟨other, hother, slot, hget, hnext⟩
  · rintro (⟨other, hother, slot, hget, hnext⟩ | rfl)
    · -- the store takes no reference away
      have hne : other ≠ index := by
        rintro rfl
        obtain rfl := Option.some.inj (hempty.symm.trans hget)
        cases hnext
      exact ⟨other, hother, slot, (hothers other hne).trans hget, hnext⟩
    · exact ⟨index, hindex, _, hslot, rfl⟩

/-! ### Slots of the shadow stack -/

/-- An operand on top of the shadow stack counts like a reference at hand. -/
theorem load_withRoots (h : machine.heap.Consistent) {shadow : ShadowStack}
    (hpush : roots.shadow.push (.operand (some id)) = .ok shadow)
    (hroots : machine.heap.roots = { roots with shadow }) :
    (machine.withRoots roots).load [some id] = machine.load [] := by
  have hslots := ShadowStack.slots_of_push hpush
  apply Heap.weight_congr_refs h
  intro start
  rw [List.mem_append, List.append_nil, Heap.mem_rootRefs_iff, Heap.mem_rootRefs_iff, hroots]
  change ((_ ∨ ∃ slot ∈ roots.shadow.slots, _) ∨ _) ↔ _ ∨ ∃ slot ∈ shadow.slots, _
  rw [hslots, List.mem_singleton]
  simp only [List.mem_cons, exists_eq_or_imp, RootSlot.current]
  constructor
  · rintro ((hstatic | hslot) | hid)
    · exact .inl hstatic
    · exact .inr (.inr hslot)
    · exact .inr (.inl hid.symm)
  · rintro (hstatic | hid | hslot)
    · exact .inl (.inl hstatic)
    · exact .inr hid.symm
    · exact .inl (.inr hslot)

/-! ### Filling an array -/

/-- An action that makes arrays of so many bytes in all and needs so many slots, in whatever
    machine it runs. -/
def Priced (hard : Nat) (classes : Hierarchy) (bytes slots : Nat) (make : Action ObjectId) :
    Prop :=
  ∀ machine : Machine, machine.Solvent hard classes →
    machine.Settles hard bytes slots (make.run machine).1 (make.run machine).2

/-- The invariant while `outer` is filled: the machine bears `spent` bytes, and the elements from
    `index` on are still empty. -/
structure Bearing (base : Machine) (hard : Nat) (outer : ObjectId) (roots : Roots)
    (level : ArrayLevel) (index spent : Nat) (machine : Machine) : Prop
    extends base.Filling outer roots machine, machine.Solvent hard base.classes where
  holdsArray : machine.HoldsArray level outer
  empty : ∀ other : Nat, index ≤ other → other < level.length →
    machine.element? (some outer) .reference other = some .null
  load_eq : machine.load [] = spent

theorem Solvent.load_le (h : machine.Solvent hard classes) : machine.load [] ≤ hard := by
  rw [load_nil]
  exact Nat.le_trans (Heap.bytesInUse_le_used _ h.sound.consistent) h.books.used_le

/-- The books depend neither on what arrays hold nor on the roots. -/
theorem survivesFilling_books (hard : Nat) :
    SurvivesFilling fun machine => machine.heap.Steady hard := by
  apply survivesFilling_of_roots
  · exact fun machine h roots => h.reroot roots machine.heap.cells
  · intro machine h outer index table inner
    unfold storeInner
    split
    · exact h.modifyData outer _
    · exact h

theorem books_allocateLevels (hhard : hard < wordLimit - 1) (level : ArrayLevel)
    (levels : List ArrayLevel) :
    Action.Preserves (fun machine => machine.heap.Steady hard) (allocateLevels level levels) :=
  (survivesFilling_books hard).preserves_allocateLevels fun each _ => books_allocateFlat hhard each

section Filling

variable (hbase : base.Sound) (houter : base.heap.store.issued ≤ outer)
  (hsuits : level.Suits base.classes) (hkind : level.kind = .reference)
include hbase houter hsuits hkind

/-- One more element, and so many bytes more to bear. -/
theorem Bearing.snoc (h : base.Bearing hard outer roots level index spent mid)
    (hindex : index < level.length) (hsettles : mid.Settles hard bytes slots (.ok inner) after)
    (table : DispatchTable) :
    base.Bearing hard outer roots level (index + 1) (spent + bytes)
      (after.storeInner outer index table inner) := by
  have hsolvent := hsettles.solvent h.toSolvent
  have hfilling := h.toFilling.makes hsettles.toMakes
  have hcarries := hsettles.carries
  have hinUse : mid.heap.InUse mid.classes.objectModel outer := .root h.rooted
  have harray := hcarries.holdsArray (Nat.zero_le _) hinUse h.holdsArray
  have hempty : ∀ other : Nat, index ≤ other → other < level.length →
      after.element? (some outer) .reference other = some .null := by
    intro other hle hlt
    rw [hcarries.element?_eq (Nat.zero_le _) hinUse]
    exact h.empty other hle hlt
  have hafter : level.Suits after.classes := by
    rw [hsolvent.shaped.classes_eq]
    exact hsuits
  obtain ⟨hstored, -, hothers⟩ := harray.storeInner hafter hkind hindex table inner
  have hload := harray.load_storeInner hfilling.sound.consistent hfilling.rooted hafter hkind hindex
    (hempty index (Nat.le_refl _) hindex) table inner
  have hfilled := hfilling.storeInner hbase houter (hsettles.fresh inner rfl).2 index table
  obtain ⟨-, -, hgranted⟩ := hsettles.granted inner rfl
  exact { hfilled with
    shaped := hsolvent.shaped.storeInner outer index table inner
    books := (survivesFilling_books hard).storeInner after hsettles.books outer index table inner
    depth_le := by
      rw [hfilled.roots_eq, ← h.roots_eq]
      exact h.depth_le
    holdsArray := hstored
    empty := by
      intro other hle hlt
      rw [hothers other (Nat.ne_of_gt hle)]
      exact hempty other (Nat.le_of_succ_le hle) hlt
    load_eq := by rw [hload, hgranted, h.load_eq] }

variable {makeInner : Action ObjectId} (hmake : Priced hard base.classes bytes slots makeInner)
include hmake

theorem Bearing.fill_ok (h : base.Bearing hard outer roots level index spent mid)
    (hcount : index + count = level.length)
    (hrun : (Machine.fill outer table makeInner count index).run mid = (.ok (), left)) :
    base.Bearing hard outer roots level level.length (spent + count * bytes) left ∧
      (0 < count → roots.shadow.depth + slots ≤ roots.shadow.capacity) := by
  induction count generalizing index spent mid with
  | zero =>
    cases hrun
    obtain rfl : index = level.length := hcount
    rw [Nat.zero_mul]
    exact ⟨h, nofun⟩
  | succ count ih =>
    have hsettles := hmake mid h.toSolvent
    rw [run_fill_succ] at hrun
    rcases hinner : makeInner.run mid with ⟨error | inner, after⟩
    · rw [hinner] at hrun
      cases hrun
    · rw [hinner] at hrun hsettles
      have hindex : index < level.length := by omega
      -- the roots stay as they are, so the slots for one inner array do for all of them
      obtain ⟨-, hslots, -⟩ := hsettles.granted inner rfl
      rw [h.roots_eq] at hslots
      have hnext := h.snoc hbase houter hsuits hkind hindex hsettles table
      obtain ⟨hfilled, -⟩ := ih hnext (by omega) hrun
      rw [Nat.succ_mul, Nat.add_comm (count * bytes), ← Nat.add_assoc]
      exact ⟨hfilled, fun _ => hslots⟩

theorem Bearing.fill_error (h : base.Bearing hard outer roots level index spent mid)
    (hcount : index + count = level.length) {error : RuntimeError}
    (hrun : (Machine.fill outer table makeInner count index).run mid = (.error error, left)) :
    hard < spent + count * bytes ∨
      0 < count ∧ roots.shadow.capacity < roots.shadow.depth + slots := by
  induction count generalizing index spent mid with
  | zero => cases hrun
  | succ count ih =>
    have hsettles := hmake mid h.toSolvent
    rw [run_fill_succ] at hrun
    rw [Nat.succ_mul]
    rcases hinner : makeInner.run mid with ⟨reason | inner, after⟩
    · rw [hinner] at hrun hsettles
      have hrefused := hsettles.refused reason rfl
      rw [h.load_eq, h.roots_eq] at hrefused
      rcases hrefused with hfull | hdeep
      · left
        omega
      · exact .inr ⟨Nat.zero_lt_succ _, hdeep⟩
    · rw [hinner] at hrun hsettles
      have hindex : index < level.length := by omega
      have hnext := h.snoc hbase houter hsuits hkind hindex hsettles table
      rcases ih hnext (by omega) hrun with hfull | ⟨-, hdeep⟩
      · left
        omega
      · exact .inr ⟨Nat.zero_lt_succ _, hdeep⟩

end Filling

/-! ### Arrays of all levels -/

/-- Where the construction of an array of arrays fails. -/
theorem exists_of_nested_error {makeInner : Action ObjectId} {error : RuntimeError}
    (hrun : ((nested level table makeInner).run machine).1 = .error error) :
    (∃ reason made, (Machine.allocateFlat level).run machine = (.error reason, made)) ∨
      ∃ array made, (Machine.allocateFlat level).run machine = (.ok array, made) ∧
        (made.heap.roots.shadow.depth = made.heap.roots.shadow.capacity ∨
          ∃ shadow reason left, made.heap.roots.shadow.push (.operand (some array)) = .ok shadow ∧
            (Machine.fill array table makeInner level.length 0).run
              (made.withRoots { made.heap.roots with shadow }) = (.error reason, left)) := by
  rw [run_nested] at hrun
  rcases hflat : (Machine.allocateFlat level).run machine with ⟨reason | array, made⟩
  · exact .inl ⟨reason, made, rfl⟩
  refine .inr ⟨array, made, rfl, ?_⟩
  rw [hflat] at hrun
  dsimp only at hrun
  rw [run_pushOperand] at hrun
  rcases hpush : made.heap.roots.shadow.push (.operand (some array)) with reason | shadow
  · exact .inl (ShadowStack.push_eq_error_iff.1 hpush).2
  refine .inr ?_
  rw [hpush] at hrun
  dsimp only at hrun
  rcases hfill : (Machine.fill array table makeInner level.length 0).run
      (made.withRoots { made.heap.roots with shadow }) with ⟨reason | ⟨⟩, left⟩
  · exact ⟨shadow, reason, left, rfl, hfill⟩
  · rw [hfill] at hrun
    cases hrun

/-- What one push does to the depth of the shadow stack. -/
theorem Makes.pushed {result : Except RuntimeError ObjectId} (h : machine.Makes result made)
    {slot : RootSlot} {shadow : ShadowStack}
    (hpush : made.heap.roots.shadow.push slot = .ok shadow) :
    shadow.depth = machine.heap.roots.shadow.depth + 1 ∧
      shadow.capacity = machine.heap.roots.shadow.capacity := by
  rw [ShadowStack.depth_push hpush, ShadowStack.capacity_push hpush, h.roots_eq]
  exact ⟨rfl, rfl⟩

theorem Solvent.allocateOutermost (h : machine.Solvent hard classes) (hhard : hard < wordLimit - 1)
    (hlevels : Buildable classes (level :: levels)) :
    machine.Settles hard (arrayBytes level.kind level.length) 0
      ((Machine.allocateFlat level).run machine).1
      ((Machine.allocateFlat level).run machine).2 :=
  h.allocateFlat hhard (hlevels.suits level (.head _)) (hlevels.short level (.head _))

section Nested

variable (hhard : hard < wordLimit - 1) (hlevels : Buildable classes (level :: next :: levels))
include hhard hlevels

/-- With a new array on the shadow stack, the machine bears that array and what it bore before. -/
theorem Solvent.bearing (h : machine.Solvent hard classes) {shadow : ShadowStack}
    (hflat : (Machine.allocateFlat level).run machine = (.ok id, made))
    (hpush : made.heap.roots.shadow.push (.operand (some id)) = .ok shadow) :
    machine.Bearing hard id { made.heap.roots with shadow } level 0
      (machine.load [] + arrayBytes .reference level.length)
      (made.withRoots { made.heap.roots with shadow }) := by
  have hkind : level.kind = .reference := hlevels.nested.rel
  have hsettles := h.allocateOutermost hhard hlevels
  obtain ⟨harray, hzero⟩ :=
    h.toSteady.zeroed (hlevels.suits level (.head _)) (hlevels.short level (.head _)) hflat
  rw [hflat, hkind] at hsettles
  rw [hkind] at hzero
  have hmade := hsettles.solvent h
  have hfilling := hsettles.filling hpush
  have hcarries := carries_withRoots made { made.heap.roots with shadow }
  obtain ⟨-, -, hload⟩ := hsettles.granted id rfl
  exact { hfilling with
    shaped := ⟨hmade.shaped.reroot ⟨_, _, rfl⟩, hsettles.shaped.classes_eq⟩
    books := hsettles.books.reroot _ _
    depth_le := by
      have hle : made.heap.roots.shadow.depth ≤ made.heap.roots.shadow.capacity := hmade.depth_le
      change shadow.depth ≤ shadow.capacity
      rw [ShadowStack.depth_push hpush, ShadowStack.capacity_push hpush]
      exact Nat.lt_of_le_of_ne hle (ShadowStack.depth_ne_of_push hpush)
    holdsArray := hcarries.holdsArray (Nat.zero_le _) trivial harray
    empty := fun other _ hother => hzero other hother
    load_eq := by
      rw [← hload]
      exact (load_withRoots hfilling.sound.consistent hpush rfl).symm }

variable {makeInner : Action ObjectId} (hmake : Priced hard classes bytes slots makeInner)
include hmake

theorem Solvent.nested_ok (h : machine.Solvent hard classes)
    (hrun : (Machine.nested level next.table makeInner).run machine = (.ok id, left)) :
    machine.load [] + (arrayBytes .reference level.length + level.length * bytes) ≤ hard ∧
      machine.heap.roots.shadow.depth + (1 + if level.length = 0 then 0 else slots) ≤
        machine.heap.roots.shadow.capacity ∧
      (left.withRoots machine.heap.roots).load [some id] =
        machine.load [] + (arrayBytes .reference level.length + level.length * bytes) := by
  obtain ⟨made, shadow, hflat, hpush, hfill⟩ := exists_of_nested hrun
  have hbearing := h.bearing hhard hlevels hflat hpush
  have hsettles := h.allocateOutermost hhard hlevels
  obtain rfl := h.shaped.classes_eq
  rw [hflat] at hsettles
  obtain ⟨hfilled, hslots⟩ := hbearing.fill_ok h.sound (hsettles.fresh id rfl).1
    (hlevels.suits level (.head _)) hlevels.nested.rel hmake (Nat.zero_add _) hfill
  have hbytes := hfilled.load_le
  have hload := load_withRoots hfilled.sound.consistent hpush hfilled.roots_eq
  rw [hfilled.load_eq, Nat.add_assoc] at hbytes hload
  rw [hsettles.roots_eq] at hload
  refine ⟨hbytes, ?_, hload⟩
  obtain ⟨hdepth, hcapacity⟩ := hsettles.pushed hpush
  rw [← hcapacity, ← Nat.add_assoc, ← hdepth]
  split
  · exact hbearing.depth_le
  · rename_i hpos
    exact hslots (Nat.pos_of_ne_zero hpos)

theorem Solvent.nested_error (h : machine.Solvent hard classes) {error : RuntimeError}
    (hrun : ((Machine.nested level next.table makeInner).run machine).1 = .error error) :
    hard < machine.load [] + (arrayBytes .reference level.length + level.length * bytes) ∨
      machine.heap.roots.shadow.capacity <
        machine.heap.roots.shadow.depth + (1 + if level.length = 0 then 0 else slots) := by
  have hsettles := h.allocateOutermost hhard hlevels
  rcases exists_of_nested_error hrun with ⟨reason, made, hflat⟩ | ⟨array, made, hflat, hrest⟩
  · -- there is no room for the outer array alone
    have hkind : level.kind = .reference := hlevels.nested.rel
    rw [hflat, hkind] at hsettles
    have hrefused := hsettles.refused reason rfl
    omega
  rw [hflat] at hsettles
  rcases hrest with hfull | ⟨shadow, reason, left, hpush, hfill⟩
  · -- there is no slot for it
    rw [hsettles.roots_eq] at hfull
    omega
  -- some inner array was not made
  have hbearing := h.bearing hhard hlevels hflat hpush
  obtain rfl := h.shaped.classes_eq
  have hfailed := hbearing.fill_error h.sound (hsettles.fresh array rfl).1
    (hlevels.suits level (.head _)) hlevels.nested.rel hmake (Nat.zero_add _) hfill
  obtain ⟨hdepth, hcapacity⟩ := hsettles.pushed hpush
  rcases hfailed with hfull | ⟨hpos, hdeep⟩
  · left
    omega
  · right
    rw [if_neg (Nat.ne_of_gt hpos), ← hcapacity, ← Nat.add_assoc, ← hdepth]
    exact hdeep

end Nested

/-- A construction has the price of its tree. -/
theorem priced_allocateLevels (hhard : hard < wordLimit - 1)
    (hlevels : Buildable classes (level :: levels))
    (hkind : ∀ last, (level :: levels).getLast? = some last → last.kind = kind) :
    Priced hard classes (treeBytes kind ((level :: levels).map (·.length)))
      (treeSlots ((level :: levels).map (·.length))) (allocateLevels level levels) := by
  induction levels generalizing level with
  | nil =>
    intro machine h
    have hsettles := h.allocateOutermost hhard hlevels
    rw [hkind level rfl] at hsettles
    rw [List.map_singleton, treeBytes_singleton, treeSlots_singleton]
    exact hsettles
  | cons next levels ih =>
    intro machine h
    have hlast : ∀ last, (next :: levels).getLast? = some last → last.kind = kind := by
      intro last hlast
      exact hkind last (List.getLast?_cons_cons.trans hlast)
    have hmake := ih hlevels.tail hlast
    have hmakes := h.sound.allocateLevels (hlevels.lt_size h.shaped.classes_eq)
    have hshaped := shapedOver_allocateLevels hlevels.suits machine h.shaped
    have hbooks := books_allocateLevels hhard level (next :: levels) machine h.books
    rw [← h.shaped.classes_eq] at hshaped
    rw [List.map_cons, List.map_cons, treeBytes_cons, treeSlots_cons]
    have habove := h.nested_above hlevels
    rw [allocateLevels_cons, run_inFrame_of_above habove] at hmakes hshaped hbooks ⊢
    refine { hmakes with shaped := hshaped, books := hbooks, granted := ?_, refused := ?_ }
    · intro id hid
      exact h.nested_ok hhard hlevels hmake (Prod.ext hid rfl)
    · intro error herror
      exact h.nested_error hhard hlevels hmake herror

/-! ### From a machine that came about -/

theorem Plans.map_length (h : machine.Plans kind element dimensions levels planned) :
    levels.map (·.length) = dimensions.map (·.toNat) := by
  rw [← h.lengths_eq, List.map_map]
  rfl

/-- New classes weigh nothing. -/
theorem Plans.load_eq (h : machine.Plans kind element dimensions levels planned)
    (hmachine : machine.Sound) :
    planned.load [] = machine.heap.bytesInUse machine.classes.objectModel := by
  rw [h.eq_withClasses, load_nil]
  exact Heap.weight_congr_model hmachine.consistent (hmachine.refs_eq h.grown)

theorem ReachedByPermitted.solvent (h : machine.ReachedByPermitted) (hsound : planned.Sound)
    (hshaped : planned.InShape) (hhard : machine.heap.limits.hard < wordLimit - 1)
    (hgrants : ∀ asked bytes, machine.heap.system.grants asked bytes)
    (hplanned : planned.heap = machine.heap) :
    planned.Solvent machine.heap.limits.hard planned.classes where
  sound := hsound
  shaped := ⟨hshaped, rfl⟩
  books := by
    rw [hplanned]
    exact ⟨h.byAny.accounted hhard, hgrants⟩
  depth_le := by
    rw [hplanned]
    exact h.byAny.depth_le

/-- In every machine that comes about, an array is made exactly where what is in use and all its
    arrays fit under the hard limit, and the outer levels into the shadow stack.  Garbage, the soft
    limit and the step by which it rises have no part in it. -/
theorem newArray_succeeds_iff (h : machine.ReachedByPermitted)
    (hclosed : machine.heap.Closed machine.classes.objectModel)
    (hhard : machine.heap.limits.hard < wordLimit - 1)
    (hgrants : ∀ asked bytes, machine.heap.system.grants asked bytes)
    (hvalid : ValidRequest kind element dimensions)
    (hdimensions : ∀ length ∈ dimensions, length < lengthLimit) :
    (∃ root, ((newArray kind element dimensions).run machine).1 = .ok root) ↔
      machine.heap.bytesInUse machine.classes.objectModel +
          treeBytes kind (dimensions.map (·.toNat)) ≤ machine.heap.limits.hard ∧
        machine.heap.roots.shadow.depth + treeSlots (dimensions.map (·.toNat)) ≤
          machine.heap.roots.shadow.capacity := by
  have hsound := h.sound hclosed
  obtain ⟨outermost, inner, planned, hplan⟩ := planArray_of_valid hvalid h.isSome_primitiveArray?
  have hplans := plans_of_planArray h.arrays_lt hplan
  obtain ⟨hinShape, hsuits⟩ := h.inShape.planArray hplan
  have hplanned : planned.Sound := by
    rw [hplans.eq_withClasses]
    exact hsound.grow hinShape.made.wellFormed hplans.grown
  have hheap : planned.heap = machine.heap := by
    rw [hplans.eq_withClasses]
    rfl
  have hsolvent := h.solvent hplanned hinShape hhard hgrants hheap
  have hsettles := priced_allocateLevels hhard (hplans.buildable hsuits hdimensions)
    (fun last hlast => (hplans.innermost last hlast).1) planned hsolvent
  have hgranted := hsettles.granted
  have hrefused := hsettles.refused
  rw [hplans.map_length, hplans.load_eq hsound, hheap] at hgranted hrefused
  rw [run_newArray, hplan]
  dsimp only
  constructor
  · rintro ⟨root, hroot⟩
    obtain ⟨hbytes, hslots, -⟩ := hgranted root hroot
    exact ⟨hbytes, hslots⟩
  · rintro ⟨hbytes, hslots⟩
    rcases hrun : ((Machine.allocateLevels outermost inner).run planned).1 with error | root
    · have hshort := hrefused error hrun
      omega
    · exact ⟨root, rfl⟩

/-- Two arrays that fit beside the two pairs to the byte. -/
theorem newArray_succeeds_iff_of_pairs :
    (pairsHeld.ReachedByPermitted ∧ pairsHeld.heap.Closed pairsHeld.classes.objectModel ∧
      pairsHeld.heap.limits.hard < wordLimit - 1 ∧
      (∀ asked bytes, pairsHeld.heap.system.grants asked bytes) ∧
      ValidRequest .reference (some 3) [1, 11] ∧
      (∀ length ∈ [(1 : Int), 11], length < lengthLimit) ∧
      pairsHeld.heap.bytesInUse pairsHeld.classes.objectModel + treeBytes .reference [1, 11] =
        pairsHeld.heap.limits.hard ∧
      ((newArray .reference (some 3) [1, 11]).run pairsHeld).1 = .ok 2) ∧
    ((∃ root, ((newArray .reference (some 3) [1, 11]).run pairsHeld).1 = .ok root) ↔
      pairsHeld.heap.bytesInUse pairsHeld.classes.objectModel + treeBytes .reference [1, 11] ≤
          pairsHeld.heap.limits.hard ∧
        pairsHeld.heap.roots.shadow.depth + treeSlots [1, 11] ≤
          pairsHeld.heap.roots.shadow.capacity) := by
  have hhard : pairsHeld.heap.limits.hard < wordLimit - 1 := by decide +kernel
  have hsystem : pairsHeld.heap.system = .unlimited := rfl
  have hgrants : ∀ asked bytes, pairsHeld.heap.system.grants asked bytes := by
    intro asked bytes
    rw [hsystem]
    rfl
  have hvalid : ValidRequest .reference (some 3) [1, 11] := ⟨by decide, by decide, fun _ => rfl⟩
  have hdimensions : ∀ length ∈ [(1 : Int), 11], length < lengthLimit := by decide
  have hinUse : pairsHeld.heap.bytesInUse pairsHeld.classes.objectModel +
      treeBytes .reference [1, 11] = pairsHeld.heap.limits.hard := by
    rw [← Heap.used_collect_eq _ (pairsHeld_reachedByPermitted.sound pairsHeld_closed).consistent]
    decide +kernel
  exact ⟨⟨pairsHeld_reachedByPermitted, pairsHeld_closed, hhard, hgrants, hvalid, hdimensions,
    hinUse, by decide +kernel⟩,
    newArray_succeeds_iff pairsHeld_reachedByPermitted pairsHeld_closed hhard hgrants hvalid
      hdimensions⟩

end Machine

end ManagedRuntime
