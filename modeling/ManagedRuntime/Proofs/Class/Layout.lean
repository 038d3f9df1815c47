/-
  Layout of instances
  ===================
  How the instances of a class are laid out along its chain (`Hierarchy.Layered`): each class has
  a block of its own behind the blocks of its superclasses, with its reference slots first and its
  primitive bytes behind them.  No two slots overlap, no primitive byte lies in a slot, and
  all of it lies within the instance.

  A descriptor does not say how many primitive bytes its class declares, so a class is traced
  back to the blueprint that it was built from (`Hierarchy.Declares`).  Sizes are computed in
  words, and `Blueprint.instanceSize_eq` says that this goes wrong exactly where the true size is
  no word; hence no layout is ever a wrapped one.
-/
import ManagedRuntime.Proofs.Class.Chain
import ManagedRuntime.Proofs.Word.Alignment

namespace ManagedRuntime

/-! ### Extents -/

/-- The bytes of an instance from one offset to before another. -/
structure Extent where
  start : Nat
  stop : Nat
  deriving DecidableEq, Repr

namespace Extent

/-- No byte lies in both. -/
def Apart (first second : Extent) : Prop :=
  first.stop ≤ second.start ∨ second.stop ≤ first.start

/-- Every byte of the first lies in the second. -/
def Within (inner outer : Extent) : Prop :=
  outer.start ≤ inner.start ∧ inner.stop ≤ outer.stop

variable {first second inner outer : Extent}

instance : Decidable (first.Apart second) :=
  inferInstanceAs (Decidable (_ ∨ _))

instance : Decidable (inner.Within outer) :=
  inferInstanceAs (Decidable (_ ∧ _))

/-- What lies in extents that are apart is apart. -/
theorem Apart.mono (h : first.Apart second) (hinner : inner.Within first)
    (houter : outer.Within second) : inner.Apart outer := by
  obtain ⟨hstart, hstop⟩ := hinner
  obtain ⟨hstart', hstop'⟩ := houter
  rcases h with h | h
  · left
    omega
  · right
    omega

end Extent

def FieldLayout.slot (layout : FieldLayout) (index : Nat) : Extent where
  start := layout.offsetOf index
  stop := layout.offsetOf index + slotSize

theorem FieldLayout.slot_within {layout : FieldLayout} {index : Nat} (h : index < layout.count) :
    (layout.slot index).Within ⟨layout.offset, layout.offsetOf layout.count⟩ := by
  constructor
  · exact Nat.le_add_right ..
  · change layout.offset + index * slotSize + slotSize ≤ layout.offset + layout.count * slotSize
    rw [Nat.add_assoc, ← Nat.succ_mul]
    exact Nat.add_le_add_left (Nat.mul_le_mul_right _ h) _

theorem FieldLayout.slots_apart {layout : FieldLayout} {index other : Nat} (h : index ≠ other) :
    (layout.slot index).Apart (layout.slot other) := by
  unfold Extent.Apart slot offsetOf slotSize pointerSize
  dsimp only
  omega

/-- So many bytes behind the slots of a block. -/
def FieldLayout.primitives (layout : FieldLayout) (bytes : Nat) : Extent where
  start := layout.offsetOf layout.count
  stop := layout.offsetOf layout.count + bytes

theorem FieldLayout.primitives_apart {layout : FieldLayout} {index : Nat}
    (h : index < layout.count) (bytes : Nat) :
    (layout.primitives bytes).Apart (layout.slot index) :=
  .inr (layout.slot_within h).2

/-! ### Sizes -/

/-- Rounding a word up to whole words leaves the word range only where the result does. -/
theorem alignUp_pointerSize {bytes : Nat} (h : bytes < wordLimit) :
    alignUp bytes pointerSize =
      if nextMultiple bytes pointerSize < wordLimit then .ok (nextMultiple bytes pointerSize)
      else .error .addOverflow := by
  have hpos : 0 < pointerSize := by decide
  have hdvd : pointerSize ∣ wordLimit := by decide
  rw [alignUp_eq hpos]
  exact if_congr ⟨nextMultiple_lt_wordLimit h hpos, sumFits_of_dvd hpos hdvd⟩ rfl rfl

example : alignUp 12 pointerSize = .ok 16 := rfl

namespace Hierarchy

def isInstances (classes : Hierarchy) (id : ClassId) : Bool :=
  (classes.get? id).any (·.kind == .instances)

def instanceSize (classes : Hierarchy) (id : ClassId) : Nat :=
  match classes.get? id with
  | some cls => cls.instanceSize
  | none => 0

/-- Where the own block of a class starts: behind the instances of its superclass, or behind the
    class word. -/
def baseSize (classes : Hierarchy) (id : ClassId) : Nat :=
  match classes.superclass? id with
  | some superclass => classes.instanceSize superclass
  | none => classWordSize

end Hierarchy

namespace Blueprint

variable {classes after : Hierarchy} {blueprint : Blueprint} {id : ClassId}

/-- Bytes of an instance as a number without bound: the superclass's instance or the class word,
    the own fields and the primitive bytes, rounded up to whole words. -/
def exactSize (blueprint : Blueprint) (classes : Hierarchy) : Nat :=
  nextMultiple (blueprint.fieldsOffset classes + blueprint.referenceFields * slotSize +
    blueprint.primitiveBytes) pointerSize

theorem le_exactSize (blueprint : Blueprint) (classes : Hierarchy) :
    blueprint.fieldsOffset classes + blueprint.referenceFields * slotSize +
      blueprint.primitiveBytes ≤ blueprint.exactSize classes :=
  le_nextMultiple (by decide)

/-- No step of the computation leaves the word range unless its result does. -/
theorem instanceSize_eq (blueprint : Blueprint) (classes : Hierarchy) :
    blueprint.instanceSize classes =
      if blueprint.exactSize classes < wordLimit then .ok (blueprint.exactSize classes)
      else .error (if blueprint.referenceFields * slotSize < wordLimit then .addOverflow
        else .mulOverflow) := by
  have hexact := blueprint.le_exactSize classes
  rw [instanceSize, FieldLayout.wordEnd, FieldLayout.wordOffsetOf]
  change ((mulWord blueprint.referenceFields slotSize >>= addWord (blueprint.fieldsOffset classes))
    >>= fun fieldsEnd => addWord fieldsEnd blueprint.primitiveBytes >>= (alignUp · pointerSize)) = _
  by_cases hslots : blueprint.referenceFields * slotSize < wordLimit
  · rw [mulWord, if_pos hslots, if_pos hslots]
    by_cases hend :
        blueprint.fieldsOffset classes + blueprint.referenceFields * slotSize < wordLimit
    · by_cases hbytes : blueprint.fieldsOffset classes + blueprint.referenceFields * slotSize +
          blueprint.primitiveBytes < wordLimit
      · simp only [bind, Except.bind, addWord, if_pos hend, if_pos hbytes]
        exact alignUp_pointerSize hbytes
      · simp only [bind, Except.bind, addWord, if_pos hend, if_neg hbytes]
        rw [if_neg (by omega)]
    · simp only [bind, Except.bind, addWord, if_neg hend]
      rw [if_neg (by omega)]
  · rw [mulWord, if_neg hslots, if_neg hslots, if_neg (by omega)]
    rfl

/-! ### What is refused -/

/-- A blueprint that contradicts itself or the classes that it refers to. -/
def Contradicts (blueprint : Blueprint) (classes : Hierarchy) : Prop :=
  (∃ superclass, blueprint.superclass = some superclass ∧
      classes.isInstances superclass = false) ∨
    (blueprint.isInterface = false ∧ blueprint.superclass = none ∧ 0 < blueprint.referenceFields) ∨
    (∃ entry ∈ blueprint.implemented, classes.isInterface entry.1 = false) ∨
    (blueprint.isInterface = true ∧
      (0 < blueprint.referenceFields ∨ 0 < blueprint.primitiveBytes))

theorem not_contradicts (h : blueprint.defect? classes = none) :
    ¬blueprint.Contradicts classes := by
  unfold defect? at h
  split at h
  · cases h
  rename_i hsuperclass
  split at h
  · cases h
  rename_i hfields
  split at h
  · cases h
  rename_i hfind
  split at h
  · cases h
  rename_i hinterface
  rintro (⟨superclass, hsome, hkind⟩ | ⟨hinstances, hnone, hcount⟩ | ⟨entry, hentry, hkind⟩ |
    ⟨hself, hcount⟩)
  · unfold Hierarchy.isInstances at hkind
    exact hsuperclass (by simp [hsome, hkind])
  · exact hfields (by simp [hinstances, hnone, Nat.ne_of_gt hcount])
  · exact absurd (List.find?_eq_none.1 hfind entry hentry) (by simp [hkind])
  · rcases hcount with hcount | hcount
    · exact hinterface (by simp [hself, Nat.ne_of_gt hcount])
    · exact hinterface (by simp [hself, Nat.ne_of_gt hcount])

theorem contradicts_of_defect? {reason : BlueprintError}
    (h : blueprint.defect? classes = some reason) : blueprint.Contradicts classes := by
  unfold defect? at h
  split at h
  · rename_i hsuperclass
    obtain ⟨superclass, hsome, hkind⟩ := (Option.any_eq_true ..).1 hsuperclass
    exact .inl ⟨superclass, hsome, Bool.not_eq_true' _ ▸ hkind⟩
  split at h
  · rename_i hfields
    simp only [Bool.and_eq_true, Option.isNone_iff_eq_none, Bool.not_eq_true', bne_iff_ne]
      at hfields
    obtain ⟨⟨hnone, hinstances⟩, hcount⟩ := hfields
    exact .inr (.inl ⟨hinstances, hnone, Nat.pos_of_ne_zero hcount⟩)
  split at h
  · rename_i id methods hfind
    have hkind := List.find?_some hfind
    exact .inr (.inr (.inl ⟨_, List.mem_of_find?_eq_some hfind, Bool.not_eq_true' _ ▸ hkind⟩))
  split at h
  · rename_i hinterface
    simp only [Bool.and_eq_true, Bool.or_eq_true, bne_iff_ne] at hinterface
    obtain ⟨hself, hcount⟩ := hinterface
    exact .inr (.inr (.inr ⟨hself, hcount.imp Nat.pos_of_ne_zero Nat.pos_of_ne_zero⟩))
  · cases h

/-! ### How a build comes out -/

/-- What the instances of the class look like, if it has any. -/
def exactShape (blueprint : Blueprint) (classes : Hierarchy) : ClassShape :=
  if blueprint.isInterface then .interface
  else .instances (blueprint.exactSize classes) (blueprint.layout classes)

/-- The three ways in which a build comes out, each with the condition under which it does. -/
inductive Outcome (blueprint : Blueprint) (classes : Hierarchy) :
    Except BuildError (ClassId × Hierarchy) → Prop where
  | refused (reason : BlueprintError) (h : blueprint.Contradicts classes) :
      Outcome blueprint classes (.error (.refused blueprint.name reason))
  | overflow (fault : Fault) (hfault : fault = .addOverflow ∨ fault = .mulOverflow)
      (h : ¬blueprint.Contradicts classes) (hinstances : blueprint.isInterface = false)
      (hsize : wordLimit ≤ blueprint.exactSize classes) :
      Outcome blueprint classes (.error (.fault fault))
  | built {id : ClassId} {after : Hierarchy} (cls : Class) (h : ¬blueprint.Contradicts classes)
      (hsize : blueprint.isInterface = false → blueprint.exactSize classes < wordLimit)
      (hid : id = classes.size) (hafter : after.classes = classes.classes.push cls)
      (hsuperclass : cls.superclass = blueprint.superclass)
      (hshape : cls.shape = blueprint.exactShape classes) :
      Outcome blueprint classes (.ok (id, after))

theorem classes_entries (implemented : List (ClassId × List Method)) (classes : Hierarchy) :
    (entries implemented classes).2.classes = classes.classes := by
  induction implemented generalizing classes with
  | nil => rfl
  | cons entry rest ih => exact ih (classes.newTable entry.2).2

theorem shape_eq (blueprint : Blueprint) (classes : Hierarchy) :
    blueprint.shape classes =
      if blueprint.isInterface then .ok .interface
      else if blueprint.exactSize classes < wordLimit then .ok (blueprint.exactShape classes)
      else .error (if blueprint.referenceFields * slotSize < wordLimit then .addOverflow
        else .mulOverflow) := by
  rw [shape, exactShape, instanceSize_eq]
  by_cases hinterface : blueprint.isInterface
  · rw [if_pos hinterface, if_pos hinterface]
  · rw [if_neg hinterface, if_neg hinterface, if_neg hinterface]
    by_cases hsize : blueprint.exactSize classes < wordLimit
    · rw [if_pos hsize, if_pos hsize]
      rfl
    · rw [if_neg hsize, if_neg hsize]
      rfl

theorem outcome_addTo (h : ¬blueprint.Contradicts classes)
    (hsize : blueprint.isInterface = false → blueprint.exactSize classes < wordLimit) :
    Outcome blueprint classes (.ok (blueprint.addTo (blueprint.exactShape classes) classes)) := by
  have hclasses := classes_entries blueprint.implemented classes
  have hid : (blueprint.addTo (blueprint.exactShape classes) classes).1 = classes.size := by
    change (entries blueprint.implemented classes).2.classes.size = _
    rw [hclasses, Hierarchy.size]
  have hafter : ∃ cls, (blueprint.addTo (blueprint.exactShape classes) classes).2.classes =
      classes.classes.push cls ∧ cls.superclass = blueprint.superclass ∧
        cls.shape = blueprint.exactShape classes := by
    rw [← hclasses]
    exact ⟨_, rfl, rfl, rfl⟩
  obtain ⟨cls, hpush, hsuperclass, hshape⟩ := hafter
  exact .built cls h hsize hid hpush hsuperclass hshape

theorem outcome_build (blueprint : Blueprint) (classes : Hierarchy) :
    Outcome blueprint classes (classes.build blueprint) := by
  unfold Hierarchy.build
  rcases hdefect : blueprint.defect? classes with _ | reason
  · have hsound := not_contradicts hdefect
    rw [shape_eq]
    dsimp only
    by_cases hinterface : blueprint.isInterface = true
    · rw [if_pos hinterface]
      have hbuilt := outcome_addTo hsound (fun hinstances => by
        rw [hinterface] at hinstances
        cases hinstances)
      rwa [exactShape, if_pos hinterface] at hbuilt
    · rw [if_neg hinterface]
      have hinstances := Bool.eq_false_iff.2 hinterface
      by_cases hsize : blueprint.exactSize classes < wordLimit
      · rw [if_pos hsize]
        exact outcome_addTo hsound fun _ => hsize
      · rw [if_neg hsize]
        refine .overflow _ ?_ hsound hinstances (Nat.not_lt.1 hsize)
        split
        · exact .inl rfl
        · exact .inr rfl
  · exact .refused reason (contradicts_of_defect? hdefect)

theorem isInstances_superclass (h : ¬blueprint.Contradicts classes) {superclass : ClassId}
    (hsuperclass : blueprint.superclass = some superclass) : classes.isInstances superclass := by
  cases hkind : classes.isInstances superclass with
  | true => rfl
  | false => exact absurd (.inl ⟨superclass, hsuperclass, hkind⟩) h

end Blueprint

namespace Hierarchy

variable {classes before after : Hierarchy} {blueprint : Blueprint} {id superclass : ClassId}
variable {level other : ClassId}

theorem exists_of_isInstances (h : classes.isInstances id) :
    ∃ cls, classes.get? id = some cls ∧ cls.kind = .instances := by
  obtain ⟨cls, hget, hkind⟩ := (Option.any_eq_true ..).1 h
  exact ⟨cls, hget, by simpa using hkind⟩

theorem Extends.get?_of_some (h : before.Extends after) {cls : Class}
    (hget : before.get? id = some cls) : after.get? id = some cls := by
  rw [h.get?_eq id (lt_size_of_get? hget), hget]

theorem Extends.shape?_of_some {shape : ClassShape} (h : before.Extends after)
    (hshape : before.shape? id = some shape) : after.shape? id = some shape := by
  obtain ⟨cls, hget, rfl⟩ := Option.map_eq_some_iff.1 hshape
  rw [shape?, h.get?_of_some hget, Option.map_some]

/-! ### Where a class comes from -/

def Declares (classes : Hierarchy) (id : ClassId) (blueprint : Blueprint) : Prop :=
  ∃ before after : Hierarchy,
    before.Made ∧ before.build blueprint = .ok (id, after) ∧ after.Extends classes

theorem get?_of_push {cls : Class} (h : after.classes = classes.classes.push cls) :
    after.get? id = if id = classes.size then some cls else classes.get? id := by
  rw [get?, h, Array.getElem?_push]
  rfl

/-- Every class that is no array class was built. -/
theorem Made.exists_declares (h : classes.Made) {cls : Class} (hget : classes.get? id = some cls)
    (hkind : cls.kind ≠ .array) : ∃ blueprint, classes.Declares id blueprint := by
  induction h with
  | empty => simp [get?] at hget
  | @build classes after blueprint built hclasses hbuild ih =>
    have hgrown : classes.Extends after := (hclasses.wellFormed.build hbuild).grown
    have houtcome := blueprint.outcome_build classes
    rw [hbuild] at houtcome
    cases houtcome with
    | built made _ _ hid hafter _ _ =>
      rw [get?_of_push hafter] at hget
      split at hget
      · rename_i hsame
        rw [hsame, ← hid]
        exact ⟨blueprint, classes, after, hclasses, hbuild, .refl after⟩
      · obtain ⟨declared, first, second, hfirst, hbuilt, hsecond⟩ := ih hget
        exact ⟨declared, first, second, hfirst, hbuilt, hsecond.trans hgrown⟩
  | @pushArray classes object name element hclasses hobject ih =>
    rw [get?_push] at hget
    split at hget
    · cases hget
      exact absurd rfl hkind
    · obtain ⟨declared, first, second, hfirst, hbuilt, hsecond⟩ := ih hget
      exact ⟨declared, first, second, hfirst, hbuilt, hsecond.trans (extends_push ..)⟩

/-- The superclass keeps its size, so a blueprint means the same later on. -/
theorem Extends.fieldsOffset_eq (h : before.Extends after)
    (hsound : ¬blueprint.Contradicts before) :
    blueprint.fieldsOffset after = blueprint.fieldsOffset before := by
  unfold Blueprint.fieldsOffset
  cases hsuperclass : blueprint.superclass with
  | none => rfl
  | some superclass =>
    obtain ⟨cls, hget, -⟩ :=
      exists_of_isInstances (Blueprint.isInstances_superclass hsound hsuperclass)
    rw [Option.bind_some, Option.bind_some, h.get?_of_some hget, hget]

/-- What a class declares is what its descriptor says. -/
theorem Declares.exists_descriptor (h : classes.Declares id blueprint) :
    ∃ cls, classes.get? id = some cls ∧ cls.superclass = blueprint.superclass ∧
      cls.shape = blueprint.exactShape classes ∧
      ∀ superclass, blueprint.superclass = some superclass → classes.isInstances superclass := by
  obtain ⟨before, after, hbefore, hbuild, hgrown⟩ := h
  have hall := (hbefore.wellFormed.build hbuild).grown.trans hgrown
  have houtcome := blueprint.outcome_build before
  rw [hbuild] at houtcome
  cases houtcome with
  | built cls hsound _ hid hafter hsuperclass hshape =>
    have hget : after.get? id = some cls := by rw [get?_of_push hafter, if_pos hid]
    refine ⟨cls, hgrown.get?_of_some hget, hsuperclass, ?_, ?_⟩
    · rw [hshape, Blueprint.exactShape, Blueprint.exactShape, Blueprint.exactSize,
        Blueprint.exactSize, Blueprint.layout, Blueprint.layout, hall.fieldsOffset_eq hsound]
    · intro superclass hsome
      obtain ⟨base, hbase, hkind⟩ :=
        exists_of_isInstances (Blueprint.isInstances_superclass hsound hsome)
      rw [isInstances, hall.get?_of_some hbase]
      simp [hkind]

/-! ### The block of a class -/

/-- What an instance class has in common with the blueprint that it was built from. -/
structure Matches (classes : Hierarchy) (id : ClassId) (blueprint : Blueprint) : Prop where
  superclass?_eq : classes.superclass? id = blueprint.superclass
  fields_eq : classes.fields id = blueprint.layout classes
  instanceSize_eq : classes.instanceSize id = blueprint.exactSize classes
  baseSize_eq : classes.baseSize id = blueprint.fieldsOffset classes
  isInstances : ∀ superclass, classes.superclass? id = some superclass →
    classes.isInstances superclass

theorem Declares.matches (h : classes.Declares id blueprint) (hid : classes.isInstances id) :
    classes.Matches id blueprint := by
  obtain ⟨cls, hget, hsuperclass, hshape, hbase⟩ := h.exists_descriptor
  have hinstances :
      cls.shape = .instances (blueprint.exactSize classes) (blueprint.layout classes) := by
    obtain ⟨found, hfound, hkind⟩ := exists_of_isInstances hid
    obtain rfl : cls = found := Option.some.inj (hget.symm.trans hfound)
    unfold Blueprint.exactShape at hshape
    split at hshape
    · simp [Class.kind, hshape] at hkind
    · exact hshape
  have hsame : classes.superclass? id = blueprint.superclass := by
    rw [superclass?, hget, Option.bind_some, hsuperclass]
  constructor
  · exact hsame
  · simp [fields, hget, Class.fields, hinstances]
  · simp [instanceSize, hget, Class.instanceSize, hinstances]
  · rw [baseSize, hsame, Blueprint.fieldsOffset]
    cases hsome : blueprint.superclass with
    | none => rfl
    | some superclass =>
      obtain ⟨base, hfound, -⟩ := exists_of_isInstances (hbase superclass hsome)
      simp [instanceSize, hfound]
  · intro superclass hsome
    exact hbase superclass (hsame.symm.trans hsome)

theorem Made.exists_matches (h : classes.Made) (hid : classes.isInstances id) :
    ∃ blueprint, classes.Declares id blueprint ∧ classes.Matches id blueprint := by
  obtain ⟨cls, hget, hkind⟩ := exists_of_isInstances hid
  obtain ⟨blueprint, hdeclares⟩ := h.exists_declares hget (by simp [hkind])
  exact ⟨blueprint, hdeclares, hdeclares.matches hid⟩

/-- The size of an instance is a word. -/
theorem Made.instanceSize_lt (h : classes.Made) (hid : classes.isInstances id) :
    classes.instanceSize id < wordLimit := by
  obtain ⟨cls, hget, hkind⟩ := exists_of_isInstances hid
  obtain ⟨blueprint, before, after, -, hbuild, hgrown⟩ := h.exists_declares hget (by simp [hkind])
  have houtcome := blueprint.outcome_build before
  rw [hbuild] at houtcome
  cases houtcome with
  | built made _ hsize hid hafter _ hshape =>
    have hmade : classes.get? id = some made := by
      apply hgrown.get?_of_some
      rw [get?_of_push hafter, if_pos hid]
    obtain rfl : cls = made := Option.some.inj (hget.symm.trans hmade)
    unfold Blueprint.exactShape at hshape
    split at hshape
    · simp [Class.kind, hshape] at hkind
    · rename_i hinstances
      simp only [instanceSize, hget, Class.instanceSize, hshape]
      exact hsize (Bool.eq_false_iff.2 hinstances)

/-- Everything in an instance that instances of the superclass do not have. -/
def block (classes : Hierarchy) (id : ClassId) : Extent where
  start := (classes.fields id).offset
  stop := classes.instanceSize id

theorem Matches.primitives_within (h : classes.Matches id blueprint) :
    ((classes.fields id).primitives blueprint.primitiveBytes).Within (classes.block id) := by
  constructor
  · exact Nat.le_add_right ..
  · rw [block, h.fields_eq, h.instanceSize_eq]
    exact blueprint.le_exactSize classes

theorem Matches.dvd_instanceSize (h : classes.Matches id blueprint) :
    pointerSize ∣ classes.instanceSize id := by
  rw [h.instanceSize_eq]
  exact nextMultiple_dvd ..

theorem Made.offset_eq (h : classes.Made) (hid : classes.isInstances id) :
    (classes.fields id).offset = classes.baseSize id := by
  obtain ⟨blueprint, -, hmatches⟩ := h.exists_matches hid
  rw [hmatches.fields_eq, hmatches.baseSize_eq]
  rfl

theorem Made.isInstances_superclass (h : classes.Made) (hid : classes.isInstances id)
    (hsuperclass : classes.superclass? id = some superclass) : classes.isInstances superclass := by
  obtain ⟨blueprint, -, hmatches⟩ := h.exists_matches hid
  exact hmatches.isInstances superclass hsuperclass

theorem Made.offset_eq_instanceSize (h : classes.Made) (hid : classes.isInstances id)
    (hsuperclass : classes.superclass? id = some superclass) :
    (classes.fields id).offset = classes.instanceSize superclass := by
  rw [h.offset_eq hid, baseSize, hsuperclass]

theorem Made.slot_within_block (h : classes.Made) (hid : classes.isInstances id) {index : Nat}
    (hindex : index < (classes.fields id).count) :
    ((classes.fields id).slot index).Within (classes.block id) := by
  obtain ⟨blueprint, -, hmatches⟩ := h.exists_matches hid
  obtain ⟨hstart, hstop⟩ := FieldLayout.slot_within hindex
  obtain ⟨-, hend⟩ := hmatches.primitives_within
  refine ⟨hstart, Nat.le_trans hstop (Nat.le_trans ?_ hend)⟩
  exact Nat.le_add_right ..

theorem Made.offset_le_instanceSize (h : classes.Made) (hid : classes.isInstances id) :
    (classes.fields id).offset ≤ classes.instanceSize id := by
  obtain ⟨blueprint, -, hmatches⟩ := h.exists_matches hid
  obtain ⟨hstart, hstop⟩ := hmatches.primitives_within
  exact Nat.le_trans hstart (Nat.le_trans (Nat.le_add_right ..) hstop)

theorem Made.offset_aligned (h : classes.Made) (hid : classes.isInstances id) :
    pointerSize ∣ (classes.fields id).offset ∧ classWordSize ≤ (classes.fields id).offset := by
  induction id using h.wellFormed.chain_induction with
  | root id hnone =>
    rw [h.offset_eq hid, baseSize, hnone]
    exact ⟨Nat.dvd_refl _, Nat.le_refl _⟩
  | derived id superclass hsome ih =>
    have hsuper := h.isInstances_superclass hid hsome
    obtain ⟨blueprint, -, hmatches⟩ := h.exists_matches hsuper
    rw [h.offset_eq_instanceSize hid hsome]
    exact ⟨hmatches.dvd_instanceSize, Nat.le_trans (ih hsuper).2 (h.offset_le_instanceSize hsuper)⟩

/-! ### The blocks along a chain -/

theorem Made.isInstances_of_mem_chain (h : classes.Made) (hid : classes.isInstances id)
    (hlevel : level ∈ classes.chain id) : classes.isInstances level := by
  induction id using h.wellFormed.chain_induction with
  | root id hnone =>
    rw [chain_of_none hnone, List.mem_singleton] at hlevel
    rwa [hlevel]
  | derived id superclass hsome ih =>
    rw [h.wellFormed.chain_of_some hsome, List.mem_cons] at hlevel
    rcases hlevel with rfl | hlevel
    · exact hid
    · exact ih (h.isInstances_superclass hid hsome) hlevel

theorem Made.block_within (h : classes.Made) (hid : classes.isInstances id)
    (hlevel : level ∈ classes.chain id) :
    (classes.block level).Within ⟨classWordSize, classes.instanceSize id⟩ := by
  induction id using h.wellFormed.chain_induction with
  | root id hnone =>
    rw [chain_of_none hnone, List.mem_singleton] at hlevel
    rw [hlevel]
    exact ⟨(h.offset_aligned hid).2, Nat.le_refl _⟩
  | derived id superclass hsome ih =>
    rw [h.wellFormed.chain_of_some hsome, List.mem_cons] at hlevel
    rcases hlevel with rfl | hlevel
    · exact ⟨(h.offset_aligned hid).2, Nat.le_refl _⟩
    · obtain ⟨hstart, hstop⟩ := ih (h.isInstances_superclass hid hsome) hlevel
      refine ⟨hstart, Nat.le_trans hstop ?_⟩
      dsimp only
      rw [← h.offset_eq_instanceSize hid hsome]
      exact h.offset_le_instanceSize hid

/-- The blocks of superclasses lie in front of the block of a class. -/
theorem Made.block_stop_le (h : classes.Made) (hid : classes.isInstances id)
    (hlevel : level ∈ classes.chain id) (hne : level ≠ id) :
    (classes.block level).stop ≤ (classes.block id).start := by
  cases hsuperclass : classes.superclass? id with
  | none =>
    rw [chain_of_none hsuperclass, List.mem_singleton] at hlevel
    exact absurd hlevel hne
  | some superclass =>
    rw [h.wellFormed.chain_of_some hsuperclass, List.mem_cons] at hlevel
    have hsuper := h.isInstances_superclass hid hsuperclass
    rw [block, block, h.offset_eq_instanceSize hid hsuperclass]
    exact (h.block_within hsuper (hlevel.resolve_left hne)).2

theorem Made.blocks_apart (h : classes.Made) (hid : classes.isInstances id)
    (hlevel : level ∈ classes.chain id) (hother : other ∈ classes.chain id) (hne : level ≠ other) :
    (classes.block level).Apart (classes.block other) := by
  rcases h.wellFormed.chain_connected hlevel hother with hbelow | habove
  · exact .inr (h.block_stop_le (h.isInstances_of_mem_chain hid hlevel) hbelow hne.symm)
  · exact .inl (h.block_stop_le (h.isInstances_of_mem_chain hid hother) habove hne)

theorem Made.slots_apart (h : classes.Made) (hid : classes.isInstances id)
    (hlevel : level ∈ classes.chain id) (hother : other ∈ classes.chain id) {index index' : Nat}
    (hindex : index < (classes.fields level).count)
    (hindex' : index' < (classes.fields other).count)
    (hne : (level, index) ≠ (other, index')) :
    ((classes.fields level).slot index).Apart ((classes.fields other).slot index') := by
  by_cases hsame : level = other
  · subst hsame
    exact FieldLayout.slots_apart fun heq => hne (by rw [heq])
  · exact (h.blocks_apart hid hlevel hother hsame).mono
      (h.slot_within_block (h.isInstances_of_mem_chain hid hlevel) hindex)
      (h.slot_within_block (h.isInstances_of_mem_chain hid hother) hindex')

theorem Made.slot_within (h : classes.Made) (hid : classes.isInstances id)
    (hlevel : level ∈ classes.chain id) {index : Nat}
    (hindex : index < (classes.fields level).count) :
    ((classes.fields level).slot index).Within ⟨classWordSize, classes.instanceSize id⟩ := by
  obtain ⟨hstart, hstop⟩ :=
    h.slot_within_block (h.isInstances_of_mem_chain hid hlevel) hindex
  obtain ⟨hfirst, hlast⟩ := h.block_within hid hlevel
  exact ⟨Nat.le_trans hfirst hstart, Nat.le_trans hstop hlast⟩

/-! ### Layout soundness -/

/-- The layout of an instance class along its chain. -/
structure Layered (classes : Hierarchy) (id : ClassId) : Prop where
  instances : ∀ level ∈ classes.chain id, classes.isInstances level
  offset_eq : ∀ level ∈ classes.chain id,
    (classes.fields level).offset = classes.baseSize level
  slot_aligned : ∀ level ∈ classes.chain id, ∀ index,
    pointerSize ∣ ((classes.fields level).slot index).start
  slot_within : ∀ level ∈ classes.chain id, ∀ index < (classes.fields level).count,
    ((classes.fields level).slot index).Within ⟨classWordSize, classes.instanceSize id⟩
  slots_apart : ∀ level ∈ classes.chain id, ∀ index < (classes.fields level).count,
    ∀ other ∈ classes.chain id, ∀ index' < (classes.fields other).count,
    (level, index) ≠ (other, index') →
      ((classes.fields level).slot index).Apart ((classes.fields other).slot index')
  /-- Every class of the chain has a blueprint, which says how many primitive bytes it has. -/
  declared : ∀ level ∈ classes.chain id, ∃ blueprint, classes.Declares level blueprint
  primitives_within : ∀ level ∈ classes.chain id, ∀ blueprint, classes.Declares level blueprint →
    ((classes.fields level).primitives blueprint.primitiveBytes).Within
      ⟨classWordSize, classes.instanceSize id⟩
  primitives_apart_slots : ∀ level ∈ classes.chain id, ∀ blueprint,
    classes.Declares level blueprint →
    ∀ other ∈ classes.chain id, ∀ index < (classes.fields other).count,
      ((classes.fields level).primitives blueprint.primitiveBytes).Apart
        ((classes.fields other).slot index)
  primitives_apart : ∀ level ∈ classes.chain id, ∀ blueprint, classes.Declares level blueprint →
    ∀ other ∈ classes.chain id, ∀ blueprint', classes.Declares other blueprint' → level ≠ other →
      ((classes.fields level).primitives blueprint.primitiveBytes).Apart
        ((classes.fields other).primitives blueprint'.primitiveBytes)
  size_aligned : pointerSize ∣ classes.instanceSize id

theorem Made.layered (h : classes.Made) (hid : classes.isInstances id) : classes.Layered id where
  instances level hlevel := h.isInstances_of_mem_chain hid hlevel
  offset_eq level hlevel := h.offset_eq (h.isInstances_of_mem_chain hid hlevel)
  slot_aligned level hlevel index := by
    have hoffset := (h.offset_aligned (h.isInstances_of_mem_chain hid hlevel)).1
    exact Nat.dvd_add hoffset (Nat.dvd_mul_left_of_dvd (by decide) index)
  slot_within level hlevel index hindex := h.slot_within hid hlevel hindex
  slots_apart level hlevel index hindex other hother index' hindex' hne :=
    h.slots_apart hid hlevel hother hindex hindex' hne
  declared level hlevel := by
    obtain ⟨blueprint, hdeclares, -⟩ := h.exists_matches (h.isInstances_of_mem_chain hid hlevel)
    exact ⟨blueprint, hdeclares⟩
  primitives_within level hlevel blueprint hdeclares := by
    obtain ⟨hstart, hstop⟩ :=
      (hdeclares.matches (h.isInstances_of_mem_chain hid hlevel)).primitives_within
    obtain ⟨hfirst, hlast⟩ := h.block_within hid hlevel
    exact ⟨Nat.le_trans hfirst hstart, Nat.le_trans hstop hlast⟩
  primitives_apart_slots level hlevel blueprint hdeclares other hother index hindex := by
    have hmatches := hdeclares.matches (h.isInstances_of_mem_chain hid hlevel)
    by_cases hsame : level = other
    · subst hsame
      exact FieldLayout.primitives_apart hindex _
    · exact (h.blocks_apart hid hlevel hother hsame).mono hmatches.primitives_within
        (h.slot_within_block (h.isInstances_of_mem_chain hid hother) hindex)
  primitives_apart level hlevel blueprint hdeclares other hother blueprint' hdeclares' hne :=
    (h.blocks_apart hid hlevel hother hne).mono
      (hdeclares.matches (h.isInstances_of_mem_chain hid hlevel)).primitives_within
      (hdeclares'.matches (h.isInstances_of_mem_chain hid hother)).primitives_within
  size_aligned := by
    obtain ⟨blueprint, -, hmatches⟩ := h.exists_matches hid
    exact hmatches.dvd_instanceSize

/-- How building from a blueprint comes out: it is refused exactly for a contradiction, it
    overflows exactly where the size of an instance is no word, and a class that is built has the
    exact layout. -/
structure BuildsExactly (classes : Hierarchy) (blueprint : Blueprint) : Prop where
  refused_iff : (∃ reason, classes.build blueprint = .error (.refused blueprint.name reason)) ↔
    blueprint.Contradicts classes
  overflow_iff : ¬blueprint.Contradicts classes → blueprint.isInterface = false →
    ((∃ fault, (fault = .addOverflow ∨ fault = .mulOverflow) ∧
        classes.build blueprint = .error (.fault fault)) ↔
      wordLimit ≤ blueprint.exactSize classes)
  exists_built : ¬blueprint.Contradicts classes →
    (blueprint.isInterface = false → blueprint.exactSize classes < wordLimit) →
    ∃ id after, classes.build blueprint = .ok (id, after)
  shape_eq : ∀ id after, classes.build blueprint = .ok (id, after) →
    after.shape? id = some (blueprint.exactShape classes)

theorem buildsExactly (classes : Hierarchy) (blueprint : Blueprint) :
    classes.BuildsExactly blueprint := by
  have houtcome := blueprint.outcome_build classes
  generalize hresult : classes.build blueprint = result at houtcome
  cases houtcome with
  | refused reason hcontradicts =>
    constructor
    · exact iff_of_true ⟨reason, hresult⟩ hcontradicts
    · exact fun hsound => absurd hcontradicts hsound
    · exact fun hsound => absurd hcontradicts hsound
    · intro id after hbuilt
      cases hresult.symm.trans hbuilt
  | overflow fault hfault hsound hinstances hsize =>
    constructor
    · refine iff_of_false ?_ hsound
      rintro ⟨reason, hrefused⟩
      cases hresult.symm.trans hrefused
    · exact fun _ _ => iff_of_true ⟨fault, hfault, hresult⟩ hsize
    · exact fun _ hfits => absurd (hfits hinstances) (Nat.not_lt.2 hsize)
    · intro id after hbuilt
      cases hresult.symm.trans hbuilt
  | built cls hsound hsize hid hafter hsuperclass hshape =>
    constructor
    · refine iff_of_false ?_ hsound
      rintro ⟨reason, hrefused⟩
      cases hresult.symm.trans hrefused
    · intro _ hinstances
      refine iff_of_false ?_ (Nat.not_le.2 (hsize hinstances))
      rintro ⟨fault, -, hfault⟩
      cases hresult.symm.trans hfault
    · exact fun _ _ => ⟨_, _, hresult⟩
    · intro id after hbuilt
      cases hresult.symm.trans hbuilt
      rw [shape?, get?_of_push hafter, if_pos hid, Option.map_some, hshape]

/-- Builds blueprints one after the other; one that is not built leaves nothing behind. -/
def buildAll (classes : Hierarchy) : List Blueprint → Hierarchy
  | [] => classes
  | blueprint :: blueprints =>
    match classes.build blueprint with
    | .ok (_, after) => after.buildAll blueprints
    | .error _ => classes.buildAll blueprints

theorem Made.buildAll (h : classes.Made) (blueprints : List Blueprint) :
    (classes.buildAll blueprints).Made := by
  induction blueprints generalizing classes with
  | nil => exact h
  | cons blueprint blueprints ih =>
    rw [Hierarchy.buildAll]
    split
    · rename_i hbuild
      exact ih (h.build hbuild)
    · exact ih h

/-- However classes were built, the instances of each are laid out soundly, and what is built next
    comes out as exact arithmetic says. -/
theorem layout_sound (h : classes.Made) :
    (∀ id, classes.isInstances id → classes.Layered id) ∧
      ∀ blueprint, classes.BuildsExactly blueprint :=
  ⟨fun _ hid => h.layered hid, classes.buildsExactly⟩

/-- A chain of three classes.  The primitive bytes in its middle do not fill a word, and a
    refused blueprint stands in between. -/
def paddedClasses : Hierarchy :=
  Hierarchy.buildAll {} [
    { name := "Object" },
    { name := "Loose", referenceFields := 1 },
    { name := "Padded", superclass := some 0, referenceFields := 2, primitiveBytes := 4 },
    { name := "Leaf", superclass := some 1, referenceFields := 1, primitiveBytes := 9 }]

/-- The last word of the word range is the first that an instance cannot end at. -/
theorem layout_sound_padded :
    (paddedClasses.Made ∧ paddedClasses.chain 2 = [2, 1, 0] ∧
      (paddedClasses.fields 2).slot 0 = ⟨48, 64⟩ ∧ paddedClasses.instanceSize 2 = 80 ∧
      Blueprint.exactSize
        { name := "Huge", superclass := some 2, primitiveBytes := wordLimit - 87 }
        paddedClasses = wordLimit) ∧
      (∀ id, paddedClasses.isInstances id → paddedClasses.Layered id) ∧
        ∀ blueprint, paddedClasses.BuildsExactly blueprint :=
  ⟨⟨Made.empty.buildAll _, by decide, by decide, by decide, by decide⟩,
    layout_sound (Made.empty.buildAll _)⟩

end Hierarchy

end ManagedRuntime
