/-
  Twin machines
  =============
  Two machines over the same classes that agree on what their roots reach, and on what a few
  further references reach that the program got last (`Machine.Twins`).  They may have
  collected at different times.

  Actions that make objects run alike on twins (`Machine.InStep`): they succeed or fail
  together, give the same names and leave twins.  For arrays of several dimensions this
  holds although each machine may collect anywhere in between.
-/
import ManagedRuntime.Proofs.Heap.Agreement
import ManagedRuntime.Proofs.Machine.Construction

namespace ManagedRuntime

namespace Machine

variable {first second left right : Machine} {hard : Nat} {grip less : List Ref} {id : ObjectId}

/-- What the roots and the references in hand reach. -/
def Reaches (machine : Machine) (grip : List Ref) : ObjectId → Prop :=
  machine.heap.Reaches machine.classes.objectModel (machine.heap.rootRefs ++ grip)

/-- A reference that the program still has: null, or to what is reached. -/
def Holds (machine : Machine) (grip : List Ref) (ref : Ref) : Prop :=
  ∀ id, ref = some id → machine.Reaches grip id

theorem holds_of_mem {machine : Machine} : ∀ ref ∈ grip, machine.Holds grip ref := by
  rintro ref href id rfl
  exact .root (List.mem_append_right _ href)

theorem holds_of_mem_rootRefs {machine : Machine} {ref : Ref}
    (href : ref ∈ machine.heap.rootRefs) : machine.Holds grip ref := by
  rintro id rfl
  exact .root (List.mem_append_left _ href)

/-- Two machines with the same classes that agree on what the roots and the references in
    hand reach. -/
structure Twins (hard : Nat) (grip : List Ref) (first second : Machine) : Prop where
  classes_eq : second.classes = first.classes
  table_eq : second.table = first.table
  sound : first.Sound
  sound' : second.Sound
  steady : first.heap.Steady hard
  steady' : second.heap.Steady hard
  /-- What is in hand is an object. -/
  live : ∀ ref ∈ grip, first.heap.Admits ref
  agree : first.heap.Agree first.classes.objectModel grip second.heap

namespace Twins

theorem isSome_of_reaches (h : Twins hard grip first second) (hid : first.Reaches grip id) :
    (first.heap.get? id).isSome := by
  apply h.sound.closed.isSome_of_reaches _ hid
  intro ref href
  rcases List.mem_append.1 href with hroot | hgrip
  · exact h.sound.closed.roots ref hroot
  · exact h.live ref hgrip

theorem admits (h : Twins hard grip first second) {ref : Ref} (href : first.Holds grip ref) :
    first.heap.Admits ref :=
  fun id hid => h.isSome_of_reaches (href id hid)

theorem get?_eq (h : Twins hard grip first second) (hid : first.Reaches grip id) :
    second.heap.get? id = first.heap.get? id :=
  h.agree.get?_eq id hid

theorem data?_eq (h : Twins hard grip first second) (hid : first.Reaches grip id) :
    second.heap.data? id = first.heap.data? id := by
  rw [Heap.data?, h.get?_eq hid, Heap.data?]

theorem admits' (h : Twins hard grip first second) {ref : Ref} (href : first.Holds grip ref) :
    second.heap.Admits ref := by
  intro id hid
  rw [h.get?_eq (href id hid)]
  exact h.isSome_of_reaches (href id hid)

/-- Other references may be in hand, as long as they are still held. -/
theorem regrip (h : Twins hard grip first second) (hless : ∀ ref ∈ less, first.Holds grip ref) :
    Twins hard less first second :=
  { h with
    live := fun ref href => h.admits (hless ref href)
    agree := h.agree.regrip fun id hid => hless _ hid id rfl }

theorem drop (h : Twins hard grip first second) : Twins hard [] first second :=
  h.regrip nofun

/-- New classes make no difference. -/
theorem grow (h : Twins hard grip first second) {classes : Hierarchy}
    (hclasses : classes.WellFormed) (hgrown : first.classes.Extends classes) :
    Twins hard grip (first.withClasses classes) (second.withClasses classes) where
  classes_eq := rfl
  table_eq := h.table_eq
  sound := h.sound.grow hclasses hgrown
  sound' := h.sound'.grow hclasses (h.classes_eq ▸ hgrown)
  steady := h.steady
  steady' := h.steady'
  live := h.live
  agree := h.agree.congr_model (h.sound.refs_eq hgrown)

/-- Roots and variables may change together, to what is still reached. -/
theorem reroot (h : Twins hard grip first second) {heap : Heap Storage}
    (hheap : first.heap.Rerooted (first.Holds grip) heap)
    (hless : ∀ ref ∈ less, first.Holds grip ref) :
    Twins hard less { first with heap }
      { second with heap := { second.heap with roots := heap.roots, cells := heap.cells } } where
  classes_eq := h.classes_eq
  table_eq := h.table_eq
  sound := h.sound.reroot (hheap.mono fun _ => h.admits)
  sound' := by
    refine h.sound'.reroot ⟨rfl, ?_⟩
    intro ref href
    rw [h.agree.rootRefs_eq]
    exact (hheap.refs ref href).imp_right h.admits'
  steady := by
    rw [hheap.eq]
    exact h.steady.reroot heap.roots heap.cells
  steady' := h.steady'.reroot heap.roots heap.cells
  live := by
    intro ref href id hid
    rw [Heap.get?, hheap.store_eq]
    exact h.admits (hless ref href) id hid
  agree := by
    refine Heap.Agree.reroot h.agree hheap.store_eq rfl rfl rfl ?_
    intro id hid
    rcases List.mem_append.1 hid with hroot | hgrip
    · rcases hheap.refs _ hroot with hold | hheld
      · exact .root (List.mem_append_left _ hold)
      · exact hheld id rfl
    · exact hless _ hgrip id rfl

theorem updateStorage (h : Twins hard grip first second) {change : Storage → Storage}
    (hsound : (first.updateStorage id change).Sound)
    (hsound' : (second.updateStorage id change).Sound)
    (hrefs : ∀ storage, first.heap.data? id = some storage → first.Reaches grip id →
      ∀ ref ∈ (change storage).refs first.classes, first.Holds grip ref) :
    Twins hard grip (first.updateStorage id change) (second.updateStorage id change) where
  classes_eq := h.classes_eq
  table_eq := h.table_eq
  sound := hsound
  sound' := hsound'
  steady := h.steady.modifyData id change
  steady' := h.steady'.modifyData id change
  live ref href := (Heap.admits_modifyData_iff id change).2 (h.live ref href)
  agree := by
    apply h.agree.modifyData
    intro before hbefore next hnext hid
    exact hrefs before.data (data?_of_get? hbefore) hid (some next) hnext next rfl

/-- A store of a reference that is still held leaves twins. -/
theorem store (h : Twins hard grip first second) {kind : Kind} {offset : Nat}
    {value : kind.Value} (hid : first.Reaches grip id)
    (hplace : ∀ storage, first.heap.data? id = some storage →
      storage.IsPlace first.classes offset)
    (hvalue : first.Holds grip (kind.refOf value)) :
    Twins hard grip (first.updateStorage id (·.write kind offset value))
      (second.updateStorage id (·.write kind offset value)) := by
  apply h.updateStorage
  · exact h.sound.store hplace (h.admits hvalue)
  · refine h.sound'.store ?_ (h.admits' hvalue)
    rw [h.data?_eq hid, h.classes_eq]
    exact hplace
  · intro storage hstorage _ ref href
    obtain ⟨object, hget, rfl⟩ := exists_of_data? hstorage
    rcases (hplace _ hstorage).refs_write href with hold | rfl | rfl
    · rintro next rfl
      refine Reachable.edge hid ?_
      rw [Heap.edges_of_get? hget]
      exact hold
    · exact nofun
    · exact hvalue

end Twins

/-! ### Actions that make objects -/

/-- Nothing was allocated in between, and nothing collected. -/
def Quiet (before after : Machine) : Prop :=
  after.heap.store.issued = before.heap.store.issued ∧
    after.heap.collections = before.heap.collections

instance (before after : Machine) : Decidable (before.Quiet after) :=
  inferInstanceAs (Decidable (_ ∧ _))

/-- Two runs of an action, from `first` and from `second`, have come to the same result and to
    twins.  Where the first one was quiet, nothing has happened in either. -/
structure InStep (hard : Nat) (first second : Machine)
    (left right : Except RuntimeError ObjectId × Machine) : Prop where
  result_eq : right.1 = left.1
  twins : Twins hard (Heap.made left.1) left.2 right.2
  still : first.Quiet left.2 → left.2 = first ∧ right.2 = second

variable {result : Except RuntimeError ObjectId}

theorem Makes.issued_lt (h : first.Makes (.ok id) left) :
    first.heap.store.issued < left.heap.store.issued :=
  Nat.lt_of_le_of_lt (h.fresh id rfl).1 (Store.lt_issued_of_isSome (h.fresh id rfl).2)

theorem Makes.live (h : first.Makes result left) :
    ∀ ref ∈ Heap.made result, left.heap.Admits ref := by
  intro ref href
  cases result with
  | error error => cases href
  | ok id =>
    rcases List.mem_singleton.1 href with rfl
    exact Heap.admits_some_iff.2 (h.fresh id rfl).2

theorem Twins.inStep_error (h : Twins hard grip first second) (error : RuntimeError) :
    InStep hard first second (.error error, first) (.error error, second) :=
  ⟨rfl, h.drop, fun _ => ⟨rfl, rfl⟩⟩

theorem Twins.allocate (h : Twins hard grip first second) (hhard : hard < wordLimit - 1)
    (bytes : Nat) :
    InStep hard first second ((allocate bytes).run first) ((allocate bytes).run second) := by
  have hmakes := h.sound.allocate bytes
  have hmakes' := h.sound'.allocate bytes
  obtain ⟨hresult, hagree, hstill⟩ := h.drop.agree.allocate h.steady h.steady' hhard
    h.sound.closed fun _ href => Storage.refs_of_blank (Storage.refAt_zeroed (dataSize bytes)) href
  rw [Machine.allocate, run_onHeap] at hmakes hmakes' ⊢
  rw [run_onHeap, h.classes_eq]
  rw [h.classes_eq] at hmakes'
  have hmade : Heap.made ((first.heap.allocate first.classes.objectModel bytes).1.mapError
      RuntimeError.allocation) =
      Heap.made (first.heap.allocate first.classes.objectModel bytes).1 := by
    cases (first.heap.allocate first.classes.objectModel bytes).1 <;> rfl
  refine ⟨?_, ?_, ?_⟩
  · exact congrArg (·.mapError RuntimeError.allocation) hresult
  · exact {
      classes_eq := rfl
      table_eq := h.table_eq
      sound := hmakes.sound
      sound' := hmakes'.sound
      steady := h.steady.allocate hhard bytes
      steady' := h.steady'.allocate hhard bytes
      live := hmakes.toMakes.live
      agree := by
        dsimp only
        rw [hmade]
        exact hagree }
  · rintro ⟨hissued, hcollections⟩
    obtain ⟨hleft, hright⟩ := hstill hissued hcollections
    dsimp only
    rw [hleft, hright]
    exact ⟨rfl, by rw [← h.classes_eq]⟩

/-- Storage may be given its first contents on both machines. -/
theorem Twins.allocateAs (h : Twins hard grip first second) (hhard : hard < wordLimit - 1)
    {bytes : Nat} {change : Storage → Storage}
    (hformed : (change (.zeroed (dataSize bytes))).Formed first.classes)
    (hblank : ∀ offset, (change (.zeroed (dataSize bytes))).refAt offset = none) :
    InStep hard first second ((allocateAs bytes change).run first)
      ((allocateAs bytes change).run second) := by
  have hstep := h.allocate hhard bytes
  have hzeroed := h.sound.allocate bytes
  have hsound := (h.sound.allocateAs hformed hblank).sound
  have hsound' := (h.sound'.allocateAs (h.classes_eq ▸ hformed) hblank).sound
  rw [run_allocateAs] at hsound hsound' ⊢
  rw [run_allocateAs]
  rcases hfirst : (Machine.allocate bytes).run first with ⟨result, left⟩
  rcases hsecond : (Machine.allocate bytes).run second with ⟨result', right⟩
  rw [hfirst] at hstep hzeroed hsound
  rw [hsecond] at hstep hsound'
  obtain rfl : result' = result := hstep.result_eq
  rcases result' with error | id
  · exact hstep
  refine ⟨rfl, ?_, ?_⟩
  · apply hstep.twins.updateStorage hsound hsound'
    rintro storage hstorage - ref href next rfl
    rw [hzeroed.data?_eq id rfl] at hstorage
    cases hstorage
    exact nomatch Storage.refs_of_blank hblank href
  · rintro ⟨hissued, -⟩
    have hnew := hzeroed.toMakes.issued_lt
    have hkept : (left.updateStorage id change).heap.store.issued = left.heap.store.issued :=
      Array.size_modify ..
    exact absurd (hkept.symm.trans hissued) (Nat.ne_of_gt hnew)

theorem Twins.newObject (h : Twins hard grip first second) (hhard : hard < wordLimit - 1)
    (classId : ClassId) :
    InStep hard first second ((newObject classId).run first) ((newObject classId).run second) := by
  rw [run_newObject, run_newObject, h.classes_eq]
  split
  · rename_i size fields hshape
    apply h.allocateAs hhard
    · exact (Storage.formed_zeroed _ _).setClass (lt_size_of_shape? hshape)
    · exact Storage.blank_setClass (Storage.refAt_zeroed _) classId
  · exact h.inStep_error _

end Machine

end ManagedRuntime
