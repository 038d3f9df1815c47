/-
  What arrays cost
  ================
  The bytes that the arrays of a construction take in all (`treeBytes`) and the slots that it needs
  on the shadow stack at once (`treeSlots`), both in closed form.  Of each level there are as many
  arrays as the lengths of the outer levels multiply to.  An outer array takes a slot for as long as
  its elements are made, so the deepest branch counts, and it ends at the first length of zero.

  The load of a machine (`Machine.load`) is what its roots reach, and what references reach that the
  program has at hand.  A new array of one level adds its own bytes to the load.
-/
import Mathlib.Algebra.BigOperators.Fin
import ManagedRuntime.Proofs.Heap.ExactAllocation
import ManagedRuntime.Proofs.Machine.NestedArrays

namespace ManagedRuntime

/-! ### Costs of a construction -/

/-- Bytes of an array, header and padding included. -/
def arrayBytes (kind : Kind) (length : Nat) : Nat :=
  totalBytes (kind.elementsOffset + length * kind.size)

/-- Bytes of the arrays of all levels for some lengths, outermost first.  The outer levels are of
    references. -/
def treeBytes (kind : Kind) (lengths : List Nat) : Nat :=
  ∑ depth : Fin lengths.length, (lengths.take depth).prod *
    arrayBytes (if depth + 1 < lengths.length then .reference else kind) lengths[depth]

/-- Slots for the arrays that are filled at once: one for each outer level that there are arrays
    of. -/
def treeSlots (lengths : List Nat) : Nat :=
  (List.range (lengths.length - 1)).countP fun depth => (lengths.take depth).all (0 < ·)

theorem treeBytes_singleton (kind : Kind) (length : Nat) :
    treeBytes kind [length] = arrayBytes kind length := by
  simp [treeBytes]

/-- Below an outer array hang as many trees as it is long. -/
theorem treeBytes_cons (kind : Kind) (length next : Nat) (lengths : List Nat) :
    treeBytes kind (length :: next :: lengths) =
      arrayBytes .reference length + length * treeBytes kind (next :: lengths) := by
  unfold treeBytes
  refine (Fin.sum_univ_succ _).trans ?_
  rw [Finset.mul_sum]
  congr 1
  · simp
  · apply Finset.sum_congr rfl
    intro depth _
    simp [Nat.mul_assoc]

/-- Elements are of two words at most, and so is what comes before them. -/
theorem Kind.arrayData_lt (kind : Kind) {length : Nat} (hlength : length < lengthLimit) :
    kind.elementsOffset + length * kind.size < wordLimit / 4 := by
  have hkind : kind.elementsOffset ≤ 16 ∧ kind.size ≤ 16 := by
    cases kind with
    | primitive kind => cases kind <;> decide
    | reference => decide
  have helements : length * kind.size ≤ length * 16 := Nat.mul_le_mul_left length hkind.2
  unfold lengthLimit at hlength
  unfold wordLimit
  omega

/-- No array is too big for one allocation. -/
theorem arrayBytes_le (kind : Kind) {length : Nat} (hlength : length < lengthLimit) :
    arrayBytes kind length ≤ largestAllocation := by
  have hdata := kind.arrayData_lt hlength
  unfold arrayBytes totalBytes dataSize nextMultiple largestAllocation headerSize objectAlignment
    wordLimit at *
  omega

theorem treeSlots_singleton (length : Nat) : treeSlots [length] = 0 :=
  rfl

theorem treeSlots_cons (length next : Nat) (lengths : List Nat) :
    treeSlots (length :: next :: lengths) =
      1 + if length = 0 then 0 else treeSlots (next :: lengths) := by
  unfold treeSlots
  rw [List.length_cons, List.length_cons, Nat.add_sub_cancel, List.range_succ_eq_map,
    List.countP_cons, List.countP_map, Nat.add_comm]
  by_cases hzero : length = 0
  · simp [hzero, Function.comp_def]
  · simp [hzero, Nat.pos_of_ne_zero hzero, Function.comp_def]

namespace Machine

variable {machine after : Machine} {id : ObjectId} {level : ArrayLevel} {classes : Hierarchy}
variable {hard : Nat} {grip : List Ref}

/-! ### The load of a machine -/

/-- Total bytes of what the roots reach, and some references at hand. -/
noncomputable def load (machine : Machine) (grip : List Ref) : Nat :=
  machine.heap.weight machine.classes.objectModel (machine.heap.rootRefs ++ grip)

theorem load_nil (machine : Machine) :
    machine.load [] = machine.heap.bytesInUse machine.classes.objectModel := by
  rw [load, List.append_nil, Heap.bytesInUse]

/-! ### New arrays of one level -/

theorem bytes?_of_short (hlength : level.length < lengthLimit) :
    level.bytes? = some (level.kind.elementsOffset + level.length * level.kind.size) := by
  have hdata := level.kind.arrayData_lt hlength
  unfold wordLimit at hdata
  have helements : mulWord? level.length level.kind.size =
      some (level.length * level.kind.size) := by
    refine mulWord?_eq_some_iff.2 ⟨?_, rfl⟩
    unfold wordLimit
    omega
  rw [ArrayLevel.bytes?, helements, Option.bind_eq_bind, Option.bind_some]
  refine addWord?_eq_some_iff.2 ⟨?_, Nat.add_comm ..⟩
  unfold wordLimit
  omega

/-- A machine in order that has its books within a hard limit and its shadow stack within the
    capacity, over a system that grants all storage. -/
structure Solvent (hard : Nat) (classes : Hierarchy) (machine : Machine) : Prop
    extends machine.Steady classes where
  books : machine.heap.Steady hard
  depth_le : machine.heap.roots.shadow.depth ≤ machine.heap.roots.shadow.capacity

/-- How an action that makes arrays of so many bytes in all, and that needs so many slots, comes
    out: it succeeds where there is room for both, and then the machine bears as much more. -/
structure Settles (hard bytes slots : Nat) (before : Machine)
    (answer : Except RuntimeError ObjectId) (after : Machine) : Prop
    extends before.Makes answer after where
  shaped : after.ShapedOver before.classes
  books : after.heap.Steady hard
  granted : ∀ id, answer = .ok id →
    before.load [] + bytes ≤ hard ∧
      before.heap.roots.shadow.depth + slots ≤ before.heap.roots.shadow.capacity ∧
      after.load [some id] = before.load [] + bytes
  refused : ∀ error, answer = .error error →
    hard < before.load [] + bytes ∨
      before.heap.roots.shadow.capacity < before.heap.roots.shadow.depth + slots

theorem Settles.solvent {bytes slots : Nat} {answer : Except RuntimeError ObjectId}
    (h : machine.Settles hard bytes slots answer after) (hmachine : machine.Solvent hard classes) :
    after.Solvent hard classes where
  sound := h.sound
  shaped := by
    rw [← hmachine.shaped.classes_eq]
    exact h.shaped
  books := h.books
  depth_le := by
    rw [h.roots_eq]
    exact hmachine.depth_le

theorem books_allocateFlat (hhard : hard < wordLimit - 1) (level : ArrayLevel) :
    Action.Preserves (fun machine => machine.heap.Steady hard) (Machine.allocateFlat level) := by
  apply preserves_allocateFlat
  intro bytes _
  apply preserves_allocateAs
  · exact fun machine hbooks => hbooks.allocate hhard bytes
  · exact fun machine hbooks id => hbooks.modifyData id _

/-- What a new array refers to is nothing yet, so it weighs what its storage did. -/
theorem Sound.load_newArray (h : machine.Sound) {bytes : Nat} {heap : Heap Storage}
    (hallocate : machine.heap.allocate machine.classes.objectModel bytes = (.ok id, heap)) :
    (({ machine with heap }.updateStorage id fun storage =>
        (storage.setClass level.classId).setLength level.length).load [some id]) =
      machine.load [] + totalBytes bytes := by
  have hsupplies : machine.heap.Supplies machine.classes.objectModel bytes (.ok id) heap := by
    have hsupplies := Heap.supplies machine.classes.objectModel h.consistent bytes
    rwa [hallocate] at hsupplies
  obtain ⟨-, -, object, hget, hdata⟩ := hsupplies.placed id rfl
  have hstored : (heap.modifyData id fun storage =>
      (storage.setClass level.classId).setLength level.length).get? id =
        some { object with data := .newArray (dataSize bytes) level.classId level.length } := by
    rw [Heap.get?_modifyData, if_pos rfl, hget, Option.map_some, hdata]
    rfl
  have hzeroed : ∀ ref ∈ (Storage.zeroed (dataSize bytes)).refs machine.classes, ref = none :=
    fun _ href => Storage.refs_of_blank (Storage.refAt_zeroed (dataSize bytes)) href
  rw [load_nil, ← Heap.weight_allocate h.consistent h.closed hzeroed hallocate]
  apply Heap.weight_modifyData_of_refs hsupplies.consistent
  intro next
  constructor
  · intro hnext
    rw [Heap.edges_of_get? hstored] at hnext
    cases Storage.refs_of_blank (blank_arrayOf_zeroed level _) hnext
  · intro hnext
    rw [Heap.edges_of_get? hget, hdata] at hnext
    cases hzeroed _ hnext

theorem run_allocateFlat_of_short (machine : Machine) (hlength : level.length < lengthLimit) :
    (allocateFlat level).run machine =
      match machine.heap.allocate machine.classes.objectModel
        (level.kind.elementsOffset + level.length * level.kind.size) with
      | (.ok id, heap) => (.ok id, { machine with heap }.updateStorage id fun storage =>
          (storage.setClass level.classId).setLength level.length)
      | (.error error, heap) => (.error (.allocation error), { machine with heap }) := by
  rw [run_allocateFlat, bytes?_of_short hlength]
  dsimp only
  rw [run_allocateAs, allocate, run_onHeap]
  rcases machine.heap.allocate machine.classes.objectModel
    (level.kind.elementsOffset + level.length * level.kind.size) with ⟨error | id, heap⟩
  · rfl
  · rfl

theorem Solvent.allocateFlat (h : machine.Solvent hard classes) (hhard : hard < wordLimit - 1)
    (hsuits : level.Suits classes) (hlength : level.length < lengthLimit) :
    machine.Settles hard (arrayBytes level.kind level.length) 0
      ((Machine.allocateFlat level).run machine).1
      ((Machine.allocateFlat level).run machine).2 := by
  have hlevel : level.classId < machine.classes.size := by
    rw [h.shaped.classes_eq]
    exact hsuits.lt_size
  have hmakes := h.sound.allocateFlat hlevel
  have hshaped := shapedOver_allocateFlat hsuits machine h.shaped
  have hbooks := books_allocateFlat hhard level machine h.books
  have hle : arrayBytes level.kind level.length ≤ largestAllocation :=
    arrayBytes_le level.kind hlength
  have hfits := (h.books.exactAllocation hhard h.sound.closed
    (level.kind.elementsOffset + level.length * level.kind.size)).ok_iff
  rw [h.books.hard_eq, ← load_nil] at hfits
  rw [← h.shaped.classes_eq] at hshaped
  rw [run_allocateFlat_of_short machine hlength] at hmakes hshaped hbooks ⊢
  rcases hallocate : machine.heap.allocate machine.classes.objectModel
    (level.kind.elementsOffset + level.length * level.kind.size) with ⟨error | id, heap⟩
  · rw [hallocate] at hmakes hshaped hbooks hfits
    refine { hmakes with shaped := hshaped, books := hbooks, granted := nofun, refused := ?_ }
    rintro _ ⟨⟩
    by_cases hroom : machine.load [] + arrayBytes level.kind level.length ≤ hard
    · obtain ⟨id, ⟨⟩⟩ := hfits.2 ⟨hle, hroom⟩
    · exact .inl (Nat.not_le.1 hroom)
  · rw [hallocate] at hmakes hshaped hbooks hfits
    refine { hmakes with shaped := hshaped, books := hbooks, granted := ?_, refused := nofun }
    rintro _ ⟨⟩
    exact ⟨(hfits.1 ⟨id, rfl⟩).2, h.depth_le, h.sound.load_newArray hallocate⟩

end Machine

end ManagedRuntime
