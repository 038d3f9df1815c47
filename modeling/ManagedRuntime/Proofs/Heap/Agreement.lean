/-
  Agreement of two heaps
  ======================
  Two heaps that collect at different moments do not hold the same objects.  They agree
  (`Heap.Agree`) if they hold the same under every name that the roots reach, or that a
  list of further references reaches that the program still has at hand.

  Collections on either side do not disturb agreement.  Whether an allocation succeeds
  depends on the bytes that the roots reach and on the hard limit alone, so heaps that
  agree answer allocations alike (`Heap.Agree.allocate`).
-/
import ManagedRuntime.Proofs.Heap.Accounting
import ManagedRuntime.Proofs.Heap.Retention

namespace ManagedRuntime

namespace Heap

variable {α : Type} {model other : ObjectModel α} {heap first second : Heap α}
variable {first' second' : Heap α} {id : ObjectId} {extra less : List Ref} {hard size total : Nat}

/-- The second heap has the roots of the first one, and what these and some further
    references reach in the first one is the same in the second one. -/
structure Agree (model : ObjectModel α) (extra : List Ref) (first second : Heap α) : Prop where
  roots_eq : second.roots = first.roots
  cells_eq : second.cells = first.cells
  issued_eq : second.store.issued = first.store.issued
  get?_eq : ∀ id, first.Reaches model (first.rootRefs ++ extra) id → second.get? id = first.get? id

namespace Agree

theorem rootRefs_eq (h : first.Agree model extra second) : second.rootRefs = first.rootRefs := by
  rw [rootRefs, h.roots_eq, h.cells_eq, rootRefs]

theorem reaches_iff (h : first.Agree model extra second) (id : ObjectId) :
    second.Reaches model (second.rootRefs ++ extra) id ↔
      first.Reaches model (first.rootRefs ++ extra) id := by
  rw [h.rootRefs_eq]
  exact reaches_congr h.get?_eq

theorem symm (h : first.Agree model extra second) : second.Agree model extra first where
  roots_eq := h.roots_eq.symm
  cells_eq := h.cells_eq.symm
  issued_eq := h.issued_eq.symm
  get?_eq id hid := (h.get?_eq id ((h.reaches_iff id).1 hid)).symm

/-- Where no object is touched, the roots may change together to what was reached. -/
theorem reroot (h : first.Agree model extra second) (hfirst : first'.store = first.store)
    (hsecond : second'.store = second.store) (hroots : second'.roots = first'.roots)
    (hcells : second'.cells = first'.cells)
    (hreached : ∀ id, some id ∈ first'.rootRefs ++ less →
      first.Reaches model (first.rootRefs ++ extra) id) : first'.Agree model less second' where
  roots_eq := hroots
  cells_eq := hcells
  issued_eq := by rw [hfirst, hsecond, h.issued_eq]
  get?_eq id hid := by
    have hsame : first.Reaches model (first'.rootRefs ++ less) id := by
      refine (reaches_congr ?_).1 hid
      intro start _
      rw [get?, hfirst]
      rfl
    rw [get?, get?, hfirst, hsecond]
    exact h.get?_eq id (hsame.trans hreached)

/-- The program may have other references that were reached. -/
theorem regrip (h : first.Agree model extra second)
    (hless : ∀ id, some id ∈ less → first.Reaches model (first.rootRefs ++ extra) id) :
    first.Agree model less second := by
  apply h.reroot rfl rfl h.roots_eq h.cells_eq
  intro id hid
  rcases List.mem_append.1 hid with hroot | hextra
  · exact .root (List.mem_append_left _ hroot)
  · exact hless id hextra

/-- Two models that read the same references out of every object agree on agreement. -/
theorem congr_model (h : first.Agree model extra second)
    (hsame : ∀ id object, first.get? id = some object →
      other.refs object.data = model.refs object.data) : first.Agree other extra second where
  roots_eq := h.roots_eq
  cells_eq := h.cells_eq
  issued_eq := h.issued_eq
  get?_eq id hid := h.get?_eq id ((reaches_congr_model hsame).1 hid)

/-! ### Stores -/

/-- The same store of what is reached leaves the heaps in agreement. -/
theorem modifyData (h : first.Agree model extra second) {object : ObjectId} {change : α → α}
    (hrefs : ∀ before, first.get? object = some before →
      ∀ id, some id ∈ model.refs (change before.data) →
        first.Reaches model (first.rootRefs ++ extra) object →
        first.Reaches model (first.rootRefs ++ extra) id) :
    (first.modifyData object change).Agree model extra (second.modifyData object change) where
  roots_eq := h.roots_eq
  cells_eq := h.cells_eq
  issued_eq := by
    have hissued : ∀ heap : Heap α,
        (heap.modifyData object change).store.issued = heap.store.issued :=
      fun heap => Array.size_modify ..
    rw [hissued, hissued, h.issued_eq]
  get?_eq id hid := by
    have hreached : first.Reaches model (first.rootRefs ++ extra) id := by
      induction hid with
      | root hmem => exact .root hmem
      | @edge start next _ hmem ih =>
        obtain ⟨changed, hget, hnext⟩ := exists_of_mem_edges hmem
        rw [get?_modifyData] at hget
        split at hget
        · rename_i hsame
          subst hsame
          obtain ⟨before, hbefore, rfl⟩ := Option.map_eq_some_iff.1 hget
          exact hrefs before hbefore next hnext ih
        · exact ih.edge (by rwa [edges_of_get? hget])
    rw [get?_modifyData, get?_modifyData, h.get?_eq id hreached]

/-! ### Collections -/

theorem get?_eq_of_inUse (h : first.Agree model [] second) (hid : first.InUse model id) :
    second.get? id = first.get? id :=
  h.get?_eq id (by rwa [List.append_nil])

theorem inUse_iff (h : first.Agree model [] second) (id : ObjectId) :
    second.InUse model id ↔ first.InUse model id := by
  have hreaches := h.reaches_iff id
  rwa [List.append_nil, List.append_nil] at hreaches

/-- Whatever a heap does that keeps what is in use, it does not disturb agreement. -/
theorem keeps (h : first.Agree model [] second) (hkeeps : first.Keeps model first')
    (hroots : first'.roots = first.roots) (hcells : first'.cells = first.cells)
    (hissued : first'.store.issued = first.store.issued) : first'.Agree model [] second where
  roots_eq := h.roots_eq.trans hroots.symm
  cells_eq := h.cells_eq.trans hcells.symm
  issued_eq := h.issued_eq.trans hissued.symm
  get?_eq id hid := by
    have hrefs : first'.rootRefs = first.rootRefs := by
      rw [rootRefs, hroots, hcells, rootRefs]
    rw [List.append_nil, hrefs] at hid
    have hinUse : first.InUse model id := (reaches_congr hkeeps.get?_eq).1 hid
    rw [hkeeps.get?_eq id hinUse]
    exact h.get?_eq_of_inUse hinUse

theorem keeps_both (h : first.Agree model [] second) (hfirst : first.Keeps model first')
    (hsecond : second.Keeps model second') (hroots : first'.roots = first.roots)
    (hcells : first'.cells = first.cells)
    (hissued : first'.store.issued = first.store.issued)
    (hroots' : second'.roots = second.roots) (hcells' : second'.cells = second.cells)
    (hissued' : second'.store.issued = second.store.issued) :
    first'.Agree model [] second' :=
  ((h.keeps hfirst hroots hcells hissued).symm.keeps hsecond hroots' hcells' hissued').symm

theorem makeRoom (h : first.Agree model [] second) (hfirst : first.Consistent)
    (hsecond : second.Consistent) (total : Nat) :
    (first.makeRoom model total).Agree model [] (second.makeRoom model total) :=
  h.keeps_both (keeps_makeRoom hfirst total) (keeps_makeRoom hsecond total)
    (roots_makeRoom model first total).1 (roots_makeRoom model first total).2
    (issued_makeRoom hfirst total) (roots_makeRoom model second total).1
    (roots_makeRoom model second total).2 (issued_makeRoom hsecond total)

theorem collect (h : first.Agree model [] second) (hfirst : first.Consistent)
    (hsecond : second.Consistent) :
    (first.collect model).2.Agree model [] (second.collect model).2 :=
  h.keeps_both (keeps_collect hfirst) (keeps_collect hsecond) rfl rfl (issued_collect hfirst) rfl
    rfl (issued_collect hsecond)

theorem survivors_perm (h : first.Agree model [] second) (hfirst : first.Consistent)
    (hsecond : second.Consistent) :
    (first.survivors model).Perm (second.survivors model) := by
  refine (List.perm_ext_iff_of_nodup (hfirst.nodup.filter _) (hsecond.nodup.filter _)).2 ?_
  intro id
  rw [← survivors, ← survivors, mem_survivors_iff hfirst, mem_survivors_iff hsecond, h.inUse_iff]
  refine and_congr_right fun hid => ?_
  rw [h.get?_eq_of_inUse hid]

theorem used_collect_eq (h : first.Agree model [] second) (hfirst : first.Consistent)
    (hsecond : second.Consistent) :
    (second.collect model).2.used = (first.collect model).2.used := by
  rw [used_collect hfirst, used_collect hsecond,
    Store.bytesOf_perm _ (h.survivors_perm hfirst hsecond)]
  apply Store.bytesOf_congr
  intro id hid
  apply Store.sizeOf_congr
  apply h.get?_eq_of_inUse
  exact (h.inUse_iff id).1 ((mem_survivors_iff hsecond).1 hid).1

/-- The reports on a collection say alike what is left. -/
theorem collect_report_eq (h : first.Agree model [] second) (hfirst : first.Consistent)
    (hsecond : second.Consistent) :
    (second.collect model).1.remaining = (first.collect model).1.remaining ∧
      (second.collect model).1.heap = (first.collect model).1.heap := by
  have hlength := (h.survivors_perm hfirst hsecond).length_eq
  have hused := h.used_collect_eq hfirst hsecond
  rw [collect_eq hfirst, collect_eq hsecond] at hused ⊢
  exact ⟨hlength.symm, hused⟩

end Agree

/-! ### Steady heaps -/

/-- A heap within its hard limit, over a system that grants all storage. -/
structure Steady (hard : Nat) (heap : Heap α) : Prop extends heap.Accounted hard where
  grants : ∀ asked bytes, heap.system.grants asked bytes

variable {heap : Heap α}

theorem Steady.reroot (h : heap.Steady hard) (roots : Roots) (cells : Cells) :
    { heap with roots, cells }.Steady hard where
  toAccounted := h.toAccounted.of_eq rfl rfl rfl rfl rfl
  grants := h.grants

theorem Steady.modifyData (h : heap.Steady hard) (object : ObjectId) (change : α → α) :
    (heap.modifyData object change).Steady hard where
  toAccounted := h.toAccounted.modifyData object change
  grants := h.grants

theorem Steady.collect (h : heap.Steady hard) : (heap.collect model).2.Steady hard where
  toAccounted := h.toAccounted.collect
  grants := h.grants

/-! ### Allocations -/

/-- Making room may collect, and it does nothing else to the bytes in use. -/
theorem used_collect_le_makeRoom (hheap : heap.Consistent) (total : Nat) :
    (heap.collect model).2.used ≤ (heap.makeRoom model total).used := by
  by_cases htight : heap.wouldPass heap.limits.soft total
  · exact Nat.le_of_eq (congrArg used (makeRoom_of_wouldPass htight)).symm
  · rw [makeRoom_of_not_wouldPass htight]
    exact used_collect_le hheap

/-- An allocation succeeds if the bytes that the roots reach leave room for it. -/
theorem Steady.allocate_eq_ok (h : heap.Steady hard) (hhard : hard < wordLimit - 1)
    (htotal : totalSize? size = some total) (hle : total ≤ largestAllocation)
    (hroom : (heap.collect model).2.used + total ≤ hard) :
    heap.allocate model size =
      (.ok heap.store.issued,
        (heap.makeRoom model total).added total (model.zeroed (dataSize size))) := by
  rcases hallocate : heap.allocate model size with ⟨result, after⟩
  cases outcome_of_allocate h.toConsistent hallocate with
  | tooBig hbig => exact absurd (hbig total htotal) (Nat.not_lt.2 hle)
  | full htotal' hle' htight hpass =>
    obtain rfl := Option.some.inj (htotal.symm.trans htotal')
    rw [h.hard_eq, wouldPass_iff hhard, makeRoom_of_wouldPass htight] at hpass
    dsimp only at hpass
    omega
  | refused htotal' hle' hrefused =>
    rw [h.grants] at hrefused
    cases hrefused
  | uncountable htotal' hle' hroom' hcount =>
    have hused := h.used_add_le hhard hroom'
    omega
  | placed htotal' hle' hroom' hcount =>
    obtain rfl := Option.some.inj (htotal.symm.trans htotal')
    rfl

/-- It fails after a collection if they do not, and the error says how many they are. -/
theorem Steady.allocate_eq_full (h : heap.Steady hard) (hhard : hard < wordLimit - 1)
    (htotal : totalSize? size = some total) (hle : total ≤ largestAllocation)
    (hfull : hard < (heap.collect model).2.used + total) :
    heap.allocate model size =
        (.error (.outOfHeap total (heap.collect model).2.used hard), heap.makeRoom model total) ∧
      (heap.makeRoom model total).collections = heap.collections + 1 := by
  have hmade : (heap.collect model).2.used ≤ (heap.makeRoom model total).used :=
    used_collect_le_makeRoom h.toConsistent total
  rcases hallocate : heap.allocate model size with ⟨result, after⟩
  cases outcome_of_allocate h.toConsistent hallocate with
  | tooBig hbig => exact absurd (hbig total htotal) (Nat.not_lt.2 hle)
  | full htotal' hle' htight hpass =>
    obtain rfl := Option.some.inj (htotal.symm.trans htotal')
    constructor
    · rw [outOfHeap, hard_makeRoom, h.hard_eq, makeRoom_of_wouldPass htight]
    · rw [makeRoom_of_wouldPass htight]
      rfl
  | refused htotal' hle' hrefused =>
    rw [h.grants] at hrefused
    cases hrefused
  | uncountable htotal' hle' hroom' hcount =>
    have hused := h.used_add_le hhard hroom'
    omega
  | placed htotal' hle' hroom' hcount =>
    obtain rfl := Option.some.inj (htotal.symm.trans htotal')
    have hused := h.used_add_le hhard hroom'
    omega

theorem tooBig_or_total (size : Nat) :
    (∀ total, totalSize? size = some total → largestAllocation < total) ∨
      ∃ total, totalSize? size = some total ∧ total ≤ largestAllocation := by
  cases totalSize? size with
  | none => exact .inl nofun
  | some total =>
    rcases Nat.lt_or_ge largestAllocation total with hbig | hle
    · refine .inl ?_
      rintro _ ⟨⟩
      exact hbig
    · exact .inr ⟨total, rfl, hle⟩

theorem allocate_eq_tooBig (hheap : heap.Consistent)
    (hbig : ∀ total, totalSize? size = some total → largestAllocation < total) :
    heap.allocate model size = (.error .tooBig, heap) := by
  rcases hallocate : heap.allocate model size with ⟨result, after⟩
  cases outcome_of_allocate hheap hallocate with
  | tooBig _ => rfl
  | full htotal hle => exact absurd (hbig _ htotal) (Nat.not_lt.2 hle)
  | refused htotal hle => exact absurd (hbig _ htotal) (Nat.not_lt.2 hle)
  | uncountable htotal hle => exact absurd (hbig _ htotal) (Nat.not_lt.2 hle)
  | placed htotal hle => exact absurd (hbig _ htotal) (Nat.not_lt.2 hle)

theorem Steady.allocate (h : heap.Steady hard) (hhard : hard < wordLimit - 1) (size : Nat) :
    (heap.allocate model size).2.Steady hard where
  toAccounted := (h.toAccounted.allocate hhard size).1
  grants asked bytes := by
    have hsystem : (heap.allocate model size).2.system = heap.system := by
      rcases hallocate : heap.allocate model size with ⟨result, after⟩
      cases outcome_of_allocate h.toConsistent hallocate with
      | tooBig hbig => rfl
      | full htotal hle htight hfull => exact system_makeRoom ..
      | refused htotal hle hrefused => exact system_makeRoom ..
      | uncountable htotal hle hroom hcount => exact system_makeRoom ..
      | placed htotal hle hroom hcount => exact system_makeRoom ..
    rw [hsystem]
    exact h.grants asked bytes

def made {ε : Type} : Except ε ObjectId → List Ref
  | .ok id => [some id]
  | .error _ => []

/-- New storage that refers to nothing is reached by its own name only. -/
theorem Agree.added (h : first.Agree model [] second) (hclosed : first.Closed model) {data : α}
    (hdata : ∀ ref ∈ model.refs data, ref = none) (total : Nat) :
    (first.added total data).Agree model [some first.store.issued] (second.added total data) where
  roots_eq := h.roots_eq
  cells_eq := h.cells_eq
  issued_eq := by
    rw [Heap.added, Heap.added, Store.issued_push, Store.issued_push, h.issued_eq]
  get?_eq id hid := by
    have hcases : id = first.store.issued ∨ first.InUse model id := by
      induction hid with
      | root hmem =>
        rcases List.mem_append.1 hmem with hroot | hnew
        · exact .inr (.root hroot)
        · exact .inl (Option.some.inj (List.mem_singleton.1 hnew))
      | @edge start next _ hmem ih =>
        rcases ih with rfl | hstart
        · rw [edges_of_get? ((first.get?_added ..).trans (if_pos rfl))] at hmem
          cases hdata _ hmem
        · refine .inr (hstart.edge ?_)
          have hsame : (first.added total data).get? start = first.get? start :=
            get?_added_of_isSome (hclosed.isSome_of_inUse hstart)
          rwa [← edges_congr hsame]
    rcases hcases with rfl | hinUse
    · rw [get?_added, get?_added, if_pos rfl, if_pos h.issued_eq.symm]
    · have hlive : (first.get? id).isSome := hclosed.isSome_of_inUse hinUse
      have hsame : second.get? id = first.get? id := h.get?_eq_of_inUse hinUse
      rw [get?_added_of_isSome hlive, get?_added_of_isSome (by rwa [hsame]), hsame]

/-- Heaps that agree answer an allocation alike, agree afterwards, and have then either both
    done something or both nothing. -/
theorem Agree.allocate (h : first.Agree model [] second) (hfirst : first.Steady hard)
    (hsecond : second.Steady hard) (hhard : hard < wordLimit - 1) (hclosed : first.Closed model)
    (hzeroed : ∀ ref ∈ model.refs (model.zeroed (dataSize size)), ref = none) :
    (second.allocate model size).1 = (first.allocate model size).1 ∧
      (first.allocate model size).2.Agree model (made (first.allocate model size).1)
        (second.allocate model size).2 ∧
      ((first.allocate model size).2.store.issued = first.store.issued →
        (first.allocate model size).2.collections = first.collections →
        (first.allocate model size).2 = first ∧ (second.allocate model size).2 = second) := by
  rcases tooBig_or_total size with hbig | ⟨total, htotal, hle⟩
  · rw [allocate_eq_tooBig hfirst.toConsistent hbig, allocate_eq_tooBig hsecond.toConsistent hbig]
    exact ⟨rfl, h, fun _ _ => ⟨rfl, rfl⟩⟩
  have hmade : (first.makeRoom model total).Agree model [] (second.makeRoom model total) :=
    h.makeRoom hfirst.toConsistent hsecond.toConsistent total
  have hreached : (second.collect model).2.used = (first.collect model).2.used :=
    h.used_collect_eq hfirst.toConsistent hsecond.toConsistent
  have hissued : (first.makeRoom model total).store.issued = first.store.issued :=
    issued_makeRoom hfirst.toConsistent total
  by_cases hroom : (first.collect model).2.used + total ≤ hard
  · rw [hfirst.allocate_eq_ok hhard htotal hle hroom,
      hsecond.allocate_eq_ok hhard htotal hle (by rwa [hreached])]
    refine ⟨congrArg Except.ok h.issued_eq, ?_, ?_⟩
    · rw [made, ← hissued]
      exact hmade.added (hclosed.makeRoom hfirst.toConsistent total) hzeroed total
    · intro hsame
      rw [Heap.added, Store.issued_push, hissued] at hsame
      omega
  · have hfull : hard < (first.collect model).2.used + total := Nat.not_le.1 hroom
    obtain ⟨hanswer, hcollected⟩ := hfirst.allocate_eq_full hhard htotal hle hfull
    obtain ⟨hanswer', -⟩ := hsecond.allocate_eq_full hhard htotal hle (by rwa [hreached])
    rw [hanswer, hanswer', hreached]
    refine ⟨rfl, hmade, ?_⟩
    intro _ hsame
    dsimp only at hsame
    omega

end Heap

end ManagedRuntime
