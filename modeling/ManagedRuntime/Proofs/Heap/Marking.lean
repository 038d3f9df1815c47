/-
  The mark phase
  ==============
  A mark phase that starts on clear marks traces exactly the objects that its
  references reach, each once, and changes nothing but mark bits.

  The invariant (`Marking.Progress`) says what holds between any two references that
  the phase looks at.  `owed` are the references it has taken up and not looked at
  yet: while an object is traced they are the rest of its references, and between
  two objects there are none.
-/
import ManagedRuntime.Proofs.Heap.Reachability

namespace ManagedRuntime

namespace Marking

variable {α : Type}

/-- The objects that the phase has met so far. -/
def found (marking : Marking α) : List ObjectId :=
  marking.waiting ++ marking.traced

/-- What holds throughout a mark phase from `refs` over a store with clear marks. -/
structure Progress (model : ObjectModel α) (before : Store α) (refs owed : List Ref)
    (marking : Marking α) : Prop where
  /-- Only marks have changed, and the marked objects are those that were found. -/
  get?_eq : ∀ id, marking.store.get? id =
    (before.get? id).map ({ · with marked := decide (id ∈ marking.found) })
  issued_eq : marking.store.issued = before.issued
  nodup : marking.found.Nodup
  live : ∀ id ∈ marking.found, (before.get? id).isSome
  reached : ∀ id ∈ marking.found, Reachable (refsOf model before) refs id
  owed_reached : ∀ id, some id ∈ owed → Reachable (refsOf model before) refs id
  /-- No root is forgotten. -/
  roots : ∀ id, some id ∈ refs → (before.get? id).isSome → some id ∈ owed ∨ id ∈ marking.found
  /-- No reference of a traced object is forgotten. -/
  edges : ∀ id ∈ marking.traced, ∀ next, some next ∈ refsOf model before id →
    (before.get? next).isSome → some next ∈ owed ∨ next ∈ marking.found

variable {model : ObjectModel α} {before : Store α} {refs owed : List Ref} {marking : Marking α}

/-- A name can be marked if it has an object that was not found yet. -/
theorem Progress.isUnmarked_iff (h : Progress model before refs owed marking) (id : ObjectId) :
    marking.store.isUnmarked id ↔ (before.get? id).isSome ∧ id ∉ marking.found := by
  unfold Store.isUnmarked
  rw [h.get?_eq id]
  cases before.get? id <;> simp

theorem Progress.start (hclear : ∀ id object, before.get? id = some object →
    object.marked = false) : Progress model before refs refs { store := before } where
  get?_eq id := by
    change before.get? id = (before.get? id).map ({ · with marked := false })
    rcases hget : before.get? id with _ | object
    · rfl
    · rw [Option.map_some, ← hclear id object hget]
  issued_eq := rfl
  nodup := List.nodup_nil
  live := nofun
  reached := nofun
  owed_reached _ hmem := .root hmem
  roots _ hmem _ := .inl hmem
  edges := nofun

/-- Looking at a reference settles it. -/
theorem Progress.visit {ref : Ref} (h : Progress model before refs (ref :: owed) marking) :
    Progress model before refs owed (marking.visit ref) := by
  rcases ref with _ | id
  · -- null is owed to nobody
    exact { h with
      owed_reached := fun id hmem => h.owed_reached id (.tail _ hmem)
      roots := fun id hmem hlive =>
        (h.roots id hmem hlive).imp_left fun howed => by simpa using howed
      edges := fun id hid next hmem hlive =>
        (h.edges id hid next hmem hlive).imp_left fun howed => by simpa using howed }
  by_cases hfresh : marking.store.isUnmarked id
  · obtain ⟨hlive, hnew⟩ := (h.isUnmarked_iff id).1 hfresh
    rw [Marking.visit, if_pos hfresh]
    -- an owed reference is either the one that is found now or still owed
    have hsettled : ∀ next, some next ∈ some id :: owed ∨ next ∈ marking.found →
        some next ∈ owed ∨ next ∈ id :: marking.found := by
      intro next hnext
      simp only [List.mem_cons, Option.some.injEq] at hnext ⊢
      grind
    refine ⟨fun other => ?_, ?_, List.nodup_cons.2 ⟨hnew, h.nodup⟩, ?_, ?_,
      fun next hmem => h.owed_reached next (.tail _ hmem),
      fun next hmem hlive => hsettled next (h.roots next hmem hlive),
      fun start hstart next hmem hlive => hsettled next (h.edges start hstart next hmem hlive)⟩
    · change (marking.store.mark id).get? other =
        (before.get? other).map ({ · with marked := decide (other ∈ id :: marking.found) })
      rw [Store.mark, Store.get?_modify, h.get?_eq other]
      by_cases hother : id = other
      · subst hother
        simp [Function.comp_def]
      · simp [hother, Ne.symm hother]
    · rw [← h.issued_eq]
      exact Array.size_modify
    · intro next hnext
      rcases List.mem_cons.1 hnext with rfl | hnext
      · exact hlive
      · exact h.live next hnext
    · intro next hnext
      rcases List.mem_cons.1 hnext with rfl | hnext
      · exact h.owed_reached next (List.mem_cons_self ..)
      · exact h.reached next hnext
  · rw [Marking.visit, if_neg hfresh]
    rw [h.isUnmarked_iff id] at hfresh
    -- an object that cannot be marked was found before
    have hsettled : ∀ next, (before.get? next).isSome →
        some next ∈ some id :: owed ∨ next ∈ marking.found →
        some next ∈ owed ∨ next ∈ marking.found := by
      intro next hlive hnext
      simp only [List.mem_cons, Option.some.injEq] at hnext
      grind
    exact { h with
      owed_reached := fun next hmem => h.owed_reached next (.tail _ hmem)
      roots := fun next hmem hlive => hsettled next hlive (h.roots next hmem hlive)
      edges := fun start hstart next hmem hlive =>
        hsettled next hlive (h.edges start hstart next hmem hlive) }

theorem Progress.visitAll (h : Progress model before refs owed marking) :
    Progress model before refs [] (marking.visitAll owed) := by
  induction owed generalizing marking with
  | nil => exact h
  | cons ref owed ih =>
    rw [Marking.visitAll, List.foldl_cons, ← Marking.visitAll]
    exact ih h.visit

/-- Asking an object for its references makes them owed. -/
theorem Progress.trace {id : ObjectId} {waiting : List ObjectId}
    (h : Progress model before refs [] marking) (hwaiting : marking.waiting = id :: waiting) :
    Progress model before refs (refsOf model marking.store id)
      { marking with waiting, traced := id :: marking.traced } := by
  have hperm : (waiting ++ id :: marking.traced).Perm marking.found := by
    rw [found, hwaiting]
    exact List.perm_middle
  have hid : id ∈ marking.found := hperm.mem_iff.1 (by simp)
  -- marks are no part of what an object holds
  have hrefs : ∀ start, refsOf model marking.store start = refsOf model before start := by
    intro start
    unfold refsOf
    rw [h.get?_eq start]
    cases before.get? start <;> rfl
  refine ⟨fun other => ?_, h.issued_eq, hperm.nodup_iff.2 h.nodup,
    fun next hnext => h.live next (hperm.mem_iff.1 hnext),
    fun next hnext => h.reached next (hperm.mem_iff.1 hnext), fun next hmem => ?_,
    fun next hmem hlive => .inr ?_, fun start hstart next hmem hlive => ?_⟩
  · change marking.store.get? other = _
    rw [h.get?_eq other]
    congr 1
    funext object
    congr 1
    exact decide_eq_decide.2 hperm.mem_iff.symm
  · rw [hrefs id] at hmem
    exact (h.reached id hid).edge hmem
  · have hfound := (h.roots next hmem hlive).resolve_left (by simp)
    exact hperm.mem_iff.2 hfound
  · rw [hrefs id]
    rcases List.mem_cons.1 hstart with rfl | hstart
    · exact .inl hmem
    · have hfound := (h.edges start hstart next hmem hlive).resolve_left (by simp)
      exact .inr (hperm.mem_iff.2 hfound)

theorem Progress.drain (h : Progress model before refs [] marking) :
    Progress model before refs [] (marking.drain model) ∧ (marking.drain model).waiting = [] := by
  induction marking using Marking.drain.induct model with
  | case1 marking hwaiting =>
    rw [Marking.drain]
    split
    · exact ⟨h, hwaiting⟩
    · simp_all
  | case2 marking id waiting hwaiting ih =>
    rw [Marking.drain]
    split
    · simp_all
    · rename_i first rest hrest
      obtain ⟨rfl, rfl⟩ : id = first ∧ waiting = rest := by
        simpa [hwaiting] using hrest
      exact ih (h.trace hwaiting).visitAll

/-! ### The whole phase -/

section Run

variable (model) (refs) (hclear : ∀ id object, before.get? id = some object → object.marked = false)
include hclear

/-- A mark phase never ends with work left. -/
theorem progress_run :
    Progress model before refs [] (run model before refs) ∧
      (run model before refs).waiting = [] :=
  (Progress.start hclear).visitAll.drain

theorem found_run : (run model before refs).found = (run model before refs).traced := by
  rw [found, (progress_run model refs hclear).2, List.nil_append]

/-- Exactly the objects that are reached are traced. -/
theorem mem_traced_run_iff (id : ObjectId) :
    id ∈ (run model before refs).traced ↔
      Reachable (refsOf model before) refs id ∧ (before.get? id).isSome := by
  obtain ⟨hprogress, -⟩ := progress_run model refs hclear
  have hfound := found_run model refs hclear
  constructor
  · intro hid
    rw [← hfound] at hid
    exact ⟨hprogress.reached id hid, hprogress.live id hid⟩
  · rintro ⟨hid, hlive⟩
    -- along the path from a root; only an object has a next reference
    induction hid with
    | root hmem =>
      rw [← hfound]
      exact (hprogress.roots _ hmem hlive).resolve_left (by simp)
    | @edge start next _ hmem ih =>
      have hstart : (before.get? start).isSome := by
        unfold refsOf at hmem
        cases hget : before.get? start with
        | none => simp [hget] at hmem
        | some object => rfl
      rw [← hfound]
      exact (hprogress.edges _ (ih hstart) _ hmem hlive).resolve_left (by simp)

theorem nodup_traced_run : (run model before refs).traced.Nodup := by
  rw [← found_run model refs hclear]
  exact (progress_run model refs hclear).1.nodup

/-- The phase marks what it traced and leaves the rest of every object alone. -/
theorem get?_run (id : ObjectId) :
    (run model before refs).store.get? id =
      (before.get? id).map
        ({ · with marked := decide (id ∈ (run model before refs).traced) }) := by
  rw [← found_run model refs hclear]
  exact (progress_run model refs hclear).1.get?_eq id

theorem issued_run : (run model before refs).store.issued = before.issued :=
  (progress_run model refs hclear).1.issued_eq

end Run

end Marking

end ManagedRuntime
