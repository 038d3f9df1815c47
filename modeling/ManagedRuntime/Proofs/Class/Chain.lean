/-
  Superclass chains
  =================
  The chain of a class is the class followed by the chain of its superclass
  (`WellFormed.chain_of_some`), however many steps are allowed for it: superclasses stand
  before their subclasses, so a chain ends by itself.  `WellFormed.chain_induction` is
  induction along chains from their roots.  The members of a chain have chains that are parts
  of it, and of two members one stands in the chain of the other.
-/
import ManagedRuntime.Proofs.Class.Growth

namespace ManagedRuntime

namespace Hierarchy

variable {classes : Hierarchy} {id level other superclass : ClassId}

/-! ### Equations -/

/-- A class has fewer predecessors than its name says, so its chain ends within that many
    steps. -/
theorem WellFormed.chainWithin_eq (hclasses : classes.WellFormed) {steps : Nat}
    (hsteps : id < steps) : classes.chainWithin steps id = classes.chain id := by
  induction id using Nat.strongRecOn generalizing steps with
  | ind id ih =>
    cases steps with
    | zero => exact absurd hsteps (Nat.not_lt_zero id)
    | succ more =>
      rw [chain, chainWithin, chainWithin]
      cases hsuperclass : classes.superclass? id with
      | none => rfl
      | some superclass =>
        have hlt : superclass < id := hclasses.superclass?_lt hsuperclass
        have hmore : superclass < more := Nat.lt_of_lt_of_le hlt (Nat.le_of_lt_succ hsteps)
        dsimp only
        rw [ih superclass hlt hmore, ih superclass hlt hlt]

theorem chain_of_none (h : classes.superclass? id = none) : classes.chain id = [id] := by
  rw [chain, chainWithin, h]

theorem WellFormed.chain_of_some (hclasses : classes.WellFormed)
    (h : classes.superclass? id = some superclass) :
    classes.chain id = id :: classes.chain superclass := by
  rw [chain, chainWithin, h]
  dsimp only
  rw [hclasses.chainWithin_eq (hclasses.superclass?_lt h)]

@[simp] theorem mem_chain_self (classes : Hierarchy) (id : ClassId) : id ∈ classes.chain id := by
  rw [chain, chainWithin]
  exact .head _

/-! ### Induction -/

/-- What holds of a class without superclass, and of a class if it holds of its superclass,
    holds of every class. -/
theorem WellFormed.chain_induction (hclasses : classes.WellFormed) {motive : ClassId → Prop}
    (root : ∀ id, classes.superclass? id = none → motive id)
    (derived : ∀ id superclass, classes.superclass? id = some superclass → motive superclass →
      motive id) (id : ClassId) : motive id := by
  induction id using Nat.strongRecOn with
  | ind id ih =>
    cases hsuperclass : classes.superclass? id with
    | none => exact root id hsuperclass
    | some superclass =>
      exact derived id superclass hsuperclass
        (ih superclass (hclasses.superclass?_lt hsuperclass))

/-! ### Members -/

/-- A class is another class or has it among its superclasses, however far up. -/
inductive Inherits (classes : Hierarchy) : (id level : ClassId) → Prop where
  | refl (id : ClassId) : Inherits classes id id
  | derived {id superclass level : ClassId} : classes.superclass? id = some superclass →
      Inherits classes superclass level → Inherits classes id level

theorem WellFormed.mem_chain_iff (hclasses : classes.WellFormed) :
    level ∈ classes.chain id ↔ classes.Inherits id level := by
  constructor
  · intro hlevel
    induction id using hclasses.chain_induction with
    | root id hnone =>
      rw [chain_of_none hnone, List.mem_singleton] at hlevel
      rw [hlevel]
      exact .refl id
    | derived id superclass hsome ih =>
      rw [hclasses.chain_of_some hsome, List.mem_cons] at hlevel
      rcases hlevel with rfl | hlevel
      · exact .refl level
      · exact .derived hsome (ih hlevel)
  · intro hinherits
    induction hinherits with
    | refl id => exact mem_chain_self classes id
    | derived hsome _ ih =>
      rw [hclasses.chain_of_some hsome]
      exact .tail _ ih

theorem WellFormed.le_of_mem_chain (hclasses : classes.WellFormed)
    (h : level ∈ classes.chain id) : level ≤ id :=
  hclasses.le_of_mem_chainWithin h

/-- The chain of a member is a part of the chain. -/
theorem WellFormed.mem_chain_trans (hclasses : classes.WellFormed)
    (hother : other ∈ classes.chain level) (hlevel : level ∈ classes.chain id) :
    other ∈ classes.chain id := by
  induction id using hclasses.chain_induction with
  | root id hnone =>
    rw [chain_of_none hnone, List.mem_singleton] at hlevel
    rwa [← hlevel]
  | derived id superclass hsome ih =>
    rw [hclasses.chain_of_some hsome, List.mem_cons] at hlevel
    rcases hlevel with rfl | hlevel
    · exact hother
    · rw [hclasses.chain_of_some hsome]
      exact .tail _ (ih hlevel)

/-- Of two members of a chain one stands in the chain of the other. -/
theorem WellFormed.chain_connected (hclasses : classes.WellFormed)
    (hlevel : level ∈ classes.chain id) (hother : other ∈ classes.chain id) :
    other ∈ classes.chain level ∨ level ∈ classes.chain other := by
  induction id using hclasses.chain_induction with
  | root id hnone =>
    rw [chain_of_none hnone, List.mem_singleton] at hlevel hother
    rw [hlevel, hother]
    exact .inl (mem_chain_self _ _)
  | derived id superclass hsome ih =>
    have hchain := hclasses.chain_of_some hsome
    rw [hchain, List.mem_cons] at hlevel hother
    rcases hlevel with rfl | hlevel
    · left
      rw [hchain, List.mem_cons]
      exact hother
    rcases hother with rfl | hother
    · right
      rw [hchain]
      exact .tail _ hlevel
    · exact ih hlevel hother

end Hierarchy

end ManagedRuntime
