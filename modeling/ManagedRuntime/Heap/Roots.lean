/-
  Roots
  =====
  The references from which a collection starts.  Two kinds of places hold them:

  * the shadow stack, which compiled code pushes and pops in frame order.  A slot
    of it is an operand, a value on its own, or names a local variable;
  * the static roots, variables registered once and never removed.

  A variable is a cell.  A root names the cell and not its contents, so a cell that
  is reassigned after it was registered counts with what it holds at the time of
  the collection (`Roots.current`).
-/
import Std.Data.TreeMap

namespace ManagedRuntime

/-- Names an object.  Names are given out in the order of allocation and never
    twice. -/
abbrev ObjectId := Nat

/-- A reference: an object, or null. -/
abbrev Ref := Option ObjectId

abbrev CellId := Nat

/-! ### Variables -/

/-- The variables outside the heap.  Each holds null until it is assigned. -/
structure Cells where
  contents : Std.TreeMap CellId Ref := ∅

namespace Cells

def read (cells : Cells) (cell : CellId) : Ref :=
  cells.contents.getD cell none

def write (cells : Cells) (cell : CellId) (ref : Ref) : Cells where
  contents := cells.contents.insert cell ref

theorem read_write (cells : Cells) (cell other : CellId) (ref : Ref) :
    (cells.write cell ref).read other = if cell = other then ref else cells.read other := by
  simp only [read, write, Std.TreeMap.getD_insert, Nat.compare_eq_eq]

end Cells

/-! ### Root errors -/

inductive RootError where
  | overflow
  | underflow
  | popMismatch
  | frameAboveDepth (mark depth : Nat)
  | tooManyRoots
  deriving DecidableEq, Repr

def RootError.message : RootError → String
  | .overflow => "Stack overflow"
  | .underflow => "Stack underflow"
  | .popMismatch => "Tried to pop a local cell"
  | .frameAboveDepth mark depth =>
    "Frame mark " ++ toString mark ++ " lies above the stack depth " ++ toString depth
  | .tooManyRoots => "Too many roots"

/-! ### The shadow stack -/

inductive RootSlot where
  /-- A computed value that is stored nowhere else yet. -/
  | operand (ref : Ref)
  /-- A local variable. -/
  | localCell (cell : CellId)
  deriving DecidableEq, Repr

/-- The reference that a slot keeps alive now. -/
def RootSlot.current (cells : Cells) : RootSlot → Ref
  | .operand ref => ref
  | .localCell cell => cells.read cell

/-- A stack of root slots with a fixed capacity.  It knows its depth without
    counting. -/
structure ShadowStack where
  /-- The slots, top of the stack first. -/
  slots : List RootSlot := []
  capacity : Nat
  depth : Nat := slots.length
  depth_eq : depth = slots.length := by rfl
  deriving DecidableEq, Repr

namespace ShadowStack

/-- Stacks of one capacity with the same slots are equal: the depth says nothing more. -/
theorem eq_of_slots_eq {first second : ShadowStack} (hslots : first.slots = second.slots)
    (hcapacity : first.capacity = second.capacity) : first = second := by
  obtain ⟨slots, capacity, depth, rfl⟩ := first
  obtain ⟨_, _, depth, rfl⟩ := second
  cases hslots
  cases hcapacity
  rfl

def bottomUp (stack : ShadowStack) : List RootSlot :=
  stack.slots.reverse

def push (stack : ShadowStack) (slot : RootSlot) : Except RootError ShadowStack :=
  if stack.depth = stack.capacity then .error .overflow
  else .ok {
    stack with
    slots := slot :: stack.slots
    depth := stack.depth + 1
    depth_eq := by rw [stack.depth_eq, List.length_cons] }

def pop (stack : ShadowStack) : Except RootError (Ref × ShadowStack) :=
  match _h : stack.slots with
  | [] => .error .underflow
  | .localCell _ :: _ => .error .popMismatch
  | .operand ref :: slots => .ok (ref, {
      stack with
      slots
      depth := stack.depth - 1
      depth_eq := by rw [stack.depth_eq, _h, List.length_cons, Nat.add_sub_cancel] })

/-- Drops every slot above depth `mark`. -/
def closeFrame (stack : ShadowStack) (mark : Nat) : Except RootError ShadowStack :=
  if h : stack.depth < mark then .error (.frameAboveDepth mark stack.depth)
  else .ok {
    stack with
    slots := stack.slots.drop (stack.depth - mark)
    depth := mark
    depth_eq := by rw [List.length_drop, ← stack.depth_eq]; omega }

theorem slots_of_push {stack pushed : ShadowStack} {slot : RootSlot}
    (h : stack.push slot = .ok pushed) : pushed.slots = slot :: stack.slots := by
  unfold push at h
  split at h
  · cases h
  · cases h; rfl

theorem slots_of_pop {stack popped : ShadowStack} {ref : Ref}
    (h : stack.pop = .ok (ref, popped)) : stack.slots = .operand ref :: popped.slots := by
  unfold pop at h
  split at h
  · cases h
  · cases h
  · cases h; assumption

theorem slots_of_closeFrame {stack closed : ShadowStack} {mark : Nat}
    (h : stack.closeFrame mark = .ok closed) :
    closed.slots = stack.slots.drop (stack.slots.length - mark) := by
  unfold closeFrame at h
  split at h
  · cases h
  · cases h; rw [← stack.depth_eq]

end ShadowStack

/-! ### Static roots and all roots -/

/-- The registered cells of static storage, in the order of registration, up to a
    fixed number. -/
structure StaticRoots where
  /-- The registered cells, the last one first. -/
  cells : List CellId := []
  capacity : Nat
  deriving DecidableEq, Repr

namespace StaticRoots

def size (statics : StaticRoots) : Nat :=
  statics.cells.length

def registered (statics : StaticRoots) : List CellId :=
  statics.cells.reverse

def add (statics : StaticRoots) (cell : CellId) : Except RootError StaticRoots :=
  if statics.size = statics.capacity then .error .tooManyRoots
  else .ok { statics with cells := cell :: statics.cells }

end StaticRoots

structure Roots where
  statics : StaticRoots
  shadow : ShadowStack
  deriving DecidableEq, Repr

namespace Roots

def empty (shadowSlots staticRoots : Nat) : Roots where
  statics := { capacity := staticRoots }
  shadow := { capacity := shadowSlots }

/-- The references that the roots hold now: the static ones in the order of
    registration, then the shadow stack from the bottom up. -/
def current (roots : Roots) (cells : Cells) : List Ref :=
  roots.statics.registered.map cells.read ++ roots.shadow.bottomUp.map (·.current cells)

end Roots

end ManagedRuntime
