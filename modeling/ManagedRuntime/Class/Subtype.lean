/-
  Subtype tests
  =============
  A class is below itself and the classes of its chain.  Arrays of references
  follow their elements: an array class is below another exactly when its element
  class is below the other's.
-/
import ManagedRuntime.Class.Hierarchy

namespace ManagedRuntime.Hierarchy

/-- The subtype test on classes whose elements are nested at most `steps` deep. -/
def isSubclassWithin (classes : Hierarchy) : (steps : Nat) → (sup sub : ClassId) → Bool
  | 0, sup, sub => sup == sub
  | steps + 1, sup, sub =>
    sup == sub ||
      match classes.elementClass? sup, classes.elementClass? sub with
      | some supElement, some subElement => classes.isSubclassWithin steps supElement subElement
      | _, _ => (classes.chain sub).contains sup

/-- Whether `sub` is `sup` or derives from it.  An element class stands before its
    array class, so class `sub` is an array of at most `sub` levels. -/
def isSubclass (classes : Hierarchy) (sup sub : ClassId) : Bool :=
  classes.isSubclassWithin (sub + 1) sup sub

def implements (classes : Hierarchy) (id interface : ClassId) : Bool :=
  (classes.get? id).any (·.implements interface)

def isInstanceOf (classes : Hierarchy) (id target : ClassId) : Bool :=
  if classes.isInterface target then classes.implements id target
  else classes.isSubclass target id

end ManagedRuntime.Hierarchy
