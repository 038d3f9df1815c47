/-
  Class blueprints
  ================
  A blueprint says what a new instance class or interface declares; `build` lays it
  out behind its superclass and adds the descriptor to the hierarchy.

  The own reference fields start where the superclass's instances end, or after the
  class word for a class without one; the primitive bytes follow, and the whole is
  rounded up to words.  A blueprint that contradicts itself or its superclass is
  refused; sizes that leave the word range are a fault.
-/
import ManagedRuntime.Class.Hierarchy

namespace ManagedRuntime

structure Blueprint where
  name : String
  isInterface : Bool := false
  superclass : Option ClassId := none
  /-- How many reference fields the class declares. -/
  referenceFields : Nat := 0
  /-- Bytes of other fields, which follow the reference fields. -/
  primitiveBytes : Nat := 0
  methods : List Method := []
  /-- The interfaces it implements, each with the methods for calls through it. -/
  implemented : List (ClassId × List Method) := []
  initializer : Option Method := none
  deriving Repr

inductive BlueprintError where
  | superclassNotInstance
  | fieldsWithoutSuperclass
  | notAnInterface (name : String)
  | interfaceWithFields
  deriving DecidableEq, Repr

def BlueprintError.message : BlueprintError → String
  | .superclassNotInstance => "superclass is not an instance class"
  | .fieldsWithoutSuperclass => "reference fields need a superclass"
  | .notAnInterface name => name ++ " is not an interface"
  | .interfaceWithFields => "interfaces have no instance fields"

namespace Blueprint

/-- What is wrong with a blueprint, the first fault found. -/
def defect? (blueprint : Blueprint) (classes : Hierarchy) : Option BlueprintError :=
  if blueprint.superclass.any (fun id => !(classes.get? id).any (·.kind == .instances)) then
    some .superclassNotInstance
  else if blueprint.superclass.isNone && !blueprint.isInterface
      && blueprint.referenceFields != 0 then
    some .fieldsWithoutSuperclass
  else match blueprint.implemented.find? (!classes.isInterface ·.1) with
    | some (id, _) => some (.notAnInterface (classes.name id))
    | none =>
      if blueprint.isInterface
          && (blueprint.referenceFields != 0 || blueprint.primitiveBytes != 0) then
        some .interfaceWithFields
      else none

def fieldsOffset (blueprint : Blueprint) (classes : Hierarchy) : Nat :=
  match blueprint.superclass.bind classes.get? with
  | some superclass => superclass.instanceSize
  | none => classWordSize

def layout (blueprint : Blueprint) (classes : Hierarchy) : FieldLayout where
  offset := blueprint.fieldsOffset classes
  count := blueprint.referenceFields

/-- Bytes of an instance: the own fields, the primitive bytes behind them, and the
    padding to whole words. -/
def instanceSize (blueprint : Blueprint) (classes : Hierarchy) : Except Fault Nat := do
  let fieldsEnd ← (blueprint.layout classes).wordEnd
  let bytes ← addWord fieldsEnd blueprint.primitiveBytes
  alignUp bytes pointerSize

def shape (blueprint : Blueprint) (classes : Hierarchy) : Except Fault ClassShape :=
  if blueprint.isInterface then .ok .interface
  else do
    let size ← blueprint.instanceSize classes
    return .instances size (blueprint.layout classes)

/-- The entries for the implemented interfaces, each with a new table. -/
def entries (implemented : List (ClassId × List Method)) (classes : Hierarchy) :
    List InterfaceEntry × Hierarchy :=
  match implemented with
  | [] => ([], classes)
  | (interface, methods) :: rest =>
    let (table, classes) := classes.newTable methods
    let (others, classes) := entries rest classes
    (⟨interface, table⟩ :: others, classes)

def addTo (blueprint : Blueprint) (shape : ClassShape) (classes : Hierarchy) :
    ClassId × Hierarchy :=
  let (interfaces, classes) := entries blueprint.implemented classes
  let (table, classes) := classes.newTable blueprint.methods
  classes.push {
    name := blueprint.name
    shape, table, interfaces
    superclass := blueprint.superclass
    initializer := blueprint.initializer }

end Blueprint

/-- How building a class can end without one. -/
inductive BuildError where
  | refused (name : String) (reason : BlueprintError)
  | fault (fault : Fault)
  deriving DecidableEq, Repr

def Hierarchy.build (classes : Hierarchy) (blueprint : Blueprint) :
    Except BuildError (ClassId × Hierarchy) :=
  match blueprint.defect? classes with
  | some reason => .error (.refused blueprint.name reason)
  | none =>
    match blueprint.shape classes with
    | .error fault => .error (.fault fault)
    | .ok shape => .ok (blueprint.addTo shape classes)

end ManagedRuntime
