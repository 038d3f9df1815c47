/-
  The zoo
  =======
  A small class hierarchy to try a machine on:

      root class
      └─ Animal        one reference field
         ├─ Dog        two reference fields, implements Pet
         │  └─ Puppy   one reference field
         └─ Cat        no fields, implements Pet and Walker

  It takes a root class that has instances and leaves room for more fields.
-/
import ManagedRuntime.Machine.Describe

namespace ManagedRuntime

structure Zoo where
  pet : ClassId
  walker : ClassId
  animal : ClassId
  dog : ClassId
  puppy : ClassId
  cat : ClassId
  deriving DecidableEq, Repr

namespace Zoo

/-- A method that nothing calls. -/
def method : Method := 0

def build (machine : Machine) : Except BuildError (Zoo × Machine) := do
  let root := machine.rootClass
  let (pet, machine) ← machine.build { name := "Pet", isInterface := true }
  let (walker, machine) ← machine.build { name := "Walker", isInterface := true }
  let (animal, machine) ← machine.build {
    name := "Animal"
    superclass := some root
    referenceFields := 1
    primitiveBytes := 4
    methods := [method] }
  let (dog, machine) ← machine.build {
    name := "Dog"
    superclass := some animal
    referenceFields := 2
    implemented := [(pet, [method])] }
  let (puppy, machine) ← machine.build {
    name := "Puppy"
    superclass := some dog
    referenceFields := 1 }
  let (cat, machine) ← machine.build {
    name := "Cat"
    superclass := some animal
    implemented := [(pet, [method]), (walker, [method, method])] }
  let machine := [pet, walker, animal, dog, puppy, cat].foldl Machine.register machine
  return ({ pet, walker, animal, dog, puppy, cat }, machine)

def failureReport : BuildError → String
  | .refused name reason =>
    "called `Result::unwrap()` on an `Err` value: " ++ describeRefusal name reason
  | .fault fault => fault.message

/-- All classes of the zoo in the order in which they are built. -/
def all (zoo : Zoo) : List ClassId :=
  [zoo.pet, zoo.walker, zoo.animal, zoo.dog, zoo.puppy, zoo.cat]

/-- The instance classes, the root class first. -/
def instanceClasses (zoo : Zoo) (machine : Machine) : List ClassId :=
  [machine.rootClass, zoo.animal, zoo.dog, zoo.puppy, zoo.cat]

end Zoo

end ManagedRuntime
