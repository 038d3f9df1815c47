/-
  The host process
  ================
  Compiled code calls into one process-wide machine.  Before it is started, and
  again after it is stopped, there is none, and every call that needs one ends the
  process.

  A call returns, or it hands an error object to the unwinder of the running
  program, or the process ends: on a fatal error, and on an error object when no
  unwinder was set.  An error object whose class names an initialiser is initialised
  first.  While the initialiser runs, the object stands on the shadow stack in a
  frame of its own.
-/
import ManagedRuntime.Machine.Operation
import ManagedRuntime.Settings.Basic
import ManagedRuntime.Text.Lines

namespace ManagedRuntime

/-! ### Initialisers -/

/-- Compiled code that calls into the machine a finite number of times, and may
    choose each call by the answers before. -/
inductive Program where
  | finish
  /-- Gives up with a fatal error. -/
  | fail (error : RuntimeError)
  | call (operation : Operation) (next : Reply → Program)

/-- What initialises an error object, given the object and its dispatch table. -/
abbrev Initializer := ObjectId → Option DispatchTable → Program

/-! ### The host -/

/-- What stays when a machine is stopped. -/
structure Remains where
  classes : Hierarchy := {}
  cells : Cells := {}
  /-- How many object names were given out. -/
  issued : Nat := 0

inductive Installed where
  | none (remains : Remains)
  | machine (machine : Machine)

/-- What a process does that shows outside. -/
inductive Event where
  /-- A report is printed, on a line or more. -/
  | printed (report : String)
  /-- The initialiser of an error object starts. -/
  | initializing (object : ObjectId) (table : Option DispatchTable)
  /-- A call of the initialiser is answered. -/
  | answered (reply : Reply)

/-- The lines of an event's report that begin like a report. -/
def Event.headLines : Event → List String
  | .printed report =>
    (Text.lines report.toList).filterMap fun line =>
      if fatalHeading.toList.isPrefixOf line || uncaughtHeading.toList.isPrefixOf line then
        some (String.ofList line)
      else none
  | _ => []

/-- A process with the runtime in it. -/
structure Host where
  installed : Installed := .none {}
  /-- Whether the running program set an unwinder. -/
  unwinds : Bool := false
  system : SystemMemory
  /-- The initialisers by entry point. -/
  code : Method → Initializer
  /-- What happened so far, the last event first. -/
  events : List Event := []

/-- How a call into the process ends. -/
inductive Outcome (β : Type) where
  | returned (value : β)
  /-- An error object was handed to the unwinder. -/
  | unwound (object : ObjectId)
  /-- The process has ended. -/
  | aborted
  deriving Repr

namespace Host

def machine? (host : Host) : Option Machine :=
  match host.installed with
  | .machine machine => some machine
  | .none _ => none

/-- The classes that exist, with a machine or without. -/
def classes (host : Host) : Hierarchy :=
  match host.installed with
  | .machine machine => machine.classes
  | .none remains => remains.classes

/-- What would stay if the machine were stopped now. -/
def remains (host : Host) : Remains :=
  match host.installed with
  | .machine machine => {
      classes := machine.classes
      cells := machine.heap.cells
      issued := machine.heap.store.issued }
  | .none remains => remains

def withClasses (host : Host) (classes : Hierarchy) : Host :=
  match host.installed with
  | .machine machine => { host with installed := .machine { machine with classes } }
  | .none remains => { host with installed := .none { remains with classes } }

def build (host : Host) (blueprint : Blueprint) : Except BuildError (ClassId × Host) := do
  let (id, classes) ← host.classes.build blueprint
  return (id, host.withClasses classes)

def readCell (host : Host) (cell : CellId) : Ref :=
  host.remains.cells.read cell

def writeCell (host : Host) (cell : CellId) (ref : Ref) : Host :=
  match host.installed with
  | .machine machine => { host with installed := .machine (machine.writeCell cell ref) }
  | .none remains =>
    { host with installed := .none { remains with cells := remains.cells.write cell ref } }

def record (host : Host) (event : Event) : Host :=
  { host with events := event :: host.events }

def print (host : Host) (report : String) : Host :=
  host.record (.printed report)

def install (host : Host) (machine : Machine) : Host :=
  { host with installed := .machine machine }

/-- The system as it answers when the machine is stopped now. -/
def systemLeft (host : Host) : SystemMemory :=
  match host.installed with
  | .machine machine => machine.heap.system.after machine.heap.requests
  | .none _ => host.system

/-- Takes the machine away, with every object on its heap. -/
def stop (host : Host) : Host :=
  { host with installed := .none host.remains, system := host.systemLeft }

def setUnwinder (host : Host) : Host :=
  { host with unwinds := true }

def fatal {β : Type} (host : Host) (message : String) : Outcome β × Host :=
  (.aborted, host.print (reportFatal message))

def call {β : Type} (host : Host) (action : Action β) : Outcome β × Host :=
  match host.installed with
  | .none _ => host.fatal RuntimeError.notStarted.message
  | .machine machine =>
    match action.run machine with
    | (.ok value, machine) => (.returned value, host.install machine)
    | (.error error, machine) => (host.install machine).fatal error.message

/-! ### Raising -/

def runProgram (host : Host) : Program → Outcome Unit × Host
  | .finish => (.returned (), host)
  | .fail error => host.fatal error.message
  | .call operation next =>
    match host.call (Machine.perform operation) with
    | (.returned reply, host) => (host.record (.answered reply)).runProgram (next reply)
    | (.unwound object, host) => (.unwound object, host)
    | (.aborted, host) => (.aborted, host)

/-- Hands an error object to the unwinder, or ends the process without one. -/
def deliver {β : Type} (host : Host) (object : ObjectId) : Outcome β × Host :=
  if host.unwinds then (.unwound object, host)
  else
    match host.machine? with
    | some machine => (.aborted, host.print (machine.uncaughtReport (some object)))
    | none => (.aborted, host)

def openFrameFor (object : ObjectId) : Action Nat := do
  let mark := (← get).openFrame
  Machine.pushOperand (some object)
  return mark

def runInitializer (host : Host) (object : ObjectId) (table : Option DispatchTable)
    (initializer : Initializer) : Outcome Unit × Host :=
  match host.call (openFrameFor object) with
  | (.returned mark, host) =>
    match (host.record (.initializing object table)).runProgram (initializer object table) with
    | (.returned (), host) => host.call (Machine.closeFrame mark)
    | ended => ended
  | (.unwound object, host) => (.unwound object, host)
  | (.aborted, host) => (.aborted, host)

def throwObject {β : Type} (host : Host) (object : ObjectId) : Outcome β × Host :=
  let thrown := host.machine?.bind (·.class? (some object))
  match thrown.bind (·.initializer) with
  | none => host.deliver object
  | some method =>
    match host.runInitializer object (thrown.map (·.table)) (host.code method) with
    | (.returned (), host) => host.deliver object
    | (.unwound object, host) => (.unwound object, host)
    | (.aborted, host) => (.aborted, host)

/-- Carries out a check, and raises the error object of one that fails.  A fault ends the
    process without a report. -/
def check (host : Host) (check : Check) : Outcome Unit × Host :=
  match host.installed with
  | .none _ => host.fatal RuntimeError.notStarted.message
  | .machine machine =>
    match machine.test check with
    | (.ok (), machine) => (.returned (), host.install machine)
    | (.error (.fatal error), machine) => (host.install machine).fatal error.message
    | (.error (.exception object), machine) => (host.install machine).throwObject object
    | (.error (.fault _), machine) => (.aborted, host.install machine)

/-! ### Other entry points -/

/-- Starts a machine over the smallest core, set up from the environment.  A machine
    that is already there stays.  A fault ends the process without a report. -/
def startup (host : Host) (environment : String → Option String) :
    Outcome Unit × Host :=
  match host.installed with
  | .machine _ => (.returned (), host)
  | .none remains =>
    match HeapConfig.load environment with
    | .error error => host.fatal error.message
    | .ok config =>
      match Machine.bootstrap config host.system remains.cells remains.issued
          remains.classes with
      | .ok machine => (.returned (), host.install machine)
      | .error (.refused name reason) =>
        host.fatal (RuntimeError.ofBlueprint name reason).message
      | .error (.fault _) => (.aborted, host)

/-- Makes an array for compiled code, which passes the element kind by its tag and
    the lengths as a pointer and a count. -/
def newArray (host : Host) (tag : Nat) (element : Option ClassId) (count : Int)
    (lengths : Option (List Int)) : Outcome ObjectId × Host :=
  host.call <| match Kind.ofTag? tag, lengths with
    | none, _ => throw (.unknownKind tag)
    | some _, none => throw .noDimensions
    | some kind, some lengths =>
      if count ≤ 0 then throw .noDimensions
      else Machine.newArray kind element (lengths.take count.toNat)

def isInstance (host : Host) (ref : Ref) (target : ClassId) : Bool :=
  host.machine?.any (·.isInstance ref target)

def dispatchTable? (host : Host) (ref : Ref) : Option DispatchTable :=
  host.machine?.bind (·.dispatchTable? ref)

/-- The table for calls on an object through an interface.  A class that does not
    name the interface ends the process. -/
def interfaceCast (host : Host) (ref : Ref) (interface : ClassId) :
    Outcome (Option DispatchTable) × Host :=
  match host.machine? with
  | none => (.returned none, host)
  | some machine =>
    match machine.interfaceTable ref interface with
    | .ok table => (.returned table, host)
    | .error error => host.fatal error.message

def printReport (host : Host) (ref : Ref) : Host :=
  match host.machine? with
  | some machine => host.print (machine.uncaughtReport ref)
  | none => host.print (reportUncaught none)

end Host

end ManagedRuntime
