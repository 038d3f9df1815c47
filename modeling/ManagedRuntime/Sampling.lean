/-
  Sampling
  ========
  A sample runs a piece of work a number of times, telling it each time how often it
  ran before, and keeps the results in order.  The table of the results is reserved
  before the work begins.
-/
import ManagedRuntime.SystemMemory

namespace ManagedRuntime

/-- The results of `times` runs, each of `width` bytes. -/
def sample {β : Type} (system : SystemMemory) (width times : Nat) (work : Nat → β) :
    Except Fault (List β) :=
  (system.reserve 0 times width).map fun () => (List.range times).map work

end ManagedRuntime
