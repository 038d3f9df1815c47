/-
  System memory
  =============
  All storage comes from the system, which grants a request for some bytes or
  refuses it.  Every request has its own answer, so one that was refused may be
  granted when it is made again.  A table of fixed capacity is reserved whole before
  its first use (`SystemMemory.reserve`), so filling it takes no storage any more.
-/
import ManagedRuntime.Word

namespace ManagedRuntime

/-- Every request is aligned to this many bytes. -/
def objectAlignment : Nat := 8

def largestAllocation : Nat := wordLimit / 2 - objectAlignment

/-- What the system does with requests for storage. -/
structure SystemMemory where
  /-- Whether a request for some bytes is granted, after so many others were answered. -/
  grants : (asked bytes : Nat) → Bool

namespace SystemMemory

def unlimited : SystemMemory where
  grants _ _ := true

/-- A system that has less than 512 tebibytes of address space for one request. -/
def addressSpace : SystemMemory where
  grants _ bytes := bytes < 512 * 1024 * gibibyte

/-- The system as it answers from then on, after some more requests. -/
def after (system : SystemMemory) (requests : Nat) : SystemMemory where
  grants asked bytes := system.grants (requests + asked) bytes

/-- Reserves a table for `capacity` entries of `width` bytes each. -/
def reserve (system : SystemMemory) (asked capacity width : Nat) : Except Fault Unit :=
  if largestAllocation < capacity * width then .error .capacityOverflow
  else if system.grants asked (capacity * width) then .ok ()
  else .error (.storageRefused (capacity * width))

end SystemMemory

end ManagedRuntime
