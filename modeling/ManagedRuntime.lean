import ManagedRuntime.Class.Basic
import ManagedRuntime.Class.Blueprint
import ManagedRuntime.Class.Dispatch
import ManagedRuntime.Class.Hierarchy
import ManagedRuntime.Class.Subtype
import ManagedRuntime.Class.Table
import ManagedRuntime.Decimal.Double
import ManagedRuntime.Decimal.Shortest
import ManagedRuntime.Error
import ManagedRuntime.Heap.Basic
import ManagedRuntime.Heap.Limits
import ManagedRuntime.Heap.Marking
import ManagedRuntime.Heap.Node
import ManagedRuntime.Heap.Roots
import ManagedRuntime.Heap.Store
import ManagedRuntime.Heap.Sweeping
import ManagedRuntime.Host
import ManagedRuntime.Json.Basic
import ManagedRuntime.Json.Reader
import ManagedRuntime.Json.Writer
import ManagedRuntime.Kind
import ManagedRuntime.Machine.Array
import ManagedRuntime.Machine.Basic
import ManagedRuntime.Machine.Check
import ManagedRuntime.Machine.Describe
import ManagedRuntime.Machine.Link
import ManagedRuntime.Machine.Operation
import ManagedRuntime.Object.Access
import ManagedRuntime.Object.Bytes
import ManagedRuntime.Object.KeyRange
import ManagedRuntime.Object.Pointers
import ManagedRuntime.Object.Value
import ManagedRuntime.Proofs.Class.Chain
import ManagedRuntime.Proofs.Class.Growth
import ManagedRuntime.Proofs.Class.Layout
import ManagedRuntime.Proofs.Class.Lookup
import ManagedRuntime.Proofs.Class.SubtypeOrder
import ManagedRuntime.Proofs.Heap.Accounting
import ManagedRuntime.Proofs.Heap.Agreement
import ManagedRuntime.Proofs.Heap.Allocation
import ManagedRuntime.Proofs.Heap.AllocationSizes
import ManagedRuntime.Proofs.Heap.Collection
import ManagedRuntime.Proofs.Heap.ExactAllocation
import ManagedRuntime.Proofs.Heap.Growth
import ManagedRuntime.Proofs.Heap.GrowthFormula
import ManagedRuntime.Proofs.Heap.Headroom
import ManagedRuntime.Proofs.Heap.Limits
import ManagedRuntime.Proofs.Heap.Marking
import ManagedRuntime.Proofs.Heap.Mutation
import ManagedRuntime.Proofs.Heap.Reachability
import ManagedRuntime.Proofs.Heap.Retention
import ManagedRuntime.Proofs.Heap.Sweeping
import ManagedRuntime.Proofs.Heap.Weight
import ManagedRuntime.Proofs.Host.Raising
import ManagedRuntime.Proofs.Machine.ArrayBudget
import ManagedRuntime.Proofs.Machine.ArrayCosts
import ManagedRuntime.Proofs.Machine.ArrayIdentity
import ManagedRuntime.Proofs.Machine.BuiltTrees
import ManagedRuntime.Proofs.Machine.Construction
import ManagedRuntime.Proofs.Machine.CurrentSlots
import ManagedRuntime.Proofs.Machine.DispatchTables
import ManagedRuntime.Proofs.Machine.ElementVariables
import ManagedRuntime.Proofs.Machine.FailedArrays
import ManagedRuntime.Proofs.Machine.FailedChecks
import ManagedRuntime.Proofs.Machine.FieldVariables
import ManagedRuntime.Proofs.Machine.Frames
import ManagedRuntime.Proofs.Machine.HeapSteps
import ManagedRuntime.Proofs.Machine.InstanceTests
import ManagedRuntime.Proofs.Machine.NameLookup
import ManagedRuntime.Proofs.Machine.Plans
import ManagedRuntime.Proofs.Machine.Safety
import ManagedRuntime.Proofs.Machine.Sessions
import ManagedRuntime.Proofs.Machine.Shape
import ManagedRuntime.Proofs.Machine.SlotBounds
import ManagedRuntime.Proofs.Machine.Soundness
import ManagedRuntime.Proofs.Machine.Steps
import ManagedRuntime.Proofs.Machine.Timing
import ManagedRuntime.Proofs.Machine.Trees
import ManagedRuntime.Proofs.Machine.TwinArrays
import ManagedRuntime.Proofs.Machine.TwinSteps
import ManagedRuntime.Proofs.Machine.Twins
import ManagedRuntime.Proofs.Machine.Visibility
import ManagedRuntime.Proofs.Object.Elements
import ManagedRuntime.Proofs.Object.References
import ManagedRuntime.Proofs.Object.Shape
import ManagedRuntime.Proofs.Object.Slots
import ManagedRuntime.Proofs.Settings.ByteCounts
import ManagedRuntime.Proofs.Settings.Loading
import ManagedRuntime.Proofs.Word.Alignment
import ManagedRuntime.Sampling
import ManagedRuntime.Settings.Basic
import ManagedRuntime.Settings.ByteCount
import ManagedRuntime.SystemMemory
import ManagedRuntime.Text.Blank
import ManagedRuntime.Text.GraphemeExtend
import ManagedRuntime.Text.Lines
import ManagedRuntime.Text.Printable
import ManagedRuntime.Text.Quoted
import ManagedRuntime.Text.Ranges
import ManagedRuntime.Text.Visible
import ManagedRuntime.Word
import ManagedRuntime.Zoo
