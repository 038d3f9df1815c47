/-
  Settings
  ========
  The heap is set up from the environment: five variables hold byte counts or plain
  numbers, and each that is not set has a default.  The values are read in a fixed
  order, and the first that cannot be read is reported; then the whole is checked,
  again in a fixed order.
-/
import ManagedRuntime.Heap.Limits
import ManagedRuntime.Settings.ByteCount
import ManagedRuntime.Text.Quoted

namespace ManagedRuntime

inductive Setting where
  | softLimit
  | growth
  | hardLimit
  | shadowSlots
  | staticRoots
  deriving DecidableEq, Repr

namespace Setting

/-- All settings, in the order in which they are read. -/
def all : List Setting :=
  [.softLimit, .growth, .hardLimit, .shadowSlots, .staticRoots]

def key : Setting → String
  | .softLimit => "LLRT_HEAP_SOFT_LIMIT"
  | .growth => "LLRT_HEAP_GROWTH"
  | .hardLimit => "LLRT_HEAP_HARD_LIMIT"
  | .shadowSlots => "LLRT_SHADOW_STACK_SLOTS"
  | .staticRoots => "LLRT_STATIC_ROOTS"

def valueIn : Setting → HeapConfig → Nat
  | .softLimit, config => config.softLimit
  | .growth, config => config.growth
  | .hardLimit, config => config.hardLimit
  | .shadowSlots, config => config.shadowSlots
  | .staticRoots, config => config.staticRoots

def assign : Setting → Nat → HeapConfig → HeapConfig
  | .softLimit, value, config => { config with softLimit := value }
  | .growth, value, config => { config with growth := value }
  | .hardLimit, value, config => { config with hardLimit := value }
  | .shadowSlots, value, config => { config with shadowSlots := value }
  | .staticRoots, value, config => { config with staticRoots := value }

theorem mem_all (setting : Setting) : setting ∈ all := by
  cases setting <;> decide

theorem valueIn_assign (setting other : Setting) (value : Nat) (config : HeapConfig) :
    other.valueIn (setting.assign value config) =
      if other = setting then value else other.valueIn config := by
  cases setting <;> cases other <;> rfl

end Setting

inductive SettingsError where
  /-- The value of a variable, without the blanks around it, cannot be read. -/
  | unreadable (setting : Setting) (value : List Char) (reason : ByteCountError)
  | zero (setting : Setting)
  | hardBelowSoft (hard soft : Nat)
  deriving DecidableEq, Repr

/-- The report of an error, each line with its cause on the next. -/
def SettingsError.report : SettingsError → List String
  | .unreadable setting value (.notANumber reason) =>
    ["Invalid value for " ++ setting.key,
     String.ofList (Text.quote value) ++ " is not a size", reason.message]
  | .unreadable setting value .tooLarge =>
    ["Invalid value for " ++ setting.key, String.ofList (Text.quote value) ++ " is too large"]
  | .zero setting => [setting.key ++ " must be above zero"]
  | .hardBelowSoft hard soft =>
    [Setting.hardLimit.key ++ " (" ++ toString hard ++ ") is below " ++ Setting.softLimit.key
      ++ " (" ++ toString soft ++ ")"]

def SettingsError.message (error : SettingsError) : String :=
  error.report.headD ""

namespace HeapConfig

def readSetting (lookup : String → Option String) (config : HeapConfig) (setting : Setting) :
    Except SettingsError HeapConfig :=
  match lookup setting.key with
  | none => .ok config
  | some value =>
    let trimmed := Text.trim value.toList
    match readByteCount trimmed with
    | .ok bytes => .ok (setting.assign bytes config)
    | .error reason => .error (.unreadable setting trimmed reason)

/-- What is wrong with a configuration, the first fault found. -/
def defect? (config : HeapConfig) : Option SettingsError :=
  if config.growth = 0 then some (.zero .growth)
  else if config.hardLimit < config.softLimit then
    some (.hardBelowSoft config.hardLimit config.softLimit)
  else if config.shadowSlots = 0 then some (.zero .shadowSlots)
  else if config.staticRoots = 0 then some (.zero .staticRoots)
  else none

/-- The configuration that an environment asks for. -/
def load (lookup : String → Option String) : Except SettingsError HeapConfig := do
  let config ← Setting.all.foldlM (readSetting lookup) {}
  match config.defect? with
  | some error => .error error
  | none => .ok config

end HeapConfig

end ManagedRuntime
