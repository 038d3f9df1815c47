/-
  Loading the settings
  ====================
  The configuration that comes of an environment is the defaults with the values that are set laid
  over them (`HeapConfig.Overlays`).  There is one exactly where every value that is set is a byte
  count.  Constraints are about the whole, so a value that is set can clash with a default.

  If some values are none, the error is about the first of them in the order in which settings are
  read (`HeapConfig.RejectsFirst`), whatever the constraints would say.
-/
import ManagedRuntime.Proofs.Settings.ByteCounts
import ManagedRuntime.Settings.Basic

namespace ManagedRuntime

/-- A configuration is known by its settings. -/
theorem Setting.eq_of_valueIn {config other : HeapConfig}
    (h : ∀ setting : Setting, setting.valueIn config = setting.valueIn other) : config = other := by
  obtain ⟨soft, growth, hard, slots, roots⟩ := config
  obtain rfl := h .softLimit
  obtain rfl := h .growth
  obtain rfl := h .hardLimit
  obtain rfl := h .shadowSlots
  obtain rfl := h .staticRoots
  rfl

namespace HeapConfig

variable {lookup : String → Option String} {config after : HeapConfig} {setting : Setting}
variable {settings : List Setting} {error : SettingsError}

/-! ### Single settings -/

/-- A setting is not set, or its value is a byte count. -/
def Accepts (lookup : String → Option String) (setting : Setting) : Prop :=
  ∀ value, lookup setting.key = some value → ∃ bytes, WritesBytes value.toList bytes

/-- The value of a setting is no byte count.  The error has the value without the blanks around it,
    and the reason. -/
inductive Rejects (lookup : String → Option String) (setting : Setting) : SettingsError → Prop where
  | intro {value : String} {reason : ByteCountError} :
      lookup setting.key = some value → (∀ bytes, ¬WritesBytes value.toList bytes) →
      readByteCount (Text.trim value.toList) = .error reason →
      Rejects lookup setting (.unreadable setting (Text.trim value.toList) reason)

theorem accepts_or_rejects (lookup : String → Option String) (setting : Setting) :
    Accepts lookup setting ∨ ∃ error, Rejects lookup setting error := by
  rcases hset : lookup setting.key with _ | value
  · left
    intro value hvalue
    rw [hset] at hvalue
    cases hvalue
  · rcases hread : readByteCount (Text.trim value.toList) with reason | bytes
    · right
      refine ⟨_, .intro hset ?_ hread⟩
      intro bytes hbytes
      rw [readByteCount_of_writesBytes hbytes] at hread
      cases hread
    · left
      intro other hother
      obtain rfl : value = other := Option.some.inj (hset.symm.trans hother)
      exact ⟨bytes, writesBytes_of_readByteCount hread⟩

theorem readSetting_of_rejects (h : Rejects lookup setting error) (config : HeapConfig) :
    readSetting lookup config setting = .error error := by
  obtain ⟨hset, -, hread⟩ := h
  rw [readSetting, hset]
  dsimp only
  rw [hread]

/-- Some settings of a configuration were taken up from an environment. -/
structure TakesUp (lookup : String → Option String) (settings : List Setting)
    (config after : HeapConfig) : Prop where
  unset : ∀ setting : Setting, lookup setting.key = none →
    setting.valueIn after = setting.valueIn config
  set : ∀ setting ∈ settings, ∀ value, lookup setting.key = some value →
    WritesBytes value.toList (setting.valueIn after)
  others : ∀ setting ∉ settings, setting.valueIn after = setting.valueIn config

theorem exists_readSetting (h : Accepts lookup setting) (config : HeapConfig) :
    ∃ after, readSetting lookup config setting = .ok after ∧
      TakesUp lookup [setting] config after := by
  rw [readSetting]
  rcases hset : lookup setting.key with _ | value
  · refine ⟨config, rfl, fun _ _ => rfl, ?_, fun _ _ => rfl⟩
    intro other hother value hvalue
    obtain rfl := List.mem_singleton.1 hother
    rw [hset] at hvalue
    cases hvalue
  · obtain ⟨bytes, hbytes⟩ := h value hset
    dsimp only
    rw [readByteCount_of_writesBytes hbytes]
    refine ⟨setting.assign bytes config, rfl, ?_, ?_, ?_⟩
    · intro other hother
      rw [Setting.valueIn_assign, if_neg]
      rintro rfl
      rw [hset] at hother
      cases hother
    · intro other hother found hfound
      obtain rfl := List.mem_singleton.1 hother
      obtain rfl : value = found := Option.some.inj (hset.symm.trans hfound)
      rwa [Setting.valueIn_assign, if_pos rfl]
    · intro other hother
      rw [Setting.valueIn_assign, if_neg (fun hsame => hother (List.mem_singleton.2 hsame))]

/-! ### All settings -/

/-- A setting that is read keeps its value through the settings after it, or is read again. -/
theorem TakesUp.cons {mid : HeapConfig} (hfirst : TakesUp lookup [setting] config mid)
    (hrest : TakesUp lookup settings mid after) :
    TakesUp lookup (setting :: settings) config after where
  unset other hother := (hrest.unset other hother).trans (hfirst.unset other hother)
  set other hother value hvalue := by
    by_cases hlater : other ∈ settings
    · exact hrest.set other hlater value hvalue
    · rw [hrest.others other hlater]
      rcases List.mem_cons.1 hother with hsame | hmem
      · exact hfirst.set other (List.mem_singleton.2 hsame) value hvalue
      · exact absurd hmem hlater
  others other hother := by
    rw [List.mem_cons, not_or] at hother
    obtain ⟨hne, hlater⟩ := hother
    rw [hrest.others other hlater]
    exact hfirst.others other fun hmem => hne (List.mem_singleton.1 hmem)

theorem exists_foldlM (h : ∀ setting ∈ settings, Accepts lookup setting) (config : HeapConfig) :
    ∃ after, settings.foldlM (readSetting lookup) config = .ok after ∧
      TakesUp lookup settings config after := by
  induction settings generalizing config with
  | nil => exact ⟨config, rfl, fun _ _ => rfl, nofun, fun _ _ => rfl⟩
  | cons setting settings ih =>
    obtain ⟨hfirst, hrest⟩ := List.forall_mem_cons.1 h
    obtain ⟨mid, hmid, htaken⟩ := exists_readSetting hfirst config
    obtain ⟨after, hafter, hlater⟩ := ih hrest mid
    refine ⟨after, ?_, htaken.cons hlater⟩
    rw [List.foldlM_cons, hmid]
    exact hafter

/-- The first of some settings whose value is no byte count. -/
inductive RejectsFirst (lookup : String → Option String) :
    List Setting → SettingsError → Prop where
  | intro {before rest : List Setting} {setting : Setting} {error : SettingsError} :
      (∀ earlier ∈ before, Accepts lookup earlier) → Rejects lookup setting error →
      RejectsFirst lookup (before ++ setting :: rest) error

theorem foldlM_of_rejectsFirst (h : RejectsFirst lookup settings error) (config : HeapConfig) :
    settings.foldlM (readSetting lookup) config = .error error := by
  obtain ⟨hbefore, hrejects⟩ := h
  obtain ⟨mid, hmid, -⟩ := exists_foldlM hbefore config
  rw [List.foldlM_append, hmid]
  change List.foldlM _ mid _ = _
  rw [List.foldlM_cons, readSetting_of_rejects hrejects]
  rfl

theorem accept_or_rejectsFirst (lookup : String → Option String) (settings : List Setting) :
    (∀ setting ∈ settings, Accepts lookup setting) ∨
      ∃ error, RejectsFirst lookup settings error := by
  induction settings with
  | nil => exact .inl nofun
  | cons setting settings ih =>
    rcases accepts_or_rejects lookup setting with haccepts | ⟨error, hrejects⟩
    · rcases ih with hrest | ⟨error, hrejects⟩
      · exact .inl (List.forall_mem_cons.2 ⟨haccepts, hrest⟩)
      · obtain ⟨hbefore, hrejects⟩ := hrejects
        rw [← List.cons_append]
        exact .inr ⟨_, .intro (List.forall_mem_cons.2 ⟨haccepts, hbefore⟩) hrejects⟩
    · have hfirst : RejectsFirst lookup ([] ++ setting :: settings) error := .intro nofun hrejects
      exact .inr ⟨error, hfirst⟩

/-! ### The whole -/

/-- The values that are set, laid over the defaults. -/
structure Overlays (lookup : String → Option String) (config : HeapConfig) : Prop where
  unset : ∀ setting : Setting, lookup setting.key = none →
    setting.valueIn config = setting.valueIn {}
  set : ∀ (setting : Setting) (value : String), lookup setting.key = some value →
    WritesBytes value.toList (setting.valueIn config)

theorem TakesUp.overlays (h : TakesUp lookup Setting.all {} config) : Overlays lookup config where
  unset := h.unset
  set setting := h.set setting setting.mem_all

theorem Overlays.accepts (h : Overlays lookup config) (setting : Setting) :
    Accepts lookup setting :=
  fun value hvalue => ⟨_, h.set setting value hvalue⟩

theorem Overlays.unique {other : HeapConfig} (h : Overlays lookup config)
    (hother : Overlays lookup other) : config = other := by
  apply Setting.eq_of_valueIn
  intro setting
  rcases hset : lookup setting.key with _ | value
  · rw [h.unset setting hset, hother.unset setting hset]
  · exact (h.set setting value hset).unique (hother.set setting value hset)

theorem overlays_or_rejectsFirst (lookup : String → Option String) :
    (∃ config, Overlays lookup config) ∨ ∃ error, RejectsFirst lookup Setting.all error := by
  rcases accept_or_rejectsFirst lookup Setting.all with haccept | hrejects
  · obtain ⟨config, -, htaken⟩ := exists_foldlM haccept {}
    exact .inl ⟨config, htaken.overlays⟩
  · exact .inr hrejects

theorem load_of_overlays (h : Overlays lookup config) :
    load lookup = match config.defect? with
      | some error => .error error
      | none => .ok config := by
  obtain ⟨after, hafter, htaken⟩ := exists_foldlM (fun setting _ => h.accepts setting) {}
  obtain rfl := htaken.overlays.unique h
  rw [load, hafter]
  rfl

theorem load_of_rejectsFirst (h : RejectsFirst lookup Setting.all error) :
    load lookup = .error error := by
  rw [load, foldlM_of_rejectsFirst h]
  rfl

/-! ### Constraints -/

structure Valid (config : HeapConfig) : Prop where
  growth_pos : 0 < config.growth
  soft_le_hard : config.softLimit ≤ config.hardLimit
  shadowSlots_pos : 0 < config.shadowSlots
  staticRoots_pos : 0 < config.staticRoots

/-- The first of these that a configuration violates, with its error. -/
inductive Violates (config : HeapConfig) : SettingsError → Prop where
  | growth : config.growth = 0 → Violates config (.zero .growth)
  | hardLimit : 0 < config.growth → config.hardLimit < config.softLimit →
      Violates config (.hardBelowSoft config.hardLimit config.softLimit)
  | shadowSlots : 0 < config.growth → config.softLimit ≤ config.hardLimit →
      config.shadowSlots = 0 → Violates config (.zero .shadowSlots)
  | staticRoots : 0 < config.growth → config.softLimit ≤ config.hardLimit →
      0 < config.shadowSlots → config.staticRoots = 0 → Violates config (.zero .staticRoots)

theorem defect?_eq_none_iff : config.defect? = none ↔ config.Valid := by
  unfold defect?
  constructor
  · intro h
    split_ifs at h with hgrowth hhard hslots hroots
    exact ⟨Nat.pos_of_ne_zero hgrowth, Nat.not_lt.1 hhard, Nat.pos_of_ne_zero hslots,
      Nat.pos_of_ne_zero hroots⟩
  · rintro ⟨hgrowth, hhard, hslots, hroots⟩
    rw [if_neg (Nat.ne_of_gt hgrowth), if_neg (Nat.not_lt.2 hhard), if_neg (Nat.ne_of_gt hslots),
      if_neg (Nat.ne_of_gt hroots)]

theorem defect?_eq_some_iff : config.defect? = some error ↔ config.Violates error := by
  unfold defect?
  constructor
  · intro h
    split_ifs at h with hgrowth hhard hslots hroots
    · cases h
      exact .growth hgrowth
    · cases h
      exact .hardLimit (Nat.pos_of_ne_zero hgrowth) hhard
    · cases h
      exact .shadowSlots (Nat.pos_of_ne_zero hgrowth) (Nat.not_lt.1 hhard) hslots
    · cases h
      exact .staticRoots (Nat.pos_of_ne_zero hgrowth) (Nat.not_lt.1 hhard)
        (Nat.pos_of_ne_zero hslots) hroots
  · intro h
    cases h with
    | growth hgrowth => rw [if_pos hgrowth]
    | hardLimit hgrowth hhard => rw [if_neg (Nat.ne_of_gt hgrowth), if_pos hhard]
    | shadowSlots hgrowth hhard hslots =>
      rw [if_neg (Nat.ne_of_gt hgrowth), if_neg (Nat.not_lt.2 hhard), if_pos hslots]
    | staticRoots hgrowth hhard hslots hroots =>
      rw [if_neg (Nat.ne_of_gt hgrowth), if_neg (Nat.not_lt.2 hhard),
        if_neg (Nat.ne_of_gt hslots), if_pos hroots]

/-- What loading answers: the configuration that was asked for, or what is wrong with it. -/
structure LoadsExactly (lookup : String → Option String)
    (answer : Except SettingsError HeapConfig) : Prop where
  ok_iff : ∀ config, answer = .ok config ↔ Overlays lookup config ∧ config.Valid
  error_iff : ∀ error, answer = .error error ↔ RejectsFirst lookup Setting.all error ∨
    ∃ config, Overlays lookup config ∧ config.Violates error

theorem load_cases (lookup : String → Option String) :
    (∃ config, load lookup = .ok config ∧ Overlays lookup config ∧ config.Valid) ∨
      ∃ error, load lookup = .error error ∧ (RejectsFirst lookup Setting.all error ∨
        ∃ config, Overlays lookup config ∧ config.Violates error) := by
  rcases overlays_or_rejectsFirst lookup with ⟨config, hoverlays⟩ | ⟨error, hrejects⟩
  · have hload := load_of_overlays hoverlays
    rcases hdefect : config.defect? with _ | error
    · rw [hdefect] at hload
      exact .inl ⟨config, hload, hoverlays, defect?_eq_none_iff.1 hdefect⟩
    · rw [hdefect] at hload
      exact .inr ⟨error, hload, .inr ⟨config, hoverlays, defect?_eq_some_iff.1 hdefect⟩⟩
  · exact .inr ⟨error, load_of_rejectsFirst hrejects, .inl hrejects⟩

theorem loadsExactly (lookup : String → Option String) : LoadsExactly lookup (load lookup) := by
  constructor
  · intro config
    constructor
    · intro hload
      rcases load_cases lookup with ⟨loaded, hloaded, hfits⟩ | ⟨error, hfailed, -⟩
      · rw [hloaded] at hload
        cases hload
        exact hfits
      · rw [hfailed] at hload
        cases hload
    · rintro ⟨hoverlays, hvalid⟩
      rw [load_of_overlays hoverlays, defect?_eq_none_iff.2 hvalid]
  · intro error
    constructor
    · intro hload
      rcases load_cases lookup with ⟨config, hloaded, -⟩ | ⟨reported, hfailed, hreason⟩
      · rw [hloaded] at hload
        cases hload
      · rw [hfailed] at hload
        cases hload
        exact hreason
    · rintro (hrejects | ⟨config, hoverlays, hviolates⟩)
      · exact load_of_rejectsFirst hrejects
      · rw [load_of_overlays hoverlays, defect?_eq_some_iff.2 hviolates]

/-- A hard limit that is set below the soft limit by default. -/
example : load (fun key => if key = Setting.hardLimit.key then some "1m" else none) =
    .error (.hardBelowSoft mebibyte (64 * mebibyte)) := by decide

/-- Settings are read by the grammar of byte counts, without cutting any character in two, and what
    is loaded from an environment is the overlaid configuration, if that keeps to the
    constraints. -/
theorem load_accepts_its_language :
    (∀ text bytes, readByteCount (Text.trim text) = .ok bytes ↔ WritesBytes text bytes) ∧
      (∀ text, cutSuffix? text = some (splitSuffix text)) ∧
      ∀ lookup, LoadsExactly lookup (load lookup) :=
  ⟨fun _ _ => readByteCount_trim_eq_ok_iff, cutSuffix?_eq, loadsExactly⟩

end HeapConfig

end ManagedRuntime
