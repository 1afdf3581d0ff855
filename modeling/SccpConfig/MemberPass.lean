import SccpConfig.SetValueReport
import SccpConfig.General

/-!
# A pass seen from one member

Every call of `sccp_config_object_setValue` writes at most the member its option
names, from that member's value alone, so a whole pass over a section, the pairs
and then `sccp_config_set_defaults`, can be followed one member at a time
(`pairsAt`, `defaultsAt`). The rows of the default loop share the local `value`,
which is NULL after the first row that looks for a default: from there on a row
that does not reach the member cannot influence it.
-/

namespace SccpConfig

set_option autoImplicit false

section Member

variable (env : Env) {M : Type} [DecidableEq M] (options : List (ConfigOption M)) (size : M → Nat)

/-- The pairs of a section applied to member `m`. -/
def pairsAt (m : M) (pairs : List (String × String)) (cur : Value) : Value :=
  pairs.foldl (fun cur p => setValueAt env options size p.1 p.2 m cur) cur

theorem applyPairs_apply (m : M) (pairs : List (String × String)) :
    ∀ (obj : M → Value) (res : Nat),
      (applyPairs env options size obj res pairs).1 m = pairsAt env options size m pairs (obj m) := by
  induction pairs with
  | nil => intro obj res; rfl
  | cons p rest ih =>
    intro obj res
    simp only [applyPairs, ih, pairsAt, List.foldl_cons, sccpConfigObjectSetValue_apply]

/-- The loop of `sccp_config_set_defaults` applied to member `m`. -/
def defaultsAt (cfg : Config) (m : M) : List (ConfigOption M × Bool) → Option String → Value → Value
  | [], _, cur => cur
  | (o, set) :: rest, value, cur =>
    if looksForDefault o set then
      match resolveDefault cfg o value with
      | some v =>
        defaultsAt cfg m rest none (if v.isEmpty then cur else setValueAt env options size o.name v m cur)
      | none => defaultsAt cfg m rest none cur
    else defaultsAt cfg m rest value cur

theorem setDefaultsLoop_apply (cfg : Config) (m : M) (rows : List (ConfigOption M × Bool)) :
    ∀ (obj : M → Value) (value : Option String),
      setDefaultsLoop env options size cfg rows obj value m =
        defaultsAt env options size cfg m rows value (obj m) := by
  induction rows with
  | nil => intro obj value; rfl
  | cons p rest ih =>
    intro obj value
    obtain ⟨o, set⟩ := p
    simp only [setDefaultsLoop, defaultsAt]
    by_cases hlook : looksForDefault o set
    · simp only [hlook, if_true]
      cases resolveDefault cfg o value with
      | none => exact ih obj none
      | some v => by_cases hv : v.isEmpty <;> simp [hv, ih, sccpConfigObjectSetValue_apply]
    · simp only [hlook, Bool.false_eq_true, if_false]
      exact ih obj value

theorem defaultsAt_filter (cfg : Config) (m : M) (rows : List (ConfigOption M × Bool)) :
    ∀ cur : Value, defaultsAt env options size cfg m rows none cur =
      defaultsAt env options size cfg m (rows.filter fun p => nameTargets options p.1.name = some m) none cur := by
  induction rows with
  | nil => intro cur; rfl
  | cons p rest ih =>
    intro cur
    obtain ⟨o, set⟩ := p
    by_cases hm : nameTargets options o.name = some m
    · simp only [List.filter_cons, hm, decide_True, if_true, defaultsAt]
      by_cases hlook : looksForDefault o set
      · simp only [hlook, if_true]
        cases resolveDefault cfg o none <;> simp [ih]
      · simp only [hlook, Bool.false_eq_true, if_false]
        exact ih cur
    · simp only [List.filter_cons, hm, decide_False, Bool.false_eq_true, if_false, defaultsAt]
      rw [← ih cur]
      by_cases hlook : looksForDefault o set
      · simp only [hlook, if_true]
        cases resolveDefault cfg o none <;>
          simp [setValueAt_of_nameTargets_ne env options size _ _ m _ hm]
      · simp only [hlook, Bool.false_eq_true, if_false]

theorem defaultsAt_of_not_reached (cfg : Config) (m : M) (rows : List (ConfigOption M × Bool))
    (h : ∀ p ∈ rows, looksForDefault p.1 p.2 = true → nameTargets options p.1.name ≠ some m) :
    ∀ (value : Option String) (cur : Value), defaultsAt env options size cfg m rows value cur = cur := by
  induction rows with
  | nil => intro value cur; rfl
  | cons p rest ih =>
    intro value cur
    obtain ⟨o, set⟩ := p
    have hrest := ih fun q hq => h q (List.mem_cons_of_mem _ hq)
    simp only [defaultsAt]
    by_cases hlook : looksForDefault o set
    · have hne := h (o, set) (List.mem_cons_self _ _) hlook
      simp only [hlook, if_true]
      cases resolveDefault cfg o value <;>
        simp [hrest, setValueAt_of_nameTargets_ne env options size _ _ m _ hne]
    · simp only [hlook, Bool.false_eq_true, if_false]
      exact hrest value cur

theorem pairsAt_of_fixed (m : M) (c : Value) (h : ∀ name value, setValueAt env options size name value m c = c)
    (pairs : List (String × String)) : pairsAt env options size m pairs c = c := by
  induction pairs with
  | nil => rfl
  | cons p rest ih => simpa [pairsAt, h] using ih

theorem defaultsAt_of_fixed (cfg : Config) (m : M) (c : Value)
    (h : ∀ name value, setValueAt env options size name value m c = c) (rows : List (ConfigOption M × Bool)) :
    ∀ value : Option String, defaultsAt env options size cfg m rows value c = c := by
  induction rows with
  | nil => intro _; rfl
  | cons p rest ih =>
    intro value
    obtain ⟨o, set⟩ := p
    simp only [defaultsAt]
    split
    · cases resolveDefault cfg o value <;> simp [h, ih]
    · exact ih value

theorem defaultsAt_initial (cfg : Config) (m : M) (o : ConfigOption M) (set : Bool)
    (rest : List (ConfigOption M × Bool)) (cur : Value) (hlook : looksForDefault o set = true)
    (hflags : o.flags ≠ ConfigFlag.getDeviceDefault ∧ o.flags ≠ ConfigFlag.getGlobalDefault) :
    defaultsAt env options size cfg m ((o, set) :: rest) (some "") cur =
      defaultsAt env options size cfg m rest none cur := by
  have hempty : "".isEmpty = true := rfl
  simp [defaultsAt, hlook, resolveDefault, hflags, hempty]

theorem defaultsAt_one_default (cfg : Config) (m : M) (o₀ o : ConfigOption M) (set₀ : Bool)
    (rest : List (ConfigOption M × Bool)) (v : String) (cur : Value) (hlook₀ : looksForDefault o₀ set₀ = true)
    (hflags₀ : o₀.flags ≠ ConfigFlag.getDeviceDefault ∧ o₀.flags ≠ ConfigFlag.getGlobalDefault)
    (hrest : rest.filter (fun p => nameTargets options p.1.name = some m) = [(o, false)])
    (hlook : looksForDefault o false = true) (hresolve : resolveDefault cfg o none = some v) (hv : v.isEmpty = false) :
    defaultsAt env options size cfg m ((o₀, set₀) :: rest) (some "") cur = setValueAt env options size o.name v m cur := by
  rw [defaultsAt_initial env options size cfg m o₀ set₀ rest cur hlook₀ hflags₀, defaultsAt_filter, hrest]
  simp only [defaultsAt, hlook, if_true, hresolve, hv, Bool.false_eq_true, if_false]

end Member

/-! ## Which rows default resolution follows -/

/-- Default resolution writes a member only through a row whose name the section
did not give: a member that the section names through every row reaching it, an
OBSOLETE row apart, keeps the value the pairs left. -/
theorem applyConfiguration_keeps_named_member (env : Env) {M : Type} [DecidableEq M]
    (options : List (ConfigOption M)) (size : M → Nat) (cfg : Config) (obj : M → Value)
    (pairs : List (String × String)) (m : M)
    (hnamed : ∀ o ∈ options, nameTargets options o.name = some m →
      (pairs.any fun p => strcasecmpEq o.name p.1) = true ∨ o.flags &&& ConfigFlag.obsolete ≠ 0) :
    (applyConfiguration env options size cfg obj pairs).1 m =
      (applyPairs env options size obj env.codes.noUpdateNeeded pairs).1 m := by
  simp only [applyConfiguration, sccpConfigSetDefaults, setDefaultsLoop_apply]
  apply defaultsAt_of_not_reached
  intro p hp hlook hm
  obtain ⟨o, ho, rfl⟩ := List.mem_map.mp hp
  rcases hnamed o ho hm with h | h <;> simp_all [looksForDefault]

/-- A device section naming both `privacy` and `private` keeps what its pairs set. -/
theorem applyConfiguration_keeps_privacy_named_twice :
    (applyConfiguration sampleEnv sccpDeviceConfigOptions sampleEnv.deviceSize
        [⟨"general", [("private", "off")]⟩] (fun m => m.kind.zero) [("privacy", "full"), ("private", "on")]).1
        .privacyFeature =
      (applyPairs sampleEnv sccpDeviceConfigOptions sampleEnv.deviceSize (fun m => m.kind.zero)
        sampleEnv.codes.noUpdateNeeded [("privacy", "full"), ("private", "on")]).1 .privacyFeature :=
  applyConfiguration_keeps_named_member sampleEnv _ _ _ _ _ _ (by decide)

/-- `privacy=full` alone: the `private` row, bound to a field inside the same member
and not named, inherits `private=off` from `[general]` and overwrites it. -/
theorem applyDeviceConfiguration_privacy_overridden :
    ¬ ∃ env : Env,
      (sccpConfigApplyDeviceConfiguration env [⟨"general", [("private", "off")]⟩]
          ⟨"SEP1", false, false, fun m => m.kind.zero⟩ [("privacy", "full")]).1.config .privacyFeature =
        (applyPairs env sccpDeviceConfigOptions env.deviceSize (fun m => m.kind.zero) env.codes.noUpdateNeeded
          [("privacy", "full")]).1 .privacyFeature := by
  rintro ⟨env, h⟩
  have hpairs : pairsAt env sccpDeviceConfigOptions env.deviceSize .privacyFeature [("privacy", "full")]
      (.feature 0 false) = .feature 0xFFFFFFFF true := by
    have hprivacy : sccpFindConfig sccpDeviceConfigOptions "privacy" =
        some ⟨"privacy", whole .privacyFeature, .generic, ConfigFlag.none, .noUpdateNeeded, none,
          some .parsePrivacyFeature⟩ := by decide
    have hfull : strcasecmpEq "full" "full" = true := by decide
    simp only [pairsAt, List.foldl, setValueAt, hprivacy, whole]
    simp only [show skipsByFlags ConfigFlag.none = false from rfl, and_true, if_true, View.get_whole,
      View.put_whole]
    show Value.feature (sccpConfigParsePrivacyFeature env 0 false "full").1.1
      (sccpConfigParsePrivacyFeature env 0 false "full").1.2 = _
    simp [sccpConfigParsePrivacyFeature, hfull, storeIfChanged]
  have hdefaults : defaultsAt env sccpDeviceConfigOptions env.deviceSize [⟨"general", [("private", "off")]⟩]
      .privacyFeature (alreadySetEntries sccpDeviceConfigOptions [("privacy", "full")]) (some "")
      (.feature 0xFFFFFFFF true) = .feature 0xFFFFFFFF false := by
    have hrows : alreadySetEntries sccpDeviceConfigOptions [("privacy", "full")] =
        (⟨"name", none, .string, ConfigFlag.ignore, .noUpdateNeeded, none, none⟩, false) ::
          (alreadySetEntries sccpDeviceConfigOptions [("privacy", "full")]).tail := rfl
    have hfilter : ((alreadySetEntries sccpDeviceConfigOptions [("privacy", "full")]).tail.filter
        fun p => nameTargets sccpDeviceConfigOptions p.1.name = some .privacyFeature) =
        [(⟨"private", enabledOf .privacyFeature, .boolean, ConfigFlag.getGlobalDefault, .noUpdateNeeded, none,
            none⟩, false),
          (⟨"privacy", whole .privacyFeature, .generic, ConfigFlag.none, .noUpdateNeeded, none,
            some .parsePrivacyFeature⟩, true)] := by decide
    have hprivate : sccpFindConfig sccpDeviceConfigOptions "private" =
        some ⟨"private", enabledOf .privacyFeature, .boolean, ConfigFlag.getGlobalDefault, .noUpdateNeeded, none,
          none⟩ := by decide
    have hoff : resolveDefault [⟨"general", [("private", "off")]⟩]
        (⟨"private", enabledOf .privacyFeature, .boolean, ConfigFlag.getGlobalDefault, .noUpdateNeeded, none,
          none⟩ : ConfigOption DeviceMember) none = some "off" := by decide
    have htrue : sccpTrue "off" = false := by decide
    rw [hrows, defaultsAt_initial, defaultsAt_filter, hfilter]
    · simp only [defaultsAt, hoff, show "off".isEmpty = false from rfl, looksForDefault]
      simp only [setValueAt, hprivate, enabledOf, show skipsByFlags ConfigFlag.getGlobalDefault = false from rfl,
        and_true, if_true, View.get, setValueByType, htrue]
      rfl
    · rfl
    · decide
  simp only [sccpConfigApplyDeviceConfiguration, Bool.false_eq_true, if_false, applyConfiguration,
    sccpConfigSetDefaults, setDefaultsLoop_apply, applyPairs_apply] at h
  rw [show DeviceMember.privacyFeature.kind.zero = .feature 0 false from rfl, hpairs, hdefaults] at h
  simp at h

/-! ## Members default resolution never writes -/

section Inert

variable (env : Env) {M : Type} [DecidableEq M] (options : List (ConfigOption M)) (size : M → Nat)

theorem defaultsAt_of_inert (cfg : Config) (m : M) (rows : List (ConfigOption M × Bool))
    (h : ∀ p ∈ rows, nameTargets options p.1.name = some m →
      p.1.flags ≠ ConfigFlag.getDeviceDefault ∧ p.1.flags ≠ ConfigFlag.getGlobalDefault ∧ p.1.defaultValue = none) :
    ∀ (value : Option String), (value = none ∨ value = some "") → ∀ cur : Value,
      defaultsAt env options size cfg m rows value cur = cur := by
  induction rows with
  | nil => intro _ _ cur; rfl
  | cons p rest ih =>
    intro value hvalue cur
    obtain ⟨o, set⟩ := p
    have hrest := ih fun q hq => h q (List.mem_cons_of_mem _ hq)
    simp only [defaultsAt]
    split
    · by_cases hm : nameTargets options o.name = some m
      · obtain ⟨hdev, hglob, hdef⟩ : o.flags ≠ _ ∧ o.flags ≠ _ ∧ o.defaultValue = none :=
          h (o, set) (List.mem_cons_self _ _) hm
        rcases hvalue with rfl | rfl <;>
          simp [resolveDefault, hdev, hglob, hdef, hrest, show "".isEmpty = true from rfl]
      · cases resolveDefault cfg o value <;>
          simp [hrest, setValueAt_of_nameTargets_ne env options size _ _ m _ hm]
    · exact hrest value hvalue cur

theorem defaultsAt_first_row (cfg : Config) (m : M) (o : ConfigOption M) (set : Bool)
    (rest : List (ConfigOption M × Bool)) (cur : Value)
    (hflags : o.flags ≠ ConfigFlag.getDeviceDefault ∧ o.flags ≠ ConfigFlag.getGlobalDefault)
    (hrest : ∀ p ∈ rest, nameTargets options p.1.name ≠ some m) :
    defaultsAt env options size cfg m ((o, set) :: rest) (some "") cur = cur := by
  have hframe := defaultsAt_of_not_reached env options size cfg m rest fun p hp _ => hrest p hp
  simp only [defaultsAt]
  split
  · simp [resolveDefault, hflags, hframe, show "".isEmpty = true from rfl]
  · exact hframe _ cur

end Inert

/-- Default resolution never writes a device's `nat`, whose flags
DEPRECATED|GET_GLOBAL_DEFAULT match no case of `switch (flags)`, and never the
global `servername`, the first row of its table, which meets the local's initial
empty string: whatever `[general]` and the section hold. -/
theorem sccpConfigSetDefaults_skips_nat_and_servername (env : Env) (cfg : Config)
    (dev : DeviceMember → Value) (devPairs : List (String × String)) (glob : GlobalMember → Value)
    (globPairs : List (String × String)) :
    sccpConfigSetDefaults env sccpDeviceConfigOptions env.deviceSize cfg dev devPairs .nat = dev .nat ∧
      sccpConfigSetDefaults env sccpGlobalConfigOptions env.globalSize cfg glob globPairs .servername =
        glob .servername := by
  simp only [sccpConfigSetDefaults, setDefaultsLoop_apply, alreadySetEntries]
  constructor
  · refine defaultsAt_of_inert env _ _ cfg _ _ ?_ _ (Or.inr rfl) _
    intro p hp
    obtain ⟨o, ho, rfl⟩ := List.mem_map.mp hp
    exact (by decide : ∀ o ∈ sccpDeviceConfigOptions, nameTargets sccpDeviceConfigOptions o.name = some .nat →
      o.flags ≠ ConfigFlag.getDeviceDefault ∧ o.flags ≠ ConfigFlag.getGlobalDefault ∧ o.defaultValue = none) o ho
  · refine defaultsAt_first_row env _ _ cfg _ _ _ _ _ (by decide) ?_
    intro p hp
    obtain ⟨o, ho, rfl⟩ := List.mem_map.mp hp
    exact (by decide : ∀ o ∈ sccpGlobalConfigOptions.tail,
      nameTargets sccpGlobalConfigOptions o.name ≠ some .servername) o ho

end SccpConfig
