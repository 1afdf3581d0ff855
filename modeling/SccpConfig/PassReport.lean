import SccpConfig.MemberPass
import SccpConfig.SetValueFlags

/-!
# What a pass reports, and what it cannot store

`sccp_config_applyGlobalConfiguration`, `sccp_config_applyDeviceConfiguration` and
`sccp_config_applyLineConfiguration` OR together the results of the section's
pairs; the defaults `sccp_config_set_defaults` applies afterwards are not
counted. When every pair names an option that reports exactly, the OR is
NEEDDEVICERESET exactly when some pair, at its turn, changed the member of a
reset-class option.

The access-list converters hand `sccp_append_ha` the list head by value and drop
the head it returns, so an empty list never receives a rule: whatever `permit`
and `deny` values a pass applies, an access list emptied before it stays empty.

`sccp_config_general` returns FALSE only when `[general]` is missing or empty. A bind address
that does not resolve makes `sccp_config_parse_ipaddress` report INVALIDVALUE, which
`sccp_config_object_setValue` does not pass on, so the pass goes on and returns TRUE.
-/

namespace SccpConfig

set_option autoImplicit false

section Report

variable (env : Env) {M : Type} [DecidableEq M] (options : List (ConfigOption M)) (size : M → Nat)

/-- Every member an `enabled` row reaches holds a feature, as the struct declares. -/
def Live (obj : M → Value) : Prop :=
  ∀ o ∈ options, ∀ p ∈ o.target, p.2 = .enabled → (obj p.1).kind = .feature

instance (obj : M → Value) : Decidable (Live options obj) :=
  inferInstanceAs (Decidable (∀ o ∈ options, ∀ p ∈ o.target, p.2 = .enabled → (obj p.1).kind = .feature))

theorem Live.setValue {obj : M → Value} (h : Live options obj) (name value : String) :
    Live options (sccpConfigObjectSetValue env options size obj name value).1 := by
  intro o ho p hp he
  rw [sccpConfigObjectSetValue_apply, setValueAt_kind]
  exact h o ho p hp he

/-- The options a name finds all report exactly: a row that
`sccp_config_object_setValue` skips (no member, or flags that return before the
store), or one whose data type and converter report a change as its class. -/
def ExactName (name : String) : Bool :=
  (sccpFindConfig options name).all fun o => o.target.isNone || skipsByFlags o.flags || reportsExactly o.type o.converter

/-- One pair, applied to `obj`, changes the member of a reset-class option. -/
def ChangesReset (obj : M → Value) (name value : String) : Prop :=
  ∃ o m view, sccpFindConfig options name = some o ∧ o.target = some (m, view) ∧
    o.change = .needDeviceReset ∧ (sccpConfigObjectSetValue env options size obj name value).1 m ≠ obj m

/-- Some pair of the list, applied in turn, changes the member of a reset-class option. -/
def ChangesResetMember : (M → Value) → List (String × String) → Prop
  | _, [] => False
  | obj, (n, v) :: rest =>
    ChangesReset env options size obj n v ∨
      ChangesResetMember (sccpConfigObjectSetValue env options size obj n v).1 rest

/-- The results a pass ORs together when its pairs report exactly. -/
def ResetCode (cc : ChangeCodes) (r : Nat) : Prop :=
  r = cc.noUpdateNeeded ∨ r = cc.needDeviceReset

theorem ResetCode.or {cc : ChangeCodes} {a b : Nat} (ha : ResetCode cc a) (hb : ResetCode cc b) :
    ResetCode cc (a ||| b) ∧ (a ||| b = cc.needDeviceReset ↔ a = cc.needDeviceReset ∨ b = cc.needDeviceReset) := by
  have h0 := cc.noUpdateNeeded_eq
  have hn := cc.needDeviceReset_ne
  unfold ResetCode at *
  rcases ha with rfl | rfl <;> rcases hb with rfl | rfl <;> simp_all [Nat.or_self]

/-- Every pair, at its turn, names options that report exactly, or leaves the
object as it is and reports NOUPDATENEEDED, as a CHAR or STRING pair does when its
member already holds the value. -/
def PairsReportExactly : (M → Value) → List (String × String) → Prop
  | _, [] => True
  | obj, (n, v) :: rest =>
    (ExactName options n = true ∨
        sccpConfigObjectSetValue env options size obj n v = (obj, env.codes.noUpdateNeeded)) ∧
      PairsReportExactly (sccpConfigObjectSetValue env options size obj n v).1 rest

theorem sccpConfigObjectSetValue_resetCode {obj : M → Value} (hlive : Live options obj) (name value : String)
    (hexact : ExactName options name = true ∨
      sccpConfigObjectSetValue env options size obj name value = (obj, env.codes.noUpdateNeeded)) :
    ResetCode env.codes (sccpConfigObjectSetValue env options size obj name value).2 ∧
      ((sccpConfigObjectSetValue env options size obj name value).2 = env.codes.needDeviceReset ↔
        ChangesReset env options size obj name value) := by
  unfold ChangesReset ResetCode
  rcases hexact with hexact | hsame
  swap
  · -- a pair that changes nothing
    rw [hsame]
    exact ⟨.inl rfl, by simp [env.codes.noUpdateNeeded_eq, (env.codes.needDeviceReset_ne).symm]⟩
  cases hfind : sccpFindConfig options name with
  | none => simp [sccpConfigObjectSetValue, hfind]
  | some o =>
    have ho := List.mem_of_find?_eq_some hfind
    cases ht : o.target with
    | none => simp [sccpConfigObjectSetValue, hfind, ht]
    | some p =>
      obtain ⟨m, view⟩ := p
      cases hskip : skipsByFlags o.flags
      · simp only [ExactName, hfind, Option.all_some, ht, hskip, Option.isNone_some, Bool.false_or] at hexact
        have hrep := sccpConfigObjectSetValue_snd_of_reached env options size obj name value o m view hfind ht
          hskip hexact fun he => hlive o ho (m, view) (by simp [ht]) he
        rw [hrep]
        cases hc : o.change <;> by_cases hm : (sccpConfigObjectSetValue env options size obj name value).1 m = obj m <;>
          simp [hm, hc, ht, ChangeCodes.code]
      · simp [sccpConfigObjectSetValue, hfind, ht, hskip]

theorem applyPairs_needDeviceReset_iff (pairs : List (String × String)) :
    ∀ (obj : M → Value) (res : Nat), PairsReportExactly env options size obj pairs → Live options obj →
      ResetCode env.codes res →
      ((applyPairs env options size obj res pairs).2 = env.codes.needDeviceReset ↔
        res = env.codes.needDeviceReset ∨ ChangesResetMember env options size obj pairs) := by
  induction pairs with
  | nil => intro obj res _ _ _; simp [applyPairs, ChangesResetMember]
  | cons p rest ih =>
    intro obj res hexact hlive hres
    obtain ⟨n, v⟩ := p
    obtain ⟨hcode, hstep⟩ := sccpConfigObjectSetValue_resetCode env options size hlive n v hexact.1
    obtain ⟨hor, hiff⟩ := hres.or hcode
    simp only [applyPairs, ChangesResetMember]
    rw [ih _ _ hexact.2 (hlive.setValue env options size n v) hor, hiff, hstep, or_assoc]

end Report

/-- When every pair of the section, at its turn, names options that report exactly
or changes nothing, a pass returns NEEDDEVICERESET exactly when some pair changed the
member of a reset-class option; what default resolution changes is not reported. -/
theorem applyConfiguration_needDeviceReset_iff (env : Env) {M : Type} [DecidableEq M]
    (options : List (ConfigOption M)) (size : M → Nat) (cfg : Config) (obj : M → Value)
    (pairs : List (String × String)) (hexact : PairsReportExactly env options size obj pairs)
    (hlive : Live options obj) :
    (applyConfiguration env options size cfg obj pairs).2 = env.codes.needDeviceReset ↔
      ChangesResetMember env options size obj pairs := by
  rw [applyConfiguration, applyPairs_needDeviceReset_iff env options size pairs obj _ hexact hlive (Or.inl rfl)]
  simp

def typedDevice : DeviceMember → Value :=
  Function.update (fun m => m.kind.zero) .configType (.string "7960")

theorem sccpFindConfig_devicetype : sccpFindConfig sccpDeviceConfigOptions "devicetype" =
    some ⟨"devicetype", whole .configType, .string, ConfigFlag.none, .needDeviceReset, none, none⟩ := by
  decide

theorem typedDevice_configType : typedDevice .configType = .string "7960" := Function.update_same _ _ _

theorem typedDevice_devicetype_unchanged :
    sccpConfigObjectSetValue sampleEnv sccpDeviceConfigOptions sampleEnv.deviceSize typedDevice "devicetype" "7960" =
      (typedDevice, sampleEnv.codes.noUpdateNeeded) := by
  have hcur := typedDevice_configType
  simp only [sccpConfigObjectSetValue, sccpFindConfig_devicetype, whole, show skipsByFlags ConfigFlag.none = false from rfl,
    Bool.false_eq_true, if_false, View.get_whole, View.put_whole, hcur, setValueByType,
    show strcasecmpEq "7960" "7960" = true from rfl, if_true]
  exact Prod.ext (Function.update_eq_self_iff.mpr hcur.symm) rfl

/-- A full device section, `type` and an unchanged `devicetype` included, reports the
reset its `keepalive` makes. -/
theorem applyConfiguration_typed_device_reset :
    PairsReportExactly sampleEnv sccpDeviceConfigOptions sampleEnv.deviceSize typedDevice
        [("type", "device"), ("devicetype", "7960"), ("keepalive", "30")] ∧
      ((applyConfiguration sampleEnv sccpDeviceConfigOptions sampleEnv.deviceSize [] typedDevice
          [("type", "device"), ("devicetype", "7960"), ("keepalive", "30")]).2 = sampleEnv.codes.needDeviceReset ↔
        ChangesResetMember sampleEnv sccpDeviceConfigOptions sampleEnv.deviceSize typedDevice
          [("type", "device"), ("devicetype", "7960"), ("keepalive", "30")]) := by
  have htype : sccpConfigObjectSetValue sampleEnv sccpDeviceConfigOptions sampleEnv.deviceSize typedDevice "type"
      "device" = (typedDevice, sampleEnv.codes.noUpdateNeeded) := rfl
  have hexact : PairsReportExactly sampleEnv sccpDeviceConfigOptions sampleEnv.deviceSize typedDevice
      [("type", "device"), ("devicetype", "7960"), ("keepalive", "30")] := by
    refine ⟨Or.inl (by decide), ?_⟩
    rw [htype]
    refine ⟨Or.inr typedDevice_devicetype_unchanged, ?_⟩
    rw [typedDevice_devicetype_unchanged]
    exact ⟨Or.inl (by decide), trivial⟩
  exact ⟨hexact, applyConfiguration_needDeviceReset_iff sampleEnv _ _ _ _ _ hexact (by decide)⟩

theorem applyDeviceConfiguration_keepalive_default_unreported :
    ¬ ∃ env : Env,
      ((sccpConfigApplyDeviceConfiguration env [⟨"general", [("keepalive", "45")]⟩]
          ⟨"SEP1", false, false, fun m => m.kind.zero⟩ []).2 = env.codes.needDeviceReset ↔
        ∃ o ∈ sccpDeviceConfigOptions, ∃ m view, o.target = some (m, view) ∧ o.change = .needDeviceReset ∧
          (sccpConfigApplyDeviceConfiguration env [⟨"general", [("keepalive", "45")]⟩]
            ⟨"SEP1", false, false, fun m => m.kind.zero⟩ []).1.config m ≠ m.kind.zero) := by
  rintro ⟨env, h⟩
  have hkeep : (sccpConfigApplyDeviceConfiguration env [⟨"general", [("keepalive", "45")]⟩]
      ⟨"SEP1", false, false, fun m => m.kind.zero⟩ []).1.config .keepalive = .int 45 := by
    have hrows : alreadySetEntries sccpDeviceConfigOptions [] =
        (⟨"name", none, .string, ConfigFlag.ignore, .noUpdateNeeded, none, none⟩, false) ::
          (alreadySetEntries sccpDeviceConfigOptions []).tail := rfl
    have hfilter : ((alreadySetEntries sccpDeviceConfigOptions []).tail.filter
        fun p => nameTargets sccpDeviceConfigOptions p.1.name = some .keepalive) =
        [(⟨"keepalive", whole .keepalive, .int, ConfigFlag.getGlobalDefault, .needDeviceReset, none, none⟩,
          false)] := by decide
    have hfind : sccpFindConfig sccpDeviceConfigOptions "keepalive" =
        some ⟨"keepalive", whole .keepalive, .int, ConfigFlag.getGlobalDefault, .needDeviceReset, none, none⟩ := by
      decide
    simp only [sccpConfigApplyDeviceConfiguration, Bool.false_eq_true, if_false, applyConfiguration,
      sccpConfigSetDefaults, setDefaultsLoop_apply, applyPairs_apply]
    rw [hrows, defaultsAt_one_default env _ _ _ _ _ _ _ _ "45" _ ?_ ?_ hfilter rfl (by decide) rfl]
    · simp only [pairsAt, List.foldl_nil, setValueAt, hfind, whole,
        show skipsByFlags ConfigFlag.getGlobalDefault = false from rfl, and_true, if_true, View.get_whole,
        View.put_whole, setValueByType, show atoi "45" = 45 by decide]
      rfl
    · rfl
    · decide
  have hreport : (sccpConfigApplyDeviceConfiguration env [⟨"general", [("keepalive", "45")]⟩]
      ⟨"SEP1", false, false, fun m => m.kind.zero⟩ []).2 = env.codes.noUpdateNeeded := rfl
  have hchanged := h.mpr ⟨⟨"keepalive", whole .keepalive, .int, ConfigFlag.getGlobalDefault, .needDeviceReset,
    none, none⟩, by decide, .keepalive, .whole, rfl, rfl, by rw [hkeep]; decide⟩
  rw [hreport] at hchanged
  exact env.codes.noUpdateNeeded_ne_needDeviceReset hchanged

theorem applyConfiguration_string_change_inexact (env : Env) :
    ¬ (((applyConfiguration env sccpDeviceConfigOptions env.deviceSize [] typedDevice [("devicetype", "")]).2 =
          env.codes.needDeviceReset ↔
        ChangesResetMember env sccpDeviceConfigOptions env.deviceSize typedDevice [("devicetype", "")]) ∧
      ((applyConfiguration env sccpDeviceConfigOptions env.deviceSize []
          (Function.update (fun m => m.kind.zero) .meetmeopts (.string "qxd")) [("meetmeopts", "")]).2 =
          env.codes.needDeviceReset ↔
        ChangesResetMember env sccpDeviceConfigOptions env.deviceSize
          (Function.update (fun m => m.kind.zero) .meetmeopts (.string "qxd")) [("meetmeopts", "")])) := by
  rintro ⟨hdevicetype, hmeetmeopts⟩
  have hopts : sccpFindConfig sccpDeviceConfigOptions "meetmeopts" =
      some ⟨"meetmeopts", whole .meetmeopts, .string, ConfigFlag.getGlobalDefault, .noUpdateNeeded, none, none⟩ := by
    decide
  have hd := sccpConfigObjectSetValue_string_empty env sccpDeviceConfigOptions env.deviceSize typedDevice
    "devicetype" _ .configType "7960" sccpFindConfig_devicetype rfl rfl rfl typedDevice_configType
  have hm := sccpConfigObjectSetValue_string_empty env sccpDeviceConfigOptions env.deviceSize
    (Function.update (fun m => m.kind.zero) .meetmeopts (.string "qxd")) "meetmeopts" _ .meetmeopts "qxd" hopts
    rfl rfl rfl (Function.update_same _ _ _)
  simp only [applyConfiguration, applyPairs, ChangesResetMember, or_false, hd, hm, if_neg (by decide : "7960" ≠ ""),
    if_neg (by decide : "qxd" ≠ ""), env.codes.noUpdateNeeded_eq, Nat.zero_or] at hdevicetype hmeetmeopts
  -- the devicetype pair changes its reset-class member, so CHANGED stands for a reset
  have hchanged : env.codes.changeChanged = env.codes.needDeviceReset :=
    hdevicetype.mpr ⟨_, .configType, .whole, sccpFindConfig_devicetype, rfl, rfl, by
      simp [hd, typedDevice_configType]⟩
  -- and then the meetmeopts pair reports a reset it does not make
  obtain ⟨o, m, view, hfind, -, hclass, -⟩ := hmeetmeopts.mp hchanged
  rw [hopts, Option.some_inj] at hfind
  subst hfind
  exact absurd hclass (by decide)

/-- Default resolution and STRING members both break the report. -/
theorem applyDeviceConfiguration_reset_report_inexact :
    (¬ ∃ env : Env,
      ((sccpConfigApplyDeviceConfiguration env [⟨"general", [("keepalive", "45")]⟩]
          ⟨"SEP1", false, false, fun m => m.kind.zero⟩ []).2 = env.codes.needDeviceReset ↔
        ∃ o ∈ sccpDeviceConfigOptions, ∃ m view, o.target = some (m, view) ∧ o.change = .needDeviceReset ∧
          (sccpConfigApplyDeviceConfiguration env [⟨"general", [("keepalive", "45")]⟩]
            ⟨"SEP1", false, false, fun m => m.kind.zero⟩ []).1.config m ≠ m.kind.zero)) ∧
      ∀ env : Env,
        ¬ (((applyConfiguration env sccpDeviceConfigOptions env.deviceSize [] typedDevice [("devicetype", "")]).2 =
              env.codes.needDeviceReset ↔
            ChangesResetMember env sccpDeviceConfigOptions env.deviceSize typedDevice [("devicetype", "")]) ∧
          ((applyConfiguration env sccpDeviceConfigOptions env.deviceSize []
              (Function.update (fun m => m.kind.zero) .meetmeopts (.string "qxd")) [("meetmeopts", "")]).2 =
              env.codes.needDeviceReset ↔
            ChangesResetMember env sccpDeviceConfigOptions env.deviceSize
              (Function.update (fun m => m.kind.zero) .meetmeopts (.string "qxd")) [("meetmeopts", "")])) :=
  ⟨applyDeviceConfiguration_keepalive_default_unreported, applyConfiguration_string_change_inexact⟩

/-! ## Access lists -/

section Acl

variable (env : Env) {M : Type} [DecidableEq M] (options : List (ConfigOption M)) (size : M → Nat)

/-- Every row reaching `m` writes it whole through `sccp_config_parse_deny` or
`sccp_config_parse_permit`. -/
def AclRowsOnly (m : M) : Prop :=
  ∀ o ∈ options, ∀ p ∈ o.target, p.1 = m →
    p.2 = .whole ∧ o.type = .generic ∧ (o.converter = some .parseDeny ∨ o.converter = some .parsePermit)

instance (m : M) : Decidable (AclRowsOnly options m) :=
  inferInstanceAs (Decidable (∀ o ∈ options, ∀ p ∈ o.target, p.1 = m →
    p.2 = .whole ∧ o.type = .generic ∧ (o.converter = some .parseDeny ∨ o.converter = some .parsePermit)))

theorem setValueAt_acl_nil {m : M} (h : AclRowsOnly options m) (name value : String) :
    setValueAt env options size name value m (.acl []) = .acl [] := by
  unfold setValueAt
  cases hfind : sccpFindConfig options name with
  | none => rfl
  | some o =>
    dsimp only
    cases ht : o.target with
    | none => rfl
    | some p =>
      obtain ⟨m', view⟩ := p
      dsimp only
      split
      · rename_i hm
        obtain ⟨hm', -⟩ := hm
        subst hm'
        obtain ⟨rfl, htype, hconv⟩ :=
          h o (List.mem_of_find?_eq_some hfind) (m, view) (by simp [ht]) rfl
        rcases hconv with hconv | hconv <;> rw [htype, hconv]
        · rfl
        · show Value.acl (sccpConfigParsePermit env [] value).1 = _
          unfold sccpConfigParsePermit
          split <;> rfl
      · rfl

theorem applyConfiguration_acl_nil {m : M} (h : AclRowsOnly options m) (cfg : Config) (obj : M → Value)
    (pairs : List (String × String)) (hobj : obj m = .acl []) :
    (applyConfiguration env options size cfg obj pairs).1 m = .acl [] := by
  have hfix := setValueAt_acl_nil env options size h
  simp only [applyConfiguration, sccpConfigSetDefaults, setDefaultsLoop_apply, applyPairs_apply, hobj,
    pairsAt_of_fixed env options size m _ hfix, defaultsAt_of_fixed env options size cfg m _ hfix]

end Acl

theorem createContexts_globals (env : Env) (pieces : List String) :
    ∀ s : GeneralState, (createContexts env pieces s).globals = s.globals := by
  induction pieces with
  | nil => intro s; rfl
  | cons c rest ih => intro s; simp [createContexts, ih]

/-- `permit` and `deny` never reach an emptied access list: after
`sccp_config_general` the global list is empty, and so is a device's after a pass
that started with it marked `pendingDelete`, whatever the sections hold. -/
theorem permit_deny_never_fill_emptied_acl (env : Env) (cfg : Config) (s : GeneralState) (d : Device)
    (pairs : List (String × String)) :
    (sccpConfigGeneral env cfg s).1.globals .ha = .acl [] ∧
      (sccpConfigApplyDeviceConfiguration env cfg { d with pendingDelete := true } pairs).1.config .ha =
        .acl [] := by
  constructor
  · unfold sccpConfigGeneral
    cases hv : astVariableBrowse cfg "general" with
    | none => simp
    | some v =>
      rcases v with _ | ⟨p, ps⟩
      · simp
      simp only [setupRegcontext, createContexts_globals]
      have happly := applyConfiguration_acl_nil env sccpGlobalConfigOptions env.globalSize (m := .ha)
        (by decide) cfg (Function.update (Function.update s.globals .ha (.acl [])) .localaddr (.acl [])) (p :: ps)
        (by simp)
      unfold sccpConfigApplyGlobalConfiguration
      split <;> split <;> (try split) <;> (try split) <;> simp_all
  · exact applyConfiguration_acl_nil env sccpDeviceConfigOptions env.deviceSize (by decide) cfg _ pairs
      (by simp [clearDeviceLists])

/-! ## The result of the general pass -/

theorem sccpConfigObjectSetValue_bindaddr_unresolved (env : Env) (g : GlobalMember → Value) (b : String)
    (hb : env.gethostbyname b = none) :
    sccpConfigObjectSetValue env sccpGlobalConfigOptions env.globalSize g "bindaddr" b =
      (g, env.codes.noUpdateNeeded) := by
  have hrow : sccpFindConfig sccpGlobalConfigOptions "bindaddr" = some ⟨"bindaddr", whole .bindaddr, .generic,
      ConfigFlag.none, .needDeviceReset, some "0.0.0.0", some .parseIpaddress⟩ := by decide
  have hconv : ∀ (size : Nat) (v : Value), (runConverter env size .parseIpaddress v b).1 = v ∧
      (runConverter env size .parseIpaddress v b).2 ≠ env.codes.changeChanged := by
    intro size v
    cases v
    case sockaddr a p =>
      have hr : sccpConfigParseIpaddress env a p b = ((a, p), env.codes.changeInvalidValue) := by
        simp [sccpConfigParseIpaddress, hb]
      have hrun : runConverter env size .parseIpaddress (.sockaddr a p) b =
          (.sockaddr (sccpConfigParseIpaddress env a p b).1.1 (sccpConfigParseIpaddress env a p b).1.2,
            (sccpConfigParseIpaddress env a p b).2) := rfl
      rw [hrun, hr]
      exact ⟨rfl, env.codes.changeInvalidValue_ne_changed⟩
    all_goals exact ⟨rfl, env.codes.changeNoChange_ne_changed⟩
  obtain ⟨hsame, hreport⟩ := hconv (env.globalSize .bindaddr) (g .bindaddr)
  unfold sccpConfigObjectSetValue
  rw [hrow]
  simp [whole, skipsByFlags, setValueByType, hsame, hreport]

/-- With a `[general]` section that sets `bindaddr` to a value that does not
resolve, whatever else it holds, `sccp_config_general` returns TRUE; the value is
dropped without a trace. -/
theorem sccpConfigGeneral_unresolvable_bindaddr_accepted (env : Env) (cfg : Config) (s : GeneralState)
    (pairs : List (String × String)) (b : String) (hgeneral : astVariableBrowse cfg "general" = some pairs)
    (hbindaddr : ("bindaddr", b) ∈ pairs) (hb : env.gethostbyname b = none) :
    (∀ g : GlobalMember → Value, sccpConfigObjectSetValue env sccpGlobalConfigOptions env.globalSize g "bindaddr" b =
        (g, env.codes.noUpdateNeeded)) ∧
      (sccpConfigGeneral env cfg s).2 = true := by
  refine ⟨fun g => sccpConfigObjectSetValue_bindaddr_unresolved env g b hb, ?_⟩
  obtain ⟨p, ps, rfl⟩ := List.exists_cons_of_ne_nil (List.ne_nil_of_mem hbindaddr)
  unfold sccpConfigGeneral
  rw [hgeneral]

/-- The sample environment, with a resolver that resolves nothing. -/
def unresolvingEnv : Env := { sampleEnv with gethostbyname := fun _ => none }

/-- `[general] bindaddr = nowhere` with a resolver that does not know it: the pass
returns TRUE. -/
theorem sccpConfigGeneral_bindaddr_nowhere :
    astVariableBrowse [⟨"general", [("bindaddr", "nowhere")]⟩] "general" = some [("bindaddr", "nowhere")] ∧
      ("bindaddr", "nowhere") ∈ [("bindaddr", "nowhere")] ∧
      unresolvingEnv.gethostbyname "nowhere" = none ∧
      (∀ g : GlobalMember → Value,
          sccpConfigObjectSetValue unresolvingEnv sccpGlobalConfigOptions unresolvingEnv.globalSize g "bindaddr"
            "nowhere" = (g, unresolvingEnv.codes.noUpdateNeeded)) ∧
        (sccpConfigGeneral unresolvingEnv [⟨"general", [("bindaddr", "nowhere")]⟩]
          ⟨fun m => m.kind.zero, "", false, []⟩).2 = true :=
  ⟨by decide, by decide, rfl,
    sccpConfigGeneral_unresolvable_bindaddr_accepted unresolvingEnv _ _ [("bindaddr", "nowhere")] "nowhere"
      (by decide) (by decide) rfl⟩

end SccpConfig
