import SccpConfig.OneRow
import SccpConfig.RegistryKeys

/-!
# A member over a load and its reloads

`reloadRuns` is the registry after a first load of a configuration and `n`
reloads of it, each pass taken up to its post-reload hooks. Over these runs ids
and names stay distinct, so each reload finds the device or line the previous pass
left for a section, and the member of that object is the rebuild of the sections
of its name: from zero on the load, and on a reload from what the pre-reload
marking left of the previous value. A property of one member over every run thus
reduces to two facts about that rebuild, and the two run lemmas below do the
induction once.

A device rebuilds from its previous members with `pendingDelete` already cleared
by `sccp_config_readDevicesLines`, so the cleanup branch of
`sccp_config_applyDeviceConfiguration` never runs on this path; a line reaches
`sccp_config_applyLineConfiguration` still marked, and its `variables` are
emptied before the first rebuild.
-/

namespace SccpConfig

set_option autoImplicit false

variable (env : Env)

/-- The registry after a first load of a configuration and `n` reloads of it. -/
def reloadRuns (cfg : Config) (n : Nat) : Registry :=
  (sccpConfigReadDevicesLines env cfg .readReload)^[n] (sccpConfigReadDevicesLines env cfg .readInitial Registry.empty)

theorem reloadRuns_succ (cfg : Config) (n : Nat) :
    reloadRuns env cfg (n + 1) = sccpConfigReadDevicesLines env cfg .readReload (reloadRuns env cfg n) :=
  Function.iterate_succ_apply' _ _ _

theorem reloadRuns_namesDistinct (cfg : Config) (hfit : NamesFit env cfg) (n : Nat) :
    (reloadRuns env cfg n).NamesDistinct := by
  induction n with
  | zero => exact namesDistinct_readDevicesLines env cfg _ _ hfit ⟨List.Pairwise.nil, List.Pairwise.nil⟩
  | succ n ih => rw [reloadRuns_succ]; exact namesDistinct_readDevicesLines env cfg _ _ hfit ih

theorem reloadRuns_device_unique (cfg : Config) (hfit : NamesFit env cfg) (n : Nat) {c : String} {d d' : Device}
    (hd : d ∈ (reloadRuns env cfg n).devices) (hd' : d' ∈ (reloadRuns env cfg n).devices)
    (hid : strcasecmpEq d.id c = true) (hid' : strcasecmpEq d'.id c = true) : d = d' :=
  Option.some.inj ((findByKey_of_keysDistinct (reloadRuns_namesDistinct env cfg hfit n).devices hd hid).symm.trans
    (findByKey_of_keysDistinct (reloadRuns_namesDistinct env cfg hfit n).devices hd' hid'))

theorem reloadRuns_line_unique (cfg : Config) (hfit : NamesFit env cfg) (n : Nat) {c : String} {l l' : Line}
    (hl : l ∈ (reloadRuns env cfg n).lines) (hl' : l' ∈ (reloadRuns env cfg n).lines)
    (hname : strcasecmpEq l.name c = true) (hname' : strcasecmpEq l'.name c = true) : l = l' :=
  Option.some.inj ((findByKey_of_keysDistinct (reloadRuns_namesDistinct env cfg hfit n).lines hl hname).symm.trans
    (findByKey_of_keysDistinct (reloadRuns_namesDistinct env cfg hfit n).lines hl' hname'))

/-! ## The pre-reload marks, member by member -/

/-- Member `m` of a device after `sccp_device_pre_reload`, from the value it held. -/
def preReloadAt (m : DeviceMember) (v : Value) : Value :=
  (sccpDevicePreReload ⟨"", false, false, fun _ => v⟩).config m

theorem sccpDevicePreReload_config (d : Device) (m : DeviceMember) :
    (sccpDevicePreReload d).config m = preReloadAt m (d.config m) := by
  by_cases hm : m = .buttonconfig
  · subst hm
    simp only [preReloadAt, sccpDevicePreReload, Function.update_same]
  · simp only [preReloadAt, sccpDevicePreReload, Function.update_noteq hm]

theorem preReloadAt_of_ne {m : DeviceMember} (hm : m ≠ .buttonconfig) (v : Value) : preReloadAt m v = v := by
  simp only [preReloadAt, sccpDevicePreReload, Function.update_noteq hm]

theorem preReloadAt_buttons (l : List ButtonConfig) :
    preReloadAt .buttonconfig (.buttons l) = .buttons (l.map fun b => { b with pendingDelete := true }) := by
  simp only [preReloadAt, sccpDevicePreReload, Function.update_same]

/-- Member `m` of a line a reload finds, as its first rebuild starts from it: the
mark has the rebuild empty `variables`. -/
def lineReloadAt (m : LineMember) (v : Value) : Value :=
  lineStart (sccpLinePreReload ⟨"", false, false, fun _ => v⟩) m

theorem lineStart_sccpLinePreReload (l : Line) (m : LineMember) :
    lineStart (sccpLinePreReload l) m = lineReloadAt m (l.config m) := by
  by_cases hm : m = .variables
  · subst hm
    simp only [lineReloadAt, lineStart, sccpLinePreReload, if_true, Function.update_same]
  · simp only [lineReloadAt, lineStart, sccpLinePreReload, if_true, Function.update_noteq hm]

theorem lineReloadAt_of_ne {m : LineMember} (hm : m ≠ .variables) (v : Value) : lineReloadAt m v = v := by
  simp only [lineReloadAt, lineStart, sccpLinePreReload, if_true, Function.update_noteq hm]

theorem lineReloadAt_variables (v : Value) : lineReloadAt .variables v = .variables [] := by
  simp only [lineReloadAt, lineStart, sccpLinePreReload, if_true, Function.update_same]

/-! ## The two run lemmas -/

section Run

variable (cfg : Config) (hfit : NamesFit env cfg) {k : Category} (hk : k ∈ cfg)
include hfit hk

theorem exists_device_member_over_reloadRuns (hsel : isDeviceSection k = true) (m : DeviceMember)
    (val : Nat → Value) (hload : ∀ id, deviceRebuilt env cfg id k.name m m.kind.zero = val 0)
    (hreload : ∀ id n, deviceRebuilt env cfg id k.name m (preReloadAt m (val n)) = val (n + 1)) (n : Nat) :
    ∃ d ∈ (reloadRuns env cfg n).devices, strcasecmpEq d.id k.name = true ∧ d.config m = val n := by
  have hshort : ∀ k ∈ cfg, isDeviceSection k = true → k.name.length < env.deviceIdSize :=
    fun k hk => (hfit k hk).1
  have hn : deviceSections cfg k.name ≠ [] := sectionsOf_ne_nil isDeviceSection hk hsel
  induction n with
  | zero =>
    obtain ⟨d, hd, hid, hc⟩ := exists_device_after_pass env cfg .readInitial Registry.empty hshort hn
    exact ⟨d, hd, hid, (hc m).trans (hload d.id)⟩
  | succ n ih =>
    obtain ⟨d, hd, hid, hv⟩ := ih
    obtain ⟨d', hd', hid', hc⟩ := exists_device_after_pass env cfg .readReload (reloadRuns env cfg n) hshort hn
    have hfind := findByKey_of_keysDistinct (reloadRuns_namesDistinct env cfg hfit n).devices hd hid
    refine ⟨d', by rw [reloadRuns_succ]; exact hd', hid', ?_⟩
    rw [hc, ← hreload d'.id n, ← hv, ← sccpDevicePreReload_config]
    simp only [reloadStart, if_true, findByKey_map_sccpDevicePreReload, hfind, Option.map_some', Option.getD_some]

theorem exists_line_member_over_reloadRuns (hsel : isLineSection k = true) (m : LineMember)
    (val : Nat → Value) (hload : lineRebuilt env cfg k.name m m.kind.zero = val 0)
    (hreload : ∀ n, lineRebuilt env cfg k.name m (lineReloadAt m (val n)) = val (n + 1)) (n : Nat) :
    ∃ l ∈ (reloadRuns env cfg n).lines, strcasecmpEq l.name k.name = true ∧ l.config m = val n := by
  have hshort : ∀ k ∈ cfg, isLineSection k = true → k.name.length < env.lineNameSize :=
    fun k hk => (hfit k hk).2
  have hn : lineSections cfg k.name ≠ [] := sectionsOf_ne_nil isLineSection hk hsel
  induction n with
  | zero =>
    obtain ⟨l, hl, hname, hc⟩ := exists_line_after_pass env cfg .readInitial Registry.empty hshort hn
    exact ⟨l, hl, hname, (hc m).trans hload⟩
  | succ n ih =>
    obtain ⟨l, hl, hname, hv⟩ := ih
    obtain ⟨l', hl', hname', hc⟩ := exists_line_after_pass env cfg .readReload (reloadRuns env cfg n) hshort hn
    have hfind := findByKey_of_keysDistinct (reloadRuns_namesDistinct env cfg hfit n).lines hl hname
    refine ⟨l', by rw [reloadRuns_succ]; exact hl', hname', ?_⟩
    rw [hc, ← hreload n, ← hv, ← lineStart_sccpLinePreReload]
    simp only [reloadStart, if_true, findByKey_map_sccpLinePreReload, hfind, Option.map_some', Option.getD_some]

end Run

/-! ## List members reached by one row -/

/-- The values of the pairs naming row `r` in some sections, section after section. -/
def sectionsValues {M : Type} (r : ConfigOption M) (ks : List Category) : List String :=
  ks.flatMap fun k => rowValues r k.vars

theorem sectionsValues_cons {M : Type} (r : ConfigOption M) (k : Category) (ks : List Category) :
    sectionsValues r (k :: ks) = rowValues r k.vars ++ sectionsValues r ks :=
  List.flatMap_cons _ _ _

section List

variable {β : Type} (wrap : List β → Value) (f : List β → String → List β)

theorem foldl_deviceStepAt_of_onlyRow {r : ConfigOption DeviceMember} {m : DeviceMember}
    (h : OnlyRow sccpDeviceConfigOptions m r) (hnone : r.flags = ConfigFlag.none) (hdefault : r.defaultValue = none)
    (hm : m ∉ restoredMembers)
    (hconv : ∀ l v, (setValueByType env r.type r.converter (env.deviceSize m) (wrap l) v).1 = wrap (f l v))
    (cfg : Config) (id : String) (ks : List Category) :
    ∀ l, ks.foldl (fun v k => deviceStepAt env cfg id k m v) (wrap l) = wrap ((sectionsValues r ks).foldl f l) := by
  induction ks with
  | nil => intro l; rfl
  | cons k rest ih =>
    intro l
    rw [List.foldl_cons, deviceStepAt, restoreAt_other env id _ _ hm,
      passAt_of_onlyRow_list env env.deviceSize h hnone hdefault wrap f hconv, ih, sectionsValues_cons,
      List.foldl_append]

theorem foldl_lineStepAt_of_onlyRow {r : ConfigOption LineMember} {m : LineMember}
    (h : OnlyRow sccpLineConfigOptions m r) (hnone : r.flags = ConfigFlag.none) (hdefault : r.defaultValue = none)
    (hconv : ∀ l v, (setValueByType env r.type r.converter (env.lineSize m) (wrap l) v).1 = wrap (f l v))
    (cfg : Config) (ks : List Category) :
    ∀ l, ks.foldl (fun v k => lineStepAt env cfg k m v) (wrap l) = wrap ((sectionsValues r ks).foldl f l) := by
  induction ks with
  | nil => intro l; rfl
  | cons k rest ih =>
    intro l
    rw [List.foldl_cons, lineStepAt, passAt_of_onlyRow_list env env.lineSize h hnone hdefault wrap f hconv, ih,
      sectionsValues_cons, List.foldl_append]

end List

end SccpConfig
