import SccpConfig.OneRow
import SccpConfig.SetValueReport

/-!
# Reload against a fresh load

`sccp_config_readDevicesLines` on a reload finds each device and line the file
describes among the ones already loaded and rebuilds it in place; a fresh load
creates it zeroed and builds it. Both runs rebuild it with the same sections, each
with its own pairs, member by member, so each member ends as the same function of
its value before the run: the member's previous value on a reload, zero on a fresh
load. Every member of every registry the passes reach holds a value of its kind,
so the two runs agree on each member that those rebuilds overwrite whatever value
of its kind it held. A member no pair of the section and no default reaches keeps
its previous value on a reload.
-/

namespace SccpConfig

set_option autoImplicit false

variable (env : Env)

/-! ## The whole pass -/

theorem propagateGlobalUpdate_devices (reg : Registry) :
    ((propagateGlobalUpdate reg).devices.map fun d => (d.id, d.config)) = reg.devices.map fun d => (d.id, d.config) := by
  unfold propagateGlobalUpdate
  split
  · simp only [List.map_map]
    exact List.map_congr_left fun d _ => by simp only [Function.comp_apply]; split <;> rfl
  · rfl

@[simp] theorem propagateGlobalUpdate_lines (reg : Registry) : (propagateGlobalUpdate reg).lines = reg.lines := by
  unfold propagateGlobalUpdate
  split <;> rfl

/-- The registry the category loop starts from. -/
def reloadStart (readingtype : ReadingType) (reg : Registry) : Registry :=
  if readingtype = .readReload then
    { reg with
      devices := reg.devices.map sccpDevicePreReload
      lines := reg.lines.map sccpLinePreReload
      softKeySets := reg.softKeySets.map sccpSoftkeyPreReload }
  else reg

theorem sccpConfigReadDevicesLines_devices (cfg : Config) (readingtype : ReadingType) (reg : Registry) :
    ((sccpConfigReadDevicesLines env cfg readingtype reg).devices.map fun d => (d.id, d.config)) =
      (findOrCreateRun Device.id Category.name (deviceCreate env) (deviceUpdate env cfg) isDeviceSection
        (reloadStart readingtype reg).devices cfg).map fun d => (d.id, d.config) := by
  rw [sccpConfigReadDevicesLines, propagateGlobalUpdate_devices, foldl_readCategory_devices]
  rfl

theorem sccpConfigReadDevicesLines_lines (cfg : Config) (readingtype : ReadingType) (reg : Registry) :
    (sccpConfigReadDevicesLines env cfg readingtype reg).lines =
      findOrCreateRun Line.name Category.name (lineCreate env) (lineUpdate env cfg) isLineSection
        (reloadStart readingtype reg).lines cfg := by
  rw [sccpConfigReadDevicesLines, propagateGlobalUpdate_lines, foldl_readCategory_lines]
  rfl

theorem mem_sccpConfigReadDevicesLines {cfg : Config} {readingtype : ReadingType} {reg : Registry} {d : Device}
    (h : d ∈ findOrCreateRun Device.id Category.name (deviceCreate env) (deviceUpdate env cfg) isDeviceSection
      (reloadStart readingtype reg).devices cfg) :
    ∃ d' ∈ (sccpConfigReadDevicesLines env cfg readingtype reg).devices, d'.id = d.id ∧ d'.config = d.config := by
  have hm : (d.id, d.config) ∈ (sccpConfigReadDevicesLines env cfg readingtype reg).devices.map
      fun d => (d.id, d.config) := by
    rw [sccpConfigReadDevicesLines_devices]
    exact List.mem_map_of_mem _ h
  obtain ⟨d', hd', he⟩ := List.mem_map.mp hm
  exact ⟨d', hd', (Prod.mk.inj he).1, (Prod.mk.inj he).2⟩

/-! ## One device, one line -/

/-- The device sections of a file named `n`, compared without case, in file order. -/
def deviceSections (cfg : Config) (n : String) : List Category :=
  sectionsOf Category.name isDeviceSection cfg n

/-- The line sections of a file named `n`, compared without case, in file order. -/
def lineSections (cfg : Config) (n : String) : List Category :=
  sectionsOf Category.name isLineSection cfg n

/-- Member `m` of the device with that id, from `v`, after the rebuilds of the
device sections named `n`, each with its own pairs. -/
def deviceRebuilt (cfg : Config) (id n : String) (m : DeviceMember) (v : Value) : Value :=
  (deviceSections cfg n).foldl (fun v k => deviceStepAt env cfg id k m v) v

/-- Member `m` of a line, from `v`, after the rebuilds of the line sections named
`n`, each with its own pairs. -/
def lineRebuilt (cfg : Config) (n : String) (m : LineMember) (v : Value) : Value :=
  (lineSections cfg n).foldl (fun v k => lineStepAt env cfg k m v) v

section Run

variable (cfg : Config) (readingtype : ReadingType) (reg : Registry) {n : String}

theorem exists_device_after_pass (hshort : ∀ k ∈ cfg, isDeviceSection k = true → k.name.length < env.deviceIdSize)
    (hn : deviceSections cfg n ≠ []) :
    ∃ d ∈ (sccpConfigReadDevicesLines env cfg readingtype reg).devices, strcasecmpEq d.id n = true ∧
      ∀ m, d.config m = deviceRebuilt env cfg d.id n m
        (((findByKey Device.id (reloadStart readingtype reg).devices n).map Device.config).getD
          (fun m => m.kind.zero) m) := by
  have hfind := @findByKey_findOrCreateRun _ _ Device.id Category.name (deviceCreate env) (deviceUpdate env cfg)
    isDeviceSection (deviceUpdate_id env cfg) (reloadStart readingtype reg).devices cfg
    (fun k hk hs => sccpCopyString_of_lt (hshort k hk hs)) n
  obtain ⟨k₀, rest, hks⟩ := List.exists_cons_of_ne_nil hn
  simp only [runFinds, show sectionsOf Category.name isDeviceSection cfg n = k₀ :: rest from hks] at hfind
  generalize hbase : (findByKey Device.id (reloadStart readingtype reg).devices n).getD (deviceCreate env k₀.name) =
    base at hfind
  obtain ⟨hmem, hkey⟩ := findByKey_eq_some hfind
  obtain ⟨d, hd, hid, hconfig⟩ := mem_sccpConfigReadDevicesLines env hmem
  have hbase_config : base.config =
      ((findByKey Device.id (reloadStart readingtype reg).devices n).map Device.config).getD fun m => m.kind.zero := by
    rw [← hbase]
    cases findByKey Device.id (reloadStart readingtype reg).devices n <;> rfl
  refine ⟨d, hd, hid ▸ hkey, fun m => ?_⟩
  rw [hconfig, hid, foldl_deviceUpdate_config, foldl_deviceUpdate_id, ← hbase_config, deviceRebuilt, hks]

theorem exists_line_after_pass (hshort : ∀ k ∈ cfg, isLineSection k = true → k.name.length < env.lineNameSize)
    (hn : lineSections cfg n ≠ []) :
    ∃ l ∈ (sccpConfigReadDevicesLines env cfg readingtype reg).lines, strcasecmpEq l.name n = true ∧
      ∀ m, l.config m = lineRebuilt env cfg n m
        (((findByKey Line.name (reloadStart readingtype reg).lines n).map lineStart).getD
          (fun m => m.kind.zero) m) := by
  have hfind := @findByKey_findOrCreateRun _ _ Line.name Category.name (lineCreate env) (lineUpdate env cfg)
    isLineSection (lineUpdate_name env cfg) (reloadStart readingtype reg).lines cfg
    (fun k hk hs => sccpCopyString_of_lt (hshort k hk hs)) n
  obtain ⟨k₀, rest, hks⟩ := List.exists_cons_of_ne_nil hn
  simp only [runFinds, show sectionsOf Category.name isLineSection cfg n = k₀ :: rest from hks] at hfind
  rw [sccpConfigReadDevicesLines_lines]
  obtain ⟨hmem, hkey⟩ := findByKey_eq_some hfind
  refine ⟨_, hmem, hkey, fun m => ?_⟩
  rw [foldl_lineUpdate_config, lineRebuilt, hks]
  cases findByKey Line.name (reloadStart readingtype reg).lines n <;> rfl

end Run

/-! ## Members keep their kinds -/

section Kinds

variable {M : Type} [DecidableEq M] (options : List (ConfigOption M)) (size : M → Nat)

theorem pairsAt_kind (m : M) (pairs : List (String × String)) :
    ∀ cur, (pairsAt env options size m pairs cur).kind = cur.kind := by
  induction pairs with
  | nil => intro cur; rfl
  | cons p rest ih =>
    intro cur
    simp only [pairsAt, List.foldl_cons] at ih ⊢
    rw [ih, setValueAt_kind]

theorem defaultsAt_kind (cfg : Config) (m : M) (rows : List (ConfigOption M × Bool)) :
    ∀ value cur, (defaultsAt env options size cfg m rows value cur).kind = cur.kind := by
  induction rows with
  | nil => intro value cur; rfl
  | cons p rest ih =>
    intro value cur
    obtain ⟨o, set⟩ := p
    simp only [defaultsAt]
    split
    · split
      · rw [ih]
        split
        · rfl
        · exact setValueAt_kind env options size _ _ m cur
      · exact ih none cur
    · exact ih value cur

theorem passAt_kind (cfg : Config) (m : M) (pairs : List (String × String)) (cur : Value) :
    (passAt env options size cfg m pairs cur).kind = cur.kind := by
  rw [passAt, defaultsAt_kind, pairsAt_kind]

end Kinds

theorem restoreAt_kind (id : String) (m : DeviceMember) (v : Value) (h : v.kind = m.kind) :
    (restoreAt env id m v).kind = m.kind := by
  by_cases hm : m ∈ restoredMembers
  · simp only [restoredMembers, List.mem_cons, List.not_mem_nil, or_false] at hm
    unfold restoreAt sccpConfigRestoreDeviceFeatureStatus
    dsimp only
    rcases hm with rfl | rfl | rfl | rfl | rfl <;>
      cases env.featureGetFromDatabase ("SCCP/" ++ id) "lastDialedNumber" <;>
      simp only [Function.update_same, ne_eq, reduceCtorEq, not_false_eq_true, Function.update_noteq] <;>
      (try split) <;> first | exact h | rfl
  · rw [restoreAt_other env id m v hm, h]

theorem sccpDevicePreReload_kind {d : Device} (h : ∀ m, (d.config m).kind = m.kind) (m : DeviceMember) :
    ((sccpDevicePreReload d).config m).kind = m.kind := by
  simp only [sccpDevicePreReload]
  by_cases hm : m = .buttonconfig
  · subst hm
    rw [Function.update_same]
    have hb := h .buttonconfig
    split
    · rfl
    · exact hb
  · rw [Function.update_noteq hm]
    exact h m

theorem lineStart_kind {l : Line} (h : ∀ m, (l.config m).kind = m.kind) (m : LineMember) :
    (lineStart l m).kind = m.kind := by
  unfold lineStart
  split
  · by_cases hm : m = .variables
    · subst hm; rfl
    · rw [Function.update_noteq hm]; exact h m
  · exact h m

/-- Every member of every device and line holds a value of its declared kind. -/
def Registry.WellKinded (reg : Registry) : Prop :=
  (∀ d ∈ reg.devices, ∀ m, (d.config m).kind = m.kind) ∧ ∀ l ∈ reg.lines, ∀ m, (l.config m).kind = m.kind

theorem Registry.wellKinded_empty : Registry.empty.WellKinded :=
  ⟨fun _ h => (by cases h), fun _ h => (by cases h)⟩

theorem Registry.WellKinded.readDevicesLines {reg : Registry} (h : reg.WellKinded) (cfg : Config)
    (readingtype : ReadingType) : (sccpConfigReadDevicesLines env cfg readingtype reg).WellKinded := by
  have hstart : (reloadStart readingtype reg).WellKinded := by
    unfold reloadStart
    split
    · refine ⟨fun d hd => ?_, fun l hl => ?_⟩
      · obtain ⟨d', hd', rfl⟩ := List.mem_map.mp hd
        exact sccpDevicePreReload_kind (h.1 d' hd')
      · obtain ⟨l', hl', rfl⟩ := List.mem_map.mp hl
        exact h.2 l' hl'
    · exact h
  refine ⟨fun d hd m => ?_, fun l hl => ?_⟩
  · have hm := List.mem_map_of_mem (fun d : Device => (d.id, d.config)) hd
    rw [sccpConfigReadDevicesLines_devices] at hm
    obtain ⟨d', hd', he⟩ := List.mem_map.mp hm
    rw [← (Prod.mk.inj he).2]
    exact forall_mem_findOrCreateRun (r := fun d => ∀ m, (d.config m).kind = m.kind) (fun _ m => Kind.zero_kind _)
      (fun k a ha m => by rw [deviceUpdate_config, deviceStepAt, restoreAt_kind]; rw [passAt_kind]; exact ha m)
      isDeviceSection cfg _ hstart.1 d' hd' m
  · rw [sccpConfigReadDevicesLines_lines] at hl
    exact forall_mem_findOrCreateRun (r := fun l => ∀ m, (l.config m).kind = m.kind) (fun _ m => Kind.zero_kind _)
      (fun k a ha m => by rw [lineUpdate_config, lineStepAt, passAt_kind]; exact lineStart_kind ha m)
      isLineSection cfg _ hstart.2 l hl

/-! ## Reload against a fresh load -/

/-- Member `m` of the devices named `n` is overwritten by the file: the rebuilds of
the sections of that name, from any value of the member's kind and under any id,
give one value. -/
def DeviceMemberOverwritten (cfg : Config) (n : String) (m : DeviceMember) : Prop :=
  ∀ id id' v v', v.kind = m.kind → v'.kind = m.kind → deviceRebuilt env cfg id n m v = deviceRebuilt env cfg id' n m v'

/-- Member `m` of the lines named `n` is overwritten by the file: the rebuilds of
the sections of that name, from any value of the member's kind, give one value. -/
def LineMemberOverwritten (cfg : Config) (n : String) (m : LineMember) : Prop :=
  ∀ v v', v.kind = m.kind → v'.kind = m.kind → lineRebuilt env cfg n m v = lineRebuilt env cfg n m v'

theorem findByKey_map_sccpDevicePreReload (devices : List Device) (n : String) :
    findByKey Device.id (devices.map sccpDevicePreReload) n = (findByKey Device.id devices n).map sccpDevicePreReload := by
  simp only [findByKey, List.find?_map]
  rfl

theorem findByKey_map_sccpLinePreReload (lines : List Line) (n : String) :
    findByKey Line.name (lines.map sccpLinePreReload) n = (findByKey Line.name lines n).map sccpLinePreReload := by
  simp only [findByKey, List.find?_map]
  rfl

section Reload

variable (cfg : Config) (S : Registry)

theorem reload_device_memberwise (hshort : ∀ k ∈ cfg, isDeviceSection k = true → k.name.length < env.deviceIdSize)
    (hS : S.WellKinded) (k : Category) (hk : k ∈ cfg) (hsel : isDeviceSection k = true) :
    ∃ dR ∈ (sccpConfigReadDevicesLines env cfg .readReload S).devices,
    ∃ dF ∈ (sccpConfigReadDevicesLines env cfg .readInitial Registry.empty).devices,
      strcasecmpEq dR.id k.name = true ∧ strcasecmpEq dF.id k.name = true ∧
      (∀ m, dR.config m = deviceRebuilt env cfg dR.id k.name m
          (((findByKey Device.id S.devices k.name).map fun d => (sccpDevicePreReload d).config).getD
            (fun m => m.kind.zero) m) ∧
        dF.config m = deviceRebuilt env cfg dF.id k.name m m.kind.zero) ∧
      ∀ m, DeviceMemberOverwritten env cfg k.name m → dR.config m = dF.config m := by
  have hn : deviceSections cfg k.name ≠ [] := sectionsOf_ne_nil isDeviceSection hk hsel
  obtain ⟨dR, hR, hRid, hRc⟩ := exists_device_after_pass env cfg .readReload S hshort hn
  obtain ⟨dF, hF, hFid, hFc⟩ := exists_device_after_pass env cfg .readInitial Registry.empty hshort hn
  have hRc' : ∀ m, dR.config m = deviceRebuilt env cfg dR.id k.name m
      (((findByKey Device.id S.devices k.name).map fun d => (sccpDevicePreReload d).config).getD
        (fun m => m.kind.zero) m) := fun m => by
    rw [hRc m]
    simp only [reloadStart, if_true, findByKey_map_sccpDevicePreReload, Option.map_map]
    rfl
  refine ⟨dR, hR, dF, hF, hRid, hFid, fun m => ⟨hRc' m, hFc m⟩, fun m hm => ?_⟩
  rw [hRc' m, hFc m]
  refine hm _ _ _ _ ?_ (Kind.zero_kind _)
  cases hf : findByKey Device.id S.devices k.name with
  | none => exact Kind.zero_kind _
  | some d => exact sccpDevicePreReload_kind (hS.1 d (findByKey_eq_some hf).1) m

theorem reload_line_memberwise (hshort : ∀ k ∈ cfg, isLineSection k = true → k.name.length < env.lineNameSize)
    (hS : S.WellKinded) (k : Category) (hk : k ∈ cfg) (hsel : isLineSection k = true) :
    ∃ lR ∈ (sccpConfigReadDevicesLines env cfg .readReload S).lines,
    ∃ lF ∈ (sccpConfigReadDevicesLines env cfg .readInitial Registry.empty).lines,
      strcasecmpEq lR.name k.name = true ∧ strcasecmpEq lF.name k.name = true ∧
      (∀ m, lR.config m = lineRebuilt env cfg k.name m
          (((findByKey Line.name S.lines k.name).map fun l => Function.update l.config .variables (.variables [])).getD
            (fun m => m.kind.zero) m) ∧
        lF.config m = lineRebuilt env cfg k.name m m.kind.zero) ∧
      ∀ m, LineMemberOverwritten env cfg k.name m → lR.config m = lF.config m := by
  have hn : lineSections cfg k.name ≠ [] := sectionsOf_ne_nil isLineSection hk hsel
  obtain ⟨lR, hR, hRn, hRc⟩ := exists_line_after_pass env cfg .readReload S hshort hn
  obtain ⟨lF, hF, hFn, hFc⟩ := exists_line_after_pass env cfg .readInitial Registry.empty hshort hn
  have hRc' : ∀ m, lR.config m = lineRebuilt env cfg k.name m
      (((findByKey Line.name S.lines k.name).map fun l => Function.update l.config .variables (.variables [])).getD
        (fun m => m.kind.zero) m) := fun m => by
    rw [hRc m]
    simp only [reloadStart, if_true, findByKey_map_sccpLinePreReload, Option.map_map]
    rfl
  refine ⟨lR, hR, lF, hF, hRn, hFn, fun m => ⟨hRc' m, hFc m⟩, fun m hm => ?_⟩
  rw [hRc' m, hFc m]
  refine hm _ _ ?_ (Kind.zero_kind _)
  cases hf : findByKey Line.name S.lines k.name with
  | none => exact Kind.zero_kind _
  | some l => exact lineStart_kind (l := sccpLinePreReload l) (hS.2 l (findByKey_eq_some hf).1) m

end Reload

def overlapOnSection : Category :=
  ⟨"SEP1", [("type", "device"), ("devicetype", "7960"), ("allowoverlap", "on")]⟩

def overlapOnConfig : Config := [overlapOnSection]

def overlapUnsetSection : Category :=
  ⟨"SEP1", [("type", "device"), ("devicetype", "7960")]⟩

def overlapUnsetConfig : Config := [overlapUnsetSection]

/-! ## A member a default overwrites -/

theorem deviceStepAt_overlapUnset_tzOffset (id : String) (n : Int) :
    deviceStepAt env overlapUnsetConfig id overlapUnsetSection .tzOffset (.int n) = .int 0 := by
  have hrows : alreadySetEntries sccpDeviceConfigOptions overlapUnsetSection.vars =
      (⟨"name", none, .string, ConfigFlag.ignore, .noUpdateNeeded, none, none⟩, false) ::
        (alreadySetEntries sccpDeviceConfigOptions overlapUnsetSection.vars).tail := rfl
  have hfilter : ((alreadySetEntries sccpDeviceConfigOptions overlapUnsetSection.vars).tail.filter
      fun p => nameTargets sccpDeviceConfigOptions p.1.name = some .tzOffset) =
      [(⟨"tzoffset", whole .tzOffset, .int, ConfigFlag.none, .needDeviceReset, some "0", none⟩, false)] := by
    decide
  have hfind : sccpFindConfig sccpDeviceConfigOptions "tzoffset" =
      some ⟨"tzoffset", whole .tzOffset, .int, ConfigFlag.none, .needDeviceReset, some "0", none⟩ := by
    decide
  rw [deviceStepAt, restoreAt_other env _ _ _ (by decide), passAt, hrows,
    defaultsAt_one_default env _ _ _ _ _ _ _ _ "0" _ ?_ ?_ hfilter rfl (by decide) rfl]
  · simp only [pairsAt, overlapUnsetSection, List.foldl_cons, List.foldl_nil]
    rw [setValueAt_of_nameTargets_ne env _ _ "type" _ _ _ (by decide),
      setValueAt_of_nameTargets_ne env _ _ "devicetype" _ _ _ (by decide)]
    simp only [setValueAt, hfind, whole, show skipsByFlags ConfigFlag.none = false from rfl, and_true, if_true,
      View.get_whole, View.put_whole, setValueByType, show "0".isEmpty = false from rfl, Bool.false_eq_true, if_false,
      show atoi "0" = 0 by decide]
    by_cases hn : n = 0 <;> simp [hn]
  · rfl
  · decide

theorem tzOffset_overwritten_overlapUnset : DeviceMemberOverwritten env overlapUnsetConfig "SEP1" .tzOffset := by
  have hsections : deviceSections overlapUnsetConfig "SEP1" = [overlapUnsetSection] := by decide
  have hint : ∀ v : Value, v.kind = DeviceMember.tzOffset.kind → ∃ n, v = .int n := by
    intro v hv
    cases v <;> first | exact ⟨_, rfl⟩ | cases hv
  intro id id' v v' hv hv'
  obtain ⟨n, rfl⟩ := hint v hv
  obtain ⟨n', rfl⟩ := hint v' hv'
  simp only [deviceRebuilt, hsections, List.foldl_cons, List.foldl_nil, deviceStepAt_overlapUnset_tzOffset]

theorem overlapFeature_rows_inert :
    ∀ o ∈ sccpDeviceConfigOptions, nameTargets sccpDeviceConfigOptions o.name = some .overlapFeature →
      o.flags ≠ ConfigFlag.getDeviceDefault ∧ o.flags ≠ ConfigFlag.getGlobalDefault ∧ o.defaultValue = none := by
  decide

theorem deviceStepAt_overlapFeature (cfg : Config) (id : String) (k : Category) (v : Value) :
    deviceStepAt env cfg id k .overlapFeature v = pairsAt env sccpDeviceConfigOptions env.deviceSize .overlapFeature k.vars v := by
  rw [deviceStepAt, restoreAt_other env _ _ _ (by decide), passAt,
    defaultsAt_of_inert env _ _ _ _ _ (fun p hp hm => by
      obtain ⟨o, ho, rfl⟩ := List.mem_map.mp hp
      exact overlapFeature_rows_inert o ho hm) _ (Or.inr rfl)]

theorem deviceUpdate_overlapOn (d : Device) (s : Nat) (e : Bool) (h : d.config .overlapFeature = .feature s e) :
    (deviceUpdate env overlapOnConfig overlapOnSection d).config .overlapFeature = .feature s true := by
  have hrow : sccpFindConfig sccpDeviceConfigOptions "allowoverlap" =
      some ⟨"allowoverlap", enabledOf .overlapFeature, .boolean, ConfigFlag.none, .noUpdateNeeded, none, none⟩ := by
    decide
  rw [deviceUpdate_config, deviceStepAt_overlapFeature, h]
  simp only [pairsAt, overlapOnSection, List.foldl_cons, List.foldl_nil]
  rw [setValueAt_of_nameTargets_ne env _ _ "type" _ _ _ (by decide),
    setValueAt_of_nameTargets_ne env _ _ "devicetype" _ _ _ (by decide), setValueAt, hrow]
  cases e <;> rfl

theorem deviceUpdate_overlapUnset (d : Device) :
    (deviceUpdate env overlapUnsetConfig overlapUnsetSection d).config .overlapFeature = d.config .overlapFeature := by
  rw [deviceUpdate_config, deviceStepAt_overlapFeature]
  simp only [pairsAt, overlapUnsetSection, List.foldl_cons, List.foldl_nil]
  rw [setValueAt_of_nameTargets_ne env _ _ "type" _ _ _ (by decide),
    setValueAt_of_nameTargets_ne env _ _ "devicetype" _ _ _ (by decide)]

theorem isDeviceSection_overlapOn : isDeviceSection overlapOnSection = true := by decide

theorem isDeviceSection_overlapUnset : isDeviceSection overlapUnsetSection = true := by decide

theorem readDevicesLines_overlapOn_devices :
    ∃ e0, (sccpConfigReadDevicesLines env overlapOnConfig .readInitial Registry.empty).devices = [e0] ∧
      e0.id = (deviceCreate env "SEP1").id ∧ e0.config .overlapFeature = .feature 0 true := by
  have hF0 : ((sccpConfigReadDevicesLines env overlapOnConfig .readInitial Registry.empty).devices.map
      fun d => (d.id, d.config)) =
      [((deviceCreate env "SEP1").id,
        (deviceUpdate env overlapOnConfig overlapOnSection (deviceCreate env "SEP1")).config)] := by
    rw [sccpConfigReadDevicesLines_devices]
    simp only [findOrCreateRun, reloadStart, List.map_cons, List.map_nil, List.foldl_cons, List.foldl_nil,
      isDeviceSection_overlapOn, if_true, if_false]
    rfl
  obtain ⟨e0, l1, hl, he0, hl1⟩ := List.map_eq_cons_iff.mp hF0
  rw [List.map_eq_nil_iff] at hl1
  subst hl1
  obtain ⟨hid0, hconfig0⟩ := Prod.mk.inj he0
  exact ⟨e0, hl, hid0, by rw [hconfig0]; exact deviceUpdate_overlapOn env _ 0 false rfl⟩

theorem readDevicesLines_reload_overlap_on (S : Registry) (e0 : Device) (hS : S.devices = [e0])
    (hon : e0.config .overlapFeature = .feature 0 true) :
    ∃ dR ∈ (sccpConfigReadDevicesLines env overlapUnsetConfig .readReload S).devices,
      dR.id = e0.id ∧ dR.config .overlapFeature = .feature 0 true := by
  have hon0 : (sccpDevicePreReload e0).config .overlapFeature = .feature 0 true := by
    simp only [sccpDevicePreReload]
    rw [Function.update_noteq (show DeviceMember.overlapFeature ≠ .buttonconfig by decide), hon]
  obtain ⟨x, hx, hxid, hxon⟩ : ∃ x ∈ findOrCreate Device.id Category.name (deviceCreate env)
      (deviceUpdate env overlapUnsetConfig) [sccpDevicePreReload e0] overlapUnsetSection,
      x.id = e0.id ∧ x.config .overlapFeature = .feature 0 true := by
    unfold findOrCreate
    split
    · exact ⟨sccpDevicePreReload e0, List.mem_cons_of_mem _ (List.mem_singleton_self _), rfl, hon0⟩
    · rename_i i _
      cases i with
      | zero =>
        exact ⟨deviceUpdate env overlapUnsetConfig overlapUnsetSection (sccpDevicePreReload e0), List.mem_singleton_self _, rfl,
          (deviceUpdate_overlapUnset env _).trans hon0⟩
      | succ i => exact ⟨sccpDevicePreReload e0, by simp, rfl, hon0⟩
  have hxrun : x ∈ findOrCreateRun Device.id Category.name (deviceCreate env) (deviceUpdate env overlapUnsetConfig)
      isDeviceSection (reloadStart .readReload S).devices overlapUnsetConfig := by
    simpa [findOrCreateRun, reloadStart, hS, isDeviceSection_overlapUnset, overlapUnsetConfig] using hx
  obtain ⟨dR, hdR, hdRid, hdRconfig⟩ := mem_sccpConfigReadDevicesLines env hxrun
  exact ⟨dR, hdR, hdRid.trans hxid, by rw [hdRconfig, hxon]⟩

theorem readDevicesLines_overlapUnset_off :
    ∃ dF ∈ (sccpConfigReadDevicesLines env overlapUnsetConfig .readInitial Registry.empty).devices,
      dF.id = (deviceCreate env "SEP1").id ∧ dF.config .overlapFeature = .feature 0 false := by
  have hyrun : deviceUpdate env overlapUnsetConfig overlapUnsetSection (deviceCreate env overlapUnsetSection.name) ∈
      findOrCreateRun Device.id Category.name (deviceCreate env) (deviceUpdate env overlapUnsetConfig)
        isDeviceSection (reloadStart .readInitial Registry.empty).devices overlapUnsetConfig := by
    simp [findOrCreateRun, reloadStart, isDeviceSection_overlapUnset, overlapUnsetConfig, findOrCreate,
      Registry.empty]
  obtain ⟨dF, hdF, hdFid, hdFconfig⟩ := mem_sccpConfigReadDevicesLines env hyrun
  exact ⟨dF, hdF, hdFid, by rw [hdFconfig, deviceUpdate_overlapUnset]; rfl⟩

end SccpConfig
