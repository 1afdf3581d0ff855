import SccpConfig.Reload
import SccpConfig.FindOrCreate
import SccpConfig.MemberPass

/-!
# Reading devices and lines, one member at a time

The category loop seen from the device list and from the line list: each is a
find-or-create run over the sections, keyed by their names, whose rebuild for a
section is `sccp_config_buildDevice` with that section's pairs followed by
`sccp_config_restoreDeviceFeatureStatus`, or `sccp_config_buildLine`. A rebuild
writes each member from that member's own value (`deviceStepAt`, `lineStepAt`),
so a member's value after a run is the fold of the steps of the sections that
reached it.
-/

namespace SccpConfig

set_option autoImplicit false

variable (env : Env)

/-! ## Which sections are read -/

/-- Whether the category loop reads a section as a device: not `general`, of type
device, with a device type. -/
def isDeviceSection (k : Category) : Bool :=
  !strcasecmpEq k.name "general" &&
    match k.variableRetrieve "type" with
    | some utype => strcasecmpEq utype "device" && !sccpStrlenZero (k.variableRetrieve "devicetype")
    | none => false

/-- Whether the category loop reads a section as a line: not `general`, of type
line, and not skipped by the minimum-key test. -/
def isLineSection (k : Category) : Bool :=
  !strcasecmpEq k.name "general" &&
    match k.variableRetrieve "type" with
    | some utype => !strcasecmpEq utype "device" && strcasecmpEq utype "line" && !lineSkipped k
    | none => false

/-! ## The two runs -/

/-- The device the device branch creates for a section name. -/
def deviceCreate (n : String) : Device :=
  { sccpDeviceCreate with id := sccpCopyString n env.deviceIdSize }

/-- The device branch's rebuild of a device for a section. -/
def deviceUpdate (cfg : Config) (k : Category) (d : Device) : Device :=
  sccpConfigRestoreDeviceFeatureStatus env (sccpConfigBuildDevice env cfg { d with pendingDelete := false } k.vars)

/-- The line the line branch creates for a section name. -/
def lineCreate (n : String) : Line :=
  { sccpLineCreate with name := sccpCopyString n env.lineNameSize }

/-- The line branch's rebuild of a line for a section. -/
def lineUpdate (cfg : Config) (k : Category) (l : Line) : Line :=
  sccpConfigBuildLine env cfg l k.vars

theorem readCategory_devices (cfg : Config) (reg : Registry) (k : Category) :
    (readCategory env cfg reg k).devices =
      if isDeviceSection k then
        findOrCreate Device.id Category.name (deviceCreate env) (deviceUpdate env cfg) reg.devices k
      else reg.devices := by
  have hdevice : (readDevice env cfg reg k).devices =
      findOrCreate Device.id Category.name (deviceCreate env) (deviceUpdate env cfg) reg.devices k := by
    unfold readDevice findOrCreate sccpDeviceFindById
    cases reg.devices.findIdx? (fun d => strcasecmpEq d.id k.name) <;> rfl
  have hline : (readLine env cfg reg k).devices = reg.devices := by
    unfold readLine; split <;> rfl
  unfold readCategory isDeviceSection
  by_cases hg : strcasecmpEq k.name "general" <;> simp only [hg, if_true, if_false] <;> try rfl
  cases k.variableRetrieve "type" with
  | none => rfl
  | some utype =>
    by_cases hd : strcasecmpEq utype "device" <;>
      by_cases hz : sccpStrlenZero (k.variableRetrieve "devicetype") <;>
      simp [hd, hz, hdevice] <;> split_ifs <;> simp [hline]

theorem readCategory_lines (cfg : Config) (reg : Registry) (k : Category) :
    (readCategory env cfg reg k).lines =
      if isLineSection k then findOrCreate Line.name Category.name (lineCreate env) (lineUpdate env cfg) reg.lines k
      else reg.lines := by
  have hline : (readLine env cfg reg k).lines =
      findOrCreate Line.name Category.name (lineCreate env) (lineUpdate env cfg) reg.lines k := by
    unfold readLine findOrCreate sccpLineFindByName
    cases reg.lines.findIdx? (fun l => strcasecmpEq l.name k.name) <;> rfl
  have hdevice : (readDevice env cfg reg k).lines = reg.lines := by
    unfold readDevice; split <;> rfl
  unfold readCategory isLineSection
  by_cases hg : strcasecmpEq k.name "general" <;> simp only [hg, if_true, if_false] <;> try rfl
  cases k.variableRetrieve "type" with
  | none => rfl
  | some utype =>
    dsimp only
    cases hd : strcasecmpEq utype "device"
    · cases hl : strcasecmpEq utype "line"
      · simp only [Bool.false_eq_true, if_false, Bool.not_false, Bool.false_and, Bool.true_and]
        split_ifs <;> rfl
      · cases hs : lineSkipped k <;> simp [hline]
    · simp only [if_true, Bool.not_true, Bool.false_and, Bool.and_false, Bool.false_eq_true, if_false]
      split_ifs <;> simp [hdevice]

theorem foldl_readCategory_devices (cfg : Config) (ks : List Category) :
    ∀ reg : Registry, (ks.foldl (readCategory env cfg) reg).devices =
      findOrCreateRun Device.id Category.name (deviceCreate env) (deviceUpdate env cfg) isDeviceSection
        reg.devices ks := by
  induction ks with
  | nil => intro reg; rfl
  | cons k rest ih =>
    intro reg
    rw [List.foldl_cons, ih, readCategory_devices]
    rfl

theorem foldl_readCategory_lines (cfg : Config) (ks : List Category) :
    ∀ reg : Registry, (ks.foldl (readCategory env cfg) reg).lines =
      findOrCreateRun Line.name Category.name (lineCreate env) (lineUpdate env cfg) isLineSection reg.lines ks := by
  induction ks with
  | nil => intro reg; rfl
  | cons k rest ih =>
    intro reg
    rw [List.foldl_cons, ih, readCategory_lines]
    rfl

/-! ## One member -/

section Member

variable {M : Type} [DecidableEq M] (options : List (ConfigOption M)) (size : M → Nat)

/-- A whole pass over a section applied to member `m`: the pairs, then the defaults. -/
def passAt (cfg : Config) (m : M) (pairs : List (String × String)) (cur : Value) : Value :=
  defaultsAt env options size cfg m (alreadySetEntries options pairs) (some "") (pairsAt env options size m pairs cur)

theorem applyConfiguration_apply (cfg : Config) (obj : M → Value) (pairs : List (String × String)) (m : M) :
    (applyConfiguration env options size cfg obj pairs).1 m = passAt env options size cfg m pairs (obj m) := by
  simp only [applyConfiguration, sccpConfigSetDefaults, setDefaultsLoop_apply, applyPairs_apply, passAt]

end Member

/-- What `sccp_config_restoreDeviceFeatureStatus` leaves in member `m` of the device
with that id, from the value the member held. -/
def restoreAt (id : String) (m : DeviceMember) (v : Value) : Value :=
  (sccpConfigRestoreDeviceFeatureStatus env ⟨id, false, false, fun _ => v⟩).config m

theorem sccpConfigRestoreDeviceFeatureStatus_config (d : Device) (m : DeviceMember) :
    (sccpConfigRestoreDeviceFeatureStatus env d).config m = restoreAt env d.id m (d.config m) := by
  unfold restoreAt sccpConfigRestoreDeviceFeatureStatus
  dsimp only
  by_cases hm : m = .dndFeature ∨ m = .monitorFeature ∨ m = .privacyFeature ∨ m = .lastNumber ∨ m = .priFeature
  · rcases hm with rfl | rfl | rfl | rfl | rfl <;>
      cases env.featureGetFromDatabase ("SCCP/" ++ d.id) "lastDialedNumber" <;> rfl
  · simp only [not_or] at hm
    obtain ⟨h1, h2, h3, h4, h5⟩ := hm
    cases env.featureGetFromDatabase ("SCCP/" ++ d.id) "lastDialedNumber" <;>
      simp only [Function.update_noteq h1, Function.update_noteq h2, Function.update_noteq h3,
        Function.update_noteq h4, Function.update_noteq h5]

/-- The device branch's rebuild for a section, at member `m` of the device with
that id. -/
def deviceStepAt (cfg : Config) (id : String) (k : Category) (m : DeviceMember) (v : Value) : Value :=
  restoreAt env id m (passAt env sccpDeviceConfigOptions env.deviceSize cfg m k.vars v)

@[simp] theorem deviceUpdate_id (cfg : Config) (k : Category) (d : Device) : (deviceUpdate env cfg k d).id = d.id :=
  rfl

@[simp] theorem deviceUpdate_pendingDelete (cfg : Config) (k : Category) (d : Device) :
    (deviceUpdate env cfg k d).pendingDelete = false :=
  rfl

theorem deviceUpdate_config (cfg : Config) (k : Category) (d : Device) (m : DeviceMember) :
    (deviceUpdate env cfg k d).config m = deviceStepAt env cfg d.id k m (d.config m) := by
  rw [deviceUpdate, sccpConfigRestoreDeviceFeatureStatus_config]
  simp only [sccpConfigBuildDevice, sccpConfigApplyDeviceConfiguration, Bool.false_eq_true, if_false,
    applyConfiguration_apply]
  rfl

theorem foldl_deviceUpdate_id (cfg : Config) (ks : List Category) :
    ∀ d : Device, (ks.foldl (fun a k => deviceUpdate env cfg k a) d).id = d.id := by
  induction ks with
  | nil => intro d; rfl
  | cons k rest ih => intro d; rw [List.foldl_cons, ih, deviceUpdate_id]

theorem foldl_deviceUpdate_config (cfg : Config) (m : DeviceMember) (ks : List Category) :
    ∀ d : Device, (ks.foldl (fun a k => deviceUpdate env cfg k a) d).config m =
      ks.foldl (fun v k => deviceStepAt env cfg d.id k m v) (d.config m) := by
  induction ks with
  | nil => intro d; rfl
  | cons k rest ih => intro d; rw [List.foldl_cons, ih, deviceUpdate_id, deviceUpdate_config, List.foldl_cons]

/-- The line branch's rebuild for a section, at member `m`. -/
def lineStepAt (cfg : Config) (k : Category) (m : LineMember) (v : Value) : Value :=
  passAt env sccpLineConfigOptions env.lineSize cfg m k.vars v

/-- The members a line's first rebuild starts from: with `variables` emptied when
the line is marked for deletion. -/
def lineStart (l : Line) : LineMember → Value :=
  if l.pendingDelete then Function.update l.config .variables (.variables []) else l.config

@[simp] theorem lineUpdate_name (cfg : Config) (k : Category) (l : Line) : (lineUpdate env cfg k l).name = l.name :=
  rfl

@[simp] theorem lineUpdate_pendingDelete (cfg : Config) (k : Category) (l : Line) :
    (lineUpdate env cfg k l).pendingDelete = false :=
  rfl

theorem lineUpdate_config (cfg : Config) (k : Category) (l : Line) (m : LineMember) :
    (lineUpdate env cfg k l).config m = lineStepAt env cfg k m (lineStart l m) := by
  simp only [lineUpdate, sccpConfigBuildLine, sccpConfigApplyLineConfiguration, lineStart]
  split <;> rw [applyConfiguration_apply] <;> rfl

theorem foldl_lineUpdate_name (cfg : Config) (ks : List Category) :
    ∀ l : Line, (ks.foldl (fun a k => lineUpdate env cfg k a) l).name = l.name := by
  induction ks with
  | nil => intro l; rfl
  | cons k rest ih => intro l; rw [List.foldl_cons, ih, lineUpdate_name]

theorem lineStart_of_unmarked {l : Line} (h : l.pendingDelete = false) : lineStart l = l.config := by
  simp [lineStart, h]

theorem foldl_lineUpdate_config_of_unmarked (cfg : Config) (m : LineMember) (ks : List Category) :
    ∀ l : Line, l.pendingDelete = false → (ks.foldl (fun a k => lineUpdate env cfg k a) l).config m =
      ks.foldl (fun v k => lineStepAt env cfg k m v) (l.config m) := by
  induction ks with
  | nil => intro l _; rfl
  | cons k rest ih =>
    intro l hl
    rw [List.foldl_cons, ih _ (lineUpdate_pendingDelete env cfg k l), lineUpdate_config, lineStart_of_unmarked hl,
      List.foldl_cons]

theorem foldl_lineUpdate_config (cfg : Config) (m : LineMember) (k : Category) (ks : List Category) (l : Line) :
    ((k :: ks).foldl (fun a k => lineUpdate env cfg k a) l).config m =
      (k :: ks).foldl (fun v k => lineStepAt env cfg k m v) (lineStart l m) := by
  rw [List.foldl_cons, foldl_lineUpdate_config_of_unmarked env cfg m ks _ (lineUpdate_pendingDelete env cfg k l),
    lineUpdate_config, List.foldl_cons]

end SccpConfig
