import SccpConfig.Apply
import SccpConfig.SoftKey

/-!
# Reading devices and lines

`sccp_config_readDevicesLines` walks the categories of the configuration file
and builds the device, line or softkey set each one describes. The loop hands
`pbx_variable_retrieve` and `ast_variable_browse` the name `pbx_category_browse`
returned, which the host resolves to the category the loop is at: each category
is read with its own type and its own pairs, also when another category has the
same name. On a reload the pre-reload hooks first mark every device, line and
softkey set `pendingDelete`; building a device or a line clears its mark. The
post-reload hooks that act on the marks (`sccp_line_post_reload`,
`sccp_device_post_reload`, `sccp_softkey_post_reload`, in files not among the
sources) reset and tear down objects, which the spec leaves to the external
lifecycle manager: the model is the function up to them, and what it says of
marks is what it hands to them.
-/

namespace SccpConfig

set_option autoImplicit false

variable (env : Env)

/-- `GLOB(devices)`, `GLOB(lines)`, `softKeySetConfig` and `GLOB(pendingUpdate)`. -/
structure Registry where
  devices : List Device
  lines : List Line
  softKeySets : List SoftKeySetConfiguration
  pendingUpdate : Bool

/-- The registry before anything is loaded. -/
def Registry.empty : Registry := ⟨[], [], [], false⟩

/-- `sccp_readingtype_t`. -/
inductive ReadingType
  | readInitial
  | readReload
  deriving DecidableEq, Repr

/-- Modelled from the spec: `sccp_device_pre_reload` (in `sccp_device.c`, not among
the sources) sets `pendingDelete` on every device at the start of a reload, and on
every entry of its button list. -/
def sccpDevicePreReload (d : Device) : Device :=
  { d with
    pendingDelete := true,
    config := Function.update d.config .buttonconfig
      (match d.config .buttonconfig with
        | .buttons bs => .buttons (bs.map fun b => { b with pendingDelete := true })
        | v => v) }

/-- Modelled from the spec: `sccp_line_pre_reload` (in `sccp_line.c`, not among the
sources) sets `pendingDelete` on every line at the start of a reload. -/
def sccpLinePreReload (l : Line) : Line :=
  { l with pendingDelete := true }

/-- Modelled from the file's description (lines 37 to 40) and the spec:
`sccp_softkey_pre_reload` sets `pendingDelete` on every softkey set at the start of
a reload. -/
def sccpSoftkeyPreReload (s : SoftKeySetConfiguration) : SoftKeySetConfiguration :=
  { s with pendingDelete := true }

/-- Modelled from the spec: `sccp_device_create` (in `sccp_device.c`) gives a new
device with every member zeroed. -/
def sccpDeviceCreate : Device :=
  ⟨"", false, false, fun m => m.kind.zero⟩

/-- Modelled from the spec: `sccp_line_create` (in `sccp_line.c`) gives a new line
with every member zeroed. -/
def sccpLineCreate : Line :=
  ⟨"", false, false, fun m => m.kind.zero⟩

/-- Modelled from the spec: `sccp_device_find_byid` finds the device of that id,
compared without case. -/
def sccpDeviceFindById (devices : List Device) (id : String) : Option Nat :=
  devices.findIdx? fun d => strcasecmpEq d.id id

/-- Modelled from the spec: `sccp_line_find_byname_wo` finds the line of that name,
compared without case. -/
def sccpLineFindByName (lines : List Line) (name : String) : Option Nat :=
  lines.findIdx? fun l => strcasecmpEq l.name name

/-- `sccp_config_restoreDeviceFeatureStatus`: the feature states saved in the host
database under `SCCP/<id>`. Showing the saved message on the phone is left out. -/
def sccpConfigRestoreDeviceFeatureStatus (d : Device) : Device :=
  let family := "SCCP/" ++ d.id
  let db := env.featureGetFromDatabase family
  let setStatus (v : Value) (s : Nat) : Value :=
    match v with
    | .feature _ e => .feature s e
    | v => v
  let statusOf (v : Value) : Nat :=
    match v with
    | .feature s _ => s
    | _ => 0
  let dnd : Nat := match db "dnd" with
    | some b => if strcasecmpEq b "silent" then 2 else 1
    | none => 0
  let monitor : Nat := if (db "monitor").isSome then 1 else 0
  let privacy : Nat := match db "privacy" with
    | some b => ((sscanfInt false b).map fun n => (n % 4294967296).toNat).getD (statusOf (d.config .privacyFeature))
    | none => 0
  let c := d.config
  let c := Function.update c .dndFeature (setStatus (c .dndFeature) dnd)
  let c := Function.update c .monitorFeature (setStatus (c .monitorFeature) monitor)
  let c := Function.update c .privacyFeature (setStatus (c .privacyFeature) privacy)
  let c := match db "lastDialedNumber" with
    | some n => Function.update c .lastNumber (.string (sccpCopyString n (env.deviceSize .lastNumber)))
    | none => c
  let c := Function.update c .priFeature (setStatus (c .priFeature) 0x010101)
  { d with config := c }

/-- `pbx_variable_retrieve` on the category the loop is at: the value of the first
pair of that name, compared without case. -/
def Category.variableRetrieve (k : Category) (name : String) : Option String :=
  (k.vars.find? fun p => strcasecmpEq name p.1).map Prod.snd

/-- The device branch of the category loop, once the section passed its check. -/
def readDevice (cfg : Config) (reg : Registry) (k : Category) : Registry :=
  let build (d : Device) : Device :=
    sccpConfigRestoreDeviceFeatureStatus env (sccpConfigBuildDevice env cfg d k.vars)
  match sccpDeviceFindById reg.devices k.name with
  | none =>
    { reg with devices := build { sccpDeviceCreate with id := sccpCopyString k.name env.deviceIdSize } :: reg.devices }
  | some i =>
    { reg with devices := reg.devices.modify (fun d => build { d with pendingDelete := false }) i }

/-- The line branch of the category loop, once the section passed its check. -/
def readLine (cfg : Config) (reg : Registry) (k : Category) : Registry :=
  match sccpLineFindByName reg.lines k.name with
  | none =>
    { reg with lines :=
        sccpConfigBuildLine env cfg { sccpLineCreate with name := sccpCopyString k.name env.lineNameSize } k.vars
          :: reg.lines }
  | some i => { reg with lines := reg.lines.modify (fun l => sccpConfigBuildLine env cfg l k.vars) i }

/-- The minimum-key test of the line branch as written: the section is skipped only
when `label` is empty while `cid_name` and `cid_num` are both set. -/
def lineSkipped (k : Category) : Bool :=
  sccpStrlenZero (k.variableRetrieve "label") &&
    !sccpStrlenZero (k.variableRetrieve "cid_name") &&
    !sccpStrlenZero (k.variableRetrieve "cid_num")

/-- One iteration of the category loop of `sccp_config_readDevicesLines`. -/
def readCategory (cfg : Config) (reg : Registry) (k : Category) : Registry :=
  if strcasecmpEq k.name "general" then reg
  else
    match k.variableRetrieve "type" with
    | none => reg
    | some utype =>
      if strcasecmpEq utype "device" then
        if sccpStrlenZero (k.variableRetrieve "devicetype") then reg else readDevice env cfg reg k
      else if strcasecmpEq utype "line" then
        if lineSkipped k then reg else readLine env cfg reg k
      else if strcasecmpEq utype "softkeyset" then
        { reg with softKeySets := sccpConfigSoftKeySet env reg.softKeySets k.vars k.name }
      else reg

/-- The end of the pass: a global change that needs a reset marks every device that
is neither marked for deletion nor already for update. -/
def propagateGlobalUpdate (reg : Registry) : Registry :=
  if reg.pendingUpdate then
    { reg with
      devices := reg.devices.map fun d =>
        if !d.pendingDelete && !d.pendingUpdate then { d with pendingUpdate := true } else d,
      pendingUpdate := false }
  else reg

/-- `sccp_config_readDevicesLines` up to its post-reload hooks: the pre-reload
marking on a reload, the category loop, and the global update. -/
def sccpConfigReadDevicesLines (cfg : Config) (readingtype : ReadingType) (reg : Registry) : Registry :=
  let reg := if readingtype = .readReload then
      { reg with
        devices := reg.devices.map sccpDevicePreReload
        lines := reg.lines.map sccpLinePreReload
        softKeySets := reg.softKeySets.map sccpSoftkeyPreReload }
    else reg
  propagateGlobalUpdate (cfg.foldl (readCategory env cfg) reg)

end SccpConfig
