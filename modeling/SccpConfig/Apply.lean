import SccpConfig.Defaults

/-!
# Applying a section

`sccp_config_applyGlobalConfiguration`, `sccp_config_applyLineConfiguration` and
`sccp_config_applyDeviceConfiguration`: every pair of the section goes through
`sccp_config_object_setValue`, whose results are OR-ed into the returned value,
and then `sccp_config_set_defaults` fills the rows the section did not name; its
results are not kept. A device marked `pendingDelete` first loses its add-ons,
variables, permitted hosts and access list, and a line so marked its variables.
`sccp_config_buildLine` and `sccp_config_buildDevice` then set `pendingUpdate`
when the result is NEEDDEVICERESET and the object is still marked, and clear the
mark.
-/

namespace SccpConfig

set_option autoImplicit false

variable (env : Env)

/-- The loop over the section's pairs: the members afterwards and the OR of the
results, from NOUPDATENEEDED. -/
def applyPairs {M : Type} [DecidableEq M] (options : List (ConfigOption M)) (size : M → Nat) :
    (M → Value) → Nat → List (String × String) → (M → Value) × Nat
  | obj, res, [] => (obj, res)
  | obj, res, (n, v) :: rest =>
    let r := sccpConfigObjectSetValue env options size obj n v
    applyPairs options size r.1 (res ||| r.2) rest

/-- A whole pass over an object's members: the pairs, then the defaults. -/
def applyConfiguration {M : Type} [DecidableEq M] (options : List (ConfigOption M)) (size : M → Nat)
    (cfg : Config) (obj : M → Value) (pairs : List (String × String)) : (M → Value) × Nat :=
  let r := applyPairs env options size obj env.codes.noUpdateNeeded pairs
  (sccpConfigSetDefaults env options size cfg r.1 pairs, r.2)

/-- `sccp_config_applyGlobalConfiguration` on the members of `sccp_globals`. -/
def sccpConfigApplyGlobalConfiguration (cfg : Config) (globals : GlobalMember → Value)
    (pairs : List (String × String)) : (GlobalMember → Value) × Nat :=
  applyConfiguration env sccpGlobalConfigOptions env.globalSize cfg globals pairs

/-- `sccp_config_applyLineConfiguration`. -/
def sccpConfigApplyLineConfiguration (cfg : Config) (l : Line) (pairs : List (String × String)) : Line × Nat :=
  let config := if l.pendingDelete then Function.update l.config .variables (.variables []) else l.config
  let r := applyConfiguration env sccpLineConfigOptions env.lineSize cfg config pairs
  ({ l with config := r.1 }, r.2)

/-- The lists the `pendingDelete` branch of `sccp_config_applyDeviceConfiguration`
empties before the pairs are applied. -/
def clearDeviceLists (config : DeviceMember → Value) : DeviceMember → Value :=
  Function.update (Function.update (Function.update (Function.update config
    .addons (.addons [])) .variables (.variables [])) .permithosts (.hostnames [])) .ha (.acl [])

/-- `sccp_config_applyDeviceConfiguration`. -/
def sccpConfigApplyDeviceConfiguration (cfg : Config) (d : Device) (pairs : List (String × String)) :
    Device × Nat :=
  let config := if d.pendingDelete then clearDeviceLists d.config else d.config
  let r := applyConfiguration env sccpDeviceConfigOptions env.deviceSize cfg config pairs
  ({ d with config := r.1 }, r.2)

/-- `sccp_config_buildLine`. -/
def sccpConfigBuildLine (cfg : Config) (l : Line) (pairs : List (String × String)) : Line :=
  let r := sccpConfigApplyLineConfiguration env cfg l pairs
  let l := r.1
  { l with
    pendingUpdate := if r.2 = env.codes.needDeviceReset ∧ l.pendingDelete then true else l.pendingUpdate,
    pendingDelete := false }

/-- `sccp_config_buildDevice`. -/
def sccpConfigBuildDevice (cfg : Config) (d : Device) (pairs : List (String × String)) : Device :=
  let r := sccpConfigApplyDeviceConfiguration env cfg d pairs
  let d := r.1
  { d with
    pendingUpdate := if r.2 = env.codes.needDeviceReset ∧ d.pendingDelete then true else d.pendingUpdate,
    pendingDelete := false }

end SccpConfig
