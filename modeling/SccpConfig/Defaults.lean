import SccpConfig.SetValue

/-!
# Default resolution

`sccp_config_set_defaults` walks the table of a segment and, for every option not
named by the section and not OBSOLETE, resolves a default and runs it through
`sccp_config_object_setValue` by name. The local `value` lives across the
iterations: it starts as `""`, not NULL, and is reset to NULL only after an
iteration that found a value. `switch (flags)` again compares whole flag sets; a
GET_DEVICE_DEFAULT row falls through into the GET_GLOBAL_DEFAULT case, which
overwrites whatever the device lookup found with the `[general]` lookup.

The text configuration (`GLOB(cfg)`) is the host's parsed `sccp.conf`: a list of
categories, each with its name/value pairs in order.
-/

namespace SccpConfig

set_option autoImplicit false

/-- A category of the parsed configuration file. -/
structure Category where
  name : String
  vars : List (String × String)
  deriving DecidableEq, Repr

/-- `GLOB(cfg)`, the parsed configuration file. -/
abbrev Config := List Category

/-- `ast_variable_browse`: the pairs of the first category of that name, compared
without case; none when there is no such category. -/
def astVariableBrowse (cfg : Config) (cat : String) : Option (List (String × String)) :=
  (cfg.find? (fun c => strcasecmpEq c.name cat)).map Category.vars

/-- `pbx_variable_retrieve`: the value of the first pair of that name in the
category, compared without case. -/
def pbxVariableRetrieve (cfg : Config) (cat name : String) : Option String :=
  ((astVariableBrowse cfg cat).bind fun vs => vs.find? (fun p => strcasecmpEq name p.1)).map Prod.snd

variable (env : Env)

/-- The default the loop resolves for a row, `value` being what the previous
iterations left in the local. -/
def resolveDefault {M : Type} (cfg : Config) (o : ConfigOption M) (value : Option String) : Option String :=
  let found :=
    if o.flags = ConfigFlag.getDeviceDefault ∨ o.flags = ConfigFlag.getGlobalDefault then
      match pbxVariableRetrieve cfg "general" o.name with
      | some v => some v
      | none => (sccpFindConfig sccpGlobalConfigOptions o.name).bind ConfigOption.defaultValue
    else value
  match found with
  | some v => some v
  | none => o.defaultValue

/-- Whether the loop looks for a default for a row: not marked set, and without the
OBSOLETE bit. -/
def looksForDefault {M : Type} (o : ConfigOption M) (alreadySet : Bool) : Bool :=
  !alreadySet && o.flags &&& ConfigFlag.obsolete == 0

/-- The loop of `sccp_config_set_defaults` over the rows paired with their
`alreadySetEntries` marks, `value` carried from one iteration to the next. -/
def setDefaultsLoop {M : Type} [DecidableEq M] (options : List (ConfigOption M)) (size : M → Nat) (cfg : Config) :
    List (ConfigOption M × Bool) → (M → Value) → Option String → (M → Value)
  | [], obj, _ => obj
  | (o, set) :: rest, obj, value =>
    if looksForDefault o set then
      match resolveDefault cfg o value with
      | some v =>
        let obj := if v.isEmpty then obj else (sccpConfigObjectSetValue env options size obj o.name v).1
        setDefaultsLoop options size cfg rest obj none
      | none => setDefaultsLoop options size cfg rest obj none
    else setDefaultsLoop options size cfg rest obj value

/-- `alreadySetEntries`: row `i` is marked when a pair of the section has its name. -/
def alreadySetEntries {M : Type} (options : List (ConfigOption M)) (pairs : List (String × String)) :
    List (ConfigOption M × Bool) :=
  options.map fun o => (o, pairs.any fun p => strcasecmpEq o.name p.1)

/-- `sccp_config_set_defaults` for an object of a segment with table `options`. -/
def sccpConfigSetDefaults {M : Type} [DecidableEq M] (options : List (ConfigOption M)) (size : M → Nat)
    (cfg : Config) (obj : M → Value) (pairs : List (String × String)) : M → Value :=
  setDefaultsLoop env options size cfg (alreadySetEntries options pairs) obj (some "")

end SccpConfig
