import SccpConfig.Button
import SccpConfig.Tables

/-!
# Applying one name/value pair

`sccp_config_object_setValue`: the option is looked up by name; a missing one,
one without a member (offset `0`) and one whose flags are exactly IGNORE,
CHANGED, DEPRECATED or OBSOLETE change nothing. The `switch (flags)` compares the
whole flag set: the CHANGED and DEPRECATED cases fall through into OBSOLETE's
return, and a combination of flags matches no case. The REQUIRED case only
rejects a NULL value, which no caller passes. Then the member is written by the
rule of the option's data type, and the result is the option's change class
when the type branch or converter reported `SCCP_CONFIG_CHANGE_CHANGED`.
-/

namespace SccpConfig

set_option autoImplicit false

variable (env : Env)

/-- A converter run on the member its row binds, `size` being the row's size. A
member of another shape than the converter writes is left alone; no row binds one. -/
def runConverter (size : Nat) : Converter → Value → String → Value × Nat
  | .parseDebug, .int p, v => (.int (sccpConfigParseDebug env p v).1, (sccpConfigParseDebug env p v).2)
  | .parseIpaddress, .sockaddr a p, v =>
    let r := sccpConfigParseIpaddress env a p v
    (.sockaddr r.1.1 r.1.2, r.2)
  | .parseContext, .string s, v =>
    (.string (sccpConfigParseContext env size s v).1, (sccpConfigParseContext env size s v).2)
  | .parseDisallowCodec, .codecs l, v =>
    (.codecs (sccpConfigParseCodecPreferences env l v false).1, (sccpConfigParseCodecPreferences env l v false).2)
  | .parseAllowCodec, .codecs l, v =>
    (.codecs (sccpConfigParseCodecPreferences env l v true).1, (sccpConfigParseCodecPreferences env l v true).2)
  | .parseDeny, .acl l, v => (.acl (sccpConfigParseDeny env l v).1, (sccpConfigParseDeny env l v).2)
  | .parsePermit, .acl l, v => (.acl (sccpConfigParsePermit env l v).1, (sccpConfigParsePermit env l v).2)
  | .parseSmallint, .int p, v => (.int (sccpConfigParseSmallint env p v).1, (sccpConfigParseSmallint env p v).2)
  | .parseTos, .int p, v => (.int (sccpConfigParseTos env p v).1, (sccpConfigParseTos env p v).2)
  | .parseCos, .int p, v =>
    (.int (sccpConfigParseCos env env.uninitialized p v).1, (sccpConfigParseCos env env.uninitialized p v).2)
  | .parseEarlyrtp, .int p, v => (.int (sccpConfigParseEarlyrtp env p v).1, (sccpConfigParseEarlyrtp env p v).2)
  | .parseDnd, .int p, v => (.int (sccpConfigParseDnd env p v).1, (sccpConfigParseDnd env p v).2)
  | .parseMwilamp, .int p, v => (.int (sccpConfigParseMwilamp env p v).1, (sccpConfigParseMwilamp env p v).2)
  | .parseBlindtransferindication, .int p, v =>
    (.int (sccpConfigParseBlindtransferindication env p v).1, (sccpConfigParseBlindtransferindication env p v).2)
  | .parseGroup, .int p, v => (.int (sccpConfigParseGroup env p v).1, (sccpConfigParseGroup env p v).2)
  | .parseAmaflags, .int p, v => (.int (sccpConfigParseAmaflags env p v).1, (sccpConfigParseAmaflags env p v).2)
  | .parseCallanswerorder, .int p, v =>
    (.int (sccpConfigParseCallanswerorder env p v).1, (sccpConfigParseCallanswerorder env p v).2)
  | .parseRegcontext, .string s, v =>
    (.string (sccpConfigParseRegcontext env s v).1, (sccpConfigParseRegcontext env s v).2)
  | .parseDtmfmode, .int p, v => (.int (sccpConfigParseDtmfmode env p v).1, (sccpConfigParseDtmfmode env p v).2)
  | .parsePrivacyFeature, .feature s e, v =>
    let r := sccpConfigParsePrivacyFeature env s e v
    (.feature r.1.1 r.1.2, r.2)
  | .parseVariables, .variables l, v =>
    (.variables (sccpConfigParseVariables env l v).1, (sccpConfigParseVariables env l v).2)
  | .parsePermithosts, .hostnames l, v =>
    (.hostnames (sccpConfigParsePermithosts env l v).1, (sccpConfigParsePermithosts env l v).2)
  | .parseAddons, .addons l, v => (.addons (sccpConfigParseAddons env l v).1, (sccpConfigParseAddons env l v).2)
  | .parseButton, .buttons l, v => (.buttons (sccpConfigParseButton env l v).1, (sccpConfigParseButton env l v).2)
  | .parseMailbox, .mailboxes l, v =>
    (.mailboxes (sccpConfigParseMailbox env l v).1, (sccpConfigParseMailbox env l v).2)
  | .parseSecondaryDialtoneDigits, .string s, v =>
    (.string (sccpConfigParseSecondaryDialtoneDigits env s v).1, (sccpConfigParseSecondaryDialtoneDigits env s v).2)
  | _, d, _ => (d, env.codes.changeNoChange)

/-- The type switch of `sccp_config_object_setValue` on the value the option sees:
the new value and the two result variables, `changes` (started at
NOUPDATENEEDED) and `changed` (started at NOCHANGE). The CHAR and STRING branches
set `changes`, the others `changed`. -/
def setValueByType (type : DataType) (converter : Option Converter) (size : Nat) (cur : Value)
    (value : String) : Value × Nat × Nat :=
  let cc := env.codes
  match type, cur with
  | .char, .char old =>
    match value.data with
    | c :: _ => if old ≠ c then (.char c, cc.changeChanged, cc.changeNoChange) else (cur, cc.noUpdateNeeded, cc.changeNoChange)
    | [] => (cur, cc.noUpdateNeeded, cc.changeNoChange)
  | .string, .string str =>
    if strcasecmpEq str value then (cur, cc.noUpdateNeeded, cc.changeNoChange)
    else (.string (sccpCopyString value size), cc.changeChanged, cc.changeNoChange)
  | .stringPtr, .stringPtr str =>
    if value.isEmpty then
      if sccpStrlenZero str then (cur, cc.noUpdateNeeded, cc.changeNoChange)
      else (.stringPtr none, cc.noUpdateNeeded, cc.changeChanged)
    else
      match str with
      | some s => if strcasecmpEq s value then (cur, cc.noUpdateNeeded, cc.changeNoChange)
        else (.stringPtr (some value), cc.noUpdateNeeded, cc.changeChanged)
      | none => (.stringPtr (some value), cc.noUpdateNeeded, cc.changeChanged)
  | .int, .int n =>
    if value.isEmpty then (cur, cc.noUpdateNeeded, cc.changeNoChange)
    else if n ≠ atoi value then (.int (atoi value), cc.noUpdateNeeded, cc.changeChanged)
    else (cur, cc.noUpdateNeeded, cc.changeNoChange)
  | .boolean, .boolean b =>
    if b ≠ sccpTrue value then (.boolean (sccpTrue value), cc.noUpdateNeeded, cc.changeChanged)
    else (cur, cc.noUpdateNeeded, cc.changeNoChange)
  | .generic, _ =>
    match converter with
    | some f => ((runConverter env size f cur value).1, cc.noUpdateNeeded, (runConverter env size f cur value).2)
    | none => (cur, cc.noUpdateNeeded, cc.changeNoChange)
  | _, _ => (cur, cc.noUpdateNeeded, cc.changeNoChange)

/-- The flag sets for which `sccp_config_object_setValue` returns before writing. -/
def skipsByFlags (flags : Nat) : Bool :=
  flags = ConfigFlag.ignore || flags = ConfigFlag.changed || flags = ConfigFlag.deprecated ||
    flags = ConfigFlag.obsolete

/-- `sccp_config_object_setValue` on the members `obj` of an object of the segment
whose table is `options` and whose char arrays have sizes `size`. -/
def sccpConfigObjectSetValue {M : Type} [DecidableEq M] (options : List (ConfigOption M)) (size : M → Nat)
    (obj : M → Value) (name value : String) : (M → Value) × Nat :=
  let cc := env.codes
  match sccpFindConfig options name with
  | none => (obj, cc.noUpdateNeeded)
  | some o =>
    match o.target with
    | none => (obj, cc.noUpdateNeeded)
    | some (m, view) =>
      if skipsByFlags o.flags then (obj, cc.noUpdateNeeded)
      else
        let r := setValueByType env o.type o.converter (size m) (view.get (obj m)) value
        (Function.update obj m (view.put (obj m) r.1),
          if r.2.2 = cc.changeChanged then cc.code o.change else r.2.1)

end SccpConfig
