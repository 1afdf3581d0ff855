import SccpConfig.Objects
import SccpConfig.Scan

/-!
# The converters

The `sccp_config_parse_*` functions of `sccp_config.c`. Each takes the member it
writes and the value string, and returns the member afterwards and its
`sccp_value_changed_t` result. Allocation is taken to succeed. The button
converter, which merges into the button list, has its own module.
-/

namespace SccpConfig

set_option autoImplicit false

variable (env : Env)

/-- Store `new` when it differs from `old`: the common tail of most converters. -/
def storeIfChanged {α : Type} [DecidableEq α] (old new : α) (otherwise : Nat) : α × Nat :=
  if old ≠ new then (new, env.codes.changeChanged) else (old, otherwise)

theorem storeIfChanged_fst {α : Type} [DecidableEq α] (old new : α) (otherwise : Nat) :
    (storeIfChanged env old new otherwise).1 = new := by
  unfold storeIfChanged
  split <;> simp_all

/-- `sccp_config_parse_debug`. -/
def sccpConfigParseDebug (prev : Int) (value : String) : Int × Nat :=
  storeIfChanged env prev (env.parseDebugline value) env.codes.changeNoChange

/-- `sccp_config_parse_ipaddress`. The source compares the old address, printed in
dotted form, with the raw bytes of the new one; the two never agree, so a name
that resolves is always stored and reported as a change. -/
def sccpConfigParseIpaddress (addr port : Nat) (value : String) : (Nat × Nat) × Nat :=
  match env.gethostbyname value with
  | none => ((addr, port), env.codes.changeInvalidValue)
  | some a => ((a, port), env.codes.changeChanged)

/-- `sccp_config_parse_port`: `htons` keeps the low sixteen bits. -/
def sccpConfigParsePort (addr port : Nat) (value : String) : (Nat × Nat) × Nat :=
  match sscanfInt true value with
  | some p =>
    let (port', r) := storeIfChanged env port (p % 65536).toNat env.codes.changeNoChange
    ((addr, port'), r)
  | none => ((addr, port), env.codes.changeInvalidValue)

/-- `sccp_config_parse_blindtransferindication`. -/
def sccpConfigParseBlindtransferindication (prev : Int) (value : String) : Int × Nat :=
  let (new, r) :=
    if strcasecmpEq value "moh" then (env.blindtransferMoh, env.codes.changeNoChange)
    else if strcasecmpEq value "ring" then (env.blindtransferRing, env.codes.changeNoChange)
    else (prev, env.codes.changeInvalidValue)
  storeIfChanged env prev new r

/-- `sccp_config_parse_callanswerorder`. -/
def sccpConfigParseCallanswerorder (prev : Int) (value : String) : Int × Nat :=
  if strcasecmpEq value "oldestfirst" then storeIfChanged env prev env.answerOldestFirst env.codes.changeNoChange
  else if strcasecmpEq value "lastfirst" then storeIfChanged env prev env.answerLastFirst env.codes.changeNoChange
  else (prev, env.codes.changeInvalidValue)

/-- `sccp_config_parse_regcontext`. The source stores a `strdup`ed pointer into the
char array; no option reaches it, since `regcontext` is a STRING option. -/
def sccpConfigParseRegcontext (prev : String) (value : String) : String × Nat :=
  if strcasecmpEq prev value then (prev, env.codes.changeNoChange) else (value, env.codes.changeChanged)

/-- `sccp_config_parse_codec_preferences`: the preferences are updated in place,
and the result is INVALIDVALUE exactly when the parser reported no error. -/
def sccpConfigParseCodecPreferences (prefs : List Nat) (value : String) (allow : Bool) :
    List Nat × Nat :=
  let (prefs', errors) := env.parseAllowDisallow prefs value allow
  (prefs', if errors = 0 then env.codes.changeInvalidValue else env.codes.changeChanged)

/-- The list reachable from the head passed to `sccp_append_ha`, after the call: a
node that parses is linked after the last one. An empty list has no node to link
it to; the new head the function returns is then the only way to reach it. -/
def sccpAppendHaInPlace (sense network : String) : List HaRule → List HaRule
  | [] => []
  | path => path ++ (env.haNode sense network).toList

/-- `sccp_config_parse_permit`: `*ha` is passed by value and the returned head is
dropped. -/
def sccpConfigParsePermit (ha : List HaRule) (value : String) : List HaRule × Nat :=
  if strcasecmpEq value "internal" then
    (sccpAppendHaInPlace env "permit" "192.168.1.0/255.255.255.0"
      (sccpAppendHaInPlace env "permit" "172.16.0.0/255.224.0.0"
        (sccpAppendHaInPlace env "permit" "10.0.0.0/255.0.0.0" ha)), env.codes.changeNoChange)
  else (sccpAppendHaInPlace env "permit" value ha, env.codes.changeNoChange)

/-- `sccp_config_parse_deny`. -/
def sccpConfigParseDeny (ha : List HaRule) (value : String) : List HaRule × Nat :=
  (sccpAppendHaInPlace env "deny" value ha, env.codes.changeNoChange)

/-- `sccp_config_parse_permithosts`. The source compares the value with the name of
a freshly `malloc`ed node, which holds no string; the node is taken to differ and
is put at the head of the list. -/
def sccpConfigParsePermithosts (hosts : List String) (value : String) : List String × Nat :=
  (value :: hosts, env.codes.changeChanged)

/-- `sccp_config_parse_addons`: a known add-on type is put at the head of the list. -/
def sccpConfigParseAddons (addons : List Nat) (value : String) : List Nat × Nat :=
  if strcasecmpEq value "7914" then (124 :: addons, env.codes.changeChanged)
  else if strcasecmpEq value "7915" then (228 :: addons, env.codes.changeChanged)
  else if strcasecmpEq value "7916" then (230 :: addons, env.codes.changeChanged)
  else (addons, env.codes.changeInvalidValue)

/-- `sccp_config_parse_privacyFeature`: `full` sets every status bit. -/
def sccpConfigParsePrivacyFeature (status : Nat) (enabled : Bool) (value : String) :
    (Nat × Bool) × Nat :=
  storeIfChanged env (status, enabled)
    (if strcasecmpEq value "full" then (0xFFFFFFFF, true) else (0, sccpTrue value))
    env.codes.changeNoChange

/-- `sccp_config_parse_earlyrtp`: an unknown word selects state `0`. -/
def sccpConfigParseEarlyrtp (prev : Int) (value : String) : Int × Nat :=
  let (new, r) :=
    if strcasecmpEq value "none" then (0, env.codes.changeNoChange)
    else if strcasecmpEq value "offhook" then (1, env.codes.changeNoChange)
    else if strcasecmpEq value "dial" then (20, env.codes.changeNoChange)
    else if strcasecmpEq value "ringout" then (3, env.codes.changeNoChange)
    else if strcasecmpEq value "progress" then (21, env.codes.changeNoChange)
    else (0, env.codes.changeInvalidValue)
  storeIfChanged env prev new r

/-- `sccp_config_parse_dtmfmode`: an unknown word selects `0`, inband. -/
def sccpConfigParseDtmfmode (prev : Int) (value : String) : Int × Nat :=
  let (new, r) :=
    if strcasecmpEq value "outofband" then (1, env.codes.changeNoChange)
    else if strcasecmpEq value "inband" then (0, env.codes.changeNoChange)
    else (0, env.codes.changeInvalidValue)
  storeIfChanged env prev new r

/-- `sccp_config_parse_mwilamp`: an unknown word selects `0`. -/
def sccpConfigParseMwilamp (prev : Int) (value : String) : Int × Nat :=
  let (new, r) :=
    if strcasecmpEq value "off" then (1, env.codes.changeNoChange)
    else if strcasecmpEq value "on" then (2, env.codes.changeNoChange)
    else if strcasecmpEq value "wink" then (3, env.codes.changeNoChange)
    else if strcasecmpEq value "flash" then (4, env.codes.changeNoChange)
    else if strcasecmpEq value "blink" then (5, env.codes.changeNoChange)
    else (0, env.codes.changeInvalidValue)
  storeIfChanged env prev new r

/-- `sccp_config_parse_dnd`: any other word is read as a boolean, `1` being reject. -/
def sccpConfigParseDnd (prev : Int) (value : String) : Int × Nat :=
  let new : Int :=
    if strcasecmpEq value "reject" then 1
    else if strcasecmpEq value "silent" then 2
    else if strcasecmpEq value "user" then 3
    else if strcasecmpEq value "" then 0
    else if sccpTrue value then 1 else 0
  storeIfChanged env prev new env.codes.changeNoChange

/-- The IP TOS names of `<netinet/ip.h>` the source accepts besides `pbx_str2tos`. -/
def iptosByName (value : String) : Option Nat :=
  if strcasecmpEq value "lowdelay" then some 0x10
  else if strcasecmpEq value "throughput" then some 0x08
  else if strcasecmpEq value "reliability" then some 0x04
  else if strcasecmpEq value "mincost" then some 0x02
  else if strcasecmpEq value "none" then some 0
  else none

/-- `sccp_config_parse_tos`: an unknown value selects `0x68`. -/
def sccpConfigParseTos (prev : Int) (value : String) : Int × Nat :=
  let (new, r) : Int × Nat :=
    match env.str2tos value, sscanfInt true value, iptosByName value with
    | some t, _, _ => (t, env.codes.changeNoChange)
    | none, some t, _ => (t % 256, env.codes.changeNoChange)
    | none, none, some t => (t, env.codes.changeNoChange)
    | none, none, none => (0x68, env.codes.changeInvalidValue)
  storeIfChanged env prev new r

/-- `sccp_config_parse_cos`. When the value is no number the local `cos` is read
uninitialised; `garbage` is what it holds. A number read through `%d` into an
unsigned int exceeds 7 when it is negative. -/
def sccpConfigParseCos (garbage : Int) (prev : Int) (value : String) : Int × Nat :=
  match sscanfInt false value with
  | some c => if c < 0 ∨ 7 < c then (prev, env.codes.changeInvalidValue)
    else storeIfChanged env prev c env.codes.changeNoChange
  | none => storeIfChanged env prev garbage env.codes.changeNoChange

/-- `sccp_config_parse_amaflags`. -/
def sccpConfigParseAmaflags (prev : Int) (value : String) : Int × Nat :=
  let a := env.cdrAmaflags2int value
  if a < 0 then (prev, env.codes.changeInvalidValue) else storeIfChanged env prev a env.codes.changeNoChange

/-- `sccp_config_parse_smallint`: a number from 0 to 255. -/
def sccpConfigParseSmallint (prev : Int) (value : String) : Int × Nat :=
  match sscanfInt true value with
  | some n => if 0 ≤ n ∧ n ≤ 255 then storeIfChanged env prev n env.codes.changeNoChange
    else (prev, env.codes.changeInvalidValue)
  | none => (prev, env.codes.changeInvalidValue)

/-- `sccp_config_parse_secondaryDialtoneDigits`: at most nine characters are
accepted, and copied into a buffer of nine bytes. -/
def sccpConfigParseSecondaryDialtoneDigits (prev : String) (value : String) : String × Nat :=
  if value.length ≤ 9 then
    if strcasecmpEq prev value then (prev, env.codes.changeNoChange)
    else (sccpCopyString value 9, env.codes.changeChanged)
  else (prev, env.codes.changeInvalidValue)

/-- `sccp_config_parse_variables`: the new variable goes in front of the list. -/
def sccpConfigParseVariables (vars : List (String × String)) (value : String) :
    List (String × String) × Nat :=
  match env.createVariable value with
  | some v => (v :: vars, env.codes.changeChanged)
  | none => (vars, env.codes.changeNoChange)

/-- The bits `for (x = start; x <= finish; x++)` sets in a group mask when it ends:
those of `[start, finish]` within `[0, 63]`. -/
def groupBits (start finish : Int) (mask : Nat) : Nat :=
  (List.range 64).foldl
    (fun m (x : Nat) => if start ≤ (x : Int) ∧ (x : Int) ≤ finish then m ||| (1 <<< x) else m) mask

/-- `INT_MAX` as a 32-bit `int`. -/
def intMax : BitVec 32 := BitVec.ofInt 32 2147483647

/-- The range loop of `sccp_config_parse_group`, `for (x = start; x <= finish; x++)`, with
`int` a 32-bit word whose increment wraps, given at most `fuel` tests of the loop
condition: the mask when the loop ends, none when the fuel runs out first. -/
def groupRangeLoop : Nat → BitVec 32 → BitVec 32 → Nat → Option Nat
  | 0, _, _, _ => none
  | fuel + 1, x, finish, group =>
    if x.sle finish then
      groupRangeLoop fuel (x + 1) finish (if 63 < x.toInt ∨ x.toInt < 0 then group else group ||| 1 <<< x.toNat)
    else some group

/-- Tests of the loop condition enough for every range that ends: one for each
32-bit `int`, and one more. -/
def groupRangeFuel : Nat := 4294967297

/-- The range loop run from `start` to `finish` as `sscanf` stores them in `int`s.
A range ending at `INT_MAX` never ends in C, and the model has no value for it: the
fuel runs out and the mask is left as it was, so every result about the stored
mask is stated for ranges that end. -/
def groupRange (start finish : Int) (mask : Nat) : Nat :=
  (groupRangeLoop groupRangeFuel (BitVec.ofInt 32 start) (BitVec.ofInt 32 finish) mask).getD mask

/-- The loop of `sccp_config_parse_group` over the comma-separated pieces; `start`
and `finish` keep their values from one piece to the next. -/
def parseGroupPieces : List String → Int → Int → Nat → Nat
  | [], _, _, mask => mask
  | piece :: rest, start, finish, mask =>
    match sscanfRange piece with
    | (2, some a, some b) => parseGroupPieces rest a b (groupRange a b mask)
    | (_, a, _) =>
      let start := a.getD start
      match sscanfSingle piece with
      | (0, _) => parseGroupPieces rest start finish mask
      | (_, a') =>
        let start := a'.getD start
        parseGroupPieces rest start start (groupRange start start mask)

/-- `sccp_config_parse_group`. -/
def sccpConfigParseGroup (prev : Int) (value : String) : Int × Nat :=
  let group : Nat := if value.isEmpty then 0 else parseGroupPieces (strsepPieces value ',') 0 0 0
  storeIfChanged env prev group env.codes.changeNoChange

/-- `sccp_config_parse_context`. -/
def sccpConfigParseContext (size : Nat) (prev : String) (value : String) : String × Nat :=
  if strcasecmpEq prev value then (prev, env.codes.changeNoChange)
  else (sccpCopyString value size, env.codes.changeChanged)

/-- `strsep(&s, "@")`: the part before the first `@`, and the rest after it, NULL
when there is none. -/
def splitAtFirst (c : Char) : List Char → List Char × Option (List Char)
  | [] => ([], none)
  | x :: xs =>
    if x = c then ([], some xs)
    else ((x :: (splitAtFirst c xs).1), (splitAtFirst c xs).2)

/-- `sccp_config_parse_mailbox`: a mailbox not yet in the list (compared exactly)
is added at the tail; the result is always CHANGED. -/
def sccpConfigParseMailbox (boxes : List Mailbox) (value : String) : List Mailbox × Nat :=
  let (mbox, context) := splitAtFirst '@' value.data
  let mbox : String := ⟨mbox⟩
  if boxes.any (fun b => b.mailbox = mbox) || mbox.isEmpty then (boxes, env.codes.changeChanged)
  else (boxes ++ [⟨mbox, context.map String.mk⟩], env.codes.changeChanged)

end SccpConfig
