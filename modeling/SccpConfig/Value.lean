import SccpConfig.CString

/-!
# Option records and member values

The declarations at the top of `sccp_config.c`: the data types and flags of a
configuration option, the option record itself, and the values the members of
the configurable structs hold. An option in the source addresses its member by
byte offset and size; here it names the member, together with a `View` for the
one option (`private`) that writes a field inside a member another option
(`privacy`) writes whole. Offset `0` (the `name`, `type` and `line` rows) is a
missing target.
-/

namespace SccpConfig

set_option autoImplicit false

/-- `enum SCCPConfigOptionType`. -/
inductive DataType
  | boolean
  | int
  | string
  | generic
  | stringPtr
  | char
  deriving DecidableEq, Repr

/-! `enum SCCPConfigOptionFlag`: one bit each, combined with `|` in the tables. -/

namespace ConfigFlag

def ignore : Nat := 1 <<< 0
def none : Nat := 1 <<< 1
def deprecated : Nat := 1 <<< 2
def obsolete : Nat := 1 <<< 3
def changed : Nat := 1 <<< 4
def required : Nat := 1 <<< 5
def getDeviceDefault : Nat := 1 <<< 6
def getGlobalDefault : Nat := 1 <<< 7

end ConfigFlag

/-- `sccp_configurationchange_t`, the change class of an option. -/
inductive ConfigurationChange
  | noUpdateNeeded
  | needDeviceReset
  deriving DecidableEq, Repr

/-- The numbers of the two result enums. Their declarations live in the
configuration header, which is not among the sources; only what the code relies
on is fixed: the accumulators start at the first member, which is zero, and the
members of one enum differ. -/
structure ChangeCodes where
  noUpdateNeeded : Nat
  needDeviceReset : Nat
  changeNoChange : Nat
  changeChanged : Nat
  changeInvalidValue : Nat
  noUpdateNeeded_eq : noUpdateNeeded = 0
  changeNoChange_eq : changeNoChange = 0
  needDeviceReset_ne : needDeviceReset ≠ 0
  changeChanged_ne : changeChanged ≠ 0
  changeInvalidValue_ne : changeInvalidValue ≠ 0
  changeChanged_ne_invalid : changeChanged ≠ changeInvalidValue

/-- The number an option's change class stands for. -/
def ChangeCodes.code (cc : ChangeCodes) : ConfigurationChange → Nat
  | .noUpdateNeeded => cc.noUpdateNeeded
  | .needDeviceReset => cc.needDeviceReset

/-- One node of an access list built by `sccp_append_ha`. -/
structure HaRule where
  sense : String
  network : String
  deriving DecidableEq, Repr

/-- An entry of a line's mailbox list: the box and the context after `@`, NULL
when the value has no `@`. -/
structure Mailbox where
  mailbox : String
  context : Option String
  deriving DecidableEq, Repr

/-- `button_type_t`. -/
inductive ButtonType
  | line
  | speeddial
  | service
  | feature
  | empty
  deriving DecidableEq, Repr

/-- `struct composedId`: a line button's name split by `sccp_parseComposedId`. -/
structure ComposedId where
  mainId : String
  number : String
  name : String
  aux : String
  deriving DecidableEq, Repr

/-- `sccp_buttonconfig_t`. The source keeps the four kinds' fields in a union; they
are separate here, so a field of another kind keeps its own last value rather
than the bytes the union shares. -/
structure ButtonConfig where
  index : Int
  type : ButtonType
  label : String
  pendingDelete : Bool
  pendingUpdate : Bool
  lineName : String
  lineNumber : String
  lineSubscriptionName : String
  lineAux : String
  lineOptions : String
  speeddialExt : String
  speeddialHint : String
  serviceUrl : String
  featureId : Nat
  featureOptions : String
  deriving DecidableEq, Repr

/-- A zeroed `sccp_buttonconfig_t` from `sccp_calloc`, at a given index. Its type
is the first enumerator, `LINE`. -/
def ButtonConfig.fresh (index : Int) : ButtonConfig where
  index := index
  type := .line
  label := ""
  pendingDelete := false
  pendingUpdate := false
  lineName := ""
  lineNumber := ""
  lineSubscriptionName := ""
  lineAux := ""
  lineOptions := ""
  speeddialExt := ""
  speeddialHint := ""
  serviceUrl := ""
  featureId := 0
  featureOptions := ""

/-- What one member of a configurable struct holds. Integers and the enums
stored in them are `int`; a char array holds the string before its terminator. -/
inductive Value
  | boolean (b : Bool)
  | int (n : Int)
  | string (s : String)
  | stringPtr (s : Option String)
  | char (c : Char)
  | feature (status : Nat) (enabled : Bool)
  | sockaddr (addr : Nat) (port : Nat)
  | codecs (prefs : List Nat)
  | acl (rules : List HaRule)
  | addons (types : List Nat)
  | hostnames (names : List String)
  | variables (vars : List (String × String))
  | mailboxes (boxes : List Mailbox)
  | buttons (configs : List ButtonConfig)
  deriving DecidableEq, Repr

/-- How an option reaches into its member: the whole member, or the `enabled`
field of an `sccp_featureConfiguration_t` member. -/
inductive View
  | whole
  | enabled
  deriving DecidableEq, Repr

/-- The value an option sees through its view. -/
def View.get : View → Value → Value
  | .whole, v => v
  | .enabled, .feature _ e => .boolean e
  | .enabled, v => v

/-- The member after an option stores `new` through its view. -/
def View.put : View → Value → Value → Value
  | .whole, _, new => new
  | .enabled, .feature s _, .boolean e => .feature s e
  | .enabled, old, _ => old

@[simp] theorem View.get_whole (v : Value) : View.whole.get v = v := rfl
@[simp] theorem View.put_whole (old new : Value) : View.whole.put old new = new := rfl

@[simp] theorem View.put_get (w : View) (v : Value) : w.put v (w.get v) = v := by
  cases w <;> cases v <;> rfl

/-- The converter functions the option tables name. -/
inductive Converter
  | parseDebug
  | parseIpaddress
  | parseContext
  | parseDisallowCodec
  | parseAllowCodec
  | parseDeny
  | parsePermit
  | parseSmallint
  | parseTos
  | parseCos
  | parseEarlyrtp
  | parseDnd
  | parseMwilamp
  | parseBlindtransferindication
  | parseGroup
  | parseAmaflags
  | parseCallanswerorder
  | parseRegcontext
  | parseDtmfmode
  | parsePrivacyFeature
  | parseVariables
  | parsePermithosts
  | parseAddons
  | parseButton
  | parseMailbox
  | parseSecondaryDialtoneDigits
  deriving DecidableEq, Repr

/-- `SCCPConfigOption`, over the member type `M` of its segment. The description
text is left out: only log messages read it. -/
structure ConfigOption (M : Type) where
  name : String
  target : Option (M × View)
  type : DataType
  flags : Nat
  change : ConfigurationChange
  defaultValue : Option String
  converter : Option Converter
  deriving DecidableEq, Repr

end SccpConfig
