import SccpConfig.Value

/-!
# The configurable objects

The members of `struct sccp_global_vars`, `struct sccp_device` and
`struct sccp_line` that the option tables bind or the reload code touches, in
the build with dynamic configuration, pickup, advanced features and manager
events compiled in (realtime and devstate features left out). An object holds
one value per member. The structs themselves are declared in a header that is
not among the sources, so the sizes of their char arrays, and the helpers the
module calls from the rest of chan-sccp and from the host PBX, are the fields
of `Env`.
-/

namespace SccpConfig

set_option autoImplicit false

/-- The shape of a member's value. -/
inductive Kind
  | boolean
  | int
  | string
  | stringPtr
  | char
  | feature
  | sockaddr
  | codecs
  | acl
  | addons
  | hostnames
  | variables
  | mailboxes
  | buttons
  deriving DecidableEq, Repr

/-- A member as `calloc` leaves it. -/
def Kind.zero : Kind → Value
  | .boolean => .boolean false
  | .int => .int 0
  | .string => .string ""
  | .stringPtr => .stringPtr none
  | .char => .char '\x00'
  | .feature => .feature 0 false
  | .sockaddr => .sockaddr 0 0
  | .codecs => .codecs []
  | .acl => .acl []
  | .addons => .addons []
  | .hostnames => .hostnames []
  | .variables => .variables []
  | .mailboxes => .mailboxes []
  | .buttons => .buttons []

/-- The kind of a value: which member shape it fits. -/
def Value.kind : Value → Kind
  | .boolean _ => .boolean
  | .int _ => .int
  | .string _ => .string
  | .stringPtr _ => .stringPtr
  | .char _ => .char
  | .feature _ _ => .feature
  | .sockaddr _ _ => .sockaddr
  | .codecs _ => .codecs
  | .acl _ => .acl
  | .addons _ => .addons
  | .hostnames _ => .hostnames
  | .variables _ => .variables
  | .mailboxes _ => .mailboxes
  | .buttons _ => .buttons

@[simp] theorem Kind.zero_kind (k : Kind) : k.zero.kind = k := by
  cases k <;> rfl

/-- Members of `struct sccp_global_vars` bound by `sccpGlobalConfigOptions`. -/
inductive GlobalMember
  | servername | keepalive | debug | context | dateformat | bindaddr | globalPreferences | ha
  | preferQualityOverSize | localaddr | externip | externhost | externrefresh | firstdigittimeout
  | digittimeout | digittimeoutchar | recorddigittimeoutchar | simulateEnbloc | autoanswerRingTime
  | autoanswerTone | remotehangupTone | transferTone | callwaitingTone | musicclass | language
  | callevents | accountcode | sccpTos | sccpCos | audioTos | audioCos | videoTos | videoCos
  | echocancel | silencesuppression | trustphoneip | earlyrtp | dndmode | privacy | mwilamp
  | mwioncall | blindtransferindication | cfwdall | cfwdbusy | cfwdnoanswer | nat | directrtp
  | useoverlap | callgroup | pickupgroup | pickupmodeanswer | amaflags | protocolversion
  | callanswerorder | regcontext | meetme | meetmeopts | allowAnonymous | tokenFallback
  | tokenBackoffTime
  deriving DecidableEq, Repr

def GlobalMember.kind : GlobalMember → Kind
  | .servername | .context | .dateformat | .externhost | .musicclass | .language | .accountcode
  | .regcontext | .meetmeopts | .tokenFallback => .string
  | .bindaddr | .externip => .sockaddr
  | .globalPreferences => .codecs
  | .ha | .localaddr => .acl
  | .digittimeoutchar => .char
  | .preferQualityOverSize | .recorddigittimeoutchar | .simulateEnbloc | .callevents | .echocancel
  | .silencesuppression | .trustphoneip | .privacy | .mwioncall | .cfwdall | .cfwdbusy
  | .cfwdnoanswer | .nat | .directrtp | .useoverlap | .pickupmodeanswer | .meetme
  | .allowAnonymous => .boolean
  | _ => .int

/-- Members of `struct sccp_device` bound by `sccpDeviceConfigOptions`, and the two
that `sccp_config_restoreDeviceFeatureStatus` sets besides. -/
inductive DeviceMember
  | configType | description | keepalive | tzOffset | preferences | transfer | park | cfwdall
  | cfwdbusy | cfwdnoanswer | dndFeature | dtmfmode | imageversion | ha | audioTos | audioCos
  | videoTos | videoCos | trustphoneip | nat | directrtp | earlyrtp | privacyFeature | mwilamp
  | mwioncall | meetme | meetmeopts | softkeyDefinition | useRedialMenu | pickupexten
  | pickupcontext | pickupmodeanswer | monitorFeature | overlapFeature | variables | permithosts
  | addons | buttonconfig | digittimeout | lastNumber | priFeature
  deriving DecidableEq, Repr

def DeviceMember.kind : DeviceMember → Kind
  | .configType | .description | .imageversion | .meetmeopts | .softkeyDefinition
  | .pickupcontext | .lastNumber => .string
  | .transfer | .park | .cfwdall | .cfwdbusy | .cfwdnoanswer | .trustphoneip | .nat | .directrtp
  | .mwioncall | .meetme | .useRedialMenu | .pickupexten | .pickupmodeanswer => .boolean
  | .dndFeature | .privacyFeature | .monitorFeature | .overlapFeature | .priFeature => .feature
  | .preferences => .codecs
  | .ha => .acl
  | .variables => .variables
  | .permithosts => .hostnames
  | .addons => .addons
  | .buttonconfig => .buttons
  | _ => .int

/-- Members of `struct sccp_line` bound by `sccpLineConfigOptions`. -/
inductive LineMember
  | id | pin | label | description | context | cidName | cidNum | defaultSubscriptionIdName
  | defaultSubscriptionIdNumber | mailboxes | vmnum | adhocNumber | meetme | meetmenum
  | meetmeopts | transfer | incominglimit | echocancel | silencesuppression | language
  | musicclass | accountcode | amaflags | callgroup | pickupgroup | trnsfvm
  | secondaryDialtoneDigits | secondaryDialtoneTone | variables | dndmode | regexten
  deriving DecidableEq, Repr

def LineMember.kind : LineMember → Kind
  | .meetme | .transfer | .echocancel | .silencesuppression => .boolean
  | .incominglimit | .amaflags | .callgroup | .pickupgroup | .secondaryDialtoneTone
  | .dndmode => .int
  | .mailboxes => .mailboxes
  | .trnsfvm => .stringPtr
  | .variables => .variables
  | _ => .string

/-- `sccp_device_t`: its name, the two reload flags and its members. -/
structure Device where
  id : String
  pendingDelete : Bool
  pendingUpdate : Bool
  config : DeviceMember → Value

/-- `sccp_line_t`: its name, the two reload flags and its members. -/
structure Line where
  name : String
  pendingDelete : Bool
  pendingUpdate : Bool
  config : LineMember → Value

/-- The sizes of the char arrays of `sccp_buttonconfig_t`. -/
structure ButtonSizes where
  label : Nat
  lineName : Nat
  lineNumber : Nat
  lineSubscriptionName : Nat
  lineAux : Nat
  lineOptions : Nat
  speeddialExt : Nat
  speeddialHint : Nat
  serviceUrl : Nat
  featureOptions : Nat

/-- What `sccp_config.c` takes from elsewhere: the numbers of its result enums and
of a few other enums, the sizes of the char arrays it writes, the chan-sccp
helpers of other source files and the host PBX functions it calls. -/
structure Env where
  codes : ChangeCodes
  globalSize : GlobalMember → Nat
  deviceSize : DeviceMember → Nat
  lineSize : LineMember → Nat
  deviceIdSize : Nat
  lineNameSize : Nat
  softKeySetNameSize : Nat
  usedContextSize : Nat
  maxContext : Nat
  buttonSizes : ButtonSizes
  blindtransferMoh : Int
  blindtransferRing : Int
  answerOldestFirst : Int
  answerLastFirst : Int
  /-- What an uninitialised local `unsigned int` holds when it is read. -/
  uninitialized : Int
  /-- `sccp_parse_allow_disallow`: the preferences after the list is applied, and
  the number of codecs it did not know. -/
  parseAllowDisallow : List Nat → String → Bool → List Nat × Nat
  /-- The node `sccp_append_ha` builds for a sense and a network, none when the
  network does not parse. -/
  haNode : String → String → Option HaRule
  /-- `pbx_gethostbyname`: the first address of a host name. -/
  gethostbyname : String → Option Nat
  /-- `pbx_str2tos`: the value of a DSCP or TOS name. -/
  str2tos : String → Option Nat
  cdrAmaflags2int : String → Int
  /-- `sccp_create_variable` on a `name=value` string. -/
  createVariable : String → Option (String × String)
  parseDebugline : String → Nat
  featureStr2featureID : String → Nat
  parseComposedId : String → ComposedId
  /-- `PBX(feature_getFromDatabase)` on a family and a key. -/
  featureGetFromDatabase : String → String → Option String
  /-- `softKeyTemplate`: the label words of the softkey sets and their label ids. -/
  softKeyTemplate : List (String × Nat)
  /-- `SKINNY_LBL_EMPTY`. -/
  lblEmpty : Nat

end SccpConfig
