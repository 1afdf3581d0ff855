import SccpConfig.Objects

/-!
# The option tables

`sccpGlobalConfigOptions`, `sccpDeviceConfigOptions` and `sccpLineConfigOptions`,
row by row, in the build this model follows: the pickup, advanced-feature and
manager-event rows are in, the realtime rows out. The softkey table is not used
by any function of the module (softkey sets are read by `sccp_config_softKeySet`)
and is left out. `sccp_find_config` looks a name up without case and returns the
first row that has it.
-/

namespace SccpConfig

set_option autoImplicit false

open ConfigurationChange

/-- The whole of a member, as `G_OBJ_REF`, `D_OBJ_REF` and `L_OBJ_REF` give it. -/
def whole {M : Type} (m : M) : Option (M × View) := some (m, .whole)

/-- The `enabled` field of a feature member, as `D_OBJ_REF(xFeature.enabled)`. -/
def enabledOf {M : Type} (m : M) : Option (M × View) := some (m, .enabled)

/-- `sccpGlobalConfigOptions`. -/
def sccpGlobalConfigOptions : List (ConfigOption GlobalMember) :=
  [ ⟨"servername", whole .servername, .string, ConfigFlag.none, noUpdateNeeded, some "Asterisk", none⟩,
    ⟨"keepalive", whole .keepalive, .int, ConfigFlag.none, needDeviceReset, some "60", none⟩,
    ⟨"debug", whole .debug, .generic, ConfigFlag.none, noUpdateNeeded, some "core", some .parseDebug⟩,
    ⟨"context", whole .context, .string, ConfigFlag.none, needDeviceReset, some "sccp", some .parseContext⟩,
    ⟨"dateformat", whole .dateformat, .string, ConfigFlag.none, needDeviceReset, some "D.M.Y", none⟩,
    ⟨"bindaddr", whole .bindaddr, .generic, ConfigFlag.none, needDeviceReset, some "0.0.0.0", some .parseIpaddress⟩,
    ⟨"port", whole .bindaddr, .generic, ConfigFlag.none, needDeviceReset, some "2000", none⟩,
    ⟨"disallow", whole .globalPreferences, .generic, ConfigFlag.none, needDeviceReset, some "", some .parseDisallowCodec⟩,
    ⟨"allow", whole .globalPreferences, .generic, ConfigFlag.none, needDeviceReset, some "", some .parseAllowCodec⟩,
    ⟨"deny", whole .ha, .generic, ConfigFlag.none, needDeviceReset, some "0.0.0.0/0.0.0.0", some .parseDeny⟩,
    ⟨"permit", whole .ha, .generic, ConfigFlag.none, needDeviceReset, some "internal", some .parsePermit⟩,
    ⟨"quality_over_size", whole .preferQualityOverSize, .boolean, ConfigFlag.none, noUpdateNeeded, some "true", none⟩,
    ⟨"localnet", whole .localaddr, .generic, ConfigFlag.none, needDeviceReset, some " ", some .parsePermit⟩,
    ⟨"externip", whole .externip, .generic, ConfigFlag.none, needDeviceReset, some "", some .parseIpaddress⟩,
    ⟨"externhost", whole .externhost, .string, ConfigFlag.none, needDeviceReset, some "", none⟩,
    ⟨"externrefresh", whole .externrefresh, .generic, ConfigFlag.none, needDeviceReset, some "60", some .parseSmallint⟩,
    ⟨"firstdigittimeout", whole .firstdigittimeout, .generic, ConfigFlag.none, noUpdateNeeded, some "16", some .parseSmallint⟩,
    ⟨"digittimeout", whole .digittimeout, .generic, ConfigFlag.none, noUpdateNeeded, some "8", some .parseSmallint⟩,
    ⟨"digittimeoutchar", whole .digittimeoutchar, .char, ConfigFlag.none, noUpdateNeeded, some "#", none⟩,
    ⟨"recorddigittimeoutchar", whole .recorddigittimeoutchar, .boolean, ConfigFlag.none, noUpdateNeeded, some "false", none⟩,
    ⟨"simulate_enbloc", whole .simulateEnbloc, .boolean, ConfigFlag.none, noUpdateNeeded, some "true", none⟩,
    ⟨"autoanswer_ring_time", whole .autoanswerRingTime, .generic, ConfigFlag.none, noUpdateNeeded, some "1", some .parseSmallint⟩,
    ⟨"autoanswer_tone", whole .autoanswerTone, .generic, ConfigFlag.none, noUpdateNeeded, some "0x32", some .parseSmallint⟩,
    ⟨"remotehangup_tone", whole .remotehangupTone, .generic, ConfigFlag.none, noUpdateNeeded, some "0x32", some .parseSmallint⟩,
    ⟨"transfer_tone", whole .transferTone, .generic, ConfigFlag.none, noUpdateNeeded, some "0", some .parseSmallint⟩,
    ⟨"callwaiting_tone", whole .callwaitingTone, .generic, ConfigFlag.none, noUpdateNeeded, some "0x2d", some .parseSmallint⟩,
    ⟨"musicclass", whole .musicclass, .string, ConfigFlag.none, noUpdateNeeded, some "default", none⟩,
    ⟨"language", whole .language, .string, ConfigFlag.none, needDeviceReset, some "en", none⟩,
    ⟨"callevents", whole .callevents, .boolean, ConfigFlag.none, noUpdateNeeded, some "on ", none⟩,
    ⟨"accountcode", whole .accountcode, .string, ConfigFlag.none, noUpdateNeeded, some "skinny", none⟩,
    ⟨"sccp_tos", whole .sccpTos, .generic, ConfigFlag.none, needDeviceReset, some "0x68", some .parseTos⟩,
    ⟨"sccp_cos", whole .sccpCos, .generic, ConfigFlag.none, needDeviceReset, some "4", some .parseCos⟩,
    ⟨"audio_tos", whole .audioTos, .generic, ConfigFlag.none, needDeviceReset, some "0xB8", some .parseTos⟩,
    ⟨"audio_cos", whole .audioCos, .generic, ConfigFlag.none, needDeviceReset, some "6", some .parseCos⟩,
    ⟨"video_tos", whole .videoTos, .generic, ConfigFlag.none, needDeviceReset, some "0x88", some .parseTos⟩,
    ⟨"video_cos", whole .videoCos, .generic, ConfigFlag.none, needDeviceReset, some "5", some .parseCos⟩,
    ⟨"echocancel", whole .echocancel, .boolean, ConfigFlag.none, noUpdateNeeded, some "on", none⟩,
    ⟨"silencesuppression", whole .silencesuppression, .boolean, ConfigFlag.none, noUpdateNeeded, some "off", none⟩,
    ⟨"trustphoneip", whole .trustphoneip, .boolean, ConfigFlag.none, noUpdateNeeded, some "no", none⟩,
    ⟨"earlyrtp", whole .earlyrtp, .generic, ConfigFlag.none, noUpdateNeeded, some "progress", some .parseEarlyrtp⟩,
    ⟨"dnd", whole .dndmode, .generic, ConfigFlag.none, noUpdateNeeded, some "reject", some .parseDnd⟩,
    ⟨"private", whole .privacy, .boolean, ConfigFlag.none, noUpdateNeeded, some "on", none⟩,
    ⟨"mwilamp", whole .mwilamp, .generic, ConfigFlag.none, noUpdateNeeded, some "on", some .parseMwilamp⟩,
    ⟨"mwioncall", whole .mwioncall, .boolean, ConfigFlag.none, noUpdateNeeded, some "off", none⟩,
    ⟨"blindtransferindication", whole .blindtransferindication, .generic, ConfigFlag.none, noUpdateNeeded,
      some "ring", some .parseBlindtransferindication⟩,
    ⟨"cfwdall", whole .cfwdall, .boolean, ConfigFlag.none, needDeviceReset, some "on", none⟩,
    ⟨"cfwdbusy", whole .cfwdbusy, .boolean, ConfigFlag.none, needDeviceReset, some "on", none⟩,
    ⟨"cfwdnoanswer", whole .cfwdnoanswer, .boolean, ConfigFlag.none, needDeviceReset, some "on", none⟩,
    ⟨"nat", whole .nat, .boolean, ConfigFlag.none, needDeviceReset, some "off", none⟩,
    ⟨"directrtp", whole .directrtp, .boolean, ConfigFlag.none, noUpdateNeeded, some "off", none⟩,
    ⟨"allowoverlap", whole .useoverlap, .boolean, ConfigFlag.none, noUpdateNeeded, some "off ", none⟩,
    ⟨"callgroup", whole .callgroup, .generic, ConfigFlag.none, noUpdateNeeded, some "", some .parseGroup⟩,
    ⟨"pickupgroup", whole .pickupgroup, .generic, ConfigFlag.none, noUpdateNeeded, some "", some .parseGroup⟩,
    ⟨"pickupmodeanswer", whole .pickupmodeanswer, .boolean, ConfigFlag.none, noUpdateNeeded, some "", none⟩,
    ⟨"amaflags", whole .amaflags, .generic, ConfigFlag.none, noUpdateNeeded, some "", some .parseAmaflags⟩,
    ⟨"protocolversion", whole .protocolversion, .generic, ConfigFlag.obsolete, noUpdateNeeded, some "20", none⟩,
    ⟨"callanswerorder", whole .callanswerorder, .generic, ConfigFlag.none, noUpdateNeeded, some "oldestfirst",
      some .parseCallanswerorder⟩,
    ⟨"regcontext", whole .regcontext, .string, ConfigFlag.none, needDeviceReset, some "sccpregistration",
      some .parseRegcontext⟩,
    ⟨"meetme", whole .meetme, .boolean, ConfigFlag.none, noUpdateNeeded, some "on", none⟩,
    ⟨"meetmeopts", whole .meetmeopts, .string, ConfigFlag.none, noUpdateNeeded, some "qxd", none⟩,
    ⟨"hotline_enabled", whole .allowAnonymous, .boolean, ConfigFlag.none, noUpdateNeeded, some "no", none⟩,
    ⟨"fallback", whole .tokenFallback, .string, ConfigFlag.none, noUpdateNeeded, some "false", none⟩,
    ⟨"backoff_time", whole .tokenBackoffTime, .int, ConfigFlag.none, noUpdateNeeded, some "60", none⟩ ]

/-- `sccpDeviceConfigOptions`. -/
def sccpDeviceConfigOptions : List (ConfigOption DeviceMember) :=
  [ ⟨"name", none, .string, ConfigFlag.ignore, noUpdateNeeded, none, none⟩,
    ⟨"type", none, .string, ConfigFlag.ignore, noUpdateNeeded, none, none⟩,
    ⟨"device", whole .configType, .string, ConfigFlag.none, needDeviceReset, none, none⟩,
    ⟨"devicetype", whole .configType, .string, ConfigFlag.none, needDeviceReset, none, none⟩,
    ⟨"type", whole .configType, .string, ConfigFlag.none, needDeviceReset, none, none⟩,
    ⟨"description", whole .description, .string, ConfigFlag.none, needDeviceReset, none, none⟩,
    ⟨"keepalive", whole .keepalive, .int, ConfigFlag.getGlobalDefault, needDeviceReset, none, none⟩,
    ⟨"tzoffset", whole .tzOffset, .int, ConfigFlag.none, needDeviceReset, some "0", none⟩,
    ⟨"disallow", whole .preferences, .generic, ConfigFlag.getGlobalDefault, noUpdateNeeded, none,
      some .parseDisallowCodec⟩,
    ⟨"allow", whole .preferences, .generic, ConfigFlag.getGlobalDefault, noUpdateNeeded, none, some .parseAllowCodec⟩,
    ⟨"transfer", whole .transfer, .boolean, ConfigFlag.none, noUpdateNeeded, some "on", none⟩,
    ⟨"park", whole .park, .boolean, ConfigFlag.none, noUpdateNeeded, some "on", none⟩,
    ⟨"cfwdall", whole .cfwdall, .boolean, ConfigFlag.getGlobalDefault, noUpdateNeeded, some "off", none⟩,
    ⟨"cfwdbusy", whole .cfwdbusy, .boolean, ConfigFlag.getGlobalDefault, noUpdateNeeded, some "off", none⟩,
    ⟨"cfwdnoanswer", whole .cfwdnoanswer, .boolean, ConfigFlag.getGlobalDefault, noUpdateNeeded, some "off", none⟩,
    ⟨"dnd", enabledOf .dndFeature, .boolean, ConfigFlag.obsolete, noUpdateNeeded, none, none⟩,
    ⟨"dndFeature", enabledOf .dndFeature, .boolean, ConfigFlag.none, noUpdateNeeded, some "on", none⟩,
    ⟨"dtmfmode", whole .dtmfmode, .generic, ConfigFlag.getGlobalDefault, noUpdateNeeded, some "inband",
      some .parseDtmfmode⟩,
    ⟨"imageversion", whole .imageversion, .string, ConfigFlag.getGlobalDefault, needDeviceReset, none, none⟩,
    ⟨"deny", whole .ha, .generic, ConfigFlag.getGlobalDefault, needDeviceReset, none, some .parseDeny⟩,
    ⟨"permit", whole .ha, .generic, ConfigFlag.getGlobalDefault, needDeviceReset, none, some .parsePermit⟩,
    ⟨"audio_tos", whole .audioTos, .generic, ConfigFlag.getDeviceDefault, needDeviceReset, none, some .parseTos⟩,
    ⟨"audio_cos", whole .audioCos, .generic, ConfigFlag.getDeviceDefault, needDeviceReset, none, some .parseCos⟩,
    ⟨"video_tos", whole .videoTos, .generic, ConfigFlag.getDeviceDefault, needDeviceReset, none, some .parseTos⟩,
    ⟨"video_cos", whole .videoCos, .generic, ConfigFlag.getDeviceDefault, needDeviceReset, none, some .parseCos⟩,
    ⟨"trustphoneip", whole .trustphoneip, .boolean, ConfigFlag.getGlobalDefault, needDeviceReset, none, none⟩,
    ⟨"nat", whole .nat, .boolean, ConfigFlag.deprecated ||| ConfigFlag.getGlobalDefault, noUpdateNeeded, none, none⟩,
    ⟨"directrtp", whole .directrtp, .boolean, ConfigFlag.getGlobalDefault, noUpdateNeeded, none, none⟩,
    ⟨"earlyrtp", whole .earlyrtp, .generic, ConfigFlag.getGlobalDefault, noUpdateNeeded, none, some .parseEarlyrtp⟩,
    ⟨"private", enabledOf .privacyFeature, .boolean, ConfigFlag.getGlobalDefault, noUpdateNeeded, none, none⟩,
    ⟨"privacy", whole .privacyFeature, .generic, ConfigFlag.none, noUpdateNeeded, none, some .parsePrivacyFeature⟩,
    ⟨"mwilamp", whole .mwilamp, .generic, ConfigFlag.getGlobalDefault, noUpdateNeeded, none, some .parseMwilamp⟩,
    ⟨"mwioncall", whole .mwioncall, .boolean, ConfigFlag.getGlobalDefault, noUpdateNeeded, none, none⟩,
    ⟨"meetme", whole .meetme, .boolean, ConfigFlag.getGlobalDefault, noUpdateNeeded, none, none⟩,
    ⟨"meetmeopts", whole .meetmeopts, .string, ConfigFlag.getGlobalDefault, noUpdateNeeded, none, none⟩,
    ⟨"softkeyset", whole .softkeyDefinition, .string, ConfigFlag.none, needDeviceReset, none, none⟩,
    ⟨"useRedialMenu", whole .useRedialMenu, .boolean, ConfigFlag.none, noUpdateNeeded, some "off", none⟩,
    ⟨"pickupexten", whole .pickupexten, .boolean, ConfigFlag.none, noUpdateNeeded, some "off", none⟩,
    ⟨"pickupcontext", whole .pickupcontext, .generic, ConfigFlag.none, noUpdateNeeded, some "sccp", some .parseContext⟩,
    ⟨"pickupmodeanswer", whole .pickupmodeanswer, .boolean, ConfigFlag.none, noUpdateNeeded, some "on", none⟩,
    ⟨"monitor", enabledOf .monitorFeature, .boolean, ConfigFlag.none, noUpdateNeeded, none, none⟩,
    ⟨"allowoverlap", enabledOf .overlapFeature, .boolean, ConfigFlag.none, noUpdateNeeded, none, none⟩,
    ⟨"setvar", whole .variables, .generic, ConfigFlag.none, noUpdateNeeded, none, some .parseVariables⟩,
    ⟨"permithost", whole .permithosts, .generic, ConfigFlag.none, needDeviceReset, none, some .parsePermithosts⟩,
    ⟨"addon", whole .addons, .generic, ConfigFlag.none, needDeviceReset, none, some .parseAddons⟩,
    ⟨"dtmfmode", whole .dtmfmode, .generic, ConfigFlag.getGlobalDefault, noUpdateNeeded, none, some .parseDtmfmode⟩,
    ⟨"button", whole .buttonconfig, .generic, ConfigFlag.none, needDeviceReset, none, some .parseButton⟩,
    ⟨"digittimeout", whole .digittimeout, .generic, ConfigFlag.getGlobalDefault, noUpdateNeeded, some "8",
      some .parseSmallint⟩ ]

/-- `sccpLineConfigOptions`, with the two rows of test data at its end. -/
def sccpLineConfigOptions : List (ConfigOption LineMember) :=
  [ ⟨"name", none, .string, ConfigFlag.ignore, noUpdateNeeded, none, none⟩,
    ⟨"line", none, .string, ConfigFlag.ignore, noUpdateNeeded, none, none⟩,
    ⟨"type", none, .string, ConfigFlag.ignore, noUpdateNeeded, none, none⟩,
    ⟨"id", whole .id, .string, ConfigFlag.none, noUpdateNeeded, none, none⟩,
    ⟨"pin", whole .pin, .string, ConfigFlag.required, noUpdateNeeded, none, none⟩,
    ⟨"label", whole .label, .string, ConfigFlag.required, needDeviceReset, none, none⟩,
    ⟨"description", whole .description, .string, ConfigFlag.none, noUpdateNeeded, none, none⟩,
    ⟨"context", whole .context, .string, ConfigFlag.getGlobalDefault, noUpdateNeeded, none, none⟩,
    ⟨"cid_name", whole .cidName, .string, ConfigFlag.required, noUpdateNeeded, none, none⟩,
    ⟨"cid_num", whole .cidNum, .string, ConfigFlag.required, noUpdateNeeded, none, none⟩,
    ⟨"defaultSubscriptionId_name", whole .defaultSubscriptionIdName, .string, ConfigFlag.none, noUpdateNeeded,
      none, none⟩,
    ⟨"defaultSubscriptionId_number", whole .defaultSubscriptionIdNumber, .string, ConfigFlag.none, noUpdateNeeded,
      none, none⟩,
    ⟨"callerid", none, .string, ConfigFlag.obsolete, noUpdateNeeded, none, none⟩,
    ⟨"mailbox", whole .mailboxes, .generic, ConfigFlag.none, noUpdateNeeded, none, some .parseMailbox⟩,
    ⟨"vmnum", whole .vmnum, .string, ConfigFlag.none, noUpdateNeeded, none, none⟩,
    ⟨"adhocNumber", whole .adhocNumber, .string, ConfigFlag.none, noUpdateNeeded, none, none⟩,
    ⟨"meetme", whole .meetme, .boolean, ConfigFlag.getDeviceDefault, noUpdateNeeded, none, none⟩,
    ⟨"meetmenum", whole .meetmenum, .string, ConfigFlag.getGlobalDefault, noUpdateNeeded, none, none⟩,
    ⟨"meetmeopts", whole .meetmeopts, .string, ConfigFlag.getDeviceDefault, noUpdateNeeded, none, none⟩,
    ⟨"transfer", whole .transfer, .boolean, ConfigFlag.getDeviceDefault, noUpdateNeeded, none, none⟩,
    ⟨"incominglimit", whole .incominglimit, .int, ConfigFlag.none, noUpdateNeeded, none, none⟩,
    ⟨"echocancel", whole .echocancel, .boolean, ConfigFlag.getGlobalDefault, noUpdateNeeded, none, none⟩,
    ⟨"silencesuppression", whole .silencesuppression, .boolean, ConfigFlag.getGlobalDefault, noUpdateNeeded, none,
      none⟩,
    ⟨"language", whole .language, .string, ConfigFlag.getGlobalDefault, noUpdateNeeded, none, none⟩,
    ⟨"musicclass", whole .musicclass, .string, ConfigFlag.getGlobalDefault, noUpdateNeeded, none, none⟩,
    ⟨"accountcode", whole .accountcode, .string, ConfigFlag.none, noUpdateNeeded, none, none⟩,
    ⟨"amaflags", whole .amaflags, .generic, ConfigFlag.none, noUpdateNeeded, none, some .parseAmaflags⟩,
    ⟨"callgroup", whole .callgroup, .generic, ConfigFlag.none, noUpdateNeeded, none, some .parseGroup⟩,
    ⟨"pickupgroup", whole .pickupgroup, .generic, ConfigFlag.none, noUpdateNeeded, none, some .parseGroup⟩,
    ⟨"trnsfvm", whole .trnsfvm, .stringPtr, ConfigFlag.none, noUpdateNeeded, none, none⟩,
    ⟨"secondary_dialtone_digits", whole .secondaryDialtoneDigits, .generic, ConfigFlag.none, noUpdateNeeded, some "9",
      some .parseSecondaryDialtoneDigits⟩,
    ⟨"secondary_dialtone_tone", whole .secondaryDialtoneTone, .int, ConfigFlag.none, noUpdateNeeded, some "0x22",
      none⟩,
    ⟨"setvar", whole .variables, .generic, ConfigFlag.none, noUpdateNeeded, none, some .parseVariables⟩,
    ⟨"dnd", whole .dndmode, .generic, ConfigFlag.getGlobalDefault, noUpdateNeeded, some "reject", some .parseDnd⟩,
    ⟨"regexten", whole .regexten, .string, ConfigFlag.none, noUpdateNeeded, none, none⟩,
    ⟨"test1", whole .regexten, .string, ConfigFlag.obsolete, noUpdateNeeded, none, none⟩,
    ⟨"test2", whole .regexten, .string, ConfigFlag.deprecated, noUpdateNeeded, none, none⟩ ]

/-- `sccp_find_config`: the first row whose name matches without case. -/
def sccpFindConfig {M : Type} (options : List (ConfigOption M)) (name : String) : Option (ConfigOption M) :=
  options.find? (fun o => strcasecmpEq o.name name)

end SccpConfig
