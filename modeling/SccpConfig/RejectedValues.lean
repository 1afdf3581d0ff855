import SccpConfig.Converters
import SccpConfig.SetValueReport

/-!
# Rejected values

What the enumerated and numeric converters do with a value they do not accept.
`earlyrtp`, `dtmfmode` and `mwilamp` set the local they store to `0` before the
keyword chain and do not return on an unknown word, so the member becomes `0`;
`tos` stores `0x68`; `cos` stores its uninitialised local when the value is no
number. Each of these five then reports CHANGED when that differs from the member.
-/

namespace SccpConfig

set_option autoImplicit false

variable (env : Env)

/-- The words `sccp_config_parse_earlyrtp` knows. -/
def earlyrtpWords : List String := ["none", "offhook", "dial", "ringout", "progress"]

/-- The words `sccp_config_parse_dtmfmode` knows. -/
def dtmfmodeWords : List String := ["outofband", "inband"]

/-- The words `sccp_config_parse_mwilamp` knows. -/
def mwilampWords : List String := ["off", "on", "wink", "flash", "blink"]

theorem sccpConfigParseEarlyrtp_rejected (prev : Int) (value : String)
    (h : earlyrtpWords.any (strcasecmpEq value) = false) :
    sccpConfigParseEarlyrtp env prev value = storeIfChanged env prev 0 env.codes.changeInvalidValue := by
  simp only [earlyrtpWords, List.any_cons, List.any_nil, Bool.or_false, Bool.or_eq_false_iff] at h
  simp [sccpConfigParseEarlyrtp, h]

theorem sccpConfigParseDtmfmode_rejected (prev : Int) (value : String)
    (h : dtmfmodeWords.any (strcasecmpEq value) = false) :
    sccpConfigParseDtmfmode env prev value = storeIfChanged env prev 0 env.codes.changeInvalidValue := by
  simp only [dtmfmodeWords, List.any_cons, List.any_nil, Bool.or_false, Bool.or_eq_false_iff] at h
  simp [sccpConfigParseDtmfmode, h]

theorem sccpConfigParseMwilamp_rejected (prev : Int) (value : String)
    (h : mwilampWords.any (strcasecmpEq value) = false) :
    sccpConfigParseMwilamp env prev value = storeIfChanged env prev 0 env.codes.changeInvalidValue := by
  simp only [mwilampWords, List.any_cons, List.any_nil, Bool.or_false, Bool.or_eq_false_iff] at h
  simp [sccpConfigParseMwilamp, h]

theorem sccpConfigParseTos_rejected (prev : Int) (value : String)
    (h : env.str2tos value = none ∧ sscanfInt true value = none ∧ iptosByName value = none) :
    sccpConfigParseTos env prev value = storeIfChanged env prev 0x68 env.codes.changeInvalidValue := by
  simp [sccpConfigParseTos, h.1, h.2.1, h.2.2]

theorem sccpConfigParseCos_rejected (garbage prev : Int) (value : String) (h : sscanfInt false value = none) :
    sccpConfigParseCos env garbage prev value = storeIfChanged env prev garbage env.codes.changeNoChange := by
  simp [sccpConfigParseCos, h]

/-- On a value they reject, `earlyrtp`, `dtmfmode` and `mwilamp` store `0`, `tos`
stores `0x68` and `cos` the uninitialised `garbage`; each then reports CHANGED
whenever the member held something else. -/
theorem rejected_value_overwrites_member (garbage prev : Int) (value : String) :
    (earlyrtpWords.any (strcasecmpEq value) = false →
        sccpConfigParseEarlyrtp env prev value = storeIfChanged env prev 0 env.codes.changeInvalidValue) ∧
      (dtmfmodeWords.any (strcasecmpEq value) = false →
        sccpConfigParseDtmfmode env prev value = storeIfChanged env prev 0 env.codes.changeInvalidValue) ∧
      (mwilampWords.any (strcasecmpEq value) = false →
        sccpConfigParseMwilamp env prev value = storeIfChanged env prev 0 env.codes.changeInvalidValue) ∧
      (env.str2tos value = none ∧ sscanfInt true value = none ∧ iptosByName value = none →
        sccpConfigParseTos env prev value = storeIfChanged env prev 0x68 env.codes.changeInvalidValue) ∧
      (sscanfInt false value = none →
        sccpConfigParseCos env garbage prev value = storeIfChanged env prev garbage env.codes.changeNoChange) :=
  ⟨sccpConfigParseEarlyrtp_rejected env prev value, sccpConfigParseDtmfmode_rejected env prev value,
    sccpConfigParseMwilamp_rejected env prev value, sccpConfigParseTos_rejected env prev value,
    sccpConfigParseCos_rejected env garbage prev value⟩

/-- `earlyrtp = bogus` on a member holding `3` (ringout): the member becomes `0`
and the converter reports CHANGED. -/
theorem rejected_earlyrtp_bogus_overwritten :
    earlyrtpWords.any (strcasecmpEq "bogus") = false ∧
      sccpConfigParseEarlyrtp sampleEnv 3 "bogus" = (0, sampleEnv.codes.changeChanged) :=
  ⟨by decide, ((rejected_value_overwrites_member sampleEnv 0 3 "bogus").1 (by decide)).trans (by decide)⟩

end SccpConfig
