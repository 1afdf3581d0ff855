import SccpConfig.SetValue

/-!
# What `sccp_config_object_setValue` reports

A call writes at most one member, the one its option names, and what it writes
there depends on that member alone (`setValueAt`). Its result is the option's
change class when the type branch or the converter reported
`SCCP_CONFIG_CHANGE_CHANGED`. For BOOLEAN, INT and STRINGPTR options, and for
the converters that compare before they store or that always insert a new
entry, that report is exact: the class comes back exactly when the member
changed. CHAR and STRING set the other result variable, and the converters for
addresses, codec lists, access lists, buttons and mailboxes report without
comparing (their sources carry a `\todo` for the check); the button converter,
for one, reports no update for the button it appends.
-/

namespace SccpConfig

set_option autoImplicit false

/-- An environment to instantiate theorems at: the result enums numbered in
declaration order, roomy buffers, and helpers that parse every address and
variable. -/
def sampleEnv : Env where
  codes := ⟨0, 2, 0, 1, 2, rfl, rfl, by decide, by decide, by decide, by decide⟩
  globalSize := fun _ => 80
  deviceSize := fun _ => 80
  lineSize := fun _ => 80
  deviceIdSize := 16
  lineNameSize := 80
  softKeySetNameSize := 50
  usedContextSize := 80
  maxContext := 80
  buttonSizes := ⟨80, 80, 80, 80, 80, 80, 80, 80, 80, 80⟩
  blindtransferMoh := 1
  blindtransferRing := 2
  answerOldestFirst := 1
  answerLastFirst := 2
  uninitialized := 0
  parseAllowDisallow := fun prefs _ _ => (prefs, 0)
  haNode := fun sense network => some ⟨sense, network⟩
  gethostbyname := fun _ => some 1
  str2tos := fun _ => none
  cdrAmaflags2int := fun _ => 3
  createVariable := fun s => some (s, "")
  parseDebugline := fun _ => 0
  featureStr2featureID := fun _ => 0
  parseComposedId := fun s => ⟨s, "", "", ""⟩
  featureGetFromDatabase := fun _ _ => none
  softKeyTemplate := [("redial", 1), ("newcall", 2), ("endcall", 9)]
  lblEmpty := 0

@[simp] theorem ChangeCodes.changeNoChange_ne_changed (cc : ChangeCodes) :
    cc.changeNoChange ≠ cc.changeChanged := by
  rw [cc.changeNoChange_eq]; exact cc.changeChanged_ne.symm

@[simp] theorem ChangeCodes.changeInvalidValue_ne_changed (cc : ChangeCodes) :
    cc.changeInvalidValue ≠ cc.changeChanged :=
  cc.changeChanged_ne_invalid.symm

@[simp] theorem ChangeCodes.noUpdateNeeded_ne_changed (cc : ChangeCodes) :
    cc.noUpdateNeeded ≠ cc.changeChanged := by
  rw [cc.noUpdateNeeded_eq]; exact cc.changeChanged_ne.symm

@[simp] theorem ChangeCodes.noUpdateNeeded_ne_needDeviceReset (cc : ChangeCodes) :
    cc.noUpdateNeeded ≠ cc.needDeviceReset := by
  rw [cc.noUpdateNeeded_eq]; exact cc.needDeviceReset_ne.symm

/-! ## One member at a time -/

section Member

variable (env : Env) {M : Type} [DecidableEq M]

/-- The member a name reaches through `sccp_find_config`: none for an unknown name
and for a row without offset. -/
def nameTargets (options : List (ConfigOption M)) (name : String) : Option M :=
  (sccpFindConfig options name).bind fun o => o.target.map Prod.fst

/-- What `sccp_config_object_setValue` leaves in member `m`, from the value `cur`
the member held. -/
def setValueAt (options : List (ConfigOption M)) (size : M → Nat) (name value : String) (m : M)
    (cur : Value) : Value :=
  match sccpFindConfig options name with
  | some o =>
    match o.target with
    | some (m', view) =>
      if m = m' ∧ skipsByFlags o.flags = false then
        view.put cur (setValueByType env o.type o.converter (size m) (view.get cur) value).1
      else cur
    | none => cur
  | none => cur

theorem sccpConfigObjectSetValue_apply (options : List (ConfigOption M)) (size : M → Nat)
    (obj : M → Value) (name value : String) (m : M) :
    (sccpConfigObjectSetValue env options size obj name value).1 m =
      setValueAt env options size name value m (obj m) := by
  unfold sccpConfigObjectSetValue setValueAt
  rcases sccpFindConfig options name with _ | o
  · rfl
  · dsimp only
    rcases o.target with _ | ⟨m', view⟩
    · rfl
    · by_cases hm : m = m'
      · subst hm; cases skipsByFlags o.flags <;> simp
      · cases skipsByFlags o.flags <;> simp [hm]

theorem setValueAt_of_nameTargets_ne (options : List (ConfigOption M)) (size : M → Nat)
    (name value : String) (m : M) (cur : Value) (h : nameTargets options name ≠ some m) :
    setValueAt env options size name value m cur = cur := by
  unfold setValueAt
  unfold nameTargets at h
  cases hf : sccpFindConfig options name with
  | none => rfl
  | some o =>
    dsimp only
    cases ht : o.target with
    | none => rfl
    | some p =>
      obtain ⟨m', view⟩ := p
      have : m ≠ m' := fun e => h (by simp [hf, ht, e])
      simp [this]

end Member

/-! ## Member kinds -/

section Kinds

variable (env : Env)

theorem runConverter_kind (size : Nat) (f : Converter) (cur : Value) (v : String) :
    (runConverter env size f cur v).1.kind = cur.kind := by
  cases f <;> cases cur <;> rfl

theorem setValueByType_kind (type : DataType) (f : Option Converter) (size : Nat) (cur : Value)
    (v : String) : (setValueByType env type f size cur v).1.kind = cur.kind := by
  unfold setValueByType
  split
  · split <;> (try split) <;> rfl
  · split <;> rfl
  · split <;> (try split) <;> (try split) <;> rfl
  · split <;> (try split) <;> rfl
  · split <;> rfl
  · split
    · exact runConverter_kind env size _ cur v
    · rfl
  · rfl

theorem View.put_kind (w : View) (old new : Value) (h : new.kind = (w.get old).kind) :
    (w.put old new).kind = old.kind := by
  cases w
  · exact h
  · cases old <;> cases new <;> rfl

theorem setValueAt_kind {M : Type} [DecidableEq M] (options : List (ConfigOption M)) (size : M → Nat)
    (name value : String) (m : M) (cur : Value) :
    (setValueAt env options size name value m cur).kind = cur.kind := by
  unfold setValueAt
  split
  · split
    · split
      · exact View.put_kind _ _ _ (setValueByType_kind env _ _ _ _ _)
      · rfl
    · rfl
  · rfl

end Kinds

/-! ## Exact reports -/

/-- A converter's result reports CHANGED exactly when the value it returns differs
from the one it was given. -/
def ReportsChange {α : Type} (cc : ChangeCodes) (prev : α) (r : α × Nat) : Prop :=
  r.2 = cc.changeChanged ↔ r.1 ≠ prev

namespace ReportsChange

variable {α : Type} {cc : ChangeCodes} {prev : α}

theorem of_eq {r : α × Nat} (h : r.1 = prev) (hr : r.2 ≠ cc.changeChanged) : ReportsChange cc prev r := by
  simp [ReportsChange, h, hr]

theorem of_ne {r : α × Nat} (h : r.1 ≠ prev) (hr : r.2 = cc.changeChanged) : ReportsChange cc prev r := by
  simp [ReportsChange, h, hr]

theorem lift {β : Type} {r : α × Nat} (f : α → β) (hf : Function.Injective f) (h : ReportsChange cc prev r) :
    ReportsChange cc (f prev) (f r.1, r.2) := by
  simpa [ReportsChange, hf.ne_iff] using h

end ReportsChange

section Converters

variable (env : Env)

theorem storeIfChanged_reportsChange {α : Type} [DecidableEq α] (old new : α) (otherwise : Nat)
    (h : otherwise ≠ env.codes.changeChanged) :
    ReportsChange env.codes old (storeIfChanged env old new otherwise) := by
  unfold storeIfChanged
  split
  · exact .of_ne (Ne.symm ‹_›) rfl
  · exact .of_eq rfl h

theorem sccpConfigParseDebug_reportsChange (prev : Int) (value : String) :
    ReportsChange env.codes prev (sccpConfigParseDebug env prev value) :=
  storeIfChanged_reportsChange env _ _ _ (by simp)

theorem sccpConfigParseBlindtransferindication_reportsChange (prev : Int) (value : String) :
    ReportsChange env.codes prev (sccpConfigParseBlindtransferindication env prev value) := by
  unfold sccpConfigParseBlindtransferindication
  split_ifs <;> exact storeIfChanged_reportsChange env _ _ _ (by simp)

theorem sccpConfigParseCallanswerorder_reportsChange (prev : Int) (value : String) :
    ReportsChange env.codes prev (sccpConfigParseCallanswerorder env prev value) := by
  unfold sccpConfigParseCallanswerorder
  split_ifs
  · exact storeIfChanged_reportsChange env _ _ _ (by simp)
  · exact storeIfChanged_reportsChange env _ _ _ (by simp)
  · exact .of_eq rfl (by simp)

theorem sccpConfigParseRegcontext_reportsChange (prev value : String) :
    ReportsChange env.codes prev (sccpConfigParseRegcontext env prev value) := by
  unfold sccpConfigParseRegcontext
  split
  · exact .of_eq rfl (by simp)
  · exact .of_ne (by rintro rfl; simp_all) rfl

theorem sccpConfigParsePrivacyFeature_reportsChange (status : Nat) (enabled : Bool) (value : String) :
    ReportsChange env.codes (status, enabled) (sccpConfigParsePrivacyFeature env status enabled value) :=
  storeIfChanged_reportsChange env _ _ _ (by simp)

theorem sccpConfigParseEarlyrtp_reportsChange (prev : Int) (value : String) :
    ReportsChange env.codes prev (sccpConfigParseEarlyrtp env prev value) := by
  unfold sccpConfigParseEarlyrtp
  split_ifs <;> exact storeIfChanged_reportsChange env _ _ _ (by simp)

theorem sccpConfigParseDtmfmode_reportsChange (prev : Int) (value : String) :
    ReportsChange env.codes prev (sccpConfigParseDtmfmode env prev value) := by
  unfold sccpConfigParseDtmfmode
  split_ifs <;> exact storeIfChanged_reportsChange env _ _ _ (by simp)

theorem sccpConfigParseMwilamp_reportsChange (prev : Int) (value : String) :
    ReportsChange env.codes prev (sccpConfigParseMwilamp env prev value) := by
  unfold sccpConfigParseMwilamp
  split_ifs <;> exact storeIfChanged_reportsChange env _ _ _ (by simp)

theorem sccpConfigParseDnd_reportsChange (prev : Int) (value : String) :
    ReportsChange env.codes prev (sccpConfigParseDnd env prev value) :=
  storeIfChanged_reportsChange env _ _ _ (by simp)

theorem sccpConfigParseTos_reportsChange (prev : Int) (value : String) :
    ReportsChange env.codes prev (sccpConfigParseTos env prev value) := by
  unfold sccpConfigParseTos
  cases env.str2tos value <;> cases sscanfInt true value <;> cases iptosByName value <;>
    exact storeIfChanged_reportsChange env _ _ _ (by simp)

theorem sccpConfigParseCos_reportsChange (garbage prev : Int) (value : String) :
    ReportsChange env.codes prev (sccpConfigParseCos env garbage prev value) := by
  unfold sccpConfigParseCos
  split
  · split_ifs
    · exact .of_eq rfl (by simp)
    · exact storeIfChanged_reportsChange env _ _ _ (by simp)
  · exact storeIfChanged_reportsChange env _ _ _ (by simp)

theorem sccpConfigParseAmaflags_reportsChange (prev : Int) (value : String) :
    ReportsChange env.codes prev (sccpConfigParseAmaflags env prev value) := by
  unfold sccpConfigParseAmaflags
  dsimp only
  split_ifs
  · exact .of_eq rfl (by simp)
  · exact storeIfChanged_reportsChange env _ _ _ (by simp)

theorem sccpConfigParseSmallint_reportsChange (prev : Int) (value : String) :
    ReportsChange env.codes prev (sccpConfigParseSmallint env prev value) := by
  unfold sccpConfigParseSmallint
  split
  · split_ifs
    · exact storeIfChanged_reportsChange env _ _ _ (by simp)
    · exact .of_eq rfl (by simp)
  · exact .of_eq rfl (by simp)

theorem sccpConfigParseGroup_reportsChange (prev : Int) (value : String) :
    ReportsChange env.codes prev (sccpConfigParseGroup env prev value) :=
  storeIfChanged_reportsChange env _ _ _ (by simp)

theorem sccpConfigParseVariables_reportsChange (vars : List (String × String)) (value : String) :
    ReportsChange env.codes vars (sccpConfigParseVariables env vars value) := by
  unfold sccpConfigParseVariables
  split
  · exact .of_ne (List.cons_ne_self _ _) rfl
  · exact .of_eq rfl (by simp)

theorem sccpConfigParsePermithosts_reportsChange (hosts : List String) (value : String) :
    ReportsChange env.codes hosts (sccpConfigParsePermithosts env hosts value) :=
  .of_ne (List.cons_ne_self _ _) rfl

theorem sccpConfigParseAddons_reportsChange (addons : List Nat) (value : String) :
    ReportsChange env.codes addons (sccpConfigParseAddons env addons value) := by
  unfold sccpConfigParseAddons
  split_ifs
  · exact .of_ne (List.cons_ne_self _ _) rfl
  · exact .of_ne (List.cons_ne_self _ _) rfl
  · exact .of_ne (List.cons_ne_self _ _) rfl
  · exact .of_eq rfl (by simp)

/-- The converters whose report tracks the member: those that compare the old
value before they store, and those that always insert an entry. -/
def Converter.reportsExactly : Converter → Bool
  | .parseDebug | .parseSmallint | .parseTos | .parseCos | .parseEarlyrtp | .parseDnd | .parseMwilamp
  | .parseBlindtransferindication | .parseGroup | .parseAmaflags | .parseCallanswerorder
  | .parseRegcontext | .parseDtmfmode | .parsePrivacyFeature | .parseVariables | .parsePermithosts
  | .parseAddons => true
  | .parseIpaddress | .parseContext | .parseDisallowCodec | .parseAllowCodec | .parseDeny | .parsePermit
  | .parseButton | .parseMailbox | .parseSecondaryDialtoneDigits => false

theorem runConverter_reportsChange (size : Nat) (f : Converter) (hf : f.reportsExactly = true)
    (cur : Value) (v : String) : ReportsChange env.codes cur (runConverter env size f cur v) := by
  cases f <;> simp only [Converter.reportsExactly, Bool.false_eq_true] at hf <;> cases cur
  case parseDebug.int p => exact (sccpConfigParseDebug_reportsChange env p v).lift _ fun _ _ => Value.int.inj
  case parseSmallint.int p => exact (sccpConfigParseSmallint_reportsChange env p v).lift _ fun _ _ => Value.int.inj
  case parseTos.int p => exact (sccpConfigParseTos_reportsChange env p v).lift _ fun _ _ => Value.int.inj
  case parseCos.int p => exact (sccpConfigParseCos_reportsChange env _ p v).lift _ fun _ _ => Value.int.inj
  case parseEarlyrtp.int p => exact (sccpConfigParseEarlyrtp_reportsChange env p v).lift _ fun _ _ => Value.int.inj
  case parseDnd.int p => exact (sccpConfigParseDnd_reportsChange env p v).lift _ fun _ _ => Value.int.inj
  case parseMwilamp.int p => exact (sccpConfigParseMwilamp_reportsChange env p v).lift _ fun _ _ => Value.int.inj
  case parseBlindtransferindication.int p =>
    exact (sccpConfigParseBlindtransferindication_reportsChange env p v).lift _ fun _ _ => Value.int.inj
  case parseGroup.int p => exact (sccpConfigParseGroup_reportsChange env p v).lift _ fun _ _ => Value.int.inj
  case parseAmaflags.int p => exact (sccpConfigParseAmaflags_reportsChange env p v).lift _ fun _ _ => Value.int.inj
  case parseCallanswerorder.int p =>
    exact (sccpConfigParseCallanswerorder_reportsChange env p v).lift _ fun _ _ => Value.int.inj
  case parseRegcontext.string s =>
    exact (sccpConfigParseRegcontext_reportsChange env s v).lift _ fun _ _ => Value.string.inj
  case parseDtmfmode.int p => exact (sccpConfigParseDtmfmode_reportsChange env p v).lift _ fun _ _ => Value.int.inj
  case parsePrivacyFeature.feature s e =>
    exact (sccpConfigParsePrivacyFeature_reportsChange env s e v).lift (fun p => Value.feature p.1 p.2)
      fun _ _ h => by injection h; simp_all [Prod.ext_iff]
  case parseVariables.variables l =>
    exact (sccpConfigParseVariables_reportsChange env l v).lift _ fun _ _ => Value.variables.inj
  case parsePermithosts.hostnames l =>
    exact (sccpConfigParsePermithosts_reportsChange env l v).lift _ fun _ _ => Value.hostnames.inj
  case parseAddons.addons l => exact (sccpConfigParseAddons_reportsChange env l v).lift _ fun _ _ => Value.addons.inj
  all_goals exact .of_eq rfl env.codes.changeNoChange_ne_changed

/-- The data types, with their converter, whose report tracks the member. -/
def reportsExactly (type : DataType) (converter : Option Converter) : Bool :=
  match type with
  | .boolean | .int | .stringPtr => true
  | .generic => converter.all Converter.reportsExactly
  | .string | .char => false

theorem setValueByType_reportsChange (type : DataType) (conv : Option Converter) (size : Nat)
    (cur : Value) (v : String) (h : reportsExactly type conv = true) :
    (setValueByType env type conv size cur v).2.1 = env.codes.noUpdateNeeded ∧
      ReportsChange env.codes cur ((setValueByType env type conv size cur v).1,
        (setValueByType env type conv size cur v).2.2) := by
  cases type <;> simp only [reportsExactly, Bool.false_eq_true] at h <;> cases cur <;>
    (try exact ⟨rfl, .of_eq rfl env.codes.changeNoChange_ne_changed⟩)
  case boolean.boolean b =>
    simp only [setValueByType]
    split_ifs with hb
    · exact ⟨rfl, .of_ne (by simpa [eq_comm] using hb) rfl⟩
    · exact ⟨rfl, .of_eq rfl (by simp)⟩
  case int.int n =>
    simp only [setValueByType]
    split_ifs with hv hn
    · exact ⟨rfl, .of_eq rfl (by simp)⟩
    · exact ⟨rfl, .of_ne (by simpa [eq_comm] using hn) rfl⟩
    · exact ⟨rfl, .of_eq rfl (by simp)⟩
  case stringPtr.stringPtr str =>
    simp only [setValueByType]
    split_ifs with hv hz
    · exact ⟨rfl, .of_eq rfl (by simp)⟩
    · refine ⟨rfl, .of_ne ?_ rfl⟩
      rintro ⟨⟩
      simp [sccpStrlenZero] at hz
    · split
      · split_ifs with hs
        · exact ⟨rfl, .of_eq rfl (by simp)⟩
        · refine ⟨rfl, .of_ne ?_ rfl⟩
          rintro ⟨⟩
          simp at hs
      · exact ⟨rfl, .of_ne (by simp) rfl⟩
  all_goals
    cases conv with
    | none => exact ⟨rfl, .of_eq rfl env.codes.changeNoChange_ne_changed⟩
    | some f => exact ⟨rfl, runConverter_reportsChange env size f h _ v⟩

end Converters

theorem View.put_eq_self_iff (w : View) (old new : Value) (h : new.kind = (w.get old).kind)
    (hw : w = .enabled → old.kind = .feature) : w.put old new = old ↔ new = w.get old := by
  cases w
  · rfl
  · cases old <;> simp [Value.kind] at hw
    cases new <;> simp_all [Value.kind, View.put, View.get]

theorem sccpConfigObjectSetValue_snd_of_reached (env : Env) {M : Type} [DecidableEq M]
    (options : List (ConfigOption M)) (size : M → Nat) (obj : M → Value) (name value : String)
    (o : ConfigOption M) (m : M) (view : View) (hfind : sccpFindConfig options name = some o)
    (htarget : o.target = some (m, view)) (hskip : skipsByFlags o.flags = false)
    (hexact : reportsExactly o.type o.converter = true) (hlive : view = .enabled → (obj m).kind = .feature) :
    (sccpConfigObjectSetValue env options size obj name value).2 =
      if (sccpConfigObjectSetValue env options size obj name value).1 m = obj m then env.codes.noUpdateNeeded
      else env.codes.code o.change := by
  obtain ⟨hres, hrep⟩ :=
    setValueByType_reportsChange env o.type o.converter (size m) (view.get (obj m)) value hexact
  have hput := View.put_eq_self_iff view (obj m) _
    (setValueByType_kind env o.type o.converter (size m) (view.get (obj m)) value) hlive
  simp only [sccpConfigObjectSetValue, hfind, htarget, hskip, Bool.false_eq_true, if_false,
    Function.update_same, hput, hres]
  simp only [ReportsChange] at hrep
  by_cases hc : (setValueByType env o.type o.converter (size m) (view.get (obj m)) value).1 = view.get (obj m)
  · simp [hc, hrep]
  · simp [hc, hrep.mpr hc]

/-- For an option found by name with a member, whose flags are NONE, GET_DEVICE_DEFAULT
or GET_GLOBAL_DEFAULT, and whose data type and converter report exactly,
`sccp_config_object_setValue` returns the option's change class exactly when the
member changed, and NOUPDATENEEDED otherwise. -/
theorem sccpConfigObjectSetValue_reports_change (env : Env) {M : Type} [DecidableEq M]
    (options : List (ConfigOption M)) (size : M → Nat) (obj : M → Value) (name value : String)
    (o : ConfigOption M) (m : M) (view : View) (hfind : sccpFindConfig options name = some o)
    (htarget : o.target = some (m, view))
    (hflags : o.flags = ConfigFlag.none ∨ o.flags = ConfigFlag.getDeviceDefault ∨
      o.flags = ConfigFlag.getGlobalDefault)
    (hexact : reportsExactly o.type o.converter = true) (hlive : view = .enabled → (obj m).kind = .feature) :
    (sccpConfigObjectSetValue env options size obj name value).2 =
      if (sccpConfigObjectSetValue env options size obj name value).1 m = obj m then env.codes.noUpdateNeeded
      else env.codes.code o.change := by
  have hskip : skipsByFlags o.flags = false := by
    rcases hflags with h | h | h <;> rw [h] <;> rfl
  exact sccpConfigObjectSetValue_snd_of_reached env options size obj name value o m view hfind htarget hskip
    hexact hlive

/-- A device's `keepalive`, set from nothing, reports a reset. -/
theorem sccpConfigObjectSetValue_reports_keepalive :
    (sccpConfigObjectSetValue sampleEnv sccpDeviceConfigOptions sampleEnv.deviceSize (fun m => m.kind.zero)
        "keepalive" "30").2 =
      if (sccpConfigObjectSetValue sampleEnv sccpDeviceConfigOptions sampleEnv.deviceSize (fun m => m.kind.zero)
          "keepalive" "30").1 .keepalive = DeviceMember.keepalive.kind.zero then
        sampleEnv.codes.noUpdateNeeded
      else sampleEnv.codes.code .needDeviceReset :=
  sccpConfigObjectSetValue_reports_change sampleEnv sccpDeviceConfigOptions sampleEnv.deviceSize _ _ _
    ⟨"keepalive", whole .keepalive, .int, ConfigFlag.getGlobalDefault, .needDeviceReset, none, none⟩
    .keepalive .whole (by decide) rfl (Or.inr (Or.inr rfl)) rfl (fun h => nomatch h)

/-- The button a `button` line appends changes the device's button list, yet
`sccp_config_object_setValue` reports no update for it, whatever the environment. -/
theorem sccpConfigObjectSetValue_button_unreported :
    ¬ ∃ env : Env,
      (sccpConfigObjectSetValue env sccpDeviceConfigOptions env.deviceSize (fun m => m.kind.zero)
          "button" "line,100").2 =
        if (sccpConfigObjectSetValue env sccpDeviceConfigOptions env.deviceSize (fun m => m.kind.zero)
            "button" "line,100").1 .buttonconfig = DeviceMember.buttonconfig.kind.zero then
          env.codes.noUpdateNeeded
        else env.codes.code .needDeviceReset := by
  rintro ⟨env, h⟩
  have hfind : sccpFindConfig sccpDeviceConfigOptions "button" =
      some ⟨"button", whole .buttonconfig, .generic, ConfigFlag.none, .needDeviceReset, none,
        some .parseButton⟩ := by decide
  have hparse : sccpConfigParseButton env [] "line,100" =
      ([(buttonMerge env (ButtonConfig.fresh 0) env.codes.noUpdateNeeded .line "100" none none).1],
        env.codes.noUpdateNeeded) := by
    have hfields : buttonFields "line,100" = ("line", some "100", none, none) := by decide
    have htype : buttonTypeOf "line" = some .line := by decide
    have hstrip : pbxStrip "100" = "100" := by decide
    have hname : "100".isEmpty = false := by decide
    simp [sccpConfigParseButton, hfields, htype, hstrip, sccpConfigAddButton, buttonMerge, ButtonConfig.fresh, hname]
  have hset : setValueByType env .generic (some .parseButton) (env.deviceSize .buttonconfig) (.buttons [])
      "line,100" = (.buttons [(buttonMerge env (ButtonConfig.fresh 0) env.codes.noUpdateNeeded .line "100" none
        none).1], env.codes.noUpdateNeeded, env.codes.noUpdateNeeded) := by
    show (Value.buttons (sccpConfigParseButton env [] "line,100").1, env.codes.noUpdateNeeded,
      (sccpConfigParseButton env [] "line,100").2) = _
    rw [hparse]
  have hskip : skipsByFlags ConfigFlag.none = false := rfl
  have hzero : DeviceMember.buttonconfig.kind.zero = .buttons [] := rfl
  rw [sccpConfigObjectSetValue, hfind] at h
  simp only [whole, hskip, Bool.false_eq_true, if_false, hzero, View.get_whole, View.put_whole, hset,
    Function.update_same] at h
  simp [ChangeCodes.code] at h
end SccpConfig
