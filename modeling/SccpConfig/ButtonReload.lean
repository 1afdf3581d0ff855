import SccpConfig.MemberRuns
import SccpConfig.ButtonIndex

/-!
# Buttons over reloads

A device's button list is never emptied by a reload: `sccp_device_pre_reload`
marks each entry for deletion, and `sccp_config_addButton`, called with index `0`
for each `button` line, reuses the first marked entry with the line's type and
label. On a reload of an unchanged file, every well-formed button whose fields fit
their arrays finds the entry its own line made, and the type switch finds nothing
to change: the list keeps its entries, in place and at their indices, each
unmarked and flagged for update. A malformed button is stored as EMPTY under no
label, so the line that made it never finds it again: a reload keeps the old
entries marked and appends new ones, and hands both to the post-reload hooks.
-/

namespace SccpConfig

set_option autoImplicit false

variable (env : Env)

/-! ## The button member over a pass -/

/-- The `button` row of the device table. -/
def buttonRow : ConfigOption DeviceMember :=
  ⟨"button", whole .buttonconfig, .generic, ConfigFlag.none, .needDeviceReset, none, some .parseButton⟩

theorem onlyRow_button : OnlyRow sccpDeviceConfigOptions .buttonconfig buttonRow :=
  ⟨rfl, by decide, by decide, by decide⟩

/-- The values of a section's `button` pairs, in order. -/
def buttonValues (pairs : List (String × String)) : List String :=
  rowValues buttonRow pairs

/-- A button list after each value in turn has gone through `sccp_config_parse_button`. -/
def buttonRun (l : List ButtonConfig) (vs : List String) : List ButtonConfig :=
  vs.foldl (fun l v => (sccpConfigParseButton env l v).1) l

/-- The `button` values the rebuilds of the device sections named `n` apply, section
after section. -/
def sectionButtonValues (cfg : Config) (n : String) : List String :=
  sectionsValues buttonRow (deviceSections cfg n)

theorem deviceRebuilt_buttonconfig (cfg : Config) (id n : String) (l : List ButtonConfig) :
    deviceRebuilt env cfg id n .buttonconfig (.buttons l) = .buttons (buttonRun env l (sectionButtonValues cfg n)) :=
  foldl_deviceStepAt_of_onlyRow env Value.buttons (fun l v => (sccpConfigParseButton env l v).1) onlyRow_button rfl
    rfl (by decide) (fun _ _ => rfl) cfg id (deviceSections cfg n) l

/-! ## The entry a button value makes -/

/-- What `sccp_config_parse_button` hands `sccp_config_addButton` for a value of a
known type: the type, the name (the type word when none is given), the option and
the arguments, each stripped; none for an unknown type word. -/
def buttonArgs (v : String) : Option (ButtonType × String × Option String × Option String) :=
  match buttonFields v with
  | (ty, nm, op, args) =>
    (buttonTypeOf ty).map fun type => (type, (nm.map pbxStrip).getD ty, op.map pbxStrip, args.map pbxStrip)

theorem sccpConfigParseButton_eq (l : List ButtonConfig) (v : String) :
    sccpConfigParseButton env l v =
      match buttonArgs v with
      | some (type, name, options, args) => sccpConfigAddButton env l 0 type name options args
      | none => (l, env.codes.changeInvalidValue) := by
  unfold sccpConfigParseButton buttonArgs
  rcases buttonFields v with ⟨ty, nm, op, args⟩
  dsimp only
  cases buttonTypeOf ty <;> rfl

/-- The entry `sccp_config_addButton` appends for a button it finds nothing to reuse
for: a zeroed entry at index `0`, merged with the fields. -/
def freshEntry (type : ButtonType) (name : String) (options args : Option String) : ButtonConfig :=
  (buttonMerge env (ButtonConfig.fresh 0) env.codes.noUpdateNeeded type name options args).1

/-- The entry a value makes in a list where nothing is marked for deletion, none for
an unknown type word. -/
def buttonEntry (v : String) : Option ButtonConfig :=
  (buttonArgs v).map fun a => freshEntry env a.1 a.2.1 a.2.2.1 a.2.2.2

theorem freshEntry_pendingDelete (type : ButtonType) (name : String) (options args : Option String) :
    (freshEntry env type name options args).pendingDelete = false := by
  rw [freshEntry, buttonMerge_pendingDelete]; rfl

theorem freshEntry_index (type : ButtonType) (name : String) (options args : Option String) :
    (freshEntry env type name options args).index = 0 := by
  rw [freshEntry, buttonMerge_index]; rfl

/-- Whether `sccp_config_addButton`, handed the fields of value `v`, reuses entry
`c`: never for an unknown type word, which calls nothing. -/
def buttonFinds (v : String) (c : ButtonConfig) : Bool :=
  match buttonArgs v with
  | some (type, name, _, _) => reusable type name c
  | none => false

theorem buttonFinds_of_unmarked {c : ButtonConfig} (hc : c.pendingDelete = false) (v : String) :
    buttonFinds v c = false := by
  unfold buttonFinds
  split <;> simp [reusable, hc]

theorem sccpConfigParseButton_of_unfound (l : List ButtonConfig) (v : String)
    (hl : ∀ c ∈ l, buttonFinds v c = false) : (sccpConfigParseButton env l v).1 = l ++ (buttonEntry env v).toList := by
  rw [sccpConfigParseButton_eq, buttonEntry]
  rcases hargs : buttonArgs v with _ | ⟨type, name, options, args⟩
  · simp
  · have hnone : l.findIdx? (reusable type name) = none := by
      rw [List.findIdx?_eq_none_iff]
      intro c hc
      simpa [buttonFinds, hargs] using hl c hc
    simp [sccpConfigAddButton, hnone, freshEntry]

theorem buttonRun_of_unfound (vs : List String) :
    ∀ l : List ButtonConfig, (∀ v ∈ vs, ∀ c ∈ l, buttonFinds v c = false) →
      buttonRun env l vs = l ++ vs.filterMap (buttonEntry env) := by
  induction vs with
  | nil => intro l _; simp [buttonRun]
  | cons v rest ih =>
    intro l hl
    have hrest : ∀ w ∈ rest, ∀ c ∈ l ++ (buttonEntry env v).toList, buttonFinds w c = false := by
      intro w hw c hc
      rcases List.mem_append.mp hc with hc | hc
      · exact hl w (List.mem_cons_of_mem _ hw) c hc
      · obtain ⟨a, -, rfl⟩ : ∃ a, buttonArgs v = some a ∧ freshEntry env a.1 a.2.1 a.2.2.1 a.2.2.2 = c := by
          simpa [buttonEntry] using hc
        exact buttonFinds_of_unmarked (freshEntry_pendingDelete env _ _ _ _) w
    rw [buttonRun, List.foldl_cons, ← buttonRun, sccpConfigParseButton_of_unfound env l v (hl v (List.mem_cons_self _ _)),
      ih _ hrest, List.filterMap_cons]
    cases buttonEntry env v <;> simp

theorem buttonRun_of_unmarked (vs : List String) (l : List ButtonConfig) (hl : ∀ c ∈ l, c.pendingDelete = false) :
    buttonRun env l vs = l ++ vs.filterMap (buttonEntry env) :=
  buttonRun_of_unfound env vs l fun v _ c hc => buttonFinds_of_unmarked (hl c hc) v

/-! ## A reload of the same value -/

/-- An entry with its two reload flags cleared. -/
def ButtonConfig.unflagged (c : ButtonConfig) : ButtonConfig :=
  { c with pendingDelete := false, pendingUpdate := false }

/-- An entry as `sccp_config_addButton` leaves one it reuses: unmarked, and flagged
for update. -/
def ButtonConfig.reused (c : ButtonConfig) : ButtonConfig :=
  { c with pendingDelete := false, pendingUpdate := true }

@[simp] theorem ButtonConfig.unflagged_reused (c : ButtonConfig) : c.reused.unflagged = c.unflagged :=
  rfl

theorem ButtonConfig.reused_eq_of_unflagged {c e : ButtonConfig} (h : c.unflagged = e.unflagged) :
    c.reused = e.reused := by
  cases c; cases e
  simp only [ButtonConfig.unflagged, ButtonConfig.reused, ButtonConfig.mk.injEq] at h ⊢
  tauto

/-- Whether the entry a button makes is found and kept by a reload reading the same
fields: an EMPTY button always is; any other must be well formed (a name, and
options unless it is a line), and each field the type switch compares must fit
the array it is copied into. -/
def buttonFits (type : ButtonType) (name : String) (options args : Option String) : Bool :=
  let sz := env.buttonSizes
  let cid := env.parseComposedId name
  let labelFits := !name.isEmpty && decide (name.length < sz.label)
  match type with
  | .line =>
    labelFits && decide (cid.mainId.length < sz.lineName ∧ cid.number.length < sz.lineNumber ∧
      cid.name.length < sz.lineSubscriptionName ∧ cid.aux.length < sz.lineAux)
  | .speeddial =>
    labelFits && options.any (fun o => decide (o.length < sz.speeddialExt)) &&
      args.all fun a => decide (a.length < sz.speeddialHint)
  | .service => labelFits && options.any fun o => decide (o.length < sz.serviceUrl)
  | .feature => labelFits && options.isSome && args.all fun a => decide (a.length < sz.featureOptions)
  | .empty => true

theorem freshEntry_reload_fields (type : ButtonType) (name : String) (options args : Option String)
    (hfits : buttonFits env type name options args = true) :
    (freshEntry env type name options args).type = type ∧
      (type = .empty ∨ (freshEntry env type name options args).label = name) ∧
      buttonMerge env (freshEntry env type name options args).reused env.codes.changeChanged type name options args =
        ((freshEntry env type name options args).reused, env.codes.changeNoChange) := by
  cases type with
  | empty => simp [freshEntry, buttonMerge, ButtonConfig.fresh, ButtonConfig.reused]
  | line =>
    simp only [buttonFits, Bool.and_eq_true, Bool.not_eq_true', decide_eq_true_eq] at hfits
    obtain ⟨⟨hname, hlabel⟩, hmain, hnum, hsub, haux⟩ := hfits
    have hne : "" ≠ name := fun h => by subst h; exact absurd hname (by decide)
    simp [freshEntry, buttonMerge, ButtonConfig.fresh, ButtonConfig.reused, hname, hne, sccpCopyString_of_lt, hlabel,
      hmain, hnum, hsub, haux]
  | speeddial | service | feature =>
    rcases options with _ | o <;> rcases args with _ | a <;>
      simp only [buttonFits, Bool.and_eq_true, Bool.not_eq_true', decide_eq_true_eq, Option.any, Option.all,
        Option.isSome, Bool.false_eq_true, and_false, and_true] at hfits <;>
      simp [freshEntry, buttonMerge, ButtonConfig.fresh, ButtonConfig.reused, sccpCopyString_of_lt, hfits]

theorem freshEntry_reload (type : ButtonType) (name : String) (options args : Option String)
    (hfits : buttonFits env type name options args = true) :
    (∀ c : ButtonConfig, c.pendingDelete = true → c.unflagged = (freshEntry env type name options args).unflagged →
        reusable type name c = true) ∧
      buttonMerge env (freshEntry env type name options args).reused env.codes.changeChanged type name options args =
        ((freshEntry env type name options args).reused, env.codes.changeNoChange) := by
  obtain ⟨htype, hlabel, hmerge⟩ := freshEntry_reload_fields env type name options args hfits
  refine ⟨fun c hc hce => ?_, hmerge⟩
  have hct : c.type = type := (congrArg ButtonConfig.type hce).trans htype
  have hcl : c.label = (freshEntry env type name options args).label := (congrArg ButtonConfig.label hce :)
  rcases hlabel with rfl | hlabel
  · simp [reusable, hc, hct]
  · simp [reusable, hc, hct, hcl, hlabel]

/-- Whether a value's entry is found and kept by a reload of the same value: true
for an unknown type word, which makes no entry. -/
def buttonSteady (v : String) : Bool :=
  match buttonArgs v with
  | some (type, name, options, args) => buttonFits env type name options args
  | none => true

theorem sccpConfigParseButton_reload (P R : List ButtonConfig) (c e : ButtonConfig) (v : String)
    (hP : ∀ x ∈ P, x.pendingDelete = false) (hv : buttonEntry env v = some e) (hsteady : buttonSteady env v = true)
    (hc : c.pendingDelete = true) (hce : c.unflagged = e.unflagged) :
    (sccpConfigParseButton env (P ++ c :: R) v).1 = P ++ e.reused :: R := by
  obtain ⟨⟨type, name, options, args⟩, hargs, rfl⟩ :
      ∃ a, buttonArgs v = some a ∧ freshEntry env a.1 a.2.1 a.2.2.1 a.2.2.2 = e := by
    simpa [buttonEntry] using hv
  rw [buttonSteady, hargs] at hsteady
  obtain ⟨hreuse, hmerge⟩ := freshEntry_reload env type name options args hsteady
  have hfind : (P ++ c :: R).findIdx? (reusable type name) = some P.length := by
    have hnone : P.findIdx? (reusable type name) = none := by
      rw [List.findIdx?_eq_none_iff]
      intro x hx
      simp [reusable, hP x hx]
    simp [hnone, List.findIdx?_cons, hreuse c hc hce]
  have hindex : ¬c.index < 0 := by
    rw [show c.index = (freshEntry env type name options args).index from (congrArg ButtonConfig.index hce :),
      freshEntry_index]
    omega
  have hget : (P ++ c :: R).getD P.length (ButtonConfig.fresh 0) = c := by
    rw [List.getD_eq_getElem?_getD, List.getElem?_append_right (le_refl _), Nat.sub_self,
      List.getElem?_cons_zero, Option.getD_some]
  rw [sccpConfigParseButton_eq, hargs]
  simp only [sccpConfigAddButton, if_true, hfind, hget, hindex, if_false]
  rw [show { c with pendingDelete := false, pendingUpdate := true } = c.reused from rfl,
    ButtonConfig.reused_eq_of_unflagged hce, hmerge]
  simp

theorem sccpConfigParseButton_of_unknown (l : List ButtonConfig) (v : String) (hv : buttonEntry env v = none) :
    (sccpConfigParseButton env l v).1 = l := by
  rw [buttonEntry, Option.map_eq_none'] at hv
  rw [sccpConfigParseButton_eq, hv]

theorem buttonRun_reload (vs : List String) (hsteady : ∀ v ∈ vs, buttonSteady env v = true) :
    ∀ P M : List ButtonConfig, (∀ x ∈ P, x.pendingDelete = false) → (∀ c ∈ M, c.pendingDelete = true) →
      M.map ButtonConfig.unflagged = (vs.filterMap (buttonEntry env)).map ButtonConfig.unflagged →
      buttonRun env (P ++ M) vs = P ++ (vs.filterMap (buttonEntry env)).map ButtonConfig.reused := by
  induction vs with
  | nil =>
    intro P M _ _ hM
    rw [List.filterMap_nil, List.map_nil, List.map_eq_nil_iff] at hM
    subst hM
    rfl
  | cons v rest ih =>
    intro P M hP hM hME
    have hrest : ∀ w ∈ rest, buttonSteady env w = true := fun w hw => hsteady w (List.mem_cons_of_mem _ hw)
    rw [buttonRun, List.foldl_cons, ← buttonRun, List.filterMap_cons]
    rw [List.filterMap_cons] at hME
    cases hv : buttonEntry env v with
    | none =>
      rw [hv] at hME
      rw [sccpConfigParseButton_of_unknown env _ v hv]
      exact ih hrest P M hP hM hME
    | some e =>
      rw [hv] at hME
      cases M with
      | nil => exact absurd hME (by simp)
      | cons c M =>
        obtain ⟨hce, hME⟩ := List.cons.inj hME
        rw [sccpConfigParseButton_reload env P M c e v hP hv (hsteady v (List.mem_cons_self _ _))
          (hM c (List.mem_cons_self _ _)) hce, List.append_cons,
          ih hrest (P ++ [e.reused]) M
            (fun x hx => (List.mem_append.mp hx).elim (hP x) fun h => by rw [List.mem_singleton.mp h]; rfl)
            (fun x hx => hM x (List.mem_cons_of_mem _ hx)) hME]
        simp

theorem buttonRun_reload_marked (vs : List String) (hsteady : ∀ v ∈ vs, buttonSteady env v = true)
    (l : List ButtonConfig)
    (hl : l.map ButtonConfig.unflagged = (vs.filterMap (buttonEntry env)).map ButtonConfig.unflagged) :
    buttonRun env (l.map fun b => { b with pendingDelete := true }) vs =
      (vs.filterMap (buttonEntry env)).map ButtonConfig.reused := by
  have h := buttonRun_reload env vs hsteady [] (l.map fun b => { b with pendingDelete := true }) (by simp)
    (by simp) (by rw [List.map_map, ← hl]; rfl)
  simpa using h

/-! ## A device over a load and its reloads -/

/-- The entries a first load gives the device of a section. -/
def sectionButtons (cfg : Config) (n : String) : List ButtonConfig :=
  (sectionButtonValues cfg n).filterMap (buttonEntry env)

/-- Reloading an unchanged file never loses or duplicates a button: after the first
load and any number of reloads, the device of a section holds the entries of the
`button` values of the sections of its name, in order and at their indices, when
every value is well formed and fits. From the first reload on each entry is
unmarked and flagged for update. -/
theorem buttons_stable_over_reloads (cfg : Config) (hfit : NamesFit env cfg) {k : Category} (hk : k ∈ cfg)
    (hsel : isDeviceSection k = true) (hsteady : ∀ v ∈ sectionButtonValues cfg k.name, buttonSteady env v = true)
    (n : Nat) :
    ∃ d ∈ (reloadRuns env cfg n).devices, strcasecmpEq d.id k.name = true ∧
      d.config .buttonconfig = .buttons
        (if n = 0 then sectionButtons env cfg k.name else (sectionButtons env cfg k.name).map ButtonConfig.reused) := by
  refine exists_device_member_over_reloadRuns env cfg hfit hk hsel .buttonconfig
    (fun n => .buttons
      (if n = 0 then sectionButtons env cfg k.name else (sectionButtons env cfg k.name).map ButtonConfig.reused))
    (fun id => ?_) (fun id n => ?_) n
  · -- the load: nothing is marked, each value appends its entry
    rw [show DeviceMember.buttonconfig.kind.zero = .buttons [] from rfl, deviceRebuilt_buttonconfig,
      buttonRun_of_unmarked env _ [] (by simp)]
    rfl
  · -- a reload: the marked list holds the entries up to flags, and each is reused
    have hle : (if n = 0 then sectionButtons env cfg k.name
        else (sectionButtons env cfg k.name).map ButtonConfig.reused).map ButtonConfig.unflagged =
        (sectionButtons env cfg k.name).map ButtonConfig.unflagged := by
      split <;> simp [Function.comp_def]
    rw [preReloadAt_buttons, deviceRebuilt_buttonconfig]
    exact congrArg Value.buttons ((buttonRun_reload_marked env _ hsteady _ hle).trans (if_neg n.succ_ne_zero).symm)

def buttonsDeviceSection : Category :=
  ⟨"SEP1", [("type", "device"), ("devicetype", "7960"), ("button", "line, 100"), ("button", "speeddial, Sales, 200")]⟩

def buttonsConfig : Config :=
  [buttonsDeviceSection, ⟨"100", [("type", "line"), ("label", "100"), ("cid_name", "A"), ("cid_num", "100")]⟩]

theorem buttons_stable_over_two_reloads :
    NamesFit sampleEnv buttonsConfig ∧ buttonsDeviceSection ∈ buttonsConfig ∧
      isDeviceSection buttonsDeviceSection = true ∧
      (∀ v ∈ sectionButtonValues buttonsConfig buttonsDeviceSection.name, buttonSteady sampleEnv v = true) ∧
      ∃ d ∈ (reloadRuns sampleEnv buttonsConfig 2).devices, strcasecmpEq d.id buttonsDeviceSection.name = true ∧
        d.config .buttonconfig = .buttons (if 2 = 0 then sectionButtons sampleEnv buttonsConfig buttonsDeviceSection.name
          else (sectionButtons sampleEnv buttonsConfig buttonsDeviceSection.name).map ButtonConfig.reused) :=
  ⟨by decide, List.mem_cons_self _ _, by decide, by decide,
    buttons_stable_over_reloads sampleEnv buttonsConfig (by decide) (List.mem_cons_self _ _) (by decide) (by decide) 2⟩

/-! ## Buttons that never find their own entry -/

/-- An entry as `sccp_device_pre_reload` leaves it: marked for deletion. -/
def ButtonConfig.marked (c : ButtonConfig) : ButtonConfig :=
  { c with pendingDelete := true }

/-- A reload of a device section none of whose `button` values finds, once marked, an
entry of the device its name finds (a malformed button is stored as EMPTY, a label
too long for its array is cut): the device keeps every entry it had, marked for
deletion, and the section's entries are appended again, unmarked. This is the list
the pass hands to the post-reload hooks. -/
theorem unfound_buttons_kept_marked (cfg : Config) (hfit : NamesFit env cfg) (reg : Registry) {k : Category}
    (hk : k ∈ cfg) (hsel : isDeviceSection k = true) {l : List ButtonConfig}
    (hl : ((findByKey Device.id reg.devices k.name).map fun d => d.config .buttonconfig) = some (.buttons l))
    (hunfound : ∀ v ∈ sectionButtonValues cfg k.name, ∀ c ∈ l, buttonFinds v c.marked = false) :
    ∃ d ∈ (sccpConfigReadDevicesLines env cfg .readReload reg).devices, strcasecmpEq d.id k.name = true ∧
      d.config .buttonconfig = .buttons (l.map ButtonConfig.marked ++ sectionButtons env cfg k.name) := by
  obtain ⟨d₀, hd₀, hl₀⟩ := Option.map_eq_some'.mp hl
  obtain ⟨d, hd, hid, hc⟩ := exists_device_after_pass env cfg .readReload reg (fun k hk => (hfit k hk).1)
    (sectionsOf_ne_nil isDeviceSection hk hsel)
  refine ⟨d, hd, hid, ?_⟩
  rw [hc, reloadStart, if_pos rfl]
  simp only [findByKey_map_sccpDevicePreReload, hd₀, Option.map_some', Option.getD_some]
  rw [sccpDevicePreReload_config, hl₀, preReloadAt_buttons, deviceRebuilt_buttonconfig]
  refine congrArg Value.buttons (buttonRun_of_unfound env _ _ fun v hv c hc => ?_)
  obtain ⟨c₀, hc₀, rfl⟩ := List.mem_map.mp hc
  exact hunfound v hv c₀ hc₀

def faultyButtonsSection : Category :=
  ⟨"SEP1", [("type", "device"), ("devicetype", "7960"), ("button", "speeddial, Sales"),
    ("button", "service, Directory")]⟩

def faultyButtonsConfig : Config := [faultyButtonsSection]

/-- A first load and a reload: the two EMPTY entries, marked, then again unmarked. -/
theorem faulty_buttons_after_reload :
    NamesFit sampleEnv faultyButtonsConfig ∧ faultyButtonsSection ∈ faultyButtonsConfig ∧
      isDeviceSection faultyButtonsSection = true ∧
      ((findByKey Device.id (sccpConfigReadDevicesLines sampleEnv faultyButtonsConfig .readInitial Registry.empty).devices
          faultyButtonsSection.name).map fun d => d.config .buttonconfig) =
        some (.buttons (sectionButtons sampleEnv faultyButtonsConfig faultyButtonsSection.name)) ∧
      (∀ v ∈ sectionButtonValues faultyButtonsConfig faultyButtonsSection.name,
        ∀ c ∈ sectionButtons sampleEnv faultyButtonsConfig faultyButtonsSection.name, buttonFinds v c.marked = false) ∧
      ∃ d ∈ (sccpConfigReadDevicesLines sampleEnv faultyButtonsConfig .readReload
          (sccpConfigReadDevicesLines sampleEnv faultyButtonsConfig .readInitial Registry.empty)).devices,
        strcasecmpEq d.id faultyButtonsSection.name = true ∧
        d.config .buttonconfig = .buttons
          ((sectionButtons sampleEnv faultyButtonsConfig faultyButtonsSection.name).map ButtonConfig.marked ++
            sectionButtons sampleEnv faultyButtonsConfig faultyButtonsSection.name) := by
  have hl : ((findByKey Device.id (sccpConfigReadDevicesLines sampleEnv faultyButtonsConfig .readInitial
      Registry.empty).devices faultyButtonsSection.name).map fun d => d.config .buttonconfig) =
      some (.buttons (sectionButtons sampleEnv faultyButtonsConfig faultyButtonsSection.name)) := by
    decide
  have hunfound : ∀ v ∈ sectionButtonValues faultyButtonsConfig faultyButtonsSection.name,
      ∀ c ∈ sectionButtons sampleEnv faultyButtonsConfig faultyButtonsSection.name, buttonFinds v c.marked = false := by
    decide
  exact ⟨by decide, List.mem_singleton_self _, by decide, hl, hunfound,
    unfound_buttons_kept_marked sampleEnv faultyButtonsConfig (by decide) _ (List.mem_singleton_self _) (by decide) hl
      hunfound⟩

end SccpConfig
