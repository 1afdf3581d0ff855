import SccpConfig.MemberRuns
import SccpConfig.MailboxList
import SccpConfig.PassReport
import SccpConfig.ReloadFlags

/-!
# List members over reloads

Three device members are lists the converter of their row extends at the head:
the add-ons (`addon`), the permitted hosts (`permithost`) and the variables
(`setvar`). `sccp_config_applyDeviceConfiguration` empties them for a device
marked for deletion, but `sccp_config_readDevicesLines` clears the mark before it
builds the device, so on a reload each list starts from the one the device had,
and every reload of an unchanged file adds the section's entries again.

The fourth list that branch empties, the access list `ha`, starts empty and stays
so: `sccp_config_parse_permit` and `sccp_config_parse_deny` append to the list in
place, which does nothing to an empty one. No device ever holds a rule, whatever
the passes and the files.

A line keeps its mark until its build: its `variables` are emptied and rebuilt
from the section on every reload. Its mailbox list is not emptied, but
`sccp_config_parse_mailbox` adds a box only when it is new, so the list stays the
first occurrences of the section's boxes.
-/

namespace SccpConfig

set_option autoImplicit false

variable (env : Env)

/-! ## The rows -/

/-- The device table's `addon` row. -/
def addonRow : ConfigOption DeviceMember :=
  ⟨"addon", whole .addons, .generic, ConfigFlag.none, .needDeviceReset, none, some .parseAddons⟩

/-- The device table's `permithost` row. -/
def permithostRow : ConfigOption DeviceMember :=
  ⟨"permithost", whole .permithosts, .generic, ConfigFlag.none, .needDeviceReset, none, some .parsePermithosts⟩

/-- The device table's `setvar` row. -/
def deviceSetvarRow : ConfigOption DeviceMember :=
  ⟨"setvar", whole .variables, .generic, ConfigFlag.none, .noUpdateNeeded, none, some .parseVariables⟩

/-- The line table's `mailbox` row. -/
def mailboxRow : ConfigOption LineMember :=
  ⟨"mailbox", whole .mailboxes, .generic, ConfigFlag.none, .noUpdateNeeded, none, some .parseMailbox⟩

/-- The line table's `setvar` row. -/
def lineSetvarRow : ConfigOption LineMember :=
  ⟨"setvar", whole .variables, .generic, ConfigFlag.none, .noUpdateNeeded, none, some .parseVariables⟩

theorem onlyRow_addon : OnlyRow sccpDeviceConfigOptions .addons addonRow :=
  ⟨rfl, by decide, by decide, by decide⟩

theorem onlyRow_permithost : OnlyRow sccpDeviceConfigOptions .permithosts permithostRow :=
  ⟨rfl, by decide, by decide, by decide⟩

theorem onlyRow_deviceSetvar : OnlyRow sccpDeviceConfigOptions .variables deviceSetvarRow :=
  ⟨rfl, by decide, by decide, by decide⟩

theorem onlyRow_mailbox : OnlyRow sccpLineConfigOptions .mailboxes mailboxRow :=
  ⟨rfl, by decide, by decide, by decide⟩

theorem onlyRow_lineSetvar : OnlyRow sccpLineConfigOptions .variables lineSetvarRow :=
  ⟨rfl, by decide, by decide, by decide⟩

/-! ## Converters that extend a list at its head -/

/-- A list function that puts what a value gives at the head of the list. -/
def Prepends {β : Type} (f : List β → String → List β) : Prop :=
  ∀ l v, f l v = f [] v ++ l

theorem prepends_addons : Prepends fun l v => (sccpConfigParseAddons env l v).1 := by
  intro l v
  dsimp only [sccpConfigParseAddons]
  split_ifs <;> rfl

theorem prepends_permithosts : Prepends fun l v => (sccpConfigParsePermithosts env l v).1 :=
  fun _ _ => rfl

theorem prepends_variables : Prepends fun l v => (sccpConfigParseVariables env l v).1 := by
  intro l v
  dsimp only [sccpConfigParseVariables]
  cases env.createVariable v <;> rfl

/-- What the rebuilds of some sections put at the head of a list member, one after
the other: the row's list function over the row's values in the sections, from the
empty list. -/
def sectionsPrefix {M β : Type} (r : ConfigOption M) (f : List β → String → List β) (ks : List Category) : List β :=
  (sectionsValues r ks).foldl f []

section Prepend

variable {β : Type} {f : List β → String → List β}

theorem foldl_of_prepends (hf : Prepends f) (vs : List String) : ∀ l, vs.foldl f l = vs.foldl f [] ++ l := by
  induction vs with
  | nil => intro l; rfl
  | cons v vs ih => intro l; rw [List.foldl_cons, List.foldl_cons, hf l v, ih, ih (f [] v), List.append_assoc]

theorem exists_device_list_over_reloadRuns {r : ConfigOption DeviceMember} {m : DeviceMember}
    (h : OnlyRow sccpDeviceConfigOptions m r) (hnone : r.flags = ConfigFlag.none) (hdefault : r.defaultValue = none)
    (hb : m ≠ .buttonconfig) (hm : m ∉ restoredMembers) (wrap : List β → Value) (hzero : m.kind.zero = wrap [])
    (hconv : ∀ l v, (setValueByType env r.type r.converter (env.deviceSize m) (wrap l) v).1 = wrap (f l v))
    (hf : Prepends f) (cfg : Config) (hfit : NamesFit env cfg) {k : Category} (hk : k ∈ cfg)
    (hsel : isDeviceSection k = true) (n : Nat) :
    ∃ d ∈ (reloadRuns env cfg n).devices, strcasecmpEq d.id k.name = true ∧
      d.config m = wrap (List.replicate (n + 1) (sectionsPrefix r f (deviceSections cfg k.name))).flatten := by
  have hrebuilt : ∀ id l, deviceRebuilt env cfg id k.name m (wrap l) =
      wrap (sectionsPrefix r f (deviceSections cfg k.name) ++ l) := fun id l => by
    rw [deviceRebuilt, foldl_deviceStepAt_of_onlyRow env wrap f h hnone hdefault hm hconv, foldl_of_prepends hf]
    rfl
  refine exists_device_member_over_reloadRuns env cfg hfit hk hsel m
    (fun n => wrap (List.replicate (n + 1) (sectionsPrefix r f (deviceSections cfg k.name))).flatten)
    (fun id => ?_) (fun id n => ?_) n
  · rw [hzero, hrebuilt, List.append_nil]
    simp
  · -- each reload puts one more copy at the head
    rw [preReloadAt_of_ne hb, hrebuilt]
    simp only [List.replicate_succ, List.flatten_cons]

end Prepend

/-- A reload of an unchanged file never clears a device's add-ons, permitted hosts
or `setvar` variables: after the first load and `n` reloads the device of a
section holds, in each, `n + 1` copies of what the sections of its name give in
one pass. -/
theorem device_lists_accumulate_over_reloads (cfg : Config) (hfit : NamesFit env cfg) {k : Category} (hk : k ∈ cfg)
    (hsel : isDeviceSection k = true) (n : Nat) :
    ∃ d ∈ (reloadRuns env cfg n).devices, strcasecmpEq d.id k.name = true ∧
      d.config .addons = .addons (List.replicate (n + 1)
        (sectionsPrefix addonRow (fun l v => (sccpConfigParseAddons env l v).1) (deviceSections cfg k.name))).flatten ∧
      d.config .permithosts = .hostnames (List.replicate (n + 1)
        (sectionsPrefix permithostRow (fun l v => (sccpConfigParsePermithosts env l v).1)
          (deviceSections cfg k.name))).flatten ∧
      d.config .variables = .variables (List.replicate (n + 1)
        (sectionsPrefix deviceSetvarRow (fun l v => (sccpConfigParseVariables env l v).1)
          (deviceSections cfg k.name))).flatten := by
  obtain ⟨d, hd, hid, haddons⟩ := exists_device_list_over_reloadRuns env onlyRow_addon rfl rfl
    (by decide) (by decide) Value.addons rfl (fun _ _ => rfl) (prepends_addons env) cfg hfit hk hsel n
  obtain ⟨d₁, hd₁, hid₁, hhosts⟩ := exists_device_list_over_reloadRuns env onlyRow_permithost rfl rfl
    (by decide) (by decide) Value.hostnames rfl (fun _ _ => rfl) (prepends_permithosts env) cfg hfit hk hsel n
  obtain ⟨d₂, hd₂, hid₂, hvars⟩ := exists_device_list_over_reloadRuns env onlyRow_deviceSetvar rfl rfl
    (by decide) (by decide) Value.variables rfl (fun _ _ => rfl) (prepends_variables env) cfg hfit hk hsel n
  rw [reloadRuns_device_unique env cfg hfit n hd₁ hd hid₁ hid] at hhosts
  rw [reloadRuns_device_unique env cfg hfit n hd₂ hd hid₂ hid] at hvars
  exact ⟨d, hd, hid, haddons, hhosts, hvars⟩

def listsDeviceSection : Category :=
  ⟨"SEP1", [("type", "device"), ("devicetype", "7960"), ("addon", "7914"), ("permithost", "pc1"),
    ("setvar", "a=1")]⟩

def listsLineSection : Category :=
  ⟨"100", [("type", "line"), ("label", "100"), ("cid_name", "A"), ("cid_num", "100"), ("mailbox", "100@default"),
    ("setvar", "b=2")]⟩

def listsConfig : Config := [listsDeviceSection, listsLineSection]

theorem device_lists_after_two_reloads :
    NamesFit sampleEnv listsConfig ∧ listsDeviceSection ∈ listsConfig ∧ isDeviceSection listsDeviceSection = true ∧
      ∃ d ∈ (reloadRuns sampleEnv listsConfig 2).devices, strcasecmpEq d.id listsDeviceSection.name = true ∧
        d.config .addons = .addons (List.replicate (2 + 1)
          (sectionsPrefix addonRow (fun l v => (sccpConfigParseAddons sampleEnv l v).1)
            (deviceSections listsConfig listsDeviceSection.name))).flatten ∧
        d.config .permithosts = .hostnames (List.replicate (2 + 1)
          (sectionsPrefix permithostRow (fun l v => (sccpConfigParsePermithosts sampleEnv l v).1)
            (deviceSections listsConfig listsDeviceSection.name))).flatten ∧
        d.config .variables = .variables (List.replicate (2 + 1)
          (sectionsPrefix deviceSetvarRow (fun l v => (sccpConfigParseVariables sampleEnv l v).1)
            (deviceSections listsConfig listsDeviceSection.name))).flatten :=
  ⟨by decide, List.mem_cons_self _ _, by decide,
    device_lists_accumulate_over_reloads sampleEnv listsConfig (by decide) (List.mem_cons_self _ _) (by decide) 2⟩

/-! ## The access list over every run -/

theorem readDevicesLines_ha_empty (cfg : Config) (readingtype : ReadingType) (reg : Registry)
    (hreg : ∀ d ∈ reg.devices, d.config .ha = .acl []) :
    ∀ d ∈ (sccpConfigReadDevicesLines env cfg readingtype reg).devices, d.config .ha = .acl [] := by
  have hfix : ∀ name value,
      setValueAt env sccpDeviceConfigOptions env.deviceSize name value .ha (.acl []) = .acl [] :=
    setValueAt_acl_nil env sccpDeviceConfigOptions env.deviceSize (by decide)
  have hupdate : ∀ k (d : Device), d.config .ha = .acl [] → (deviceUpdate env cfg k d).config .ha = .acl [] := by
    intro k d hd
    rw [deviceUpdate_config, hd, deviceStepAt, restoreAt_other env _ _ _ (by decide), passAt,
      pairsAt_of_fixed env _ _ _ _ hfix, defaultsAt_of_fixed env _ _ cfg _ _ hfix]
  have hstart : ∀ d ∈ (reloadStart readingtype reg).devices, d.config .ha = .acl [] := by
    unfold reloadStart
    split
    · intro d hd
      obtain ⟨d₀, hd₀, rfl⟩ := List.mem_map.mp hd
      rw [sccpDevicePreReload_config, hreg d₀ hd₀]
      rfl
    · exact hreg
  intro d hd
  have hm := List.mem_map_of_mem (fun d : Device => (d.id, d.config)) hd
  rw [sccpConfigReadDevicesLines_devices] at hm
  obtain ⟨d', hd', he⟩ := List.mem_map.mp hm
  rw [← (Prod.mk.inj he).2]
  exact forall_mem_findOrCreateRun (r := fun d : Device => d.config .ha = .acl []) (fun _ => rfl) hupdate _ _ _ hstart
    d' hd'

/-- No device ever holds an access list: after any sequence of passes, first loads
or reloads over any configurations, from the empty registry, every device's `ha`
is empty, whatever `permit` and `deny` its sections and `[general]` give. -/
theorem device_ha_always_empty (passes : List (Config × ReadingType)) :
    ∀ d ∈ (passes.foldl (fun reg p => sccpConfigReadDevicesLines env p.1 p.2 reg) Registry.empty).devices,
      d.config .ha = .acl [] := by
  suffices h : ∀ reg : Registry, (∀ d ∈ reg.devices, d.config .ha = .acl []) →
      ∀ d ∈ (passes.foldl (fun reg p => sccpConfigReadDevicesLines env p.1 p.2 reg) reg).devices,
        d.config .ha = .acl [] from h _ fun d hd => nomatch hd
  induction passes with
  | nil => intro reg hreg; exact hreg
  | cons p rest ih => intro reg hreg; exact ih _ (readDevicesLines_ha_empty env p.1 p.2 reg hreg)

def aclConfig : Config :=
  [⟨"general", [("deny", "0.0.0.0/0.0.0.0"), ("permit", "internal")]⟩,
    ⟨"SEP1", [("type", "device"), ("devicetype", "7960"), ("deny", "0.0.0.0/0.0.0.0"),
      ("permit", "10.0.0.1/255.255.255.255")]⟩]

theorem device_ha_empty_after_load_and_reload :
    0 < ([(aclConfig, ReadingType.readInitial), (aclConfig, .readReload)].foldl
        (fun reg p => sccpConfigReadDevicesLines sampleEnv p.1 p.2 reg) Registry.empty).devices.length ∧
      ∀ d ∈ ([(aclConfig, ReadingType.readInitial), (aclConfig, .readReload)].foldl
        (fun reg p => sccpConfigReadDevicesLines sampleEnv p.1 p.2 reg) Registry.empty).devices,
        d.config .ha = .acl [] :=
  ⟨by decide, device_ha_always_empty sampleEnv _⟩

/-! ## A line's lists -/

theorem mailboxRun_of_covered (vs : List String) (acc : List Mailbox)
    (h : ∀ v ∈ vs, (mailboxOf v).mailbox.isEmpty = false → (mailboxOf v).mailbox ∈ acc.map Mailbox.mailbox) :
    mailboxRun env acc vs = acc := by
  induction vs with
  | nil => rfl
  | cons v vs ih =>
    have hseen : ((acc.any fun b => b.mailbox = (mailboxOf v).mailbox) || (mailboxOf v).mailbox.isEmpty) = true := by
      cases he : (mailboxOf v).mailbox.isEmpty
      · obtain ⟨a, ha, hav⟩ := List.mem_map.mp (h v (List.mem_cons_self _ _) he)
        simpa using ⟨a, ha, hav⟩
      · simp
    rw [mailboxRun, List.foldl_cons, sccpConfigParseMailbox_fst, if_pos hseen, ← mailboxRun]
    exact ih fun w hw => h w (List.mem_cons_of_mem _ hw)

theorem mailbox_mem_mailboxRun {vs : List String} {v : String} (hv : v ∈ vs)
    (hne : (mailboxOf v).mailbox.isEmpty = false) :
    (mailboxOf v).mailbox ∈ (mailboxRun env [] vs).map Mailbox.mailbox := by
  rw [mailboxRun_eq, List.nil_append, mem_firstOccurrences_ids]
  exact List.mem_map_of_mem _ (List.mem_filter.mpr ⟨List.mem_map_of_mem _ hv, by simp [hne]⟩)

theorem mailboxRun_mailboxRun {vs ws : List String} (hws : ∀ w ∈ ws, w ∈ vs) :
    mailboxRun env (mailboxRun env [] vs) ws = mailboxRun env [] vs :=
  mailboxRun_of_covered env ws _ fun w hw hne => mailbox_mem_mailboxRun env (hws w hw) hne

/-- On every run a line holds the first occurrences of the mailbox values of the
sections of its name, however often they are read, and exactly the `setvar`
variables those sections give in one pass. -/
theorem line_lists_stable_over_reloads (cfg : Config) (hfit : NamesFit env cfg) {k : Category} (hk : k ∈ cfg)
    (hsel : isLineSection k = true) (n : Nat) :
    ∃ l ∈ (reloadRuns env cfg n).lines, strcasecmpEq l.name k.name = true ∧
      l.config .mailboxes = .mailboxes (mailboxRun env [] (sectionsValues mailboxRow (lineSections cfg k.name))) ∧
      l.config .variables = .variables
        (sectionsPrefix lineSetvarRow (fun l v => (sccpConfigParseVariables env l v).1) (lineSections cfg k.name)) := by
  have hmail : ∀ acc, lineRebuilt env cfg k.name .mailboxes (.mailboxes acc) =
      .mailboxes (mailboxRun env acc (sectionsValues mailboxRow (lineSections cfg k.name))) :=
    foldl_lineStepAt_of_onlyRow env Value.mailboxes (fun l v => (sccpConfigParseMailbox env l v).1) onlyRow_mailbox
      rfl rfl (fun _ _ => rfl) cfg _
  have hvars : lineRebuilt env cfg k.name .variables (.variables []) = .variables
      (sectionsPrefix lineSetvarRow (fun l v => (sccpConfigParseVariables env l v).1) (lineSections cfg k.name)) :=
    foldl_lineStepAt_of_onlyRow env Value.variables (fun l v => (sccpConfigParseVariables env l v).1)
      onlyRow_lineSetvar rfl rfl (fun _ _ => rfl) cfg _ []
  obtain ⟨l, hl, hname, hl_mail⟩ := exists_line_member_over_reloadRuns env cfg hfit hk hsel .mailboxes
    (fun _ => .mailboxes (mailboxRun env [] (sectionsValues mailboxRow (lineSections cfg k.name)))) (hmail [])
    (fun _ => by
      rw [lineReloadAt_of_ne (by decide), hmail]
      exact congrArg Value.mailboxes (mailboxRun_mailboxRun env fun w hw => hw)) n
  obtain ⟨l₁, hl₁, hname₁, hl_vars⟩ := exists_line_member_over_reloadRuns env cfg hfit hk hsel .variables
    (fun _ => .variables
      (sectionsPrefix lineSetvarRow (fun l v => (sccpConfigParseVariables env l v).1) (lineSections cfg k.name)))
    hvars (fun _ => by rw [lineReloadAt_variables]; exact hvars) n
  rw [reloadRuns_line_unique env cfg hfit n hl₁ hl hname₁ hname] at hl_vars
  exact ⟨l, hl, hname, hl_mail, hl_vars⟩

theorem line_lists_after_two_reloads :
    NamesFit sampleEnv listsConfig ∧ listsLineSection ∈ listsConfig ∧ isLineSection listsLineSection = true ∧
      ∃ l ∈ (reloadRuns sampleEnv listsConfig 2).lines, strcasecmpEq l.name listsLineSection.name = true ∧
        l.config .mailboxes = .mailboxes
          (mailboxRun sampleEnv [] (sectionsValues mailboxRow (lineSections listsConfig listsLineSection.name))) ∧
        l.config .variables = .variables (sectionsPrefix lineSetvarRow
          (fun l v => (sccpConfigParseVariables sampleEnv l v).1) (lineSections listsConfig listsLineSection.name)) :=
  ⟨by decide, List.mem_cons_of_mem _ (List.mem_singleton_self _), by decide,
    line_lists_stable_over_reloads sampleEnv listsConfig (by decide) (List.mem_cons_of_mem _ (List.mem_singleton_self _))
      (by decide) 2⟩

end SccpConfig
