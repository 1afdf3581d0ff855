import SccpConfig.RegistryKeys
import SccpConfig.SoftKeyStore

/-!
# What a reload leaves marked

`sccp_device_pre_reload` and `sccp_line_pre_reload` mark every device and line for
deletion before a reload, and the device and line branches of
`sccp_config_readDevicesLines` clear the mark of the object they find or create
for a section. When ids and names are distinct and the section names fit, a
reload therefore leaves unmarked exactly the devices and lines that some section
of the file is read as, with the minimum-key tests as the code writes them, and
every other object marked for the post-reload hook to delete.
-/

namespace SccpConfig

set_option autoImplicit false

/-! ## The flag over a find-or-create run -/

section Flag

variable {α β : Type} {key : α → String} {name : β → String} {create : String → α} {update : β → α → α}
  {flag : α → Bool}

theorem exists_mem_append_singleton (done : List β) (k : β) (sel : β → Bool) (Q : β → Prop) :
    (∃ c ∈ done ++ [k], sel c = true ∧ Q c) ↔ (∃ c ∈ done, sel c = true ∧ Q c) ∨ (sel k = true ∧ Q k) := by
  simp only [List.mem_append, List.mem_singleton, or_and_right, exists_or, exists_eq_left]

theorem flag_findOrCreate (hflag : ∀ k a, flag (update k a) = false) (hkey : ∀ k a, key (update k a) = key a)
    {l : List α} {k : β} (hl : KeysDistinct key l) (hcreate : key (create (name k)) = name k) (P : String → Prop)
    (hinv : ∀ a ∈ l, flag a = false ↔ P (key a)) :
    ∀ a ∈ findOrCreate key name create update l k, flag a = false ↔ P (key a) ∨ strcasecmpEq (key a) (name k) = true := by
  unfold findOrCreate
  split
  · -- no entry has the name: a new one is put at the head
    rename_i hnone
    rw [List.findIdx?_eq_none_iff] at hnone
    intro a ha
    rcases List.mem_cons.mp ha with rfl | ha
    · simp [hflag, hkey, hcreate, strcasecmpEq_self]
    · rw [hinv a ha, hnone a ha]
      simp
  · -- the one entry with the name is rebuilt
    rename_i i hi
    rw [modify_findIdx?_eq_map _ l (pairwise_not_both_match (List.pairwise_map.mp hl) (name k)) i hi]
    intro a ha
    obtain ⟨b, hb, rfl⟩ := List.mem_map.mp ha
    by_cases hbc : strcasecmpEq (key b) (name k) = true
    · simp [hbc, hflag, hkey]
    · simp only [hbc, Bool.false_eq_true, if_false, or_false]
      exact hinv b hb

theorem flag_findOrCreateRun (hflag : ∀ k a, flag (update k a) = false) (hkey : ∀ k a, key (update k a) = key a)
    (sel : β → Bool) (ks : List β) (hcreate : ∀ k ∈ ks, sel k = true → key (create (name k)) = name k) :
    ∀ (l : List α) (done : List β), KeysDistinct key l →
      (∀ a ∈ l, flag a = false ↔ ∃ c ∈ done, sel c = true ∧ strcasecmpEq (key a) (name c) = true) →
      ∀ a ∈ findOrCreateRun key name create update sel l ks,
        flag a = false ↔ ∃ c ∈ done ++ ks, sel c = true ∧ strcasecmpEq (key a) (name c) = true := by
  induction ks with
  | nil => intro l done _ hinv; simpa using hinv
  | cons k rest ih =>
    intro l done hl hinv
    rw [findOrCreateRun_cons, show done ++ k :: rest = (done ++ [k]) ++ rest by simp]
    refine ih (fun k' hk' => hcreate k' (List.mem_cons_of_mem _ hk')) _ _ ?_ ?_
    · split
      · exact keysDistinct_findOrCreate hl (hkey k) (hcreate k (List.mem_cons_self _ _) ‹_›)
      · exact hl
    · intro a ha
      rw [exists_mem_append_singleton]
      split at ha
      · rename_i hs
        simpa [hs] using flag_findOrCreate hflag hkey hl (hcreate k (List.mem_cons_self _ _) hs)
          (fun n => ∃ c ∈ done, sel c = true ∧ strcasecmpEq n (name c) = true) hinv a ha
      · rename_i hs
        simpa [hs] using hinv a ha

theorem flag_findOrCreateRun_of_flagged (hflag : ∀ k a, flag (update k a) = false)
    (hkey : ∀ k a, key (update k a) = key a) (sel : β → Bool) (ks : List β)
    (hcreate : ∀ k ∈ ks, sel k = true → key (create (name k)) = name k) (l : List α) (hl : KeysDistinct key l)
    (hflagged : ∀ a ∈ l, flag a = true) :
    ∀ a ∈ findOrCreateRun key name create update sel l ks,
      flag a = false ↔ ∃ c ∈ ks, sel c = true ∧ strcasecmpEq (key a) (name c) = true :=
  List.nil_append ks ▸ flag_findOrCreateRun hflag hkey sel ks hcreate l [] hl fun a ha => by simp [hflagged a ha]

end Flag

/-! ## The registry after a reload -/

variable (env : Env)

/-- After a reload over a registry whose ids and names are distinct, of a file
whose section names fit, a device is unmarked exactly when a device section of the
file has its name, and a line exactly when a line section does, names compared
without case; every other device and line stays marked for deletion. These are the
marks the pass hands to the post-reload hooks. -/
theorem readDevicesLines_reload_marks (cfg : Config) (hfit : NamesFit env cfg) (reg : Registry)
    (hreg : reg.NamesDistinct) :
    (∀ d ∈ (sccpConfigReadDevicesLines env cfg .readReload reg).devices, d.pendingDelete = false ↔
      ∃ k ∈ cfg, isDeviceSection k = true ∧ strcasecmpEq d.id k.name = true) ∧
    ∀ l ∈ (sccpConfigReadDevicesLines env cfg .readReload reg).lines, l.pendingDelete = false ↔
      ∃ k ∈ cfg, isLineSection k = true ∧ strcasecmpEq l.name k.name = true := by
  constructor
  · -- the devices: the end of the pass keeps ids and marks
    intro d hd
    have hm := List.mem_map_of_mem (fun d : Device => (d.id, d.pendingDelete)) hd
    rw [sccpConfigReadDevicesLines_device_flags] at hm
    obtain ⟨d', hd', he⟩ := List.mem_map.mp hm
    obtain ⟨hid, hflag⟩ := Prod.mk.inj he
    rw [← hid, ← hflag]
    refine flag_findOrCreateRun_of_flagged (deviceUpdate_pendingDelete env cfg) (deviceUpdate_id env cfg) _ _
      (fun k hk hs => sccpCopyString_of_lt ((hfit k hk).1 hs)) _
      (by rw [KeysDistinct, reloadStart_device_ids]; exact hreg.devices) (fun a ha => ?_) d' hd'
    obtain ⟨a₀, -, rfl⟩ := List.mem_map.mp ha
    rfl
  · -- the lines
    intro l hl
    rw [sccpConfigReadDevicesLines_lines] at hl
    refine flag_findOrCreateRun_of_flagged (lineUpdate_pendingDelete env cfg) (lineUpdate_name env cfg) _ _
      (fun k hk hs => sccpCopyString_of_lt ((hfit k hk).2 hs)) _
      (by rw [KeysDistinct, reloadStart_line_names]; exact hreg.lines) (fun a ha => ?_) l hl
    obtain ⟨a₀, -, rfl⟩ := List.mem_map.mp ha
    rfl

def marksBefore : Config :=
  [⟨"SEP1", [("type", "device"), ("devicetype", "7960")]⟩,
    ⟨"100", [("type", "line"), ("label", "100"), ("cid_name", "A"), ("cid_num", "100")]⟩,
    ⟨"200", [("type", "line"), ("label", "200"), ("cid_name", "B"), ("cid_num", "200")]⟩]

def marksAfter : Config :=
  [⟨"sep1", [("type", "device"), ("devicetype", "7960")]⟩,
    ⟨"100", [("type", "line"), ("label", "100"), ("cid_name", "A"), ("cid_num", "100")]⟩]

theorem readDevicesLines_reload_marks_dropped_line :
    NamesFit sampleEnv marksAfter ∧
      (sccpConfigReadDevicesLines sampleEnv marksBefore .readInitial Registry.empty).NamesDistinct ∧
      (∀ d ∈ (sccpConfigReadDevicesLines sampleEnv marksAfter .readReload
          (sccpConfigReadDevicesLines sampleEnv marksBefore .readInitial Registry.empty)).devices,
        d.pendingDelete = false ↔ ∃ k ∈ marksAfter, isDeviceSection k = true ∧ strcasecmpEq d.id k.name = true) ∧
      ∀ l ∈ (sccpConfigReadDevicesLines sampleEnv marksAfter .readReload
          (sccpConfigReadDevicesLines sampleEnv marksBefore .readInitial Registry.empty)).lines,
        l.pendingDelete = false ↔ ∃ k ∈ marksAfter, isLineSection k = true ∧ strcasecmpEq l.name k.name = true :=
  have hreg := namesDistinct_readDevicesLines sampleEnv marksBefore .readInitial Registry.empty (by decide)
    ⟨List.Pairwise.nil, List.Pairwise.nil⟩
  ⟨by decide, hreg, readDevicesLines_reload_marks sampleEnv marksAfter (by decide) _ hreg⟩

end SccpConfig
