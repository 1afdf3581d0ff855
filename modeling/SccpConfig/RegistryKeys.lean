import SccpConfig.ReloadHistory

/-!
# Device ids and line names over every run

`sccp_config_readDevicesLines` looks a section's name up among the devices (or
lines) without case and creates an entry only when the lookup fails, under the
name copied into the fixed-size id (or name) field. So over any sequence of
initial loads and reloads from the empty registry, as long as the section names
fit their fields, no two devices have ids that agree without case and no two
lines names: one step lemma per stage of a pass, then an induction over the
reachable registries. A name that does not fit is stored cut, and the lookup,
which compares the stored copy with the whole name, never finds it again: every
pass that reads such a section creates one more device or line.
-/

namespace SccpConfig

set_option autoImplicit false

/-! ## Keys distinct up to case -/

/-- No two entries of the list have keys that agree without case. -/
def KeysDistinct {α : Type} (key : α → String) (l : List α) : Prop :=
  (l.map key).Pairwise fun a b => strcasecmpEq a b = false

instance {α : Type} (key : α → String) (l : List α) : Decidable (KeysDistinct key l) :=
  inferInstanceAs (Decidable ((l.map key).Pairwise fun a b => strcasecmpEq a b = false))

theorem pairwise_not_both_match {α : Type} {key : α → String} {l : List α}
    (hl : l.Pairwise fun a b => strcasecmpEq (key a) (key b) = false) (c : String) :
    l.Pairwise fun a b => ¬ (strcasecmpEq (key a) c = true ∧ strcasecmpEq (key b) c = true) :=
  hl.imp fun hab ⟨ha, hb⟩ => by
    rw [strcasecmpEq_trans ha (by rwa [strcasecmpEq_comm])] at hab; cases hab

section FindOrCreate

variable {α β : Type} {key : α → String} {name : β → String} {create : String → α} {update : β → α → α}

theorem map_modify_of_key {f : α → α} (hf : ∀ a, key (f a) = key a) (l : List α) (i : Nat) :
    (l.modify f i).map key = l.map key := by
  refine List.ext_getElem (by simp) fun m h₁ h₂ => ?_
  rw [List.getElem_map, List.getElem_map, List.getElem_modify]
  split <;> simp [hf]

theorem findByKey_of_keysDistinct {l : List α} {a : α} {n : String} (hl : KeysDistinct key l) (ha : a ∈ l)
    (hn : strcasecmpEq (key a) n = true) : findByKey key l n = some a := by
  induction l with
  | nil => cases ha
  | cons b rest ih =>
    simp only [KeysDistinct, List.map_cons, List.pairwise_cons, List.mem_map] at hl
    obtain ⟨hb, hrest⟩ := hl
    rcases List.mem_cons.mp ha with rfl | ha
    · simp [findByKey, List.find?_cons, hn]
    · have hbn : strcasecmpEq (key b) n = false := by
        have hba := hb (key a) ⟨a, ha, rfl⟩
        cases h : strcasecmpEq (key b) n
        · rfl
        · rw [strcasecmpEq_trans h (by rwa [strcasecmpEq_comm] at hn)] at hba
          cases hba
      rw [findByKey, List.find?_cons, hbn]
      exact ih hrest ha

theorem keysDistinct_findOrCreate {l : List α} {k : β} (hl : KeysDistinct key l)
    (hkey : ∀ a, key (update k a) = key a) (hcreate : key (create (name k)) = name k) :
    KeysDistinct key (findOrCreate key name create update l k) := by
  unfold findOrCreate
  split
  · rename_i hnone
    rw [List.findIdx?_eq_none_iff] at hnone
    refine List.pairwise_cons.mpr ⟨?_, hl⟩
    intro b hb
    obtain ⟨a, ha, rfl⟩ := List.mem_map.mp hb
    rw [hkey, hcreate, strcasecmpEq_comm]
    exact hnone a ha
  · rw [KeysDistinct, map_modify_of_key hkey]
    exact hl

theorem findOrCreateRun_cons (sel : β → Bool) (l : List α) (k : β) (rest : List β) :
    findOrCreateRun key name create update sel l (k :: rest) =
      findOrCreateRun key name create update sel (if sel k then findOrCreate key name create update l k else l) rest :=
  rfl

theorem keysDistinct_findOrCreateRun (sel : β → Bool) (hkey : ∀ k a, key (update k a) = key a)
    (ks : List β) (hcreate : ∀ k ∈ ks, sel k = true → key (create (name k)) = name k) :
    ∀ l : List α, KeysDistinct key l → KeysDistinct key (findOrCreateRun key name create update sel l ks) := by
  induction ks with
  | nil => intro l hl; exact hl
  | cons k rest ih =>
    intro l hl
    rw [findOrCreateRun_cons]
    refine ih (fun k' hk' => hcreate k' (List.mem_cons_of_mem _ hk')) _ ?_
    split
    · exact keysDistinct_findOrCreate hl (hkey k) (hcreate k (List.mem_cons_self _ _) ‹_›)
    · exact hl

/-! ## Names too long for their field -/

theorem findOrCreate_of_long {size : Nat} {l : List α} {k : β} (hshort : ∀ a ∈ l, (key a).length < size)
    (hlong : size ≤ (name k).length) : findOrCreate key name create update l k = update k (create (name k)) :: l := by
  have hnone : l.findIdx? (fun a => strcasecmpEq (key a) (name k)) = none := by
    rw [List.findIdx?_eq_none_iff]
    intro a ha
    cases h : strcasecmpEq (key a) (name k)
    · rfl
    · have := strcasecmpEq_length h
      have := hshort a ha
      omega
  simp only [findOrCreate, hnone]

theorem findOrCreateRun_of_long {size : Nat} (sel : β → Bool) (hkey : ∀ k a, key (update k a) = key a)
    (hcut : ∀ n, (key (create n)).length < size) (ks : List β)
    (hlong : ∀ k ∈ ks, sel k = true → size ≤ (name k).length) :
    ∀ l : List α, (∀ a ∈ l, (key a).length < size) →
      findOrCreateRun key name create update sel l ks =
        ((ks.filter sel).map fun k => update k (create (name k))).reverse ++ l := by
  induction ks with
  | nil => intro l _; rfl
  | cons k rest ih =>
    intro l hl
    have hrest := fun k' hk' => hlong k' (List.mem_cons_of_mem _ hk')
    rw [findOrCreateRun_cons]
    by_cases hs : sel k = true
    · have hnew : ∀ a ∈ update k (create (name k)) :: l, (key a).length < size :=
        List.forall_mem_cons.mpr ⟨by rw [hkey]; exact hcut _, hl⟩
      rw [if_pos hs, findOrCreate_of_long hl (hlong k (List.mem_cons_self _ _) hs), ih hrest _ hnew,
        List.filter_cons_of_pos hs]
      simp
    · rw [if_neg hs, ih hrest l hl, List.filter_cons_of_neg hs]

end FindOrCreate

theorem sccpCopyString_length_lt (s : String) {size : Nat} (h : 0 < size) : (sccpCopyString s size).length < size := by
  simp only [sccpCopyString, String.length, List.length_take]
  omega

/-! ## The registry over passes -/

variable (env : Env)

/-- Every device section's name fits the device id field and every line section's
name the line name field. -/
def NamesFit (cfg : Config) : Prop :=
  ∀ k ∈ cfg, (isDeviceSection k = true → k.name.length < env.deviceIdSize) ∧
    (isLineSection k = true → k.name.length < env.lineNameSize)

instance (cfg : Config) : Decidable (NamesFit env cfg) :=
  inferInstanceAs (Decidable (∀ k ∈ cfg,
    (isDeviceSection k = true → k.name.length < env.deviceIdSize) ∧
      (isLineSection k = true → k.name.length < env.lineNameSize)))

/-- No two devices' ids and no two lines' names agree without case. -/
structure Registry.NamesDistinct (reg : Registry) : Prop where
  devices : KeysDistinct Device.id reg.devices
  lines : KeysDistinct Line.name reg.lines

theorem readDevicesLines_device_ids (cfg : Config) (readingtype : ReadingType) (reg : Registry) :
    (sccpConfigReadDevicesLines env cfg readingtype reg).devices.map Device.id =
      (findOrCreateRun Device.id Category.name (deviceCreate env) (deviceUpdate env cfg) isDeviceSection
        (reloadStart readingtype reg).devices cfg).map Device.id := by
  simpa only [List.map_map] using
    congrArg (List.map Prod.fst) (sccpConfigReadDevicesLines_devices env cfg readingtype reg)

theorem reloadStart_device_ids (readingtype : ReadingType) (reg : Registry) :
    (reloadStart readingtype reg).devices.map Device.id = reg.devices.map Device.id := by
  unfold reloadStart
  split <;> simp [Function.comp_def, sccpDevicePreReload]

theorem reloadStart_line_names (readingtype : ReadingType) (reg : Registry) :
    (reloadStart readingtype reg).lines.map Line.name = reg.lines.map Line.name := by
  unfold reloadStart
  split <;> simp [Function.comp_def, sccpLinePreReload]

theorem namesDistinct_readDevicesLines (cfg : Config) (readingtype : ReadingType) (reg : Registry)
    (hfit : NamesFit env cfg) (hreg : reg.NamesDistinct) :
    (sccpConfigReadDevicesLines env cfg readingtype reg).NamesDistinct where
  devices := by
    rw [KeysDistinct, readDevicesLines_device_ids, ← KeysDistinct]
    refine keysDistinct_findOrCreateRun _ (deviceUpdate_id env cfg) _
      (fun k hk hs => sccpCopyString_of_lt ((hfit k hk).1 hs)) _ ?_
    rw [KeysDistinct, reloadStart_device_ids]
    exact hreg.devices
  lines := by
    rw [sccpConfigReadDevicesLines_lines]
    refine keysDistinct_findOrCreateRun _ (lineUpdate_name env cfg) _
      (fun k hk hs => sccpCopyString_of_lt ((hfit k hk).2 hs)) _ ?_
    rw [KeysDistinct, reloadStart_line_names]
    exact hreg.lines

/-- The registries that passes of `sccp_config_readDevicesLines`, initial loads or
reloads, leave from the empty registry, over configurations whose names fit. -/
inductive Reachable : Registry → Prop
  | empty : Reachable Registry.empty
  | pass {reg : Registry} (cfg : Config) (readingtype : ReadingType) :
      NamesFit env cfg → Reachable reg → Reachable (sccpConfigReadDevicesLines env cfg readingtype reg)

theorem Reachable.namesDistinct {reg : Registry} (h : Reachable env reg) : reg.NamesDistinct := by
  induction h with
  | empty => exact ⟨List.Pairwise.nil, List.Pairwise.nil⟩
  | pass cfg readingtype hfit _ ih => exact namesDistinct_readDevicesLines env cfg readingtype _ hfit ih

def mixedCaseConfig : Config :=
  [⟨"SEP1", [("type", "device"), ("devicetype", "7960")]⟩,
    ⟨"sep1", [("type", "device"), ("devicetype", "7960"), ("keepalive", "30")]⟩,
    ⟨"100", [("type", "line"), ("label", "100"), ("cid_name", "A"), ("cid_num", "100")]⟩]

/-- A load and a reload of that configuration: the registry they reach keeps one
device for `SEP1` and `sep1`. -/
theorem reachable_mixedCase_namesDistinct :
    Reachable sampleEnv (sccpConfigReadDevicesLines sampleEnv mixedCaseConfig .readReload
        (sccpConfigReadDevicesLines sampleEnv mixedCaseConfig .readInitial Registry.empty)) ∧
      (sccpConfigReadDevicesLines sampleEnv mixedCaseConfig .readReload
        (sccpConfigReadDevicesLines sampleEnv mixedCaseConfig .readInitial Registry.empty)).NamesDistinct :=
  have h := Reachable.pass _ _ (by decide) (Reachable.pass _ _ (by decide) Reachable.empty)
  ⟨h, Reachable.namesDistinct sampleEnv h⟩

/-! ## Names too long for their fields -/

/-- Every device section's name is at least as long as the device id field, and
every line section's name as the line name field. -/
def NamesTooLong (cfg : Config) : Prop :=
  ∀ k ∈ cfg, (isDeviceSection k = true → env.deviceIdSize ≤ k.name.length) ∧
    (isLineSection k = true → env.lineNameSize ≤ k.name.length)

instance (cfg : Config) : Decidable (NamesTooLong env cfg) :=
  inferInstanceAs (Decidable (∀ k ∈ cfg,
    (isDeviceSection k = true → env.deviceIdSize ≤ k.name.length) ∧
      (isLineSection k = true → env.lineNameSize ≤ k.name.length)))

/-- Every device id is shorter than the id field and every line name than the name
field, as the copies into those fields are. -/
def Registry.KeysShort (reg : Registry) : Prop :=
  (∀ d ∈ reg.devices, d.id.length < env.deviceIdSize) ∧ ∀ l ∈ reg.lines, l.name.length < env.lineNameSize

instance (reg : Registry) : Decidable (reg.KeysShort env) :=
  inferInstanceAs (Decidable ((∀ d ∈ reg.devices, d.id.length < env.deviceIdSize) ∧
    ∀ l ∈ reg.lines, l.name.length < env.lineNameSize))

theorem propagateGlobalUpdate_device_flags (reg : Registry) :
    ((propagateGlobalUpdate reg).devices.map fun d => (d.id, d.pendingDelete)) =
      reg.devices.map fun d => (d.id, d.pendingDelete) := by
  unfold propagateGlobalUpdate
  split
  · simp only [List.map_map]
    exact List.map_congr_left fun d _ => by simp only [Function.comp_apply]; split <;> rfl
  · rfl

theorem sccpConfigReadDevicesLines_device_flags (cfg : Config) (readingtype : ReadingType) (reg : Registry) :
    ((sccpConfigReadDevicesLines env cfg readingtype reg).devices.map fun d => (d.id, d.pendingDelete)) =
      (findOrCreateRun Device.id Category.name (deviceCreate env) (deviceUpdate env cfg) isDeviceSection
        (reloadStart readingtype reg).devices cfg).map fun d => (d.id, d.pendingDelete) := by
  rw [sccpConfigReadDevicesLines, propagateGlobalUpdate_device_flags, foldl_readCategory_devices]
  rfl

def longNameConfig : Config :=
  [⟨"SEP0123456789ABCD", [("type", "device"), ("devicetype", "7960")]⟩]

end SccpConfig
