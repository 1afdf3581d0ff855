import SccpConfig.MemberRuns
import SccpConfig.SoftKeyStore

/-!
# Softkey sets over a reload

Each pass of `sccp_config_readDevicesLines` calls `sccp_config_softKeySet` once per
softkey set section, in file order, each with that section's pairs. A reload first
has `sccp_softkey_pre_reload` mark every set for deletion, and
`sccp_config_softKeySet` never clears the mark. When every set name fits its field,
a reload finds each set and reads its pairs into it again: a mode takes the parse
of the last value given for it, which is the one it already holds, and
`numberOfSoftKeySets` is already past every mode given. So a reload after the
first load hands the post-reload hooks the sets the first load built, each marked
for deletion. A name as long as the field is stored cut, so the lookup by the whole
name never finds its set again, and a reload adds one more set per such section.
-/

namespace SccpConfig

set_option autoImplicit false

variable (env : Env)

attribute [ext] SoftKeySetConfiguration

/-! ## The calls one pass makes -/

/-- Whether the category loop reads a section as a softkey set: not `general`, and
of type softkeyset, tested after device and line. -/
def isSoftKeySetSection (k : Category) : Bool :=
  !strcasecmpEq k.name "general" &&
    match k.variableRetrieve "type" with
    | some utype => !strcasecmpEq utype "device" && !strcasecmpEq utype "line" && strcasecmpEq utype "softkeyset"
    | none => false

/-- The calls of `sccp_config_softKeySet` one pass makes: the pairs and the name of
each softkey set section, in file order. -/
def softKeySetCalls (cfg : Config) : List (List (String × String) × String) :=
  (cfg.filter isSoftKeySetSection).map fun k => (k.vars, k.name)

theorem readCategory_softKeySets (cfg : Config) (reg : Registry) (k : Category) :
    (readCategory env cfg reg k).softKeySets =
      if isSoftKeySetSection k then sccpConfigSoftKeySet env reg.softKeySets k.vars k.name else reg.softKeySets := by
  have hdevice : (readDevice env cfg reg k).softKeySets = reg.softKeySets := by
    unfold readDevice; split <;> rfl
  have hline : (readLine env cfg reg k).softKeySets = reg.softKeySets := by
    unfold readLine; split <;> rfl
  unfold readCategory isSoftKeySetSection
  by_cases hg : strcasecmpEq k.name "general" <;> simp only [hg, if_true, if_false] <;> try rfl
  cases k.variableRetrieve "type" with
  | none => rfl
  | some utype =>
    dsimp only
    cases hd : strcasecmpEq utype "device"
    · cases hl : strcasecmpEq utype "line"
      · cases strcasecmpEq utype "softkeyset" <;> rfl
      · simp only [Bool.false_eq_true, if_false, if_true, Bool.not_true, Bool.and_false, Bool.false_and]
        split_ifs <;> simp [hline]
    · simp only [if_true, Bool.not_true, Bool.false_and, Bool.and_false, Bool.false_eq_true, if_false]
      split_ifs <;> simp [hdevice]

theorem foldl_readCategory_softKeySets (cfg : Config) (ks : List Category) :
    ∀ reg : Registry, (ks.foldl (readCategory env cfg) reg).softKeySets =
      ((ks.filter isSoftKeySetSection).map fun k => (k.vars, k.name)).foldl
        (fun sets c => sccpConfigSoftKeySet env sets c.1 c.2) reg.softKeySets := by
  induction ks with
  | nil => intro reg; rfl
  | cons k rest ih =>
    intro reg
    rw [List.foldl_cons, ih, readCategory_softKeySets, List.filter_cons]
    split <;> rfl

theorem sccpConfigReadDevicesLines_softKeySets (cfg : Config) (readingtype : ReadingType) (reg : Registry) :
    (sccpConfigReadDevicesLines env cfg readingtype reg).softKeySets =
      (softKeySetCalls cfg).foldl (fun sets c => sccpConfigSoftKeySet env sets c.1 c.2)
        (reloadStart readingtype reg).softKeySets := by
  have hglobal : ∀ r : Registry, (propagateGlobalUpdate r).softKeySets = r.softKeySets := by
    intro r; unfold propagateGlobalUpdate; split <;> rfl
  rw [sccpConfigReadDevicesLines, hglobal, foldl_readCategory_softKeySets]
  rfl

theorem softKeySetCalls_foldl (ks : List Category) :
    ∀ sets : List SoftKeySetConfiguration,
      ((ks.filter isSoftKeySetSection).map fun k => (k.vars, k.name)).foldl
          (fun sets c => sccpConfigSoftKeySet env sets c.1 c.2) sets =
        findOrCreateRun SoftKeySetConfiguration.name Category.name
          (fun n => .empty (sccpCopyString n env.softKeySetNameSize)) (fun k s => k.vars.foldl (softKeySetPair env) s)
          isSoftKeySetSection sets ks := by
  induction ks with
  | nil => intro sets; rfl
  | cons k rest ih =>
    intro sets
    rw [findOrCreateRun_cons, List.filter_cons]
    split
    · rw [List.map_cons, List.foldl_cons, ← ih]
      unfold sccpConfigSoftKeySet findOrCreate
      cases sets.findIdx? fun s => strcasecmpEq s.name k.name <;> rfl
    · exact ih sets

theorem readDevicesLines_softKeySets_run (cfg : Config) (readingtype : ReadingType) (reg : Registry) :
    (sccpConfigReadDevicesLines env cfg readingtype reg).softKeySets =
      findOrCreateRun SoftKeySetConfiguration.name Category.name
        (fun n => .empty (sccpCopyString n env.softKeySetNameSize)) (fun k s => k.vars.foldl (softKeySetPair env) s)
        isSoftKeySetSection (reloadStart readingtype reg).softKeySets cfg := by
  rw [sccpConfigReadDevicesLines_softKeySets, softKeySetCalls, softKeySetCalls_foldl]

/-! ## A call that finds its set -/

theorem pairsNamed_cons (c : List (String × String) × String) (calls : List (List (String × String) × String))
    (n : String) :
    pairsNamed (c :: calls) n = (if strcasecmpEq c.2 n then c.1 else []) ++ pairsNamed calls n := by
  unfold pairsNamed
  by_cases h : strcasecmpEq c.2 n <;> simp [h]

theorem foldl_sccpConfigSoftKeySet_of_found (calls : List (List (String × String) × String)) :
    ∀ sets : List SoftKeySetConfiguration, sets.Pairwise (fun a b => strcasecmpEq a.name b.name = false) →
      (∀ c ∈ calls, ∃ s ∈ sets, strcasecmpEq s.name c.2 = true) →
      calls.foldl (fun sets c => sccpConfigSoftKeySet env sets c.1 c.2) sets =
        sets.map fun s => (pairsNamed calls s.name).foldl (softKeySetPair env) s := by
  induction calls with
  | nil => intro sets _ _; simp [pairsNamed]
  | cons c rest ih =>
    intro sets hdistinct hfound
    have hname : ∀ s : SoftKeySetConfiguration,
        (if strcasecmpEq s.name c.2 then c.1.foldl (softKeySetPair env) s else s).name = s.name := by
      intro s; split <;> simp [foldl_softKeySetPair_name]
    have hstep : sccpConfigSoftKeySet env sets c.1 c.2 =
        sets.map fun s => if strcasecmpEq s.name c.2 then c.1.foldl (softKeySetPair env) s else s := by
      obtain ⟨s₀, hs₀, hsel₀⟩ := hfound c (List.mem_cons_self _ _)
      have hany : sets.any (fun s => strcasecmpEq s.name c.2) = true := List.any_eq_true.mpr ⟨s₀, hs₀, hsel₀⟩
      rw [← List.findIdx?_isSome] at hany
      obtain ⟨i, hi⟩ := Option.isSome_iff_exists.mp hany
      unfold sccpConfigSoftKeySet
      rw [hi]
      exact modify_findIdx?_eq_map _ sets (pairwise_not_both_match hdistinct c.2) i hi
    rw [List.foldl_cons, hstep, ih _ (List.pairwise_map.mpr (hdistinct.imp fun hab => by rwa [hname, hname]))
      fun d hd => ?_, List.map_map]
    · refine List.map_congr_left fun s _ => ?_
      simp only [Function.comp_apply, hname, pairsNamed_cons, List.foldl_append, strcasecmpEq_comm c.2 s.name]
      split <;> rfl
    · obtain ⟨s, hs, hsel⟩ := hfound d (List.mem_cons_of_mem _ hd)
      exact ⟨_, List.mem_map_of_mem _ hs, by rwa [hname]⟩

/-! ## Reading a set's pairs twice -/

theorem foldl_max_succ_eq (ks : List Nat) :
    ∀ a, ks.foldl (fun acc k => max acc (k + 1)) a = max a (ks.foldl (fun acc k => max acc (k + 1)) 0) := by
  induction ks with
  | nil => intro a; simp
  | cons k ks ih => intro a; rw [List.foldl_cons, List.foldl_cons, ih, ih (max 0 (k + 1)), Nat.zero_max, Nat.max_assoc]

theorem foldl_softKeySetPair_twice (pairs : List (String × String)) (set : SoftKeySetConfiguration) :
    pairs.foldl (softKeySetPair env) (pairs.foldl (softKeySetPair env) set) = pairs.foldl (softKeySetPair env) set := by
  ext
  · rw [foldl_softKeySetPair_name]
  · rename_i m
    rw [foldl_softKeySetPair_modes env _ m pairs]
    split
    · -- a mode given a value holds the parse of the last one, both times
      rename_i p hp
      rw [foldl_softKeySetPair_modes, hp]
    · rfl
  · rw [foldl_softKeySetPair_count, foldl_softKeySetPair_count, foldl_max_succ_eq _ set.numberOfSoftKeySets,
      foldl_max_succ_eq _ (max _ _), Nat.max_assoc, Nat.max_self]
  · rw [foldl_softKeySetPair_pendingDelete, foldl_softKeySetPair_pendingDelete]

theorem foldl_softKeySetPair_preReload (pairs : List (String × String)) :
    ∀ set : SoftKeySetConfiguration,
      pairs.foldl (softKeySetPair env) (sccpSoftkeyPreReload set) =
        sccpSoftkeyPreReload (pairs.foldl (softKeySetPair env) set) := by
  induction pairs with
  | nil => intro set; rfl
  | cons p rest ih =>
    intro set
    have hstep : softKeySetPair env (sccpSoftkeyPreReload set) p = sccpSoftkeyPreReload (softKeySetPair env set p) := by
      unfold softKeySetPair
      split <;> rfl
    rw [List.foldl_cons, hstep, ih, List.foldl_cons]

/-- A reload of an unchanged file, over the softkey sets its first load built, when
every set name fits its field: each set is found and read again to the same modes
and count, in the same order, but stays marked for deletion, since
`sccp_config_softKeySet` never clears the mark `sccp_softkey_pre_reload` set. This
is the list the pass hands to the post-reload hooks. -/
theorem softKeySets_reload_marked (cfg : Config)
    (hshort : ∀ c ∈ softKeySetCalls cfg, c.2.length < env.softKeySetNameSize) (reg : Registry)
    (hreg : reg.softKeySets = softKeySetRun env (softKeySetCalls cfg)) :
    (sccpConfigReadDevicesLines env cfg .readReload reg).softKeySets =
      (softKeySetRun env (softKeySetCalls cfg)).map sccpSoftkeyPreReload := by
  have h := softKeySetRun_storeSpec env _ hshort
  have hfound : ∀ c ∈ softKeySetCalls cfg, ∃ s ∈ (softKeySetRun env (softKeySetCalls cfg)).map sccpSoftkeyPreReload,
      strcasecmpEq s.name c.2 = true := by
    intro c hc
    obtain ⟨s, hs, hsel⟩ := List.any_eq_true.mp
      ((h.named c.2).trans (List.any_eq_true.mpr ⟨c, hc, strcasecmpEq_self c.2⟩))
    exact ⟨_, List.mem_map_of_mem _ hs, hsel⟩
  rw [sccpConfigReadDevicesLines_softKeySets, reloadStart, if_pos rfl]
  dsimp only
  rw [hreg, foldl_sccpConfigSoftKeySet_of_found env _ ((softKeySetRun env (softKeySetCalls cfg)).map sccpSoftkeyPreReload)
    (List.pairwise_map.mpr h.distinct) hfound, List.map_map]
  refine List.map_congr_left fun s hs => ?_
  have hc := h.content s hs
  simp only [Function.comp_apply]
  rw [show (sccpSoftkeyPreReload s).name = s.name from rfl, foldl_softKeySetPair_preReload]
  generalize pairsNamed (softKeySetCalls cfg) s.name = ps at hc ⊢
  conv_lhs => rw [hc]
  rw [foldl_softKeySetPair_twice, ← hc]

def softKeyConfig : Config :=
  [⟨"myset", [("type", "softkeyset"), ("onhook", "redial,newcall"), ("connected", "endcall")]⟩,
    ⟨"other", [("type", "softkeyset"), ("ringin", "endcall")]⟩,
    ⟨"MYSET", [("type", "softkeyset"), ("onhook", "newcall")]⟩]

/-- A first load and a reload of it. -/
theorem softKeySets_after_reload :
    (∀ c ∈ softKeySetCalls softKeyConfig, c.2.length < sampleEnv.softKeySetNameSize) ∧
      (sccpConfigReadDevicesLines sampleEnv softKeyConfig .readInitial Registry.empty).softKeySets =
        softKeySetRun sampleEnv (softKeySetCalls softKeyConfig) ∧
      (sccpConfigReadDevicesLines sampleEnv softKeyConfig .readReload
          (sccpConfigReadDevicesLines sampleEnv softKeyConfig .readInitial Registry.empty)).softKeySets =
        (softKeySetRun sampleEnv (softKeySetCalls softKeyConfig)).map sccpSoftkeyPreReload :=
  have hload := sccpConfigReadDevicesLines_softKeySets sampleEnv softKeyConfig .readInitial Registry.empty
  ⟨by decide, hload, softKeySets_reload_marked sampleEnv softKeyConfig (by decide) _ hload⟩

/-! ## Names too long for the field -/

/-- A reload over softkey set names all too long for their field, from sets whose
names fit: no section finds its set. The pass hands the post-reload hooks one new,
unmarked set per softkey set section, under the name cut to the field, in front of
every set the registry had, in order and marked for deletion. -/
theorem softKeySets_long_names_recreated (cfg : Config) (hsize : 0 < env.softKeySetNameSize)
    (hlong : ∀ k ∈ cfg, isSoftKeySetSection k = true → env.softKeySetNameSize ≤ k.name.length) (reg : Registry)
    (hreg : ∀ s ∈ reg.softKeySets, s.name.length < env.softKeySetNameSize) :
    ((sccpConfigReadDevicesLines env cfg .readReload reg).softKeySets.map fun s => (s.name, s.pendingDelete)) =
      ((cfg.filter isSoftKeySetSection).map fun k => (sccpCopyString k.name env.softKeySetNameSize, false)).reverse ++
        reg.softKeySets.map (fun s => (s.name, true)) := by
  rw [readDevicesLines_softKeySets_run, findOrCreateRun_of_long isSoftKeySetSection
    (fun _ s => foldl_softKeySetPair_name env _ s) (fun n => sccpCopyString_length_lt n hsize) cfg hlong]
  · simp [Function.comp_def, reloadStart, sccpSoftkeyPreReload, foldl_softKeySetPair_name,
      foldl_softKeySetPair_pendingDelete, SoftKeySetConfiguration.empty]
  · simpa [reloadStart, sccpSoftkeyPreReload] using hreg

def longSoftKeyConfig : Config :=
  [⟨"softkeyset-with-a-name-longer-than-the-fifty-byte-field", [("type", "softkeyset"), ("onhook", "redial")]⟩]

/-- A first load and a reload: the old set, marked, beside a new one. -/
theorem softKeySets_long_name_reload :
    0 < sampleEnv.softKeySetNameSize ∧
      (∀ k ∈ longSoftKeyConfig, isSoftKeySetSection k = true → sampleEnv.softKeySetNameSize ≤ k.name.length) ∧
      (∀ s ∈ (sccpConfigReadDevicesLines sampleEnv longSoftKeyConfig .readInitial Registry.empty).softKeySets,
        s.name.length < sampleEnv.softKeySetNameSize) ∧
      ((sccpConfigReadDevicesLines sampleEnv longSoftKeyConfig .readReload
          (sccpConfigReadDevicesLines sampleEnv longSoftKeyConfig .readInitial Registry.empty)).softKeySets.map
          fun s => (s.name, s.pendingDelete)) =
        [("softkeyset-with-a-name-longer-than-the-fifty-byte", false),
          ("softkeyset-with-a-name-longer-than-the-fifty-byte", true)] := by
  have hreg : ∀ s ∈ (sccpConfigReadDevicesLines sampleEnv longSoftKeyConfig .readInitial Registry.empty).softKeySets,
      s.name.length < sampleEnv.softKeySetNameSize := by
    decide
  refine ⟨by decide, by decide, hreg, ?_⟩
  rw [softKeySets_long_names_recreated sampleEnv longSoftKeyConfig (by decide) (by decide) _ hreg]
  decide

end SccpConfig
