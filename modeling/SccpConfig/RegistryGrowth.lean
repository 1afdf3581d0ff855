import SccpConfig.SoftKeyReload

/-!
# A pass never removes an object

`sccp_config_readDevicesLines` finds each device, line and softkey set of the file
by name and rebuilds it in place, or creates it; deleting what the file no longer
names is left to the post-reload hooks, which act on the marks the pass leaves.
Up to those hooks, one pass, first load or reload, therefore keeps the ids of the
devices, the names of the lines and the names of the softkey sets the registry
had, in their order, and every key the registry has after it is one it had or the
copy of a section name of the kind.
-/

namespace SccpConfig

set_option autoImplicit false

/-! ## Keys that grow -/

/-- How a list of keys grows: every key it had is kept, in order, and every key it
has is one it had or one `fresh` accounts for. -/
structure KeysGrow (before after : List String) (fresh : String → Prop) : Prop where
  kept : before.Sublist after
  named : ∀ n ∈ after, n ∈ before ∨ fresh n

theorem KeysGrow.refl (keys : List String) (fresh : String → Prop) : KeysGrow keys keys fresh :=
  ⟨List.Sublist.refl _, fun _ hn => Or.inl hn⟩

theorem KeysGrow.of_eq {before after : List String} {fresh : String → Prop} (h : after = before) :
    KeysGrow before after fresh :=
  h ▸ KeysGrow.refl before fresh

theorem KeysGrow.trans {a b c : List String} {f g : String → Prop} (hab : KeysGrow a b f) (hbc : KeysGrow b c g) :
    KeysGrow a c fun n => f n ∨ g n where
  kept := hab.kept.trans hbc.kept
  named n hn := (hbc.named n hn).elim (fun hb => (hab.named n hb).imp_right Or.inl) (fun hg => Or.inr (Or.inr hg))

theorem KeysGrow.mono {before after : List String} {f g : String → Prop} (h : KeysGrow before after f)
    (hfg : ∀ n, f n → g n) : KeysGrow before after g :=
  ⟨h.kept, fun n hn => (h.named n hn).imp_right (hfg n)⟩

/-! ## Find or create -/

section FindOrCreate

variable {α β : Type} {key : α → String} {name : β → String} {create : String → α} {update : β → α → α}

theorem keysGrow_findOrCreate (hkey : ∀ k a, key (update k a) = key a) (l : List α) (k : β) :
    KeysGrow (l.map key) ((findOrCreate key name create update l k).map key) (· = key (create (name k))) := by
  unfold findOrCreate
  split
  · refine ⟨List.sublist_cons_self _ _, fun n hn => ?_⟩
    rw [List.map_cons, hkey, List.mem_cons] at hn
    exact hn.symm
  · exact KeysGrow.of_eq (map_modify_of_key (hkey k) l _)

theorem keysGrow_findOrCreateRun (hkey : ∀ k a, key (update k a) = key a) (sel : β → Bool) (ks : List β) :
    ∀ l : List α, KeysGrow (l.map key) ((findOrCreateRun key name create update sel l ks).map key)
      fun n => ∃ k ∈ ks, sel k = true ∧ n = key (create (name k)) := by
  induction ks with
  | nil => intro l; exact KeysGrow.refl _ _
  | cons k rest ih =>
    intro l
    rw [findOrCreateRun_cons]
    have hstep : KeysGrow (l.map key) ((if sel k then findOrCreate key name create update l k else l).map key)
        fun n => sel k = true ∧ n = key (create (name k)) := by
      split
      · rename_i hs
        exact (keysGrow_findOrCreate hkey l k).mono fun n hn => ⟨hs, hn⟩
      · exact KeysGrow.refl _ _
    refine (hstep.trans (ih _)).mono fun n hn => ?_
    rcases hn with hn | ⟨k', hk', hn⟩
    · exact ⟨k, List.mem_cons_self _ _, hn⟩
    · exact ⟨k', List.mem_cons_of_mem _ hk', hn⟩

end FindOrCreate

/-! ## One pass -/

variable (env : Env)

/-- Whether `n` is the copy, into an array of `size` bytes, of the name of a section
of `cfg` that `sel` picks. -/
def sectionCopy (sel : Category → Bool) (size : Nat) (cfg : Config) (n : String) : Prop :=
  ∃ k ∈ cfg, sel k = true ∧ n = sccpCopyString k.name size

/-- One pass, first load or reload, up to the post-reload hooks: the devices, lines
and softkey sets keep their keys in order, and every key the pass adds is a section
name of the kind, copied into its array. Nothing is removed or renamed before the
hooks. -/
theorem readDevicesLines_keys_grow (cfg : Config) (readingtype : ReadingType) (reg : Registry) :
    KeysGrow (reg.devices.map Device.id) ((sccpConfigReadDevicesLines env cfg readingtype reg).devices.map Device.id)
        (sectionCopy isDeviceSection env.deviceIdSize cfg) ∧
      KeysGrow (reg.lines.map Line.name) ((sccpConfigReadDevicesLines env cfg readingtype reg).lines.map Line.name)
        (sectionCopy isLineSection env.lineNameSize cfg) ∧
      KeysGrow (reg.softKeySets.map SoftKeySetConfiguration.name)
        ((sccpConfigReadDevicesLines env cfg readingtype reg).softKeySets.map SoftKeySetConfiguration.name)
        (sectionCopy isSoftKeySetSection env.softKeySetNameSize cfg) := by
  refine ⟨?_, ?_, ?_⟩
  · rw [readDevicesLines_device_ids, ← reloadStart_device_ids readingtype reg]
    exact keysGrow_findOrCreateRun (deviceUpdate_id env cfg) _ _ _
  · rw [sccpConfigReadDevicesLines_lines, ← reloadStart_line_names readingtype reg]
    exact keysGrow_findOrCreateRun (lineUpdate_name env cfg) _ _ _
  · have hstart : (reloadStart readingtype reg).softKeySets.map SoftKeySetConfiguration.name =
        reg.softKeySets.map SoftKeySetConfiguration.name := by
      unfold reloadStart
      split <;> simp [Function.comp_def, sccpSoftkeyPreReload]
    rw [readDevicesLines_softKeySets_run, ← hstart]
    exact keysGrow_findOrCreateRun (fun _ s => foldl_softKeySetPair_name env _ s) _ _ _

end SccpConfig
