import SccpConfig.SetValueReport

/-!
# The flag switch of setValue

`sccp_config_object_setValue` compares an option's flags with `switch (flags)`,
so only a flag set equal to one of the cases matters. IGNORE and OBSOLETE return
before the write; CHANGED and DEPRECATED log a notice and fall through into
OBSOLETE's return, so an option flagged DEPRECATED alone is never applied. Any
other flag set, a combination such as DEPRECATED together with
GET_GLOBAL_DEFAULT included, matches no case and is applied as with flags NONE.
The REQUIRED case rejects only a NULL value, which no caller passes: an empty value
of a required STRING option is copied like any other.
-/

namespace SccpConfig

set_option autoImplicit false

variable (env : Env)

theorem sccpFindConfig_singleton {M : Type} (o : ConfigOption M) (name : String) (h : strcasecmpEq o.name name = true) :
    sccpFindConfig [o] name = some o := by
  simp [sccpFindConfig, h]

theorem strcasecmpEq_of_sccpFindConfig {M : Type} {options : List (ConfigOption M)} {name : String}
    {o : ConfigOption M} (h : sccpFindConfig options name = some o) : strcasecmpEq o.name name = true := by
  unfold sccpFindConfig at h
  have hfound := List.find?_some h
  exact hfound

section Flags
variable {M : Type} [DecidableEq M]

theorem sccpConfigObjectSetValue_flag_switch (options : List (ConfigOption M)) (size : M → Nat) (obj : M → Value)
    (name value : String) (o : ConfigOption M) (hfind : sccpFindConfig options name = some o) :
    sccpConfigObjectSetValue env options size obj name value =
      if skipsByFlags o.flags then (obj, env.codes.noUpdateNeeded)
      else sccpConfigObjectSetValue env [{ o with flags := ConfigFlag.none }] size obj name value := by
  have hname := strcasecmpEq_of_sccpFindConfig hfind
  unfold sccpConfigObjectSetValue
  rw [hfind, sccpFindConfig_singleton { o with flags := ConfigFlag.none } name hname]
  dsimp only
  cases o.target with
  | none => simp
  | some t =>
    obtain ⟨m, view⟩ := t
    have hnone : skipsByFlags ConfigFlag.none = false := by decide
    split <;> simp_all

/-- An option flagged exactly DEPRECATED or exactly CHANGED never changes the object. -/
theorem sccpConfigObjectSetValue_deprecated_skipped (options : List (ConfigOption M)) (size : M → Nat)
    (obj : M → Value) (name value : String) (o : ConfigOption M) (hfind : sccpFindConfig options name = some o)
    (hflags : o.flags = ConfigFlag.deprecated ∨ o.flags = ConfigFlag.changed) :
    sccpConfigObjectSetValue env options size obj name value = (obj, env.codes.noUpdateNeeded) := by
  rw [sccpConfigObjectSetValue_flag_switch env options size obj name value o hfind, if_pos]
  rcases hflags with h | h <;> rw [h] <;> decide

theorem sccpConfigObjectSetValue_string_empty (options : List (ConfigOption M)) (size : M → Nat) (obj : M → Value)
    (name : String) (o : ConfigOption M) (m : M) (s : String) (hfind : sccpFindConfig options name = some o)
    (htarget : o.target = some (m, .whole)) (htype : o.type = .string) (hflags : skipsByFlags o.flags = false)
    (hs : obj m = .string s) :
    sccpConfigObjectSetValue env options size obj name "" =
      (Function.update obj m (.string ""), if s = "" then env.codes.noUpdateNeeded else env.codes.changeChanged) := by
  have hne : strcasecmpEq s "" = decide (s = "") := by
    obtain ⟨cs⟩ := s
    cases cs <;> simp [strcasecmpEq, String.ext_iff]
  unfold sccpConfigObjectSetValue
  simp only [hfind, htarget, hflags, Bool.false_eq_true, if_false, View.get_whole, View.put_whole, hs, htype]
  by_cases he : s = ""
  · simp [setValueByType, hne, he]
  · simp [setValueByType, hne, he, sccpCopyString]

end Flags

/-- The line option `test2`, DEPRECATED, on a new line: the line is left as it was. -/
theorem sccpConfigObjectSetValue_test2_skipped :
    sccpFindConfig sccpLineConfigOptions "test2" =
        some ⟨"test2", whole .regexten, .string, ConfigFlag.deprecated, .noUpdateNeeded, none, none⟩ ∧
      (ConfigFlag.deprecated = ConfigFlag.deprecated ∨ ConfigFlag.deprecated = ConfigFlag.changed) ∧
      sccpConfigObjectSetValue sampleEnv sccpLineConfigOptions sampleEnv.lineSize (fun m => m.kind.zero)
          "test2" "9000" = ((fun m => m.kind.zero), sampleEnv.codes.noUpdateNeeded) :=
  ⟨by decide, Or.inl rfl,
    sccpConfigObjectSetValue_deprecated_skipped sampleEnv _ _ _ _ _
      ⟨"test2", whole .regexten, .string, ConfigFlag.deprecated, .noUpdateNeeded, none, none⟩ (by decide) (Or.inl rfl)⟩

theorem Value.eq_string_of_kind {v : Value} (h : v.kind = .string) : ∃ s, v = .string s := by
  cases v <;> simp_all [Value.kind]

theorem requiredLineOptions_string_rows :
    ∀ o ∈ sccpLineConfigOptions, o.flags = ConfigFlag.required →
      sccpFindConfig sccpLineConfigOptions o.name = some o ∧ o.type = .string ∧ skipsByFlags o.flags = false ∧
        o.target.map (fun t => (t.1.kind, t.2)) = some (.string, .whole) := by
  decide

/-- Every REQUIRED option of the line table given an empty value: its member is
emptied, and the result is not SCCP_CONFIG_CHANGE_INVALIDVALUE. -/
theorem sccpConfigObjectSetValue_required_empty_stored (obj : LineMember → Value)
    (hobj : ∀ m, (obj m).kind = m.kind) :
    ∀ o ∈ sccpLineConfigOptions, o.flags = ConfigFlag.required →
      ∃ m, o.target = some (m, .whole) ∧
        (sccpConfigObjectSetValue env sccpLineConfigOptions env.lineSize obj o.name "").1 =
          Function.update obj m (.string "") ∧
        (sccpConfigObjectSetValue env sccpLineConfigOptions env.lineSize obj o.name "").2 ≠
          env.codes.changeInvalidValue := by
  intro o ho hreq
  obtain ⟨hfind, htype, hflags, hrow⟩ := requiredLineOptions_string_rows o ho hreq
  obtain ⟨⟨m, view⟩, htarget, hkind⟩ := Option.map_eq_some'.mp hrow
  simp only [Prod.mk.injEq] at hkind
  obtain ⟨hmkind, rfl⟩ := hkind
  obtain ⟨s, hs⟩ := Value.eq_string_of_kind ((hobj m).trans hmkind)
  rw [sccpConfigObjectSetValue_string_empty env _ _ _ _ o m s hfind htarget htype hflags hs]
  refine ⟨m, htarget, rfl, ?_⟩
  split
  · rw [env.codes.noUpdateNeeded_eq]; exact env.codes.changeInvalidValue_ne.symm
  · exact env.codes.changeChanged_ne_invalid

def labelledLine : LineMember → Value :=
  Function.update (fun m => m.kind.zero) .label (.string "Line 100")

/-- `label =` (empty) on that line: the label is emptied. -/
theorem sccpConfigObjectSetValue_label_emptied :
    (∀ m, (labelledLine m).kind = m.kind) ∧
      (⟨"label", whole .label, .string, ConfigFlag.required, .needDeviceReset, none, none⟩ : ConfigOption LineMember) ∈
        sccpLineConfigOptions ∧
      ∃ m, (whole LineMember.label) = some (m, .whole) ∧
        (sccpConfigObjectSetValue sampleEnv sccpLineConfigOptions sampleEnv.lineSize labelledLine "label" "").1 =
          Function.update labelledLine m (.string "") ∧
        (sccpConfigObjectSetValue sampleEnv sccpLineConfigOptions sampleEnv.lineSize labelledLine "label" "").2 ≠
          sampleEnv.codes.changeInvalidValue := by
  have hkind : ∀ m, (labelledLine m).kind = m.kind := by
    intro m
    by_cases h : m = .label
    · subst h; rfl
    · simp [labelledLine, Function.update_noteq h]
  have hmem : (⟨"label", whole .label, .string, ConfigFlag.required, .needDeviceReset, none, none⟩ :
      ConfigOption LineMember) ∈ sccpLineConfigOptions := by decide
  exact ⟨hkind, hmem, sccpConfigObjectSetValue_required_empty_stored sampleEnv labelledLine hkind _ hmem rfl⟩

end SccpConfig
