import SccpConfig.Button

/-!
# Button indices

`sccp_config_parse_button` always hands `sccp_config_addButton` index `0`. That
index makes the traversal look for a reusable entry marked for deletion, and when
there is none it is kept: the new entry goes to the tail at index `0`. The
`highest_index + 1` rule applies only to a negative index, which this caller never
passes. So on a device loaded for the first time every button sits at index `0`.
-/

namespace SccpConfig

set_option autoImplicit false

variable (env : Env)

theorem buttonMerge_index (c : ButtonConfig) (changes : Nat) (type : ButtonType) (name : String)
    (options args : Option String) : (buttonMerge env c changes type name options args).1.index = c.index := by
  unfold buttonMerge
  dsimp only
  split <;> (try split) <;> rfl

theorem buttonMerge_pendingDelete (c : ButtonConfig) (changes : Nat) (type : ButtonType) (name : String)
    (options args : Option String) :
    (buttonMerge env c changes type name options args).1.pendingDelete = c.pendingDelete := by
  unfold buttonMerge
  dsimp only
  split <;> (try split) <;> rfl

/-- An entry as a first load leaves it: at index `0` and not marked for deletion. -/
def FreshButton (c : ButtonConfig) : Prop :=
  c.index = 0 ∧ c.pendingDelete = false

theorem sccpConfigParseButton_of_fresh (l : List ButtonConfig) (hl : ∀ c ∈ l, FreshButton c) (value : String) :
    (∀ c ∈ (sccpConfigParseButton env l value).1, FreshButton c) ∧
      (sccpConfigParseButton env l value).1.length =
        l.length + if (buttonTypeOf (buttonFields value).1).isSome then 1 else 0 := by
  unfold sccpConfigParseButton
  dsimp only
  cases htype : buttonTypeOf (buttonFields value).1 with
  | none => exact ⟨hl, rfl⟩
  | some type =>
    have hnone : l.findIdx? (reusable type ((buttonFields value).2.1.map pbxStrip |>.getD
        (buttonFields value).1)) = none := by
      rw [List.findIdx?_eq_none_iff]
      intro c hc
      simp [reusable, (hl c hc).2]
    simp only [sccpConfigAddButton, if_true, hnone]
    refine ⟨fun c hc => ?_, by simp⟩
    rcases List.mem_append.mp hc with hc | hc
    · exact hl c hc
    · rw [List.mem_singleton] at hc
      subst hc
      exact ⟨by rw [buttonMerge_index]; rfl, by rw [buttonMerge_pendingDelete]; rfl⟩

theorem foldl_sccpConfigParseButton_of_fresh (vs : List String) :
    ∀ l : List ButtonConfig, (∀ c ∈ l, FreshButton c) →
      (∀ c ∈ vs.foldl (fun l v => (sccpConfigParseButton env l v).1) l, FreshButton c) ∧
        (vs.foldl (fun l v => (sccpConfigParseButton env l v).1) l).length =
          l.length + vs.countP fun v => (buttonTypeOf (buttonFields v).1).isSome := by
  induction vs with
  | nil => intro l hl; exact ⟨hl, rfl⟩
  | cons v rest ih =>
    intro l hl
    obtain ⟨hfresh, hlen⟩ := sccpConfigParseButton_of_fresh env l hl v
    obtain ⟨hfresh', hlen'⟩ := ih _ hfresh
    refine ⟨hfresh', ?_⟩
    rw [List.foldl_cons, hlen', hlen, List.countP_cons]
    omega

/-- Button lines read into a device's empty list, as a first load does: every
recognised line adds one entry, and every entry is at index `0`. -/
theorem sccpConfigParseButton_indices_all_zero (lines : List String) :
    (lines.foldl (fun l v => (sccpConfigParseButton env l v).1) []).map ButtonConfig.index =
      List.replicate (lines.countP fun v => (buttonTypeOf (buttonFields v).1).isSome) 0 := by
  obtain ⟨hfresh, hlen⟩ := foldl_sccpConfigParseButton_of_fresh env lines [] (by simp)
  rw [List.eq_replicate_iff]
  exact ⟨by simp [hlen], fun i hi => by
    obtain ⟨c, hc, rfl⟩ := List.mem_map.mp hi
    exact (hfresh c hc).1⟩

end SccpConfig
