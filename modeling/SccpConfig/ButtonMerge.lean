import SccpConfig.Button
import SccpConfig.SetValueReport

/-!
# Merging a button

What `sccp_config_addButton` reports and stores when it reuses a LINE entry. The
entry is compared on its label and the parts of its composed id only: when they
match, both inner branches of the options test set NOCHANGE and leave the switch
before the copy, so new options are neither stored nor reported.
-/

namespace SccpConfig

set_option autoImplicit false

variable (env : Env)

theorem reusable_of_findIdx? {list : List ButtonConfig} {type : ButtonType} {name : String} {p : Nat}
    (hp : list.findIdx? (reusable type name) = some p) :
    p < list.length ∧ reusable type name (list.getD p (ButtonConfig.fresh 0)) = true := by
  obtain ⟨hlt, hreuse, -⟩ := List.findIdx?_eq_some_iff_getElem.mp hp
  refine ⟨hlt, ?_⟩
  rw [List.getD_eq_getElem?_getD, List.getElem?_eq_getElem hlt, Option.getD_some]
  exact hreuse

theorem reusable_line {name : String} {c : ButtonConfig} (h : reusable .line name c = true) :
    c.pendingDelete = true ∧ c.type = .line ∧ c.label = name := by
  simp only [reusable, Bool.and_eq_true, beq_iff_eq, Bool.or_eq_true] at h
  obtain ⟨⟨hd, ht⟩, hl⟩ := h
  rw [ht] at hl
  exact ⟨hd, ht, by simpa using hl⟩

/-- A LINE button whose label and composed id match an entry marked for deletion
reuses it, keeps its options whatever options are given, and reports NOCHANGE. -/
theorem sccpConfigAddButton_line_options_unreported (list : List ButtonConfig) (p : Nat) (c : ButtonConfig)
    (name opts : String) (args : Option String)
    (hp : list.findIdx? (reusable .line name) = some p) (hc : list.getD p (ButtonConfig.fresh 0) = c)
    (hindex : 0 ≤ c.index) (hname : name.isEmpty = false)
    (hids : c.lineName = (env.parseComposedId name).mainId ∧
      strcasecmpEq c.lineNumber (env.parseComposedId name).number = true ∧
      c.lineSubscriptionName = (env.parseComposedId name).name ∧ c.lineAux = (env.parseComposedId name).aux) :
    sccpConfigAddButton env list 0 .line name (some opts) args =
      (list.set p { c with pendingDelete := false, pendingUpdate := true }, env.codes.changeNoChange) := by
  obtain ⟨-, hreuse⟩ := reusable_of_findIdx? hp
  rw [hc] at hreuse
  obtain ⟨-, htype, hlabel⟩ := reusable_line hreuse
  simp only [sccpConfigAddButton, if_pos, hp, hc, if_neg (show ¬c.index < 0 by omega)]
  simp [buttonMerge, hname, htype, hlabel, hids]

def lineButton100 : ButtonConfig :=
  { ButtonConfig.fresh 1 with label := "100", pendingDelete := true, lineName := "100", lineOptions := "default" }

/-- `button = line, 100, other` on a reload: the entry keeps options `default` and
the change is reported as NOCHANGE. -/
theorem sccpConfigAddButton_line_options_other :
    [lineButton100].findIdx? (reusable .line "100") = some 0 ∧
      [lineButton100].getD 0 (ButtonConfig.fresh 0) = lineButton100 ∧ 0 ≤ lineButton100.index ∧
      "100".isEmpty = false ∧
      (lineButton100.lineName = (sampleEnv.parseComposedId "100").mainId ∧
        strcasecmpEq lineButton100.lineNumber (sampleEnv.parseComposedId "100").number = true ∧
        lineButton100.lineSubscriptionName = (sampleEnv.parseComposedId "100").name ∧
        lineButton100.lineAux = (sampleEnv.parseComposedId "100").aux) ∧
      sccpConfigAddButton sampleEnv [lineButton100] 0 .line "100" (some "other") none =
        ([{ lineButton100 with pendingDelete := false, pendingUpdate := true }], sampleEnv.codes.changeNoChange) :=
  ⟨by decide, rfl, by decide, rfl, ⟨rfl, by decide, rfl, rfl⟩,
    sccpConfigAddButton_line_options_unreported sampleEnv _ 0 _ _ _ _ (by decide) rfl (by decide) rfl
      ⟨rfl, by decide, rfl, rfl⟩⟩

end SccpConfig
