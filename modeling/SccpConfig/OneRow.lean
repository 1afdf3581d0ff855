import SccpConfig.ReloadRun
import SccpConfig.SetValueFlags

/-!
# Members one row reaches

The lists a device or a line accumulates, its buttons, add-ons and permitted
hosts and a line's mailboxes, are each reached by exactly one row of the table,
with flags NONE and no default. Such a member only moves with the pairs that name
its row: a pass over a section applies the row's converter to it once per such
pair, in order, and default resolution leaves it alone. A device's feature-status
restore does not touch it either.
-/

namespace SccpConfig

set_option autoImplicit false

theorem sccpFindConfig_congr {M : Type} (options : List (ConfigOption M)) {name name' : String}
    (h : strcasecmpEq name name' = true) : sccpFindConfig options name = sccpFindConfig options name' := by
  simp only [sccpFindConfig, strcasecmpEq_congr_right _ h]

section Row

variable (env : Env) {M : Type} [DecidableEq M] (options : List (ConfigOption M)) (size : M → Nat)

/-- `r` is the one row of the table reaching member `m`, as a whole, and the one
row with its name, compared without case. -/
structure OnlyRow (m : M) (r : ConfigOption M) : Prop where
  target : r.target = some (m, .whole)
  find : sccpFindConfig options r.name = some r
  only : ∀ o ∈ options, o.target.map Prod.fst = some m → o = r
  name : ∀ o ∈ options, strcasecmpEq o.name r.name = true → o = r

variable {options} {m : M} {r : ConfigOption M}

theorem setValueAt_of_onlyRow (h : OnlyRow options m r) (hflags : skipsByFlags r.flags = false)
    (name value : String) (cur : Value) :
    setValueAt env options size name value m cur =
      if strcasecmpEq r.name name then (setValueByType env r.type r.converter (size m) cur value).1 else cur := by
  unfold setValueAt
  cases hn : strcasecmpEq r.name name
  · -- another name: the row it finds, if any, reaches another member
    cases hf : sccpFindConfig options name with
    | none => rfl
    | some o =>
      dsimp only
      cases ht : o.target with
      | none => rfl
      | some t =>
        obtain ⟨m', view⟩ := t
        have hm : m ≠ m' := by
          rintro rfl
          have hor := h.only o (List.mem_of_find?_eq_some hf) (by simp [ht])
          subst hor
          rw [strcasecmpEq_of_sccpFindConfig hf] at hn
          exact absurd hn (by decide)
        simp [hm]
  · rw [← sccpFindConfig_congr options hn, h.find]
    simp [h.target, hflags]

theorem pairsAt_of_onlyRow (h : OnlyRow options m r) (hflags : skipsByFlags r.flags = false)
    (pairs : List (String × String)) :
    ∀ cur : Value, pairsAt env options size m pairs cur =
      (pairs.filter fun p => strcasecmpEq r.name p.1).foldl
        (fun cur p => (setValueByType env r.type r.converter (size m) cur p.2).1) cur := by
  induction pairs with
  | nil => intro cur; rfl
  | cons p rest ih =>
    intro cur
    rw [pairsAt, List.foldl_cons, ← pairsAt, ih, setValueAt_of_onlyRow env size h hflags, List.filter_cons]
    split <;> rfl

theorem passAt_of_onlyRow (h : OnlyRow options m r) (hnone : r.flags = ConfigFlag.none)
    (hdefault : r.defaultValue = none) (cfg : Config) (pairs : List (String × String)) (cur : Value) :
    passAt env options size cfg m pairs cur =
      (pairs.filter fun p => strcasecmpEq r.name p.1).foldl
        (fun cur p => (setValueByType env r.type r.converter (size m) cur p.2).1) cur := by
  have hflags : skipsByFlags r.flags = false := by rw [hnone]; decide
  rw [passAt, defaultsAt_of_inert env options size cfg m _ _ (some "") (Or.inr rfl),
    pairsAt_of_onlyRow env size h hflags]
  intro p hp hm
  obtain ⟨o, hfind, ho⟩ := Option.bind_eq_some.mp hm
  have hor := h.only o (List.mem_of_find?_eq_some hfind) ho
  subst hor
  obtain ⟨q, hq, rfl⟩ := List.mem_map.mp hp
  have hqr : q = o := h.name q hq (by rw [strcasecmpEq_comm]; exact strcasecmpEq_of_sccpFindConfig hfind)
  subst hqr
  rw [hnone, hdefault]
  exact ⟨by decide, by decide, rfl⟩

/-- The values of the pairs that name the row, in order. -/
def rowValues (r : ConfigOption M) (pairs : List (String × String)) : List String :=
  (pairs.filter fun p => strcasecmpEq r.name p.1).map Prod.snd

omit [DecidableEq M] in
theorem foldl_setValueByType_wrap {β : Type} (wrap : List β → Value) (f : List β → String → List β)
    (hconv : ∀ l v, (setValueByType env r.type r.converter (size m) (wrap l) v).1 = wrap (f l v))
    (ps : List (String × String)) :
    ∀ l, ps.foldl (fun cur p => (setValueByType env r.type r.converter (size m) cur p.2).1) (wrap l) =
      wrap ((ps.map Prod.snd).foldl f l) := by
  induction ps with
  | nil => intro l; rfl
  | cons p ps ih => intro l; rw [List.foldl_cons, hconv, ih]; rfl

theorem passAt_of_onlyRow_list (h : OnlyRow options m r) (hnone : r.flags = ConfigFlag.none)
    (hdefault : r.defaultValue = none) {β : Type} (wrap : List β → Value) (f : List β → String → List β)
    (hconv : ∀ l v, (setValueByType env r.type r.converter (size m) (wrap l) v).1 = wrap (f l v))
    (cfg : Config) (pairs : List (String × String)) (l : List β) :
    passAt env options size cfg m pairs (wrap l) = wrap ((rowValues r pairs).foldl f l) := by
  rw [passAt_of_onlyRow env size h hnone hdefault, foldl_setValueByType_wrap env size wrap f hconv]
  rfl

end Row

/-- The members `sccp_config_restoreDeviceFeatureStatus` writes. -/
def restoredMembers : List DeviceMember :=
  [.dndFeature, .monitorFeature, .privacyFeature, .lastNumber, .priFeature]

theorem restoreAt_other (env : Env) (id : String) (m : DeviceMember) (v : Value) (hm : m ∉ restoredMembers) :
    restoreAt env id m v = v := by
  simp only [restoredMembers, List.mem_cons, List.not_mem_nil, or_false, not_or] at hm
  obtain ⟨h1, h2, h3, h4, h5⟩ := hm
  unfold restoreAt sccpConfigRestoreDeviceFeatureStatus
  dsimp only
  cases env.featureGetFromDatabase ("SCCP/" ++ id) "lastDialedNumber" <;>
    simp only [Function.update_noteq h1, Function.update_noteq h2, Function.update_noteq h3,
      Function.update_noteq h4, Function.update_noteq h5]

end SccpConfig
