import SccpConfig.Converters

/-!
# Buttons

`sccp_config_addButton` and its caller `sccp_config_parse_button`. The button
list is searched for an entry that reload has marked for deletion and that has
the new button's type and label; such an entry is reused, with its index and its
place in the list. Otherwise a new entry is put at the tail, at the index the
caller gave. The entry is then merged with the new fields by the rule of its
type.
-/

namespace SccpConfig

set_option autoImplicit false

variable (env : Env)

/-- The test of the traversal in `sccp_config_addButton`, made when it was asked
for index `0`: an entry marked for deletion, of the same type and, unless the type
is EMPTY, the same label. -/
def reusable (type : ButtonType) (name : String) (c : ButtonConfig) : Bool :=
  c.pendingDelete && c.type == type && (c.type == .empty || c.label == name)

/-- The index of the last entry of a list, `0` for an empty one: `highest_index`
after a traversal. -/
def lastIndex (l : List ButtonConfig) : Int :=
  (l.getLast?.map ButtonConfig.index).getD 0

/-- The type switch of `sccp_config_addButton`: the entry after the merge and the
result, starting from `changes`. A button with no name, or without options when it
is not a line, becomes EMPTY and is reported invalid. -/
def buttonMerge (c : ButtonConfig) (changes : Nat) (type : ButtonType) (name : String)
    (options args : Option String) : ButtonConfig × Nat :=
  let sz := env.buttonSizes
  let cc := env.codes
  let faulty := name.isEmpty || (type != .line && options.isNone)
  let type := if faulty then ButtonType.empty else type
  let changes := if faulty then cc.changeInvalidValue else changes
  let opt := options.getD ""
  match type with
  | .line =>
    let cid := env.parseComposedId name
    if c.type = .line ∧ c.label = name ∧ c.lineName = cid.mainId ∧
        strcasecmpEq c.lineNumber cid.number ∧ c.lineSubscriptionName = cid.name ∧ c.lineAux = cid.aux then
      (c, cc.changeNoChange)
    else
      ({ c with
          type := .line, label := sccpCopyString name sz.label,
          lineName := sccpCopyString cid.mainId sz.lineName,
          lineNumber := sccpCopyString cid.number sz.lineNumber,
          lineSubscriptionName := sccpCopyString cid.name sz.lineSubscriptionName,
          lineAux := sccpCopyString cid.aux sz.lineAux,
          lineOptions := (options.map (fun o => sccpCopyString o sz.lineOptions)).getD c.lineOptions }, changes)
  | .speeddial =>
    if c.type = .speeddial ∧ c.label = name ∧ c.speeddialExt = opt ∧
        (args.isNone ∨ some c.speeddialHint = args) then
      (c, cc.changeNoChange)
    else
      ({ c with
          type := .speeddial, label := sccpCopyString name sz.label,
          speeddialExt := sccpCopyString opt sz.speeddialExt,
          speeddialHint := (args.map (fun o => sccpCopyString o sz.speeddialHint)).getD c.speeddialHint }, changes)
  | .service =>
    if c.type = .service ∧ c.label = name ∧ c.serviceUrl = opt then (c, cc.changeNoChange)
    else
      ({ c with
          type := .service, label := sccpCopyString name sz.label,
          serviceUrl := sccpCopyString opt sz.serviceUrl }, changes)
  | .feature =>
    if c.type = .feature ∧ c.label = name ∧ c.featureId = env.featureStr2featureID opt ∧
        (args.isNone ∨ some c.featureOptions = args) then
      (c, cc.changeNoChange)
    else
      ({ c with
          type := .feature, label := sccpCopyString name sz.label,
          featureId := env.featureStr2featureID opt,
          featureOptions := (args.map (fun o => sccpCopyString o sz.featureOptions)).getD c.featureOptions },
        changes)
  | .empty =>
    if c.type = .empty then (c, cc.changeNoChange) else ({ c with type := .empty }, changes)

/-- `sccp_config_addButton`: the list afterwards and the result. -/
def sccpConfigAddButton (list : List ButtonConfig) (index : Int) (type : ButtonType)
    (name : String) (options args : Option String) : List ButtonConfig × Nat :=
  let found := if index = 0 then list.findIdx? (reusable type name) else none
  match found with
  | some p =>
    let c := list.getD p (ButtonConfig.fresh 0)
    if c.index < 0 then
      let (c', r) := buttonMerge env (ButtonConfig.fresh (lastIndex (list.take p) + 1))
        env.codes.noUpdateNeeded type name options args
      (list ++ [c'], r)
    else
      let (c', r) := buttonMerge env { c with pendingDelete := false, pendingUpdate := true }
        env.codes.changeChanged type name options args
      (list.set p c', r)
  | none =>
    let index := if index < 0 then lastIndex list + 1 else index
    let (c', r) := buttonMerge env (ButtonConfig.fresh index) env.codes.noUpdateNeeded type name options args
    (list ++ [c'], r)

/-- Modelled from the spec: `sccp_buttontypes` (declared in a header that is not
among the sources) names the four button kinds, line, speeddial, service and
feature, and the empty kind used for malformed entries. -/
def sccpButtontypes : List (ButtonType × String) :=
  [(.line, "line"), (.speeddial, "speeddial"), (.service, "service"), (.feature, "feature"),
    (.empty, "empty")]

/-- The button type a type word names, compared without case. -/
def buttonTypeOf (word : String) : Option ButtonType :=
  (sccpButtontypes.find? (fun t => strcasecmpEq word t.2)).map Prod.fst

/-- The four fields `sccp_config_parse_button` cuts from a copy of the value with
`strsep`: type, name, option and the remaining arguments; a missing field is
NULL. -/
def buttonFields (value : String) : String × Option String × Option String × Option String :=
  let k := (sccpCopyString value 256).data
  let (ty, r1) := splitAtFirst ',' k
  match r1 with
  | none => (⟨ty⟩, none, none, none)
  | some r1 =>
    let (nm, r2) := splitAtFirst ',' r1
    match r2 with
    | none => (⟨ty⟩, some ⟨nm⟩, none, none)
    | some r2 =>
      let (op, r3) := splitAtFirst ',' r2
      (⟨ty⟩, some ⟨nm⟩, some ⟨op⟩, r3.map String.mk)

/-- `sccp_config_parse_button`: an unknown type word is rejected before the list
is touched; otherwise the button is added with index `0`. A missing name is the
type word itself. -/
def sccpConfigParseButton (list : List ButtonConfig) (value : String) : List ButtonConfig × Nat :=
  let (ty, nm, op, args) := buttonFields value
  match buttonTypeOf ty with
  | none => (list, env.codes.changeInvalidValue)
  | some type =>
    sccpConfigAddButton env list 0 type ((nm.map pbxStrip).getD ty) (op.map pbxStrip) (args.map pbxStrip)

end SccpConfig
