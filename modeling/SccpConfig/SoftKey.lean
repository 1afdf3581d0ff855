import SccpConfig.Defaults

/-!
# Softkey sets

`sccp_config_softKeySet` reads a `type=softkeyset` section into the set of that
name, compared without case, creating the set at the head of `softKeySetConfig`
when there is none. Each pair whose name is a key mode replaces that mode with
the labels `sccp_config_readSoftSet` parses from its value. The set's
`pendingDelete` flag is neither read nor written.
-/

namespace SccpConfig

set_option autoImplicit false

variable (env : Env)

/-- `StationMaxSoftKeySetDefinition`. -/
def stationMaxSoftKeySetDefinition : Nat := 16

/-- `sccp_config_getSoftkeyLbl`: the label id of the first template entry with the
word, compared without case; `SKINNY_LBL_EMPTY` for an unknown word. -/
def sccpConfigGetSoftkeyLbl (key : String) : Nat :=
  ((env.softKeyTemplate.find? fun t => strcasecmpEq t.1 key).map Prod.snd).getD env.lblEmpty

/-- The `while` loop of `sccp_config_readSoftSet`: `strsep` is called before the
bound `(i + 1) < StationMaxSoftKeySetDefinition` is tested, so at most fifteen
labels are stored. -/
def readSoftSetLoop : List String → Nat → List Nat → List Nat × Nat
  | [], i, out => (out, i)
  | label :: rest, i, out =>
    if i + 1 < stationMaxSoftKeySetDefinition then
      readSoftSetLoop rest (i + 1) (out.set i (sccpConfigGetSoftkeyLbl env label))
    else (out, i)

/-- `sccp_config_readSoftSet` on the array it is given and a non-NULL value: the
array afterwards and the count returned. The padding loop starts at `i + 1`.
Copying a value of 256 characters or more overruns the local buffer; that is not
modelled. -/
def sccpConfigReadSoftSet (softkeyset : List Nat) (data : String) : List Nat × Nat :=
  let (out, i) := readSoftSetLoop env (strsepPieces data ',') 0 softkeyset
  (out.mapIdx fun j x => if i + 1 ≤ j ∧ j < stationMaxSoftKeySetDefinition then env.lblEmpty else x, i)

/-- `softkey_modes`: a mode of a set, its labels (NULL for none) and their count. -/
structure SoftkeyModes where
  id : Nat
  ptr : Option (List Nat)
  count : Nat
  deriving DecidableEq, Repr

/-- `sccp_softKeySetConfiguration_t`, with the `pendingDelete` flag that, by the
file's own description, `sccp_softkey_pre_reload` sets. -/
structure SoftKeySetConfiguration where
  name : String
  modes : Nat → SoftkeyModes
  numberOfSoftKeySets : Nat
  pendingDelete : Bool

/-- A set as `sccp_calloc` gives it, before its name is copied in. -/
def SoftKeySetConfiguration.empty (name : String) : SoftKeySetConfiguration :=
  ⟨name, fun _ => ⟨0, none, 0⟩, 0, false⟩

/-- The key mode of a pair name, `KEYMODE_*`; none for `type` and every other name. -/
def keyModeOf (name : String) : Option Nat :=
  if strcasecmpEq name "onhook" then some 0
  else if strcasecmpEq name "connected" then some 1
  else if strcasecmpEq name "onhold" then some 2
  else if strcasecmpEq name "ringin" then some 3
  else if strcasecmpEq name "offhook" then some 4
  else if strcasecmpEq name "conntrans" then some 5
  else if strcasecmpEq name "digitsfoll" then some 6
  else if strcasecmpEq name "connconf" then some 7
  else if strcasecmpEq name "ringout" then some 8
  else if strcasecmpEq name "offhookfeat" then some 9
  else if strcasecmpEq name "onhint" then some 10
  else none

/-- The mode entry a value gives: the labels parsed into a fresh zeroed array. -/
def modeEntry (prev : SoftkeyModes) (keyMode : Nat) (value : String) : SoftkeyModes :=
  let r := sccpConfigReadSoftSet env (List.replicate stationMaxSoftKeySetDefinition 0) value
  if 0 < r.2 then ⟨keyMode, some r.1, r.2⟩ else { prev with ptr := none, count := 0 }

/-- One pair of the section applied to the set. `SoftKeyModes[i].id` is `i` for the
twelve modes, so the mode entry written is the key mode's own. -/
def softKeySetPair (set : SoftKeySetConfiguration) (p : String × String) : SoftKeySetConfiguration :=
  match keyModeOf p.1 with
  | none => set
  | some k =>
    { set with
      numberOfSoftKeySets := max set.numberOfSoftKeySets (k + 1),
      modes := Function.update set.modes k (modeEntry env (set.modes k) k p.2) }

/-- `sccp_config_softKeySet` on the list `softKeySetConfig`. -/
def sccpConfigSoftKeySet (sets : List SoftKeySetConfiguration) (pairs : List (String × String))
    (name : String) : List SoftKeySetConfiguration :=
  match sets.findIdx? (fun s => strcasecmpEq s.name name) with
  | some i => sets.modify (fun s => pairs.foldl (softKeySetPair env) s) i
  | none =>
    pairs.foldl (softKeySetPair env) (.empty (sccpCopyString name env.softKeySetNameSize)) :: sets

end SccpConfig
