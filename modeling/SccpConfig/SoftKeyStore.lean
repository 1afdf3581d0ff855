import SccpConfig.SoftKey
import SccpConfig.SetValueReport

/-!
# The softkey store

`softKeySetConfig` after any sequence of `sccp_config_softKeySet` calls from the
empty list, compared with what the calls ask for: one set per name, compared
without case, whose modes hold the parse of the last value given for them and
whose `numberOfSoftKeySets` is one past the largest mode given. Each set is the
fold of every pair given under its name (`StoreSpec`), which one call keeps. The
name is stored in a fixed-size field and looked up untruncated, so the store
keeps to this only for names shorter than the field.
-/

namespace SccpConfig

set_option autoImplicit false

variable (env : Env)

/-! ## One set -/

theorem readSoftSetLoop_ge (labels : List String) :
    ∀ (i : Nat) (out : List Nat), i ≤ (readSoftSetLoop env labels i out).2 := by
  induction labels with
  | nil => intro i out; exact le_refl _
  | cons label rest ih =>
    intro i out
    simp only [readSoftSetLoop]
    split
    · exact Nat.le_of_succ_le (ih (i + 1) _)
    · exact le_refl _

theorem sccpConfigReadSoftSet_count_pos (softkeyset : List Nat) (data : String) :
    0 < (sccpConfigReadSoftSet env softkeyset data).2 := by
  unfold sccpConfigReadSoftSet
  obtain ⟨label, rest, hpieces⟩ := List.exists_cons_of_ne_nil (strsepPieces_ne_nil data ',')
  rw [hpieces]
  exact Nat.lt_of_lt_of_le Nat.one_pos (readSoftSetLoop_ge env rest 1 _)

theorem modeEntry_eq (prev : SoftkeyModes) (keyMode : Nat) (value : String) :
    modeEntry env prev keyMode value =
      ⟨keyMode, some (sccpConfigReadSoftSet env (List.replicate stationMaxSoftKeySetDefinition 0) value).1,
        (sccpConfigReadSoftSet env (List.replicate stationMaxSoftKeySetDefinition 0) value).2⟩ := by
  simp [modeEntry, sccpConfigReadSoftSet_count_pos]

theorem softKeySetPair_name (set : SoftKeySetConfiguration) (p : String × String) :
    (softKeySetPair env set p).name = set.name := by
  unfold softKeySetPair
  split <;> rfl

theorem foldl_softKeySetPair_name (pairs : List (String × String)) :
    ∀ set : SoftKeySetConfiguration, (pairs.foldl (softKeySetPair env) set).name = set.name := by
  induction pairs with
  | nil => intro set; rfl
  | cons p rest ih => intro set; rw [List.foldl_cons, ih, softKeySetPair_name]

theorem softKeySetPair_pendingDelete (set : SoftKeySetConfiguration) (p : String × String) :
    (softKeySetPair env set p).pendingDelete = set.pendingDelete := by
  unfold softKeySetPair
  split <;> rfl

theorem foldl_softKeySetPair_pendingDelete (pairs : List (String × String)) :
    ∀ set : SoftKeySetConfiguration, (pairs.foldl (softKeySetPair env) set).pendingDelete = set.pendingDelete := by
  induction pairs with
  | nil => intro set; rfl
  | cons p rest ih => intro set; rw [List.foldl_cons, ih, softKeySetPair_pendingDelete]

theorem foldl_softKeySetPair_modes (set : SoftKeySetConfiguration) (m : Nat) (pairs : List (String × String)) :
    (pairs.foldl (softKeySetPair env) set).modes m =
      match pairs.reverse.find? (fun p => keyModeOf p.1 = some m) with
      | some p =>
        ⟨m, some (sccpConfigReadSoftSet env (List.replicate stationMaxSoftKeySetDefinition 0) p.2).1,
          (sccpConfigReadSoftSet env (List.replicate stationMaxSoftKeySetDefinition 0) p.2).2⟩
      | none => set.modes m := by
  induction pairs using List.reverseRecOn with
  | nil => rfl
  | append_singleton l p ih =>
    rw [List.foldl_append, List.foldl_cons, List.foldl_nil, List.reverse_append, List.reverse_singleton,
      List.singleton_append, List.find?_cons]
    generalize l.foldl (softKeySetPair env) set = S at ih ⊢
    unfold softKeySetPair
    cases hk : keyModeOf p.1 with
    | none => simpa using ih
    | some k =>
      by_cases hkm : k = m
      · subst hkm; simp [modeEntry_eq]
      · simp [Function.update_noteq (Ne.symm hkm), hkm, ih]

theorem foldl_softKeySetPair_count (pairs : List (String × String)) :
    ∀ set : SoftKeySetConfiguration, (pairs.foldl (softKeySetPair env) set).numberOfSoftKeySets =
      (pairs.filterMap fun p => keyModeOf p.1).foldl (fun acc k => max acc (k + 1)) set.numberOfSoftKeySets := by
  induction pairs with
  | nil => intro set; rfl
  | cons p rest ih =>
    intro set
    rw [List.foldl_cons, ih, List.filterMap_cons]
    unfold softKeySetPair
    cases keyModeOf p.1 <;> rfl

/-! ## The list of sets -/

theorem modify_findIdx?_eq_map {α : Type} {p : α → Bool} (f : α → α) (l : List α)
    (huniq : l.Pairwise fun a b => ¬ (p a = true ∧ p b = true)) :
    ∀ i, l.findIdx? p = some i → l.modify f i = l.map fun a => if p a then f a else a := by
  induction l with
  | nil => intro i h; cases h
  | cons x xs ih =>
    intro i h
    rw [List.pairwise_cons] at huniq
    rw [List.findIdx?_cons] at h
    by_cases hx : p x
    · simp only [hx, if_true, Option.some.injEq] at h
      subst h
      have hxs : xs.map (fun a => if p a then f a else a) = xs :=
        (List.map_congr_left fun a ha => by
          simp [show p a = false by simpa [hx] using huniq.1 a ha]).trans (List.map_id xs)
      simp [hx, hxs]
    · simp only [hx, Bool.false_eq_true, if_false, List.findIdx?_succ, Option.map_eq_some'] at h
      obtain ⟨j, hj, rfl⟩ := h
      simp [hx, ih huniq.2 j hj]

/-- `softKeySetConfig` after calls of `sccp_config_softKeySet`, each with its pairs and
its name, from the empty list. -/
def softKeySetRun (calls : List (List (String × String) × String)) : List SoftKeySetConfiguration :=
  calls.foldl (fun sets c => sccpConfigSoftKeySet env sets c.1 c.2) []

/-- Every pair given under a name, names compared without case, in call order. -/
def pairsNamed (calls : List (List (String × String) × String)) (n : String) : List (String × String) :=
  (calls.filter fun c => strcasecmpEq c.2 n).flatMap Prod.fst

theorem pairsNamed_append (calls : List (List (String × String) × String)) (pairs : List (String × String))
    (name n : String) :
    pairsNamed (calls ++ [(pairs, name)]) n = pairsNamed calls n ++ if strcasecmpEq name n then pairs else [] := by
  unfold pairsNamed
  by_cases h : strcasecmpEq name n <;> simp [h]

/-- The store as the calls describe it: one set per name, compared without case,
each the fold of every pair given under its name. -/
structure StoreSpec (calls : List (List (String × String) × String)) (sets : List SoftKeySetConfiguration) :
    Prop where
  distinct : sets.Pairwise fun a b => strcasecmpEq a.name b.name = false
  named : ∀ n, (sets.any fun s => strcasecmpEq s.name n) = calls.any fun c => strcasecmpEq c.2 n
  content : ∀ s ∈ sets, s = (pairsNamed calls s.name).foldl (softKeySetPair env) (.empty s.name)

theorem any_append_call (calls : List (List (String × String) × String)) (pairs : List (String × String))
    (name n : String) :
    ((calls ++ [(pairs, name)]).any fun c => strcasecmpEq c.2 n) =
      ((calls.any fun c => strcasecmpEq c.2 n) || strcasecmpEq name n) := by
  simp [List.any_append]

theorem StoreSpec.step_found {calls : List (List (String × String) × String)} {sets : List SoftKeySetConfiguration}
    (h : StoreSpec env calls sets) (pairs : List (String × String)) {name : String}
    (hfound : ∃ s ∈ sets, strcasecmpEq s.name name = true) :
    StoreSpec env (calls ++ [(pairs, name)])
      (sets.map fun s => if strcasecmpEq s.name name then pairs.foldl (softKeySetPair env) s else s) := by
  have hname : ∀ s, (if strcasecmpEq s.name name then pairs.foldl (softKeySetPair env) s else s).name = s.name := by
    intro s; split <;> simp [foldl_softKeySetPair_name]
  obtain ⟨s₀, hs₀, hsel₀⟩ := hfound
  refine ⟨?_, fun n => ?_, fun s' hs' => ?_⟩
  · rw [List.pairwise_map]
    exact h.distinct.imp fun hab => by rwa [hname, hname]
  · rw [List.any_map, any_append_call, ← h.named n]
    simp only [Function.comp_def, hname]
    by_cases hn : strcasecmpEq name n
    · have : (sets.any fun s => strcasecmpEq s.name n) = true :=
        List.any_eq_true.mpr ⟨s₀, hs₀, strcasecmpEq_trans hsel₀ hn⟩
      simp [this, hn]
    · simp [hn]
  · obtain ⟨s, hs, rfl⟩ := List.mem_map.mp hs'
    rw [hname, pairsNamed_append]
    by_cases hsel : strcasecmpEq s.name name
    · rw [if_pos hsel, if_pos (by rwa [strcasecmpEq_comm]), List.foldl_append, ← h.content s hs]
    · rw [if_neg hsel, if_neg (by rwa [strcasecmpEq_comm]), List.append_nil]
      exact h.content s hs

theorem StoreSpec.step_new {calls : List (List (String × String) × String)} {sets : List SoftKeySetConfiguration}
    (h : StoreSpec env calls sets) (pairs : List (String × String)) {name : String}
    (hnone : ∀ s ∈ sets, strcasecmpEq s.name name = false) :
    StoreSpec env (calls ++ [(pairs, name)]) (pairs.foldl (softKeySetPair env) (.empty name) :: sets) := by
  have hnew : (pairs.foldl (softKeySetPair env) (.empty name)).name = name := by
    rw [foldl_softKeySetPair_name]; rfl
  have hfresh : pairsNamed calls name = [] := by
    have hsets : (sets.any fun s => strcasecmpEq s.name name) = false := by simpa using hnone
    have hcalls : ∀ c ∈ calls, strcasecmpEq c.2 name = false := by
      simpa using (h.named name).symm.trans hsets
    simp only [pairsNamed, List.flatMap_eq_nil_iff, List.mem_filter]
    intro c ⟨hc, hcn⟩
    rw [hcalls c hc] at hcn
    cases hcn
  refine ⟨List.Pairwise.cons (fun s hs => ?_) h.distinct, fun n => ?_, fun s hs => ?_⟩
  · rw [hnew, strcasecmpEq_comm]; exact hnone s hs
  · rw [List.any_cons, hnew, any_append_call, ← h.named n, Bool.or_comm]
  · rcases List.mem_cons.mp hs with rfl | hs
    · rw [hnew, pairsNamed_append, if_pos (strcasecmpEq_self name), hfresh, List.nil_append]
    · rw [pairsNamed_append, if_neg (by rw [strcasecmpEq_comm]; simp [hnone s hs]), List.append_nil]
      exact h.content s hs

theorem StoreSpec.step {calls : List (List (String × String) × String)} {sets : List SoftKeySetConfiguration}
    (h : StoreSpec env calls sets) (pairs : List (String × String)) (name : String)
    (hshort : name.length < env.softKeySetNameSize) :
    StoreSpec env (calls ++ [(pairs, name)]) (sccpConfigSoftKeySet env sets pairs name) := by
  unfold sccpConfigSoftKeySet
  cases hfind : sets.findIdx? (fun s => strcasecmpEq s.name name) with
  | some i =>
    have huniq : sets.Pairwise fun a b => ¬ (strcasecmpEq a.name name = true ∧ strcasecmpEq b.name name = true) :=
      h.distinct.imp fun hab ⟨ha, hb⟩ => by
        rw [strcasecmpEq_trans ha (by rwa [strcasecmpEq_comm])] at hab; cases hab
    obtain ⟨hlt, hsel, -⟩ := List.findIdx?_eq_some_iff_getElem.mp hfind
    dsimp only
    rw [modify_findIdx?_eq_map _ sets huniq i hfind]
    exact h.step_found env pairs ⟨_, List.getElem_mem hlt, hsel⟩
  | none =>
    dsimp only
    rw [sccpCopyString_of_lt hshort]
    exact h.step_new env pairs (by simpa [List.findIdx?_eq_none_iff] using hfind)

theorem softKeySetRun_storeSpec (calls : List (List (String × String) × String))
    (hshort : ∀ c ∈ calls, c.2.length < env.softKeySetNameSize) :
    StoreSpec env calls (softKeySetRun env calls) := by
  induction calls using List.reverseRecOn with
  | nil => exact ⟨List.Pairwise.nil, fun _ => rfl, fun _ h => nomatch h⟩
  | append_singleton calls c ih =>
    have hrun : softKeySetRun env (calls ++ [c]) = sccpConfigSoftKeySet env (softKeySetRun env calls) c.1 c.2 := by
      simp only [softKeySetRun, List.foldl_append, List.foldl_cons, List.foldl_nil]
    rw [hrun]
    exact (ih fun d hd => hshort d (List.mem_append_left _ hd)).step env c.1 c.2
      (hshort c (List.mem_append_right _ (List.mem_singleton_self c)))

/-- What a set's mode `m` should hold after the pairs given under its name: the
parse of the last value given for the mode, or the empty entry when none was. -/
def lastModeEntry (pairs : List (String × String)) (m : Nat) : SoftkeyModes :=
  match pairs.reverse.find? (fun p => keyModeOf p.1 = some m) with
  | some p =>
    ⟨m, some (sccpConfigReadSoftSet env (List.replicate stationMaxSoftKeySetDefinition 0) p.2).1,
      (sccpConfigReadSoftSet env (List.replicate stationMaxSoftKeySetDefinition 0) p.2).2⟩
  | none => ⟨0, none, 0⟩

/-- What `numberOfSoftKeySets` should be after the pairs given under a name: one more
than the largest key mode given, or `0` when none was. -/
def modeCount (pairs : List (String × String)) : Nat :=
  match (pairs.filterMap fun p => keyModeOf p.1).max? with
  | some k => k + 1
  | none => 0

theorem foldl_max_succ (ks : List Nat) :
    ∀ a : Nat, ks.foldl (fun acc k => max acc (k + 1)) (a + 1) = ks.foldl max a + 1 := by
  induction ks with
  | nil => intro a; rfl
  | cons k ks ih => intro a; rw [List.foldl_cons, List.foldl_cons, Nat.succ_max_succ, ih]

theorem modeCount_eq_foldl (pairs : List (String × String)) :
    modeCount pairs = (pairs.filterMap fun p => keyModeOf p.1).foldl (fun acc k => max acc (k + 1)) 0 := by
  unfold modeCount
  cases (pairs.filterMap fun p => keyModeOf p.1) with
  | nil => rfl
  | cons k ks => rw [List.foldl_cons, Nat.zero_max, foldl_max_succ]; rfl

/-- Softkey sets read under names that fit the name field: one set per name,
compared without case, and each holds, for every mode, the parse of the last value
given for it under its name, with `numberOfSoftKeySets` one past the largest mode
given. -/
theorem softKeySetRun_one_set_per_name (calls : List (List (String × String) × String))
    (hshort : ∀ c ∈ calls, c.2.length < env.softKeySetNameSize) :
    (softKeySetRun env calls).Pairwise (fun a b => strcasecmpEq a.name b.name = false) ∧
      (∀ n, ((softKeySetRun env calls).any fun s => strcasecmpEq s.name n) =
        calls.any fun c => strcasecmpEq c.2 n) ∧
      ∀ s ∈ softKeySetRun env calls,
        (∀ m, s.modes m = lastModeEntry env (pairsNamed calls s.name) m) ∧
          s.numberOfSoftKeySets = modeCount (pairsNamed calls s.name) := by
  have h := softKeySetRun_storeSpec env calls hshort
  refine ⟨h.distinct, h.named, fun s hs => ?_⟩
  have hs := h.content s hs
  generalize pairsNamed calls s.name = ps at hs ⊢
  constructor
  · intro m
    rw [hs, foldl_softKeySetPair_modes]
    unfold lastModeEntry
    cases ps.reverse.find? (fun p => keyModeOf p.1 = some m) <;> rfl
  · rw [hs, foldl_softKeySetPair_count, modeCount_eq_foldl]
    rfl

theorem softKeySetRun_default_sets :
    (∀ c ∈ [([("onhook", "redial,newcall")], "default"), ([("connected", "endcall"), ("onhook", "endcall")], "Default")],
        c.2.length < sampleEnv.softKeySetNameSize) ∧
      ((softKeySetRun sampleEnv
          [([("onhook", "redial,newcall")], "default"), ([("connected", "endcall"), ("onhook", "endcall")], "Default")]).Pairwise
          (fun a b => strcasecmpEq a.name b.name = false) ∧
        (∀ n, ((softKeySetRun sampleEnv
            [([("onhook", "redial,newcall")], "default"), ([("connected", "endcall"), ("onhook", "endcall")], "Default")]).any
              fun s => strcasecmpEq s.name n) =
          [([("onhook", "redial,newcall")], "default"), ([("connected", "endcall"), ("onhook", "endcall")], "Default")].any
            fun c => strcasecmpEq c.2 n) ∧
        ∀ s ∈ softKeySetRun sampleEnv
            [([("onhook", "redial,newcall")], "default"), ([("connected", "endcall"), ("onhook", "endcall")], "Default")],
          (∀ m, s.modes m = lastModeEntry sampleEnv (pairsNamed
            [([("onhook", "redial,newcall")], "default"), ([("connected", "endcall"), ("onhook", "endcall")], "Default")]
            s.name) m) ∧
          s.numberOfSoftKeySets = modeCount (pairsNamed
            [([("onhook", "redial,newcall")], "default"), ([("connected", "endcall"), ("onhook", "endcall")], "Default")]
            s.name)) :=
  ⟨by decide, softKeySetRun_one_set_per_name sampleEnv _ (by decide)⟩

/-- A name as long as the name field is stored cut short, so the next call with it
does not find its set and adds a second one, whatever the field's size. -/
theorem softKeySetRun_long_name_duplicated :
    ¬ ∃ env : Env, ∀ calls, (softKeySetRun env calls).Pairwise fun a b => strcasecmpEq a.name b.name = false := by
  rintro ⟨env, h⟩
  let n : String := ⟨List.replicate (env.softKeySetNameSize + 1) 'a'⟩
  have hcut : strcasecmpEq (sccpCopyString n env.softKeySetNameSize) n = false := by
    cases hc : strcasecmpEq (sccpCopyString n env.softKeySetNameSize) n with
    | false => rfl
    | true =>
      have := strcasecmpEq_length hc
      simp only [sccpCopyString, n, String.length_mk, List.length_take, List.length_replicate] at this
      omega
  have h2 := h [([], n), ([], n)]
  simp [softKeySetRun, sccpConfigSoftKeySet, SoftKeySetConfiguration.empty, hcut] at h2

end SccpConfig
