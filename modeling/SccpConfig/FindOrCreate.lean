import SccpConfig.CString

/-!
# Find or create

The device and line branches of `sccp_config_readDevicesLines` share one shape:
the section's name is looked up in a list, compared without case, and the entry
found is rebuilt; otherwise an entry is created under that name, built and put at
the head. Over a run of sections, the entry a name finds is the first entry of the
run's start that has the name, or the entry its first section created, rebuilt
once for every section of that name.
-/

namespace SccpConfig

set_option autoImplicit false

/-! ## Lists modified where a predicate first holds -/

section Modify

variable {α : Type} {p q : α → Bool} (f : α → α)

theorem find?_modify_of_findIdx? (hf : ∀ a, p (f a) = p a) (l : List α) :
    ∀ i, l.findIdx? p = some i → (l.modify f i).find? p = (l.find? p).map f := by
  induction l with
  | nil => intro i h; cases h
  | cons x xs ih =>
    intro i h
    rw [List.findIdx?_cons] at h
    by_cases hx : p x
    · simp only [hx, if_true, Option.some.injEq] at h
      subst h
      simp [List.find?_cons, hf, hx]
    · simp only [hx, Bool.false_eq_true, if_false, List.findIdx?_succ, Option.map_eq_some'] at h
      obtain ⟨j, hj, rfl⟩ := h
      simp [List.find?_cons, hx, ih j hj]

theorem find?_modify_of_disjoint (hpq : ∀ a, p a = true → q a = false) (hf : ∀ a, q (f a) = q a) (l : List α) :
    ∀ i, l.findIdx? p = some i → (l.modify f i).find? q = l.find? q := by
  induction l with
  | nil => intro i h; cases h
  | cons x xs ih =>
    intro i h
    rw [List.findIdx?_cons] at h
    by_cases hx : p x
    · simp only [hx, if_true, Option.some.injEq] at h
      subst h
      simp [List.find?_cons, hf, hpq x hx]
    · simp only [hx, Bool.false_eq_true, if_false, List.findIdx?_succ, Option.map_eq_some'] at h
      obtain ⟨j, hj, rfl⟩ := h
      rw [List.modify_succ_cons, List.find?_cons, List.find?_cons, ih j hj]

theorem forall_mem_modify {r : α → Prop} (hf : ∀ a, r a → r (f a)) (n : Nat) (l : List α) (hl : ∀ a ∈ l, r a) :
    ∀ a ∈ l.modify f n, r a := by
  induction l generalizing n with
  | nil => simp
  | cons x xs ih =>
    rw [List.forall_mem_cons] at hl
    cases n with
    | zero => rw [List.modify_zero_cons, List.forall_mem_cons]; exact ⟨hf x hl.1, hl.2⟩
    | succ n => rw [List.modify_succ_cons, List.forall_mem_cons]; exact ⟨hl.1, ih n hl.2⟩

end Modify

/-! ## The run -/

section FindOrCreate

variable {α β : Type} (key : α → String) (name : β → String) (create : String → α) (update : β → α → α)

/-- The entry a name finds: the first whose key matches it without case. -/
def findByKey (l : List α) (n : String) : Option α :=
  l.find? fun a => strcasecmpEq (key a) n

/-- One section: the entry its name finds is rebuilt, or a new one is built at the head. -/
def findOrCreate (l : List α) (k : β) : List α :=
  match l.findIdx? (fun a => strcasecmpEq (key a) (name k)) with
  | none => update k (create (name k)) :: l
  | some i => l.modify (update k) i

/-- A run of sections, those `sel` picks going through `findOrCreate`. -/
def findOrCreateRun (sel : β → Bool) (l : List α) (ks : List β) : List α :=
  ks.foldl (fun l k => if sel k then findOrCreate key name create update l k else l) l

/-- The sections of a run that reach the entry a name finds. -/
def sectionsOf (sel : β → Bool) (ks : List β) (n : String) : List β :=
  ks.filter fun k => sel k && strcasecmpEq (name k) n

/-- What a name finds after the run: when the run has sections of the name, the
entry of the start it found, or else the one its first section created, rebuilt by
each of them in turn; otherwise what it found at the start. -/
def runFinds (sel : β → Bool) (l : List α) (ks : List β) (n : String) : Option α :=
  match sectionsOf name sel ks n with
  | [] => findByKey key l n
  | k₀ :: rest => some ((k₀ :: rest).foldl (fun a k => update k a) ((findByKey key l n).getD (create (name k₀))))

variable {key name create update}

theorem findByKey_congr {l : List α} {c n : String} (h : strcasecmpEq c n = true) :
    findByKey key l c = findByKey key l n := by
  simp only [findByKey, strcasecmpEq_congr_right _ h]

theorem findByKey_eq_some {l : List α} {n : String} {a : α} (h : findByKey key l n = some a) :
    a ∈ l ∧ strcasecmpEq (key a) n = true := by
  unfold findByKey at h
  have hkey := List.find?_some h
  exact ⟨List.mem_of_find?_eq_some h, hkey⟩

theorem findByKey_findOrCreate_same (l : List α) {k : β} {n : String} (h : strcasecmpEq (name k) n = true)
    (hkey : ∀ a, key (update k a) = key a) (hcreate : key (create (name k)) = name k) :
    findByKey key (findOrCreate key name create update l k) n =
      some (update k ((findByKey key l n).getD (create (name k)))) := by
  rw [← findByKey_congr h, ← findByKey_congr h]
  unfold findOrCreate
  cases hi : l.findIdx? (fun a => strcasecmpEq (key a) (name k)) with
  | none =>
    have hnone : findByKey key l (name k) = none := by
      simpa [findByKey, List.find?_eq_none] using hi
    rw [hnone]
    simp [findByKey, List.find?_cons, hkey, hcreate]
  | some i =>
    obtain ⟨a, ha⟩ : ∃ a, findByKey key l (name k) = some a := by
      cases hf : findByKey key l (name k) with
      | some a => exact ⟨a, rfl⟩
      | none =>
        simp only [findByKey, List.find?_eq_none] at hf
        obtain ⟨hlt, hsel, -⟩ := List.findIdx?_eq_some_iff_getElem.mp hi
        exact absurd hsel (hf _ (List.getElem_mem hlt))
    rw [ha]
    dsimp only
    rw [findByKey, find?_modify_of_findIdx? _ (fun a => by rw [hkey]) l i hi]
    simp only [findByKey] at ha
    simp [ha]

theorem findByKey_findOrCreate_other (l : List α) {k : β} {n : String} (h : strcasecmpEq (name k) n = false)
    (hkey : ∀ a, key (update k a) = key a) (hcreate : key (create (name k)) = name k) :
    findByKey key (findOrCreate key name create update l k) n = findByKey key l n := by
  unfold findOrCreate findByKey
  cases hi : l.findIdx? (fun a => strcasecmpEq (key a) (name k)) with
  | none => simp [List.find?_cons, hkey, hcreate, h]
  | some i =>
    refine find?_modify_of_disjoint _ (fun a ha => ?_) (fun a => by rw [hkey]) l i hi
    cases hn : strcasecmpEq (key a) n with
    | false => rfl
    | true => exact absurd (strcasecmpEq_trans (by rwa [strcasecmpEq_comm] at ha) hn) (by rw [h]; decide)

theorem forall_mem_findOrCreateRun {r : α → Prop} (hcreate : ∀ n, r (create n)) (hupdate : ∀ k a, r a → r (update k a))
    (sel : β → Bool) (ks : List β) :
    ∀ l : List α, (∀ a ∈ l, r a) → ∀ a ∈ findOrCreateRun key name create update sel l ks, r a := by
  induction ks with
  | nil => intro l hl; exact hl
  | cons k rest ih =>
    intro l hl
    refine ih _ ?_
    dsimp only
    split
    · unfold findOrCreate
      split
      · exact List.forall_mem_cons.mpr ⟨hupdate k _ (hcreate _), hl⟩
      · exact forall_mem_modify _ (hupdate k) _ l hl
    · exact hl

variable (sel : β → Bool)

theorem sectionsOf_ne_nil {ks : List β} {k : β} (hk : k ∈ ks) (hsel : sel k = true) :
    sectionsOf name sel ks (name k) ≠ [] :=
  List.ne_nil_of_mem (List.mem_filter.mpr ⟨hk, by rw [hsel, strcasecmpEq_self]; rfl⟩)

theorem sectionsOf_append_singleton (ks : List β) (k : β) (n : String) :
    sectionsOf name sel (ks ++ [k]) n =
      sectionsOf name sel ks n ++ if sel k && strcasecmpEq (name k) n then [k] else [] := by
  simp only [sectionsOf, List.filter_append, List.filter_singleton]
  cases sel k && strcasecmpEq (name k) n <;> rfl

theorem runFinds_append_same (l : List α) (ks : List β) {k : β} {n : String} :
    runFinds key name create update sel l (ks ++ [k]) n =
      if sel k && strcasecmpEq (name k) n then
        some (update k (((runFinds key name create update sel l ks n)).getD (create (name k))))
      else runFinds key name create update sel l ks n := by
  by_cases hk : (sel k && strcasecmpEq (name k) n) = true
  · rw [if_pos hk]
    unfold runFinds
    rw [sectionsOf_append_singleton, if_pos hk]
    cases sectionsOf name sel ks n with
    | nil => rfl
    | cons k₀ rest => simp [List.foldl_append]
  · rw [if_neg hk]
    unfold runFinds
    rw [sectionsOf_append_singleton, if_neg hk, List.append_nil]

theorem findByKey_findOrCreateRun (hkey : ∀ k a, key (update k a) = key a) (l : List α) (ks : List β)
    (hcreate : ∀ k ∈ ks, sel k = true → key (create (name k)) = name k) :
    ∀ n, findByKey key (findOrCreateRun key name create update sel l ks) n =
      runFinds key name create update sel l ks n := by
  induction ks using List.reverseRecOn with
  | nil => intro n; rfl
  | append_singleton ks k ih =>
    intro n
    have ih := ih fun k' hk' => hcreate k' (List.mem_append_left _ hk')
    have hk := hcreate k (List.mem_append_right _ (List.mem_singleton_self k))
    rw [findOrCreateRun, List.foldl_append, List.foldl_cons, List.foldl_nil, ← findOrCreateRun,
      runFinds_append_same, ← ih n]
    generalize findOrCreateRun key name create update sel l ks = L
    by_cases hs : sel k = true
    · cases hkn : strcasecmpEq (name k) n
      · simp only [hs, hkn, if_true, Bool.and_false, Bool.false_eq_true, if_false]
        exact findByKey_findOrCreate_other L hkn (hkey k) (hk hs)
      · simp only [hs, hkn, if_true, Bool.and_self]
        exact findByKey_findOrCreate_same L hkn (hkey k) (hk hs)
    · simp [hs]

end FindOrCreate

end SccpConfig
