import SccpConfig.Converters
import SccpConfig.SetValueReport

/-!
# Group masks

What `sccp_config_parse_group` stores. The pieces of the value are cut at commas;
each is read with `sscanf(piece, "%30d-%30d")` and then `sscanf(piece, "%30d")`,
whose result is tested for being non-zero. An empty piece makes both calls return
EOF, which is non-zero, so the piece is read as the single group `start` still
holds from the pieces before it, `0` at first: a value with a leading comma always
puts the object in group 0.

The range loop `for (x = start; x <= finish; x++)` runs over a 32-bit `int`. Below
`INT_MAX` it ends after one test per value of the range and one more, with the
mask `groupBits` gives; with `finish` equal to `INT_MAX` the condition holds of
every `int` and the increment wraps, so it never ends. When every piece is read
and every range ends, the carried `start` and `finish` never matter, and the mask
is the union of what each piece covers.
-/

namespace SccpConfig

set_option autoImplicit false

variable (env : Env)

/-! ## The bits of a range -/

theorem testBit_foldl_groupBit (start finish : Int) (i : Nat) (xs : List Nat) :
    ∀ mask : Nat,
      (xs.foldl (fun m (x : Nat) => if start ≤ (x : Int) ∧ (x : Int) ≤ finish then m ||| (1 <<< x) else m)
          mask).testBit i =
        (mask.testBit i || decide (i ∈ xs ∧ start ≤ (i : Int) ∧ (i : Int) ≤ finish)) := by
  induction xs with
  | nil => intro mask; simp
  | cons x xs ih =>
    intro mask
    rw [List.foldl_cons, ih]
    by_cases h : x = i
    · subst h; split <;> simp [*]
    · split <;> simp [Nat.testBit_or, Nat.one_shiftLeft, Nat.testBit_two_pow, h, Ne.symm h]

theorem testBit_groupBits (start finish : Int) (mask i : Nat) :
    (groupBits start finish mask).testBit i =
      (mask.testBit i || decide (i < 64 ∧ start ≤ (i : Int) ∧ (i : Int) ≤ finish)) := by
  rw [groupBits, testBit_foldl_groupBit]
  simp

theorem groupBits_of_lt (start finish : Int) (mask : Nat) (h : finish < start) :
    groupBits start finish mask = mask :=
  Nat.eq_of_testBit_eq fun i => by
    rw [testBit_groupBits, decide_eq_false (by omega), Bool.or_false]

theorem groupBits_step (x : BitVec 32) (finish : Int) (group : Nat) (hx : x.toInt ≤ finish) :
    groupBits (x.toInt + 1) finish (if 63 < x.toInt ∨ x.toInt < 0 then group else group ||| 1 <<< x.toNat) =
      groupBits x.toInt finish group := by
  have hlt := x.isLt
  have hnat : 0 ≤ x.toInt → (x.toNat : Int) = x.toInt := by
    rw [BitVec.toInt_eq_toNat_cond]; split <;> omega
  apply Nat.eq_of_testBit_eq
  intro i
  rw [testBit_groupBits, testBit_groupBits]
  split_ifs with hr
  · exact congrArg _ (decide_eq_decide.mpr (by omega))
  · have := hnat (by omega)
    rw [Nat.testBit_or, Nat.one_shiftLeft, Nat.testBit_two_pow, Bool.or_assoc, ← Bool.decide_or]
    exact congrArg _ (decide_eq_decide.mpr (by omega))

/-! ## The range loop over 32-bit `int` -/

theorem toInt_le_intMax (x : BitVec 32) : x.toInt ≤ intMax.toInt := by
  have hmax : intMax.toInt = 2147483647 := by decide
  have hx := x.isLt
  rw [hmax, BitVec.toInt_eq_toNat_cond]
  split <;> omega

/-- With `INT_MAX` as the upper bound the condition `x <= finish` holds of every
`x`, so the loop never ends. -/
theorem groupRangeLoop_intMax_runs_out (fuel : Nat) :
    ∀ (x : BitVec 32) (group : Nat), groupRangeLoop fuel x intMax group = none := by
  induction fuel with
  | zero => intro _ _; rfl
  | succ fuel ih =>
    intro x group
    rw [groupRangeLoop, if_pos (by simpa [BitVec.sle] using toInt_le_intMax x), ih]

theorem toInt_add_one (x : BitVec 32) (h : x.toInt < 2147483647) : (x + 1).toInt = x.toInt + 1 := by
  have hx := x.isLt
  simp only [BitVec.toInt_eq_toNat_cond, BitVec.toNat_add] at h ⊢
  have h1 : (1 : BitVec 32).toNat = 1 := rfl
  rw [h1]
  split_ifs at h ⊢ <;> omega

theorem groupRangeLoop_spec (finish : BitVec 32) (hfinish : finish.toInt < 2147483647) (fuel : Nat) :
    ∀ (x : BitVec 32) (group : Nat), groupRangeLoop fuel x finish group =
      if (finish.toInt - x.toInt + 1).toNat < fuel then some (groupBits x.toInt finish.toInt group) else none := by
  induction fuel with
  | zero => intro _ _; rfl
  | succ fuel ih =>
    intro x group
    rw [groupRangeLoop]
    split
    · rename_i hle
      have hle' : x.toInt ≤ finish.toInt := by simpa [BitVec.sle] using hle
      rw [ih, toInt_add_one x (by omega), groupBits_step _ _ _ hle']
      exact if_congr (by omega) rfl rfl
    · rename_i hgt
      have hgt' : finish.toInt < x.toInt := by simp [BitVec.sle] at hgt; omega
      rw [if_pos (by omega), groupBits_of_lt _ _ _ hgt']

/-- Below `INT_MAX` the loop ends, given one test per value of the range and one
more, with the mask `groupBits` describes. -/
theorem groupRangeLoop_eq_groupBits (finish : BitVec 32) (hfinish : finish.toInt < 2147483647) (fuel : Nat) :
    ∀ (x : BitVec 32) (group : Nat), (finish.toInt - x.toInt + 1).toNat < fuel →
      groupRangeLoop fuel x finish group = some (groupBits x.toInt finish.toInt group) := by
  intro x group hfuel
  rw [groupRangeLoop_spec finish hfinish, if_pos hfuel]

/-- The piece `1-3`: four tests of the loop condition, and groups 1 to 3 are set. -/
theorem groupRangeLoop_one_to_three :
    (BitVec.ofInt 32 3).toInt < 2147483647 ∧ ((BitVec.ofInt 32 3).toInt - (BitVec.ofInt 32 1).toInt + 1).toNat < 4 ∧
      groupRangeLoop 4 (BitVec.ofInt 32 1) (BitVec.ofInt 32 3) 0 = some 14 :=
  ⟨by decide, by decide, (groupRangeLoop_eq_groupBits _ (by decide) 4 _ 0 (by decide)).trans (by decide)⟩

/-- Whether an integer fits an `int` and stays below `INT_MAX`, so that a range
ending there ends. -/
def endsBelowIntMax (a : Int) : Bool :=
  decide (-2147483648 ≤ a ∧ a < 2147483647)

theorem toInt_ofInt_of_fits {a : Int} (h1 : -2147483648 ≤ a) (h2 : a ≤ 2147483647) :
    (BitVec.ofInt 32 a).toInt = a := by
  rw [BitVec.toInt_ofInt, Int.bmod]
  split <;> omega

theorem groupRange_eq_groupBits {start finish : Int} (hs : endsBelowIntMax start = true)
    (hf : endsBelowIntMax finish = true) (mask : Nat) : groupRange start finish mask = groupBits start finish mask := by
  simp only [endsBelowIntMax, decide_eq_true_eq] at hs hf
  have hs' := toInt_ofInt_of_fits hs.1 (by omega)
  have hf' := toInt_ofInt_of_fits hf.1 (by omega)
  rw [groupRange, groupRangeLoop_spec _ (by omega), if_pos (by rw [groupRangeFuel]; omega), hs', hf']
  rfl

theorem testBit_groupRange_of_testBit (start finish : Int) {mask i : Nat} (h : mask.testBit i = true) :
    (groupRange start finish mask).testBit i = true := by
  suffices hloop : ∀ fuel x group, group.testBit i = true →
      ∀ r ∈ groupRangeLoop fuel x (BitVec.ofInt 32 finish) group, r.testBit i = true by
    unfold groupRange
    cases hr : groupRangeLoop groupRangeFuel (BitVec.ofInt 32 start) (BitVec.ofInt 32 finish) mask with
    | none => exact h
    | some r => exact hloop _ _ _ h r hr
  intro fuel
  induction fuel with
  | zero => intro _ _ _ r hr; cases hr
  | succ fuel ih =>
    intro x group hg r hr
    rw [groupRangeLoop] at hr
    split at hr
    · refine ih _ _ ?_ r hr
      split
      · exact hg
      · rw [Nat.testBit_or, hg, Bool.true_or]
    · cases hr
      exact hg

theorem testBit_parseGroupPieces_of_testBit (pieces : List String) :
    ∀ (start finish : Int) (mask i : Nat), mask.testBit i = true →
      (parseGroupPieces pieces start finish mask).testBit i = true := by
  induction pieces with
  | nil => intro _ _ _ _ h; exact h
  | cons piece rest ih =>
    intro start finish mask i h
    unfold parseGroupPieces
    split
    · exact ih _ _ _ _ (testBit_groupRange_of_testBit _ _ h)
    · split
      · exact ih _ _ _ _ h
      · exact ih _ _ _ _ (testBit_groupRange_of_testBit _ _ h)

/-! ## Empty pieces -/

theorem parseGroupPieces_empty_piece (rest : List String) (start finish : Int) (mask : Nat) :
    parseGroupPieces ("" :: rest) start finish mask =
      parseGroupPieces rest start start (groupRange start start mask) :=
  rfl

theorem strsepPieces_comma_append (rest : String) :
    strsepPieces ("," ++ rest) ',' = "" :: strsepPieces rest ',' := by
  simp [strsepPieces, List.splitOn, List.splitOnP_cons]

theorem isEmpty_mk_cons (c : Char) (cs : List Char) : (String.mk (c :: cs)).isEmpty = false := by
  have := c.utf8Size_pos
  simp [String.isEmpty, String.endPos, String.utf8ByteSize, String.utf8ByteSize.go, String.Pos.ext_iff]
  omega

/-- A value with a leading comma sets group 0, whatever follows. -/
theorem sccpConfigParseGroup_leading_comma_sets_group_zero (prev : Int) (rest : String) :
    ((sccpConfigParseGroup env prev ("," ++ rest)).1).toNat.testBit 0 = true := by
  simp only [sccpConfigParseGroup, storeIfChanged_fst, show ("," ++ rest).isEmpty = false from isEmpty_mk_cons _ _,
    Bool.false_eq_true, if_false, Int.toNat_ofNat, strsepPieces_comma_append, parseGroupPieces_empty_piece]
  refine testBit_parseGroupPieces_of_testBit _ _ _ _ _ ?_
  rw [groupRange_eq_groupBits (by decide) (by decide), testBit_groupBits]
  decide

/-! ## Pieces that are read and end -/

/-- Whether a piece, read on its own, names group `x`: the range `a-b` when
`sscanf(piece, "%30d-%30d")` reads both ends, else the number `sscanf(piece, "%30d")`
reads, if any. -/
def pieceCovers (piece : String) (x : Int) : Bool :=
  match sscanfRange piece with
  | (2, some a, some b) => decide (a ≤ x ∧ x ≤ b)
  | _ => decide ((sscanfSingle piece).2 = some x)

/-- Whether the range loop over a piece ends: every number `sscanf` reads from it
fits an `int` below `INT_MAX`. -/
def pieceEnds (piece : String) : Bool :=
  match sscanfRange piece with
  | (2, some a, some b) => endsBelowIntMax a && endsBelowIntMax b
  | _ => (sscanfSingle piece).2.all endsBelowIntMax

theorem sscanfSingle_of_not_blank (piece : String) (h : piece.data.dropWhile isSpace ≠ []) :
    sscanfSingle piece = (0, none) ∨ ∃ a, sscanfSingle piece = (1, some a) := by
  unfold sscanfSingle
  split
  · contradiction
  · split
    · exact .inl rfl
    · exact .inr ⟨_, rfl⟩

theorem parseGroupPieces_cons (piece : String) (rest : List String) (h : piece.data.dropWhile isSpace ≠ [])
    (hends : pieceEnds piece = true) (start finish : Int) (mask : Nat) :
    ∃ (start' finish' : Int) (mask' : Nat),
      parseGroupPieces (piece :: rest) start finish mask = parseGroupPieces rest start' finish' mask' ∧
        ∀ i : Nat, mask'.testBit i = (mask.testBit i || decide (i < 64 ∧ pieceCovers piece i = true)) := by
  rw [parseGroupPieces.eq_2]
  split
  · rename_i a b hr
    simp only [pieceEnds, hr, Bool.and_eq_true] at hends
    refine ⟨a, b, groupRange a b mask, rfl, fun i => ?_⟩
    simp [groupRange_eq_groupBits hends.1 hends.2, testBit_groupBits, pieceCovers, hr]
  · rename_i n a₀ b₀ hne hr
    have hcov : ∀ x, pieceCovers piece x = decide ((sscanfSingle piece).2 = some x) := by
      intro x
      unfold pieceCovers
      split
      · rename_i a b hr'
        rw [hr, Prod.mk.injEq, Prod.mk.injEq] at hr'
        exact (hne a b hr'.1 hr'.2.1 hr'.2.2).elim
      · rfl
    have hends' : (sscanfSingle piece).2.all endsBelowIntMax = true := by
      unfold pieceEnds at hends
      split at hends
      · rename_i a b hr'
        rw [hr, Prod.mk.injEq, Prod.mk.injEq] at hr'
        exact (hne a b hr'.1 hr'.2.1 hr'.2.2).elim
      · exact hends
    rcases sscanfSingle_of_not_blank piece h with hs | ⟨a, hs⟩
    · -- no number: the mask is kept
      refine ⟨_, finish, mask, by rw [hs]; rfl, fun i => by simp [hcov, hs]⟩
    · -- one number `a`: the group `a`
      rw [hs] at hends'
      refine ⟨a, a, groupRange a a mask, by rw [hs]; rfl, fun i => ?_⟩
      rw [groupRange_eq_groupBits hends' hends', testBit_groupBits, hcov, hs]
      exact congrArg _ (decide_eq_decide.mpr (by simp only [Option.some.injEq, decide_eq_true_eq]; omega))

theorem testBit_parseGroupPieces (pieces : List String)
    (h : ∀ p ∈ pieces, p.data.dropWhile isSpace ≠ [] ∧ pieceEnds p = true) :
    ∀ (start finish : Int) (mask i : Nat), (parseGroupPieces pieces start finish mask).testBit i =
      (mask.testBit i || decide (i < 64 ∧ ∃ p ∈ pieces, pieceCovers p i = true)) := by
  induction pieces with
  | nil => intro _ _ _ _; simp [parseGroupPieces]
  | cons piece rest ih =>
    intro start finish mask i
    obtain ⟨hp, hpe⟩ := h piece (List.mem_cons_self _ _)
    obtain ⟨start', finish', mask', hrun, hbit⟩ := parseGroupPieces_cons piece rest hp hpe start finish mask
    rw [hrun, ih (fun p hp => h p (List.mem_cons_of_mem _ hp)), hbit, Bool.or_assoc, ← Bool.decide_or]
    exact congrArg _ (decide_eq_decide.mpr (by simp only [List.mem_cons, exists_eq_or_imp]; exact and_or_left.symm))

/-- A value none of whose comma-separated pieces is blank, and whose ranges all end:
`sccp_config_parse_group` stores the mask whose bit `i` is set exactly when `i < 64`
and some piece covers `i`, whatever the member held before. -/
theorem sccpConfigParseGroup_mask (prev : Int) (value : String)
    (hpieces : ∀ p ∈ strsepPieces value ',', p.data.dropWhile isSpace ≠ [] ∧ pieceEnds p = true) (i : Nat) :
    ((sccpConfigParseGroup env prev value).1).toNat.testBit i =
      decide (i < 64 ∧ ∃ p ∈ strsepPieces value ',', pieceCovers p i = true) := by
  have hne : value.isEmpty = false := by
    obtain ⟨_ | ⟨c, cs⟩⟩ := value
    · exact absurd (hpieces "" (by decide)).1 (by decide)
    · exact isEmpty_mk_cons c cs
  simp only [sccpConfigParseGroup, storeIfChanged_fst, hne, Bool.false_eq_true, if_false, Int.toNat_ofNat,
    testBit_parseGroupPieces _ hpieces, Nat.zero_testBit, Bool.false_or]

/-- `group = 1-3,5`: group 2 is set, as the piece `1-3` covers it. -/
theorem sccpConfigParseGroup_mask_ranges :
    (∀ p ∈ strsepPieces "1-3,5" ',', p.data.dropWhile isSpace ≠ [] ∧ pieceEnds p = true) ∧
      ((sccpConfigParseGroup sampleEnv 0 "1-3,5").1).toNat.testBit 2 = true :=
  ⟨by decide, (sccpConfigParseGroup_mask sampleEnv 0 _ (by decide) 2).trans (by decide)⟩

end SccpConfig
