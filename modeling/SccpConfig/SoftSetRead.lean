import SccpConfig.SoftKey
import SccpConfig.SetValueReport

/-!
# Reading one softkey mode

What `sccp_config_readSoftSet` leaves in the array it is given, for every value.
The loop calls `strsep` before it tests `(i + 1) < StationMaxSoftKeySetDefinition`,
so of the sixteen slots at most fifteen receive a label, and the count returned is
at most fifteen. The padding loop starts at `i + 1`: the slot right after the last
label keeps what the array held there, and only the slots after it are set to
`SKINNY_LBL_EMPTY`.
-/

namespace SccpConfig

set_option autoImplicit false

variable (env : Env)

theorem readSoftSetLoop_eq (labels : List String) :
    ∀ (i : Nat) (out : List Nat), out.length = stationMaxSoftKeySetDefinition →
      i < stationMaxSoftKeySetDefinition →
      readSoftSetLoop env labels i out =
        (out.take i ++ (labels.take (min labels.length (stationMaxSoftKeySetDefinition - 1 - i))).map
            (sccpConfigGetSoftkeyLbl env) ++
          out.drop (i + min labels.length (stationMaxSoftKeySetDefinition - 1 - i)),
          i + min labels.length (stationMaxSoftKeySetDefinition - 1 - i)) := by
  induction labels with
  | nil => intro i out _ _; simp [readSoftSetLoop]
  | cons l rest ih =>
    intro i out hlen hi
    unfold readSoftSetLoop
    split
    · rename_i hstep
      have hm : min (rest.length + 1) (stationMaxSoftKeySetDefinition - 1 - i) =
          min rest.length (stationMaxSoftKeySetDefinition - 1 - (i + 1)) + 1 := by
        simp only [stationMaxSoftKeySetDefinition] at *; omega
      rw [ih (i + 1) _ (by simp [hlen]) hstep, List.length_cons, hm, List.take_succ_cons, List.map_cons]
      generalize min rest.length (stationMaxSoftKeySetDefinition - 1 - (i + 1)) = m
      have htake : (out.take i).length = i := by simp; omega
      have hfront : (out.set i (sccpConfigGetSoftkeyLbl env l)).take (i + 1) =
          out.take i ++ [sccpConfigGetSoftkeyLbl env l] := by
        rw [List.set_eq_take_append_cons_drop, if_pos (by omega), List.take_append_eq_append_take,
          List.take_of_length_le (by omega), htake]
        simp
      rw [hfront, List.drop_set_of_lt _ _ (by omega)]
      simp [Nat.add_assoc, Nat.add_comm 1 m]
    · rename_i hstop
      have hm : stationMaxSoftKeySetDefinition - 1 - i = 0 := by omega
      simp [hm]

/-- `sccp_config_readSoftSet` on an array of `StationMaxSoftKeySetDefinition` slots:
with `k` the number of comma-separated labels, cut to fifteen, it returns `k`,
stores the first `k` labels' ids in order, keeps slot `k` as it was, and sets the
slots after it to `SKINNY_LBL_EMPTY`. -/
theorem sccpConfigReadSoftSet_eq (softkeyset : List Nat)
    (hlen : softkeyset.length = stationMaxSoftKeySetDefinition) (data : String) :
    let labels := strsepPieces data ','
    let k := min labels.length (stationMaxSoftKeySetDefinition - 1)
    sccpConfigReadSoftSet env softkeyset data =
      ((labels.take k).map (sccpConfigGetSoftkeyLbl env) ++
        softkeyset.getD k 0 :: List.replicate (stationMaxSoftKeySetDefinition - 1 - k) env.lblEmpty, k) := by
  intro labels k
  have hk : k < softkeyset.length := by simp only [hlen, stationMaxSoftKeySetDefinition, k]; omega
  have hlabels : ((labels.take k).map (sccpConfigGetSoftkeyLbl env)).length = k := by simp [k]
  unfold sccpConfigReadSoftSet
  rw [readSoftSetLoop_eq env _ 0 _ hlen (by decide)]
  simp only [List.take_zero, List.nil_append, Nat.zero_add, Nat.sub_zero]
  change (List.mapIdx (fun j x => if k + 1 ≤ j ∧ j < stationMaxSoftKeySetDefinition then env.lblEmpty else x)
      ((labels.take k).map (sccpConfigGetSoftkeyLbl env) ++ softkeyset.drop k), k) = _
  rw [List.drop_eq_getElem_cons hk, List.getD_eq_getElem?_getD, List.getElem?_eq_getElem hk, Option.getD_some,
    List.mapIdx_append, List.mapIdx_cons, hlabels]
  congr 2
  · -- the labels: no slot below `k` is padded
    rw [List.mapIdx_eq_iff]
    intro j
    rcases Nat.lt_or_ge j ((labels.take k).map (sccpConfigGetSoftkeyLbl env)).length with hj | hj
    · rw [List.getElem?_eq_getElem hj, Option.map_some', if_neg (by omega)]
    · rw [List.getElem?_eq_none hj]; rfl
  · -- slot `k` is kept, the slots after it are padded
    have hrest : (softkeyset.drop (k + 1)).length = stationMaxSoftKeySetDefinition - 1 - k := by
      simp [hlen]; omega
    rw [if_neg (by omega), ← hrest, List.mapIdx_eq_replicate_iff.mpr]
    intro j hj
    rw [if_pos (by omega)]

/-- Sixteen labels into an array holding `7` everywhere: fifteen are stored and
counted, and the last slot still holds `7`. -/
theorem sccpConfigReadSoftSet_sixteen_labels :
    (List.replicate 16 7).length = stationMaxSoftKeySetDefinition ∧
      sccpConfigReadSoftSet sampleEnv (List.replicate 16 7)
          ("redial,redial,redial,redial,redial,redial,redial,redial," ++
            "redial,redial,redial,redial,redial,redial,redial,redial") =
        (List.replicate 15 1 ++ [7], 15) :=
  ⟨rfl, (sccpConfigReadSoftSet_eq sampleEnv (List.replicate 16 7) rfl _).trans (by decide)⟩

end SccpConfig
