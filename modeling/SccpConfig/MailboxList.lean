import SccpConfig.Converters

/-!
# Mailbox lists

What a line's mailbox list holds after a sequence of `mailbox` values, each applied
through `sccp_config_parse_mailbox`. The converter cuts the value at its first `@`,
looks the box up in the list by its exact name and adds it at the tail when it is
new and not empty. The run is compared with `firstOccurrences`, which keeps the
first entry of each box and drops the later ones, and from that comparison the list
has one entry per box, in the order of first occurrence, each with the context
given first.
-/

namespace SccpConfig

set_option autoImplicit false

variable (env : Env)

/-- The entry a value names: the box before its first `@`, and the context after
it, NULL when there is no `@`. -/
def mailboxOf (value : String) : Mailbox :=
  ⟨⟨(splitAtFirst '@' value.data).1⟩, (splitAtFirst '@' value.data).2.map String.mk⟩

theorem sccpConfigParseMailbox_fst (boxes : List Mailbox) (value : String) :
    (sccpConfigParseMailbox env boxes value).1 =
      if boxes.any (fun b => b.mailbox = (mailboxOf value).mailbox) || (mailboxOf value).mailbox.isEmpty then boxes
      else boxes ++ [mailboxOf value] := by
  unfold sccpConfigParseMailbox mailboxOf
  rcases splitAtFirst '@' value.data with ⟨m, c⟩
  dsimp only
  split <;> simp_all

/-- A line's mailbox list after each value in turn has gone through
`sccp_config_parse_mailbox`, from `boxes`. -/
def mailboxRun (boxes : List Mailbox) (values : List String) : List Mailbox :=
  values.foldl (fun boxes v => (sccpConfigParseMailbox env boxes v).1) boxes

/-- The entries the values name, in order, without those of an empty box. -/
def namedMailboxes (values : List String) : List Mailbox :=
  (values.map mailboxOf).filter fun b => !b.mailbox.isEmpty

/-! ## First occurrences -/

/-- The first entry of each box, in order: an entry is kept and the later entries
with its box are dropped. -/
def firstOccurrences : List Mailbox → List Mailbox
  | [] => []
  | b :: rest => b :: firstOccurrences (rest.filter fun c => c.mailbox ≠ b.mailbox)
termination_by l => l.length
decreasing_by exact Nat.lt_succ_of_le (List.length_filter_le _ _)

theorem firstOccurrences_sublist (l : List Mailbox) : List.Sublist (firstOccurrences l) l := by
  induction l using firstOccurrences.induct with
  | case1 => simp [firstOccurrences]
  | case2 b rest ih =>
    rw [firstOccurrences]
    exact (ih.trans (List.filter_sublist rest)).cons₂ b

theorem mem_firstOccurrences_ids (l : List Mailbox) (id : String) :
    id ∈ (firstOccurrences l).map Mailbox.mailbox ↔ id ∈ l.map Mailbox.mailbox := by
  induction l using firstOccurrences.induct with
  | case1 => simp [firstOccurrences]
  | case2 b rest ih =>
    rw [firstOccurrences, List.map_cons, List.mem_cons, ih, List.map_cons, List.mem_cons]
    by_cases h : id = b.mailbox
    · simp [h]
    · simp only [h, false_or, List.mem_map, List.mem_filter, decide_eq_true_eq]
      constructor
      · rintro ⟨a, ⟨ha, -⟩, rfl⟩; exact ⟨a, ha, rfl⟩
      · rintro ⟨a, ha, rfl⟩; exact ⟨a, ⟨ha, h⟩, rfl⟩

theorem firstOccurrences_ids_nodup (l : List Mailbox) : ((firstOccurrences l).map Mailbox.mailbox).Nodup := by
  induction l using firstOccurrences.induct with
  | case1 => simp [firstOccurrences]
  | case2 b rest ih =>
    rw [firstOccurrences, List.map_cons, List.nodup_cons, mem_firstOccurrences_ids]
    exact ⟨by simp, ih⟩

theorem find?_of_mem_firstOccurrences (l : List Mailbox) :
    ∀ c ∈ firstOccurrences l, l.find? (fun a => a.mailbox = c.mailbox) = some c := by
  induction l using firstOccurrences.induct with
  | case1 => simp [firstOccurrences]
  | case2 b rest ih =>
    intro c hc
    rw [firstOccurrences, List.mem_cons] at hc
    rcases hc with rfl | hc
    · simp
    · have hne : c.mailbox ≠ b.mailbox :=
        of_decide_eq_true (List.mem_filter.mp ((firstOccurrences_sublist _).subset hc)).2
      have hfirst := ih c hc
      rw [List.find?_filter] at hfirst
      rw [List.find?_cons_of_neg _ (by simpa using hne.symm), ← hfirst]
      congr 1
      funext a
      by_cases h : a.mailbox = c.mailbox
      · simp [h, hne]
      · simp [h]

/-! ## The run -/

theorem mailboxRun_eq (values : List String) :
    ∀ acc : List Mailbox, mailboxRun env acc values =
      acc ++ firstOccurrences ((values.map mailboxOf).filter fun b =>
        !b.mailbox.isEmpty && !acc.any (fun a => a.mailbox = b.mailbox)) := by
  induction values with
  | nil => intro acc; simp [mailboxRun, firstOccurrences]
  | cons v rest ih =>
    intro acc
    rw [mailboxRun, List.foldl_cons, sccpConfigParseMailbox_fst, ← mailboxRun, ih, List.map_cons, List.filter_cons]
    generalize acc.any (fun a => a.mailbox = (mailboxOf v).mailbox) = seen
    generalize (mailboxOf v).mailbox.isEmpty = empty
    cases seen <;> cases empty
    · -- a new box: it is appended, and the later values of the same box are dropped
      simp only [Bool.false_or, Bool.not_false, Bool.true_and, if_true, Bool.false_eq_true, if_false]
      rw [firstOccurrences, List.filter_filter, List.append_assoc, List.singleton_append]
      refine congrArg (fun l => acc ++ mailboxOf v :: firstOccurrences l) (List.filter_congr fun b _ => ?_)
      simp only [List.any_append, List.any_cons, List.any_nil, Bool.or_false, Bool.not_or]
      by_cases h : b.mailbox = (mailboxOf v).mailbox
      · simp [h]
      · simp [h, Ne.symm h]
    all_goals simp

/-- Mailbox values applied in order to a line with no mailboxes: the boxes are
distinct, they are exactly the non-empty boxes named, they come in the order of
the values, and each entry is the first value naming its box, with that value's
context. -/
theorem sccpConfigParseMailbox_run_first_occurrences (values : List String) :
    ((mailboxRun env [] values).map Mailbox.mailbox).Nodup ∧
      (∀ id, id ∈ (mailboxRun env [] values).map Mailbox.mailbox ↔
        id ∈ (namedMailboxes values).map Mailbox.mailbox) ∧
      List.Sublist (mailboxRun env [] values) (namedMailboxes values) ∧
      ∀ b ∈ mailboxRun env [] values, (namedMailboxes values).find? (fun c => c.mailbox = b.mailbox) = some b := by
  have hrun : mailboxRun env [] values = firstOccurrences (namedMailboxes values) := by
    simp [namedMailboxes, mailboxRun_eq]
  rw [hrun]
  exact ⟨firstOccurrences_ids_nodup _, mem_firstOccurrences_ids _, firstOccurrences_sublist _,
    find?_of_mem_firstOccurrences _⟩

end SccpConfig
