import SccpConfig.General
import SccpConfig.SetValueReport

/-!
# Registration contexts across passes

What the regcontext part of `sccp_config_general` leaves behind. Every context the
new value names exists afterwards, but `GLOB(used_context)` holds only the last of
them, since the creation loop copies each context into it in turn. The next pass
offers that one context to `cleanup_stale_contexts` as the old list, so the other
contexts of an earlier value are never destroyed.

`cleanup_stale_contexts` tests each old piece against the new pieces and destroys
what `ast_context_find` returns for it, the empty piece included. No context has the
empty name, so for that piece the destroy is given NULL and removes every context
SCCP registered.
-/

namespace SccpConfig

set_option autoImplicit false

variable (env : Env)

/-! ## Cleanup -/

theorem staleAfter_true (old : String) (ns : List String) : staleAfter old ns true = !ns.contains old := by
  induction ns with
  | nil => rfl
  | cons n ns ih =>
    rw [List.contains_cons]
    by_cases h : n = old
    · subst h; simp [staleAfter]
    · simp [staleAfter, h, ih, Ne.symm h]

theorem staleAfter_of_ne_nil (old : String) {ns : List String} (hns : ns ≠ []) (stale : Bool) :
    staleAfter old ns stale = !ns.contains old := by
  cases ns with
  | nil => exact absurd rfl hns
  | cons n ns => exact staleAfter_true old (n :: ns)

theorem cleanupStaleContexts_eq (new old : String) (ctxs : List HostContext) :
    cleanupStaleContexts env new old ctxs =
      (strsepPieces old '&').foldl (fun cs o =>
        if (strsepPieces (sccpCopyString new env.maxContext) '&').contains o then cs
        else astContextDestroy cs (astContextFind cs o) "SCCP") ctxs := by
  unfold cleanupStaleContexts
  congr 1
  funext cs o
  rw [staleAfter_of_ne_nil o (strsepPieces_ne_nil _ _)]
  cases (strsepPieces (sccpCopyString new env.maxContext) '&').contains o <;> rfl

theorem foldl_cleanup_filter (news : List String) (olds : List String) :
    ∀ ctxs : List HostContext,
      olds.foldl (fun cs o => if news.contains o then cs else astContextDestroy cs (astContextFind cs o) "SCCP") ctxs =
        (olds.filter fun o => !news.contains o).foldl
          (fun cs o => astContextDestroy cs (astContextFind cs o) "SCCP") ctxs := by
  induction olds with
  | nil => intro ctxs; rfl
  | cons o rest ih =>
    intro ctxs
    rw [List.foldl_cons, List.filter_cons]
    cases news.contains o <;> exact ih _

theorem cleanupStaleContexts_stale_pieces (new old : String) (ctxs : List HostContext) :
    cleanupStaleContexts env new old ctxs =
      ((strsepPieces old '&').filter fun o => !(strsepPieces (sccpCopyString new env.maxContext) '&').contains o).foldl
        (fun cs o => astContextDestroy cs (astContextFind cs o) "SCCP") ctxs := by
  rw [cleanupStaleContexts_eq, foldl_cleanup_filter]

theorem astContextDestroy_none (ctxs : List HostContext) (registrar : String) :
    astContextDestroy ctxs none registrar = ctxs.filter fun c => !strcasecmpEq registrar c.registrar := by
  simp [astContextDestroy]

/-- An empty old list is one empty piece, stale whenever the new list has none; no
context is named by it, so the destroy is given NULL and every SCCP context goes. -/
theorem cleanupStaleContexts_empty_old_destroys_all (new : String) (ctxs : List HostContext)
    (hnew : (strsepPieces (sccpCopyString new env.maxContext) '&').contains "" = false)
    (hnames : ∀ c ∈ ctxs, c.name ≠ "") :
    cleanupStaleContexts env new "" ctxs = ctxs.filter fun c => !strcasecmpEq "SCCP" c.registrar := by
  have hfind : astContextFind ctxs "" = none := by
    rw [astContextFind, List.find?_eq_none]
    intro c hc
    simpa using hnames c hc
  rw [cleanupStaleContexts_stale_pieces, show strsepPieces "" '&' = [""] from rfl]
  simp only [List.filter_cons, List.filter_nil, hnew, Bool.not_false, if_true, List.foldl_cons, List.foldl_nil,
    hfind, astContextDestroy_none]

/-- `cleanup_stale_contexts("x", "")` with the SCCP context `x` and a context of
another registrar: `x` is destroyed. -/
theorem cleanupStaleContexts_empty_old_sample :
    (strsepPieces (sccpCopyString "x" sampleEnv.maxContext) '&').contains "" = false ∧
      (∀ c ∈ [(⟨"x", "SCCP"⟩ : HostContext), ⟨"default", "pbx"⟩], c.name ≠ "") ∧
      cleanupStaleContexts sampleEnv "x" "" [⟨"x", "SCCP"⟩, ⟨"default", "pbx"⟩] = [⟨"default", "pbx"⟩] :=
  ⟨by decide, by decide,
    (cleanupStaleContexts_empty_old_destroys_all sampleEnv _ _ (by decide) (by decide)).trans (by decide)⟩

/-! ## Creation -/

theorem createContexts_contexts (pieces : List String) :
    ∀ s : GeneralState, (createContexts env pieces s).contexts =
      pieces.foldl (fun cs c => pbxContextFindOrCreate cs c "SCCP") s.contexts := by
  induction pieces with
  | nil => intro s; rfl
  | cons c rest ih => intro s; rw [createContexts, ih]; rfl

theorem pbxContextFindOrCreate_mem (ctxs : List HostContext) (name registrar : String) :
    ∃ k ∈ pbxContextFindOrCreate ctxs name registrar, k.name = name := by
  unfold pbxContextFindOrCreate
  split
  · rename_i h
    obtain ⟨k, hk, hn⟩ := List.any_eq_true.mp h
    exact ⟨k, hk, beq_iff_eq.mp hn⟩
  · exact ⟨⟨name, registrar⟩, List.mem_append_right _ (List.mem_singleton_self _), rfl⟩

theorem pbxContextFindOrCreate_subset (ctxs : List HostContext) (name registrar : String) :
    ctxs ⊆ pbxContextFindOrCreate ctxs name registrar := by
  unfold pbxContextFindOrCreate
  split
  · exact List.Subset.refl _
  · exact List.subset_append_left _ _

theorem foldl_pbxContextFindOrCreate_subset (pieces : List String) :
    ∀ ctxs : List HostContext, ctxs ⊆ pieces.foldl (fun cs c => pbxContextFindOrCreate cs c "SCCP") ctxs := by
  induction pieces with
  | nil => intro ctxs; exact List.Subset.refl _
  | cons c rest ih => intro ctxs; exact List.Subset.trans (pbxContextFindOrCreate_subset ctxs c "SCCP") (ih _)

theorem createContexts_mem (pieces : List String) (s : GeneralState) :
    ∀ c ∈ pieces, ∃ k ∈ (createContexts env pieces s).contexts, k.name = c := by
  rw [createContexts_contexts]
  induction pieces generalizing s with
  | nil => intro c hc; cases hc
  | cons p rest ih =>
    intro c hc
    rw [List.foldl_cons]
    rcases List.mem_cons.mp hc with rfl | hc
    · obtain ⟨k, hk, hn⟩ := pbxContextFindOrCreate_mem s.contexts c "SCCP"
      exact ⟨k, foldl_pbxContextFindOrCreate_subset rest _ hk, hn⟩
    · exact ih { s with contexts := pbxContextFindOrCreate s.contexts p "SCCP" } c hc

theorem createContexts_usedContext (pieces : List String) :
    ∀ s : GeneralState, (createContexts env pieces s).usedContext =
      ((pieces.getLast?).map fun c => sccpCopyString c env.usedContextSize).getD s.usedContext := by
  induction pieces with
  | nil => intro s; rfl
  | cons c rest ih =>
    intro s
    rw [createContexts, ih]
    cases rest with
    | nil => rfl
    | cons d ds => rw [List.getLast?_cons_cons]; rfl

theorem setupRegcontext_usedContext (regcontext : String) (s : GeneralState) :
    (setupRegcontext env regcontext s).usedContext =
      sccpCopyString ((strsepPieces (sccpCopyString regcontext env.maxContext) '&').getLast
        (strsepPieces_ne_nil _ _)) env.usedContextSize := by
  rw [setupRegcontext, createContexts_usedContext, List.getLast?_eq_getLast _ (strsepPieces_ne_nil _ _)]
  rfl

/-- The contexts named by `regcontext = a&b` and then by `regcontext = c`, from no
contexts: `a` is left behind, since the second pass sees only `b` as in use. -/
theorem regcontext_stale_context_kept (hmax : 4 ≤ env.maxContext) (hused : 2 ≤ env.usedContextSize)
    (s : GeneralState) (hs : s.contexts = [] ∧ s.usedContext = "") :
    (setupRegcontext env "c" (setupRegcontext env "a&b" s)).contexts = [⟨"a", "SCCP"⟩, ⟨"c", "SCCP"⟩] := by
  obtain ⟨hc, hu⟩ := hs
  have hab : sccpCopyString "a&b" env.maxContext = "a&b" := sccpCopyString_of_lt (lt_of_lt_of_le (by decide) hmax)
  have he : sccpCopyString "" env.maxContext = "" := sccpCopyString_of_lt (lt_of_lt_of_le (by decide) hmax)
  have hb : sccpCopyString "b" env.usedContextSize = "b" := sccpCopyString_of_lt (lt_of_lt_of_le (by decide) hused)
  have hb' : sccpCopyString "b" env.maxContext = "b" := sccpCopyString_of_lt (lt_of_lt_of_le (by decide) hmax)
  have hcc : sccpCopyString "c" env.maxContext = "c" := sccpCopyString_of_lt (lt_of_lt_of_le (by decide) hmax)
  have hpieces : strsepPieces "a&b" '&' = ["a", "b"] := by decide
  simp only [setupRegcontext, createContexts_contexts, createContexts_usedContext, cleanupStaleContexts_eq,
    hab, he, hcc, hc, hu, hpieces, List.getLast?_cons_cons, List.getLast?_singleton, Option.map_some',
    Option.getD_some, hb, hb']
  decide

theorem regcontext_stale_context_kept_sample :
    4 ≤ sampleEnv.maxContext ∧ 2 ≤ sampleEnv.usedContextSize ∧
      (setupRegcontext sampleEnv "c" (setupRegcontext sampleEnv "a&b" ⟨fun m => m.kind.zero, "", false, []⟩)).contexts =
        [⟨"a", "SCCP"⟩, ⟨"c", "SCCP"⟩] :=
  ⟨by decide, by decide, regcontext_stale_context_kept sampleEnv (by decide) (by decide) _ ⟨rfl, rfl⟩⟩

end SccpConfig
