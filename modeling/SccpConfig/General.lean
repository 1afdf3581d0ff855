import SccpConfig.Apply

/-!
# The general section

`sccp_config_general` empties the two global access lists, applies `[general]`
to `sccp_globals`, completes the bind address and the external address, and then
reconciles the dialplan contexts named by `regcontext`: contexts that were in use
and are no longer named are destroyed by `cleanup_stale_contexts`, and every
context now named is found or created. What was in use is remembered in
`GLOB(used_context)`, which the creation loop overwrites with each context in
turn.
-/

namespace SccpConfig

set_option autoImplicit false

variable (env : Env)

/-- A dialplan context of the host PBX: its name and the registrar that made it. -/
structure HostContext where
  name : String
  registrar : String
  deriving DecidableEq, Repr

/-- `pbx_context_find_or_create` (host PBX): a context of that name is looked up
by its exact name and made when there is none. -/
def pbxContextFindOrCreate (ctxs : List HostContext) (name registrar : String) : List HostContext :=
  if ctxs.any (fun c => c.name == name) then ctxs else ctxs ++ [⟨name, registrar⟩]

/-- `ast_context_find` (host PBX): the context of that exact name. -/
def astContextFind (ctxs : List HostContext) (name : String) : Option HostContext :=
  ctxs.find? (fun c => c.name == name)

/-- `ast_context_destroy` (host PBX): as its header documents, it removes the
contexts of the registrar that match the given context, or every context of the
registrar when none is given; names and registrars are compared without case. -/
def astContextDestroy (ctxs : List HostContext) (con : Option HostContext) (registrar : String) :
    List HostContext :=
  ctxs.filter fun c => !(strcasecmpEq registrar c.registrar && con.all (fun k => strcasecmpEq c.name k.name))

/-- The inner loop of `cleanup_stale_contexts` on the pieces of the new list:
`stalecontext` is cleared at the first piece equal to the old context, where the
loop breaks, and set at every other piece. -/
def staleAfter (old : String) : List String → Bool → Bool
  | [], stale => stale
  | n :: ns, _ => if n = old then false else staleAfter old ns true

/-- `cleanup_stale_contexts`: every `&`-separated piece of the old list that is
not a piece of the new one is destroyed. -/
def cleanupStaleContexts (new old : String) (ctxs : List HostContext) : List HostContext :=
  (strsepPieces old '&').foldl (fun cs o =>
    if staleAfter o (strsepPieces (sccpCopyString new env.maxContext) '&') false then
      astContextDestroy cs (astContextFind cs o) "SCCP"
    else cs) ctxs

/-- The state `sccp_config_general` reads and writes: the members of
`sccp_globals`, `GLOB(used_context)`, `GLOB(pendingUpdate)` and the host's
dialplan contexts. -/
structure GeneralState where
  globals : GlobalMember → Value
  usedContext : String
  pendingUpdate : Bool
  contexts : List HostContext

/-- The creation loop of `sccp_config_general`: each piece is copied into
`GLOB(used_context)` and then found or created. -/
def createContexts : List String → GeneralState → GeneralState
  | [], s => s
  | c :: cs, s =>
    createContexts cs { s with
      usedContext := sccpCopyString c env.usedContextSize,
      contexts := pbxContextFindOrCreate s.contexts c "SCCP" }

/-- The regcontext part of `sccp_config_general`, from the value of `regcontext`. -/
def setupRegcontext (regcontext : String) (s : GeneralState) : GeneralState :=
  let newcontexts := sccpCopyString regcontext env.maxContext
  let oldcontexts := sccpCopyString s.usedContext env.maxContext
  let s := { s with contexts := cleanupStaleContexts env newcontexts oldcontexts s.contexts }
  createContexts env (strsepPieces newcontexts '&') s

/-- `sccp_config_general`: the state afterwards, and FALSE when `[general]` is
missing or has no pairs, since `ast_variable_browse` then returns NULL. -/
def sccpConfigGeneral (cfg : Config) (s : GeneralState) : GeneralState × Bool :=
  let globals := Function.update (Function.update s.globals .ha (.acl [])) .localaddr (.acl [])
  let s := { s with globals := globals }
  match astVariableBrowse cfg "general" with
  | none | some [] => (s, false)
  | some v =>
    let r := sccpConfigApplyGlobalConfiguration env cfg s.globals v
    let pendingUpdate := if r.2 = env.codes.needDeviceReset then true else s.pendingUpdate
    let g := r.1
    let g := match g .bindaddr with
      | .sockaddr a 0 => Function.update g .bindaddr (.sockaddr a 2000)
      | _ => g
    let g := match g .externhost, g .externip with
      | .string h, .sockaddr _ p =>
        if h.isEmpty then g
        else match env.gethostbyname h with
          | some a => Function.update g .externip (.sockaddr a p)
          | none => g
      | _, _ => g
    let regcontext := match g .regcontext with
      | .string r => r
      | _ => ""
    (setupRegcontext env regcontext { s with globals := g, pendingUpdate := pendingUpdate }, true)

end SccpConfig
