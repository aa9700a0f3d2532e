import OpenPpp2.Policy.Bundle

/-!
# The policy update service

`PolicyUpdateService::RunOnceLocked`, `RestoreAndPrepare` and `PolicyRuntime`: a call gathers the
sources of a bundle, compiles it, stores it and publishes the compilation.
-/

namespace OpenPpp2.Policy

open Lib.CrashLogic

structure Snapshot (Policy : Type) where
  version : Nat
  policy : Policy
  deriving DecidableEq, Repr

structure Runtime (Policy : Type) where
  snapshot : Option (Snapshot Policy) := none
  nextVersion : Nat := 1

def lastVersion : Nat := 2 ^ 64 - 1

variable {Policy : Type}

def Runtime.prepare (compile : Source → Option Policy) (source : Source)
    (runtime : Runtime Policy) : Option (Snapshot Policy) × Runtime Policy :=
  if runtime.nextVersion = lastVersion then (none, runtime)
  else
    ((compile source).map fun policy => { version := runtime.nextVersion, policy := policy },
      { runtime with nextVersion := runtime.nextVersion + 1 })

def Runtime.commit (candidate : Snapshot Policy) (runtime : Runtime Policy) :
    Bool × Runtime Policy :=
  match runtime.snapshot with
  | some current =>
    if candidate.version ≤ current.version then (false, runtime)
    else (true, { runtime with snapshot := some candidate })
  | none => (true, { runtime with snapshot := some candidate })

inductive UpdateMode where
  | commitRuntime
  | prepareOnly
  deriving DecidableEq, Repr

inductive ResultCode where
  | updated
  | unchanged
  | prepared
  | failed
  | requiresReconnect
  | closed
  deriving DecidableEq, Repr

structure UpdateResult where
  code : ResultCode
  version : Nat := 0
  diagnostic : String
  deriving DecidableEq, Repr

def UpdateResult.ok (result : UpdateResult) : Bool :=
  result.code == .updated || result.code == .unchanged || result.code == .prepared

def failure (diagnostic : String) : UpdateResult := { code := .failed, diagnostic := diagnostic }

/-- The part of a `PolicyFetchRequest` that depends on the source. -/
structure FetchRequest where
  sourceName : Text
  url : Text
  via : Action
  etag : Text
  lastModified : Text

structure FetchResponse where
  status : Int
  body : Text := []
  etag : Text := []
  lastModified : Text := []
  effectiveUrlRedacted : Text := []

/-- A declared policy. The names of its rule sets are the keys of a `std::map`. -/
structure Declaration where
  source : Source
  keyed : (source.ruleSets.map Prod.fst).Nodup

/-- What a call finds: the declaration or why it cannot be loaded, whether the lock of the store is
acquired, the time, the files that can be read completely, the fetcher, which answers with a
diagnostic when a fetch fails, and whether the service is closed while the call runs. -/
structure Surroundings where
  declaration : Except String Declaration
  lock : Bool := true
  now : BitVec 64 := 0
  files : Text → Option Text := fun _ => none
  fetcher : Option (FetchRequest → Except String FetchResponse) := none
  closes : Bool := false

variable (codec : Codec) (surroundings : Surroundings)

def cachedSource (old : Option Bundle) (name : Text) (declared : RuleSet) : Option DurableSource :=
  (old.bind fun bundle => bundle.ruleSets.lookup name).filter fun cached =>
    cached.format == declared.format && cached.tag == declared.tag &&
      (declared.sha256.isEmpty || codec.sha256 cached.bytes == lower declared.sha256)

def fetchSource (via : Action) (declared : RuleSet) (source : DurableSource)
    (cached : Option DurableSource) : Except String DurableSource :=
  let matching := cached.filter fun cached => cached.urlFingerprint == source.urlFingerprint
  match surroundings.fetcher with
  | none =>
    match matching with
    | none =>
      .error "remote policy fetcher is unavailable and no verified cached source matches"
    | some cached =>
      .ok { source with
        bytes := cached.bytes, etag := cached.etag, lastModified := cached.lastModified,
        urlRedacted := cached.urlRedacted }
  | some fetch =>
    let etag := matching.elim [] fun cached => cached.etag
    let lastModified := matching.elim [] fun cached => cached.lastModified
    let request : FetchRequest :=
      { sourceName := source.name, url := declared.url, via := via, etag := etag,
        lastModified := lastModified }
    match fetch request with
    | .error diagnostic =>
      .error (if diagnostic.isEmpty then "policy source fetch failed" else diagnostic)
    | .ok response =>
      let redacted :=
        if response.effectiveUrlRedacted.isEmpty then redactPolicySourceUrl declared.url
        else response.effectiveUrlRedacted
      if response.status = 304 then
        match cached with
        | none => .error "304 response has no verified matching cached source"
        | some cached =>
          if etag.isEmpty && lastModified.isEmpty then
            .error "304 response has no verified matching cached source"
          else
            .ok { source with
              bytes := cached.bytes
              etag := if response.etag.isEmpty then cached.etag else response.etag
              lastModified :=
                if response.lastModified.isEmpty then cached.lastModified
                else response.lastModified
              urlRedacted := redacted }
      else if 200 ≤ response.status ∧ response.status < 300 then
        if response.body.length > sourceLimit then
          .error "policy source exceeds 64 MiB limit"
        else
          .ok { source with
            bytes := response.body, etag := response.etag,
            lastModified := response.lastModified, urlRedacted := redacted }
      else .error "policy source returned an unsuccessful status"

def localSource (declared : RuleSet) (source : DurableSource) : Except String DurableSource :=
  if declared.materialized then
    .ok { source with
      bytes := declared.text
      urlRedacted := if declared.path.isEmpty then [] else text "[local-source]" }
  else .error "declared local rule-set is not materialized"

def readLocal (declared : RuleSet) : Except String RuleSet :=
  if declared.url.isEmpty && !declared.path.isEmpty then
    match readFile sourceLimit (surroundings.files declared.path) with
    | none => .error "cannot read complete local rule-set"
    | some bytes => .ok { declared with text := bytes, materialized := true }
  else .ok declared

def checkGathered (declared : RuleSet) (aggregate : Nat) (source : DurableSource) :
    Except String Unit :=
  if source.bytes.length > sourceLimit then .error "policy source exceeds 64 MiB limit"
  else if !declared.sha256.isEmpty && codec.sha256 source.bytes != lower declared.sha256 then
    .error "policy source does not match configured SHA-256 pin"
  else if aggregate > bundleLimit - source.bytes.length then
    .error "policy bundle exceeds 256 MiB aggregate limit"
  else .ok ()

def obtainSource (via : Action) (old : Option Bundle) (name : Text) (declared : RuleSet) :
    Except String DurableSource :=
  let blank : DurableSource :=
    { name := name, format := declared.format, tag := declared.tag, sha256 := declared.sha256 }
  if declared.url.isEmpty then localSource declared blank
  else
    fetchSource surroundings via declared
      { blank with urlFingerprint := codec.sha256 declared.url }
      (cachedSource codec old name declared)

def gatherSource (via : Action) (old : Option Bundle) (name : Text) (ruleSet : RuleSet)
    (aggregate : Nat) : Except String (RuleSet × DurableSource) := do
  let declared ← readLocal surroundings ruleSet
  let source ← obtainSource codec surroundings via old name declared
  checkGathered codec declared aggregate source
  .ok ({ declared with text := source.bytes, materialized := true },
    { source with validatedAtMs := surroundings.now })

/-- The loop of `RunOnceLocked` over the rule sets, from the sizes added up so far. -/
def gatherSources (via : Action) (old : Option Bundle) : List (Text × RuleSet) → Nat →
      Except String (List (Text × RuleSet) × List (Text × DurableSource))
  | [], _ => .ok ([], [])
  | (name, ruleSet) :: rest, aggregate => do
      let (declared, source) ← gatherSource codec surroundings via old name ruleSet aggregate
      let (ruleSets, sources) ← gatherSources via old rest (aggregate + source.bytes.length)
      .ok ((name, declared) :: ruleSets, (name, source) :: sources)

def gatherRules (declared : Source) : Except String Text :=
  if declared.rulesPath.isEmpty then
    if declared.rulesText.length > sourceLimit then
      .error "policy rules exceed per-source size limit"
    else .ok declared.rulesText
  else
    match readFile sourceLimit (surroundings.files declared.rulesPath) with
    | none => .error "cannot read complete policy rules file"
    | some rules => .ok rules

def gather (identity : Text) (declared : Source) (old : Option Bundle) :
    Except String (Source × Bundle) := do
  let rules ← gatherRules surroundings declared
  let (ruleSets, sources) ←
    gatherSources codec surroundings declared.updatesVia old declared.ruleSets rules.length
  .ok ({ declared with rulesText := rules, ruleSets := ruleSets },
    { schema := 1, identityFingerprint := identity, rules := rules,
      rulesValidatedAtMs := surroundings.now, ruleSets := sources })

/-- `changed`: whether a bundle differs in its bytes from the old one. -/
def bundleChanged (old : Option Bundle) (bundle : Bundle) : Bool :=
  match old with
  | none => true
  | some old =>
    old.rules != bundle.rules || old.ruleSets.length != bundle.ruleSets.length ||
      bundle.ruleSets.any fun entry =>
        match old.ruleSets.lookup entry.1 with
        | none => true
        | some source => source.bytes != entry.2.bytes

/-- `PolicyUpdateService`, with its runtime and the directory of its identity. `unpublished` and
`declarations` are no members of it: whether a bundle was left in the store since the last
publication, and the declarations that the calls have loaded. -/
structure Service (Policy : Type) where
  runtime : Runtime Policy := {}
  folder : Folder
  closed : Bool := false
  unpublished : Bool := false
  declarations : List Source := []

namespace Service

def onFolder {α : Type} (program : Prog Folder α) : Prog (Service Policy) α :=
  .within folder (fun service folder => { service with folder := folder }) program

def mark (unpublished : Bool) : Prog (Service Policy) Unit :=
  .modify fun service => ((), { service with unpublished := unpublished })

def prepare (compile : Source → Option Policy) (source : Source) :
    Prog (Service Policy) (Option (Snapshot Policy)) :=
  .modify fun service =>
    let answer := service.runtime.prepare compile source
    (answer.1, { service with runtime := answer.2 })

def publish (candidate : Snapshot Policy) : Prog (Service Policy) Bool :=
  .modify fun service =>
    let answer := service.runtime.commit candidate
    (answer.1, { service with
      runtime := answer.2, unpublished := service.unpublished && !answer.1 })

def declare (declared : Source) : Prog (Service Policy) Unit :=
  .modify fun service => ((), { service with declarations := declared :: service.declarations })

variable (identity : Text)

/-- `RestorePointerState` after a failure, and the result of the call. -/
def rollBack (pointers : PointerState) (code : ResultCode) (why : String) (done : String) :
    Prog (Service Policy) UpdateResult :=
  (onFolder (restorePointerState identity pointers)).bind fun
    | .ok _ => .pure { code := code, diagnostic := done }
    | .error error =>
      (mark true).bind fun _ =>
        .pure { code := code, diagnostic := why ++ "; pointer rollback failed: " ++ error }

/-- A change of the store, which is undone when it fails or the service is closed meanwhile. -/
def store (write : Prog Folder (Except String Unit)) (what : String)
    (rest : PointerState → Prog (Service Policy) UpdateResult) :
    Prog (Service Policy) UpdateResult :=
  (onFolder (capturePointerState identity)).bind fun
    | .error _ =>
      .pure (failure "durable pointer state could not be captured before publication")
    | .ok pointers =>
      (onFolder write).bind fun
        | .error error => rollBack identity pointers .failed what (what ++ ": " ++ error)
        | .ok _ =>
          if surroundings.closes then
            (Prog.modify fun service => ((), { service with closed := true })).bind fun _ =>
              rollBack identity pointers .closed "policy update cancelled before publication"
                "policy update cancelled before publication"
          else rest pointers

def conclude (mode : UpdateMode) (changed : Bool) (active : Option (Snapshot Policy))
    (candidate : Snapshot Policy) (pointers : PointerState) : Prog (Service Policy) UpdateResult :=
  match mode with
  | .prepareOnly =>
    (mark true).bind fun _ =>
      .pure
        { code := if changed then .prepared else .unchanged
          version := active.elim 0 fun snapshot => snapshot.version
          diagnostic :=
            if changed then "validated durable candidate prepared without runtime publication"
            else "policy bytes are unchanged" }
  | .commitRuntime =>
    (publish candidate).bind fun published =>
      if published then
        .pure
          { code := .updated, version := candidate.version,
            diagnostic := "complete durable policy bundle committed to runtime" }
      else
        rollBack identity pointers .failed "runtime rejected prepared policy"
          "runtime rejected prepared policy; durable pointers were restored"

/-- `RunOnceLocked` once the bundle is gathered. -/
def update (compile : Source → Option Policy) (mode : UpdateMode) (old : Option Bundle)
    (active : Option (Snapshot Policy)) (source : Source) (bundle : Bundle) :
    Prog (Service Policy) UpdateResult :=
  let changed := bundleChanged old bundle
  if changed || active.isNone then
    (prepare compile source).bind fun
      | none =>
        .pure (failure "candidate policy bundle failed complete compiler validation")
      | some candidate =>
        store surroundings identity (commit codec bundle) "durable policy bundle commit failed"
          (conclude identity mode changed active candidate)
  else
    store surroundings identity (refreshCurrent codec bundle)
      "durable policy freshness update failed" fun _ =>
        .pure
          { code := .unchanged
            version := active.elim 0 fun snapshot => snapshot.version
            diagnostic := "policy bytes are unchanged" }

/-- The steps that `RunOnceLocked` and `RestoreAndPrepare` begin with. -/
def begin (rest : Source → Prog (Service Policy) UpdateResult) :
    Prog (Service Policy) UpdateResult :=
  (Prog.read fun service => service.closed).bind fun closed =>
    if closed then .pure { code := .closed, diagnostic := "policy updater is closed" }
    else
      match surroundings.declaration with
      | .error error => .pure (failure error)
      | .ok declared =>
        if immutableFingerprint codec.sha256 declared.source ≠ identity then
          .pure
            { code := .requiresReconnect
              diagnostic := "policy configuration changed and requires reconnect" }
        else if surroundings.lock then
          (declare declared.source).bind fun _ => rest declared.source
        else .pure (failure "durable policy store lock failed")

def runOnce (compile : Source → Option Policy) (mode : UpdateMode) :
    Prog (Service Policy) UpdateResult :=
  begin codec surroundings identity fun declared =>
    (Prog.read id).bind fun service =>
      let old := (service.folder.loadCurrent codec identity).bundle?
      match gather codec surroundings identity declared old with
      | .error error => .pure (failure error)
      | .ok (source, bundle) =>
        update codec surroundings identity compile mode old service.runtime.snapshot source bundle

def restoreRuleSets (bundle : Bundle) : List (Text × RuleSet) → Option (List (Text × RuleSet))
  | [] => some []
  | (name, declared) :: rest =>
    match bundle.ruleSets.lookup name with
    | none => none
    | some source =>
      if source.format != declared.format || source.tag != declared.tag ||
          (!declared.sha256.isEmpty && codec.sha256 source.bytes != lower declared.sha256) then none
      else
        (restoreRuleSets bundle rest).map fun ruleSets =>
          (name, { declared with text := source.bytes, materialized := true }) :: ruleSets

/-- The part of `RestoreBundle` that decides whether the bundle can be compiled. -/
def restoreSource (declared : Source) (bundle : Bundle) : Except String Source :=
  if bundle.identityFingerprint ≠ identity then
    .error "durable policy bundle failed integrity or identity validation"
  else if bundle.ruleSets.length ≠ declared.ruleSets.length then
    .error "durable policy bundle is missing a declared rule-set"
  else
    match restoreRuleSets codec bundle declared.ruleSets with
    | none => .error "durable policy bundle does not match declared rule-set metadata"
    | some ruleSets =>
      .ok { declared with rulesText := bundle.rules, ruleSets := ruleSets }

def restoreBundle (compile : Source → Option Policy) (fallback : Bool) (declared : Source)
    (bundle : Bundle) : Prog (Service Policy) UpdateResult :=
  match restoreSource codec identity declared bundle with
  | .error error => .pure (failure error)
  | .ok source =>
    (prepare compile source).bind fun
      | none => .pure (failure "durable policy bundle failed compiler validation")
      | some candidate =>
        let finish : Prog (Service Policy) UpdateResult :=
          (publish candidate).bind fun published =>
            .pure <|
              if published then
                { code := .updated, version := candidate.version,
                  diagnostic :=
                    if fallback then "restored previous validated bundle"
                    else "restored current validated bundle" }
              else failure "durable policy candidate could not be committed to runtime"
        if fallback then
          (onFolder (restorePreviousAsCurrent codec identity)).bind fun
            | .error _ => .pure (failure
                "previous policy bundle validated but durable current pointer repair failed")
            | .ok _ => finish
        else finish

/-- The second half of `RestoreAndPrepare`. -/
def restorePrevious (compile : Source → Option Policy) (declared : Source) (found : Bool) :
    Prog (Service Policy) UpdateResult :=
  let unavailable := failure
    (if found then "no complete, valid durable policy bundle could be restored"
      else "no durable policy bundle is available")
  (Prog.read fun service => (service.folder.loadPrevious codec identity).bundle?).bind fun
    | none => .pure unavailable
    | some bundle =>
      (restoreBundle codec identity compile true declared bundle).bind fun result =>
        .pure (if result.ok then result else unavailable)

def restoreAndPrepare (compile : Source → Option Policy) : Prog (Service Policy) UpdateResult :=
  begin codec surroundings identity fun declared =>
    (Prog.read fun service => service.folder.loadCurrent codec identity).bind fun current =>
      match current.bundle? with
      | none => restorePrevious codec identity compile declared current.found
      | some bundle =>
        (restoreBundle codec identity compile false declared bundle).bind fun result =>
          if result.ok then .pure result
          else restorePrevious codec identity compile declared current.found

end Service

open Preserves

variable {Policy : Type} {codec : Codec} {surroundings : Surroundings} {identity : Text}
  {compile : Source → Option Policy}

namespace Service

inductive Request where
  | restoreAndPrepare
  | runOnce (mode : UpdateMode)
  deriving DecidableEq, Repr

structure Call where
  request : Request
  surroundings : Surroundings
  script : List Outcome := []

def Call.program (codec : Codec) (identity : Text) (compile : Source → Option Policy)
    (call : Call) : Prog (Service Policy) UpdateResult :=
  match call.request with
  | .restoreAndPrepare => restoreAndPrepare codec call.surroundings identity compile
  | .runOnce mode => runOnce codec call.surroundings identity compile mode

def answer (codec : Codec) (identity : Text) (compile : Source → Option Policy)
    (service : Service Policy) (call : Call) : Option UpdateResult :=
  (call.program codec identity compile call.script service).1

/-- The service after a call. A service that was stopped in it answers no more. -/
def step (codec : Codec) (identity : Text) (compile : Source → Option Policy)
    (service : Service Policy) (call : Call) : Service Policy :=
  match call.program codec identity compile call.script service with
  | (some _, _, final) => final
  | (none, _, final) => { final with closed := true }

def version (service : Service Policy) : Nat :=
  service.runtime.snapshot.elim 0 fun snapshot => snapshot.version

section Versions

variable {bound : Nat}

/-- The runtime has published `bound` or a later version. -/
def Published (bound : Nat) (service : Service Policy) : Prop := bound ≤ service.version

theorem onFolder_published {α : Type} (program : Prog Folder α) :
    Preserves (Published bound) (onFolder program : Prog (Service Policy) α) :=
  within program fun _ _ given => given

theorem mark_published (unpublished : Bool) :
    Preserves (Published bound) (mark unpublished : Prog (Service Policy) Unit) :=
  Triple.modify fun _ given => given

theorem prepare_published (source : Source) :
    Preserves (Published bound) (prepare compile source) := by
  apply Triple.modify
  intro service given
  unfold Runtime.prepare
  split <;> exact given

theorem publish_published (candidate : Snapshot Policy) :
    Preserves (Published bound) (publish candidate) := by
  apply Triple.modify
  intro service given
  unfold Published version at given ⊢
  unfold Runtime.commit
  cases found : service.runtime.snapshot with
  | none =>
    rw [found] at given
    exact le_trans given (Nat.zero_le _)
  | some current =>
    rw [found] at given
    simp only
    split
    · simpa [found] using given
    case isFalse newer => exact le_trans given (Nat.le_of_lt (Nat.not_le.mp newer))

theorem rollBack_published (pointers : PointerState) (code : ResultCode) (why done : String) :
    Preserves (Published bound)
      (rollBack identity pointers code why done : Prog (Service Policy) UpdateResult) := by
  apply bind (onFolder_published _)
  intro result
  cases result with
  | ok _ => exact pure _
  | error error =>
    apply bind (mark_published true)
    intro _
    exact pure _

theorem store_published {write : Prog Folder (Except String Unit)} {what : String}
    {rest : PointerState → Prog (Service Policy) UpdateResult}
    (after : ∀ pointers, Preserves (Published bound) (rest pointers)) :
    Preserves (Published bound) (store surroundings identity write what rest) := by
  apply bind (onFolder_published _)
  intro captured
  cases captured with
  | error _ => exact pure _
  | ok pointers =>
    apply Preserves.bind (onFolder_published _)
    intro result
    cases result with
    | error _ => exact rollBack_published _ _ _ _
    | ok _ =>
      simp only
      split
      · apply Preserves.bind (Triple.modify fun _ given => given)
        intro _
        exact rollBack_published _ _ _ _
      · exact after pointers

variable (mode : UpdateMode)

theorem conclude_published (changed : Bool)
    (active : Option (Snapshot Policy)) (candidate : Snapshot Policy) (pointers : PointerState) :
    Preserves (Published bound) (conclude identity mode changed active candidate pointers) := by
  unfold conclude
  cases mode with
  | prepareOnly =>
    apply bind (mark_published true)
    intro _
    exact pure _
  | commitRuntime =>
    apply bind (publish_published candidate)
    intro published
    cases published with
    | true => exact pure _
    | false => exact rollBack_published _ _ _ _

theorem update_published (old : Option Bundle)
    (active : Option (Snapshot Policy)) (source : Source) (bundle : Bundle) :
    Preserves (Published bound)
      (update codec surroundings identity compile mode old active source bundle) := by
  unfold update
  simp only
  split
  · apply bind (prepare_published source)
    intro candidate
    cases candidate with
    | none => exact pure _
    | some candidate => exact store_published (conclude_published _ _ _ _)
  · exact store_published fun _ => pure _

theorem begin_published {rest : Source → Prog (Service Policy) UpdateResult}
    (after : ∀ declared, Preserves (Published bound) (rest declared)) :
    Preserves (Published bound) (begin codec surroundings identity rest) := by
  apply bind (read _)
  intro closed
  split
  · exact pure _
  split
  · exact pure _
  split
  · exact pure _
  split
  · apply Preserves.bind (Triple.modify fun _ given => given)
    intro _
    exact after _
  · exact pure _

theorem runOnce_published :
    Preserves (Published bound) (runOnce codec surroundings identity compile mode) := by
  apply begin_published
  intro declared
  apply bind (read _)
  intro service
  simp only
  split
  · exact pure _
  · exact update_published _ _ _ _ _

theorem restoreBundle_published (fallback : Bool) (declared : Source) (bundle : Bundle) :
    Preserves (Published bound)
      (restoreBundle codec identity compile fallback declared bundle) := by
  unfold restoreBundle
  split
  · exact pure _
  · apply bind (prepare_published _)
    intro candidate
    cases candidate with
    | none => exact pure _
    | some candidate =>
      have finish : ∀ result : Bool → UpdateResult, Preserves (Published bound)
          ((publish candidate).bind fun published => Prog.pure (result published)) :=
        fun _ => bind (publish_published candidate) fun _ => pure _
      simp only
      split
      · apply bind (onFolder_published _)
        intro result
        cases result with
        | error _ => exact pure _
        | ok _ => exact finish _
      · exact finish _

theorem restorePrevious_published (declared : Source) (found : Bool) :
    Preserves (Published bound) (restorePrevious codec identity compile declared found) := by
  unfold restorePrevious
  apply bind (read _)
  intro loaded
  cases loaded with
  | none => exact pure _
  | some bundle =>
    apply bind (restoreBundle_published true declared bundle)
    intro result
    exact pure _

theorem restoreAndPrepare_published :
    Preserves (Published bound) (restoreAndPrepare codec surroundings identity compile) := by
  apply begin_published
  intro declared
  apply bind (read _)
  intro current
  split
  · exact restorePrevious_published _ _
  · apply bind (restoreBundle_published false declared _)
    intro result
    split
    · exact pure _
    · exact restorePrevious_published _ _

theorem program_published (call : Call) :
    Preserves (Published bound) (call.program codec identity compile) := by
  unfold Call.program
  split
  · exact restoreAndPrepare_published
  · exact runOnce_published _

theorem version_le_step (service : Service Policy) (call : Call) :
    service.version ≤ (step codec identity compile service call).version := by
  have preserved : Preserves (Published service.version) (call.program codec identity compile) :=
    program_published call
  have kept := preserved call.script service le_rfl
  unfold step
  generalize call.program codec identity compile call.script service = outcome at kept ⊢
  rcases outcome with ⟨_ | result, rest, final⟩
  · exact kept
  · exact kept

end Versions

end Service

end OpenPpp2.Policy
