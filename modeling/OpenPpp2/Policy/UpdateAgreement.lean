import OpenPpp2.Policy.BundleDurability
import OpenPpp2.Policy.UpdateGather

/-!
# The published policy and the stored bundle

Along every sequence of calls of one update service: the policy that the runtime has is the
compilation of the bundle that the store reports, unless a bundle was left in the store that was not
published.
-/

namespace OpenPpp2.Policy

open Lib.CrashLogic Lib.Run List Option Triple

variable {Policy : Type} {codec : Codec} {surroundings : Surroundings} {identity : Text}
  {compile : Source → Option Policy} {start service : Service Policy}

namespace Service

section Agreement

variable (codec identity compile)

/-- The policy of a snapshot is the compilation of the bundle that the store reports as current,
under one of the declarations that were loaded. -/
def Matches (service : Service Policy) (snapshot : Snapshot Policy) : Prop :=
  ∃ bundle declared, (service.folder.loadCurrent codec identity).bundle? = some bundle ∧
    declared ∈ service.declarations ∧
    compile (declared.materialize bundle) = some snapshot.policy

def Agrees (service : Service Policy) : Prop :=
  ∃ snapshot, service.runtime.snapshot = some snapshot ∧
    Matches codec identity compile service snapshot

/-- Versions are issued in order, and what is published matches the store where no bundle was
left there unpublished. -/
structure Good (service : Service Policy) : Prop where
  issued : ∀ snapshot, service.runtime.snapshot = some snapshot →
    snapshot.version < service.runtime.nextVersion
  matched : service.unpublished = false → ∀ snapshot, service.runtime.snapshot = some snapshot →
    Matches codec identity compile service snapshot

def Consistent (service : Service Policy) : Prop :=
  service.closed ∨ Good codec identity compile service

/-- What a call of `RunOnce` establishes. -/
structure Concluded (mode : UpdateMode) (result : UpdateResult) (service : Service Policy) :
    Prop where
  consistent : Consistent codec identity compile service
  agrees : mode = .commitRuntime → result.ok → Agrees codec identity compile service

structure Stored (bundle : Bundle) (start : Folder) (result : Except String Unit)
    (folder : Folder) : Prop where
  keeps : Keeps start folder
  loads : result = .ok () → (folder.loadCurrent codec identity).bundle? = some bundle.stored

variable {codec identity compile}

/-- The service differs only in the files of the store, and none was lost. -/
structure Behind (start service : Service Policy) : Prop where
  keeps : Keeps start.folder service.folder
  runtime : service.runtime = start.runtime
  unpublished : service.unpublished = start.unpublished
  declarations : service.declarations = start.declarations

variable {folder : Folder} {pointers : PointerState} {bundle : Bundle} {source : Source}
    {candidate : Snapshot Policy} {declared : Source} {mode : UpdateMode} {call : Call}
    {rules : String}

theorem Behind.onFolder (behind : Behind start service)
    (keeps : Keeps service.folder folder) : Behind start { service with folder := folder } :=
  ⟨behind.keeps.trans keeps, behind.runtime, behind.unpublished, behind.declarations⟩

theorem capturePointerState_live (identity : Text) (start : Folder) :
    Live (· = start) (capturePointerState identity) (fun captured folder => folder = start ∧
        ∀ pointers, captured = .ok pointers → pointers.current = start.content .current) := by
  unfold capturePointerState
  split
  · exact stay ⟨rfl, nofun⟩
  · apply Triple.read
    rintro folder rfl
    apply And.intro rfl
    intro pointers captured
    simp only at captured
    split at captured
    · cases captured
    · cases captured
      rfl

variable {post : UpdateResult → Service Policy → Prop}

section

variable (good : Good codec identity compile start)
include good

theorem Behind.issued (behind : Behind start service) :
    ∀ snapshot, service.runtime.snapshot = some snapshot →
      snapshot.version < service.runtime.nextVersion := by
  rw [behind.runtime]
  exact good.issued

theorem Behind.unmoved (behind : Behind start service)
    (same : service.folder.content .current = start.folder.content .current) :
    Good codec identity compile service where
  issued := behind.issued good
  matched published snapshot active := by
    rw [behind.unpublished] at published
    rw [behind.runtime] at active
    rcases good.matched published snapshot active with ⟨bundle, declared, loads, member, compiled⟩
    have unmoved : Unmoved start.folder service.folder := ⟨behind.keeps, same⟩
    rw [← behind.declarations] at member
    exact ⟨bundle, declared, unmoved.loadCurrent loads, member, compiled⟩

theorem Behind.marked (behind : Behind start service) :
    Good codec identity compile { service with unpublished := true } :=
  ⟨(behind.issued good :), nofun⟩

theorem Behind.refreshed {old : Bundle} (behind : Behind start service)
    (before : (start.folder.loadCurrent codec identity).bundle? = some old)
    (after : (service.folder.loadCurrent codec identity).bundle? = some bundle.stored)
    (same : ∀ declared : Source, declared.materialize bundle = declared.materialize old) :
    Good codec identity compile service where
  issued := behind.issued good
  matched published snapshot active := by
    rw [behind.unpublished] at published
    rw [behind.runtime] at active
    rcases good.matched published snapshot active with ⟨found, declared, loads, member, compiled⟩
    rw [before] at loads
    cases loads
    rw [← same, ← materialize_stored] at compiled
    rw [← behind.declarations] at member
    exact ⟨bundle.stored, declared, after, member, compiled⟩

theorem rollBack_spec {code : ResultCode} {why done : String}
    (captured : pointers.current = start.folder.content .current) :
    Live (Behind start) (rollBack identity pointers code why done)
      (fun result service => result.code = code ∧ Good codec identity compile service) := by
  apply pointwise
  intro middle behind
  apply bind (m := fun result service => Behind start service ∧
    (result = .ok () → service.folder.content .current = pointers.current))
  · refine .within (restorePointerState_live identity pointers middle.folder) ?_
      (fun _ _ => trivial)
    intro result folder restored
    exact ⟨behind.onFolder restored.1, restored.2⟩
  · intro result
    cases result with
    | ok _ =>
      apply Triple.pure
      intro service restored
      exact ⟨rfl, restored.1.unmoved good ((restored.2 rfl).trans captured)⟩
    | error error =>
      apply bind (m := fun _ => Good codec identity compile)
      · apply Triple.modify
        intro service restored
        exact restored.1.marked good
      · intro _
        apply Triple.pure
        intro service good
        exact ⟨rfl, good⟩

theorem store_spec {write : Prog Folder (Except String Unit)} {what : String}
    {rest : PointerState → Prog (Service Policy) UpdateResult}

    (writes : Live (· = start.folder) write
      (Stored codec identity bundle start.folder))
    (undone : ∀ result service, result.ok = false → Good codec identity compile service →
      post result service)
    (after : ∀ pointers, pointers.current = start.folder.content .current →
      Live (fun service => Behind start service ∧
        (service.folder.loadCurrent codec identity).bundle? = some bundle.stored)
        (rest pointers) post) :
    Live (· = start) (store surroundings identity write what rest) post := by
  apply bind (m := fun captured service => service = start ∧
    ∀ pointers, captured = .ok pointers → pointers.current = start.folder.content .current)
  · refine .within (capturePointerState_live identity start.folder) ?_
      (fun _ _ => trivial)
    rintro captured _ ⟨rfl, pointers⟩
    exact ⟨rfl, pointers⟩
  intro captured
  cases captured with
  | error _ =>
    apply Triple.pure
    rintro _ ⟨rfl, _⟩
    exact undone _ _ rfl good
  | ok pointers =>
    apply pointwise
    rintro start ⟨rfl, captured⟩
    have same := captured pointers rfl
    have undo : ∀ {code : ResultCode} {why done : String}, code = .failed ∨ code = .closed →
        Live (Behind start) (rollBack identity pointers code why done) post := by
      intro code why done refused
      apply (rollBack_spec good same).ensure
      rintro result service ⟨rfl, good⟩
      apply undone result service _ good
      rcases refused with code | code <;> simp [UpdateResult.ok, code]
    apply bind (m := fun result service => Behind start service ∧ (result = .ok () →
      (service.folder.loadCurrent codec identity).bundle? = some bundle.stored))
    · refine .within writes ?_ (fun _ _ => trivial)
      intro result folder stored
      exact ⟨⟨stored.keeps, rfl, rfl, rfl⟩, stored.loads⟩
    intro result
    cases result with
    | error _ =>
      exact (undo (.inl rfl)).require (fun _ given => given.1)
    | ok _ =>
      dsimp only
      split
      · apply bind (m := fun _ => Behind start)
        · apply Triple.modify
          intro service given
          exact ⟨given.1.keeps, given.1.runtime, given.1.unpublished, given.1.declarations⟩
        · intro _
          exact undo (.inr rfl)
      · exact (after pointers same).require (fun _ given => ⟨given.1, given.2 rfl⟩)

end

structure Offered (start : Service Policy) (compile : Source → Option Policy) (source : Source)
    (candidate : Snapshot Policy) : Prop where
  compiled : compile source = some candidate.policy
  newer : ∀ snapshot, start.runtime.snapshot = some snapshot → snapshot.version < candidate.version
  issued : candidate.version < start.runtime.nextVersion

structure Prepared (start : Service Policy) (compile : Source → Option Policy) (source : Source)
    (candidate : Option (Snapshot Policy)) (service : Service Policy) : Prop where
  behind : service.folder = start.folder ∧ service.closed = start.closed ∧
    service.unpublished = start.unpublished ∧ service.declarations = start.declarations ∧
    service.runtime.snapshot = start.runtime.snapshot
  issued : start.runtime.nextVersion ≤ service.runtime.nextVersion
  offered : (∀ snapshot, start.runtime.snapshot = some snapshot →
      snapshot.version < start.runtime.nextVersion) →
    ∀ snapshot, candidate = some snapshot → Offered service compile source snapshot

theorem prepare_spec (source : Source) (start : Service Policy) :
    Live (· = start) (prepare compile source) (Prepared start compile source) := by
  apply Triple.modify
  rintro _ rfl
  unfold Runtime.prepare
  split
  · exact ⟨⟨rfl, rfl, rfl, rfl, rfl⟩, le_rfl, nofun⟩
  · constructor
    · exact ⟨rfl, rfl, rfl, rfl, rfl⟩
    · exact Nat.le_succ _
    · intro issued snapshot offered
      simp only [map_eq_some_iff] at offered
      rcases offered with ⟨policy, compiled, rfl⟩
      exact ⟨compiled, issued, Nat.lt_succ_self _⟩

theorem Prepared.good {candidate : Option (Snapshot Policy)}
    (prepared : Prepared start compile source candidate service)
    (good : Good codec identity compile start) : Good codec identity compile service := by
  rcases prepared.behind with ⟨folder, _, unpublished, declarations, snapshot⟩
  constructor
  · rw [snapshot]
    intro active found
    exact lt_of_lt_of_le (good.issued active found) prepared.issued
  · rw [unpublished, snapshot]
    intro published active found
    unfold Matches
    rw [folder, declarations]
    exact good.matched published active found

theorem publish_spec (offered : Offered service compile (declared.materialize bundle) candidate)
    (member : declared ∈ service.declarations)
    (loads : (service.folder.loadCurrent codec identity).bundle? = some bundle) :
    Live (· = service) (publish candidate)
      (fun published state => published ∧ Good codec identity compile state ∧
        Agrees codec identity compile state ∧ declared ∈ state.declarations) := by
  apply Triple.modify
  rintro service rfl
  have accepted : service.runtime.commit candidate =
      (true, { service.runtime with snapshot := some candidate }) := by
    unfold Runtime.commit
    split
    case h_1 current found =>
      rw [if_neg (Nat.not_le.mpr (offered.newer current found))]
    · rfl
  simp only [accepted]
  have matched : Matches codec identity compile { service with
      runtime := { service.runtime with snapshot := some candidate }
      unpublished := service.unpublished && !true } candidate :=
    ⟨bundle, declared, loads, member, offered.compiled⟩
  apply And.intro trivial
  constructor
  · constructor
    · rintro snapshot ⟨⟩
      exact offered.issued
    · rintro _ snapshot ⟨⟩
      exact matched
  · exact ⟨⟨candidate, rfl, matched⟩, member⟩

theorem conclude_spec {changed : Bool} {active : Option (Snapshot Policy)}
    (good : Good codec identity compile start) (member : declared ∈ start.declarations)
    (offered : Offered start compile (declared.materialize bundle) candidate) :
    Live (fun service => Behind start service ∧
      (service.folder.loadCurrent codec identity).bundle? = some bundle.stored)
      (conclude identity mode changed active candidate pointers)
      (Concluded codec identity compile mode) := by
  unfold conclude
  cases mode with
  | prepareOnly =>
    apply bind (m := fun _ => Good codec identity compile)
    · apply Triple.modify
      intro service given
      exact given.1.marked good
    · intro _
      apply Triple.pure
      intro service good
      exact ⟨.inr good, nofun⟩
  | commitRuntime =>
    apply pointwise
    rintro service ⟨behind, loads⟩
    rw [← materialize_stored] at offered
    rw [← behind.declarations] at member
    have offered : Offered service compile (declared.materialize bundle.stored) candidate := by
      constructor
      · exact offered.compiled
      · rw [behind.runtime]
        exact offered.newer
      · rw [behind.runtime]
        exact offered.issued
    apply bind (publish_spec offered member loads)
    intro published
    cases published with
    | true =>
      apply Triple.pure
      intro state given
      exact ⟨.inr given.2.1, fun _ _ => given.2.2.1⟩
    | false =>
      rintro script state ⟨⟨⟩, _⟩

theorem commit_stored
    (identified : bundle.identityFingerprint = identity) (readable : bundle.Readable codec) :
    Live (· = folder) (commit codec bundle) (Stored codec identity bundle folder) := by
  apply (commit_live bundle folder).ensure
  rintro result state ⟨pointed, checked⟩
  cases result with
  | error _ => exact ⟨pointed.keeps, nofun⟩
  | ok _ =>
    rcases pointed with ⟨keeps, known, current⟩
    apply Stored.mk keeps
    intro _
    rw [← identified]
    exact loadCurrent_of_known (checked rfl) readable known current

theorem refreshCurrent_stored (gathered : GatheredBundle codec identity declared source bundle)
    (readable : bundle.Readable codec) : Live (· = folder) (refreshCurrent codec bundle)
      (Stored codec identity bundle folder) := by
  apply (refreshCurrent_live bundle folder).ensure
  rintro result state ⟨pointed, refreshed⟩
  cases result with
  | error _ => exact ⟨pointed.keeps, nofun⟩
  | ok _ =>
    rcases pointed with ⟨keeps, known, current⟩
    apply Stored.mk keeps
    intro _
    have tested := refreshed rfl
    have safe := tested.identity
    rw [gathered.identified] at safe
    have checked := gathered.checked tested.sources safe
    rw [← gathered.identified]
    exact loadCurrent_of_known checked readable known current

/-- The condition of the source under which a call of `RunOnce` is proved to agree: the bundle it
gathers can be read back, and it is not skipped as unchanged while another one was left in the
store without being published. -/
def Publishable (codec : Codec) (service : Service Policy) (mode : UpdateMode)
    (old : Option Bundle) (bundle : Bundle) : Prop :=
  bundle.Readable codec ∧
    (mode = .commitRuntime → service.unpublished → service.runtime.snapshot.isSome →
      bundleChanged old bundle)

variable {result : UpdateResult}

theorem Concluded.refused
    (consistent : Consistent codec identity compile service) (refused : result.ok = false) :
    Concluded codec identity compile mode result service :=
  ⟨consistent, fun _ accepted => absurd accepted (Bool.eq_false_iff.mp refused)⟩

theorem update_spec {declared : Declaration} (good : Good codec identity compile start)
    (member : declared.source ∈ start.declarations)
    (gathered : GatheredBundle codec identity declared.source source bundle)
    (publishable : Publishable codec start mode
      (start.folder.loadCurrent codec identity).bundle? bundle) : Live (· = start)
      (update codec surroundings identity compile mode
        (start.folder.loadCurrent codec identity).bundle? start.runtime.snapshot source bundle)
      (Concluded codec identity compile mode) := by
  have undone : ∀ result (service : Service Policy), result.ok = false →
      Good codec identity compile service →
      Concluded codec identity compile mode result service :=
    fun _ _ refused good => .refused (.inr good) refused
  unfold update
  dsimp only
  split
  case isTrue compiles =>
    apply bind (prepare_spec source start)
    intro candidate
    apply pointwise
    intro service prepared
    have still := prepared.good good
    cases candidate with
    | none =>
      exact stay (undone _ _ rfl still)
    | some candidate =>
      have offered := prepared.offered good.issued candidate rfl
      rw [gathered.source] at offered
      rw [← prepared.behind.2.2.2.1] at member
      apply store_spec still (commit_stored gathered.identified publishable.1) undone
      intro pointers _
      exact conclude_spec still member offered
  case isFalse skipped =>
    simp only [Bool.or_eq_true, not_or, Bool.not_eq_true, isNone_eq_false_iff] at skipped
    rcases skipped with ⟨unchanged, active⟩
    apply store_spec good (refreshCurrent_stored gathered publishable.1) undone
    intro pointers _
    apply Triple.pure
    rintro service ⟨behind, loads⟩
    -- Only a stored bundle can be unchanged.
    cases before : (start.folder.loadCurrent codec identity).bundle? with
    | none =>
      rw [before] at unchanged
      cases unchanged
    | some old =>
      rw [before] at unchanged
      have keyed : (bundle.ruleSets.map Prod.fst).Nodup := by
        rw [gathered.names]
        exact declared.keyed
      have same := behind.refreshed good before loads (materialize_of_unchanged keyed unchanged)
      apply Concluded.mk (.inr same)
      intro commits _
      have published : service.unpublished = false := by
        rw [behind.unpublished, Bool.eq_false_iff]
        intro left
        have changed := publishable.2 commits left active
        rw [before, unchanged] at changed
        cases changed
      rw [← behind.runtime, isSome_iff_exists] at active
      rcases active with ⟨snapshot, active⟩
      exact ⟨snapshot, active, same.matched published snapshot active⟩

theorem begin_spec {rest : Source → Prog (Service Policy) UpdateResult}

    (consistent : Consistent codec identity compile start)
    (idle : ∀ result, result.ok = false → post result start)
    (after : ∀ declared, surroundings.declaration = .ok declared →
      Good codec identity compile start →
      Live (fun service => service =
        { start with declarations := declared.source :: start.declarations })
        (rest declared.source) post) :
    Live (· = start) (begin codec surroundings identity rest) post := by
  have stays : ∀ result, result.ok = false → Live (· = start) (Prog.pure result) post :=
    fun result refused => stay (idle result refused)
  apply readBind
  intro closed
  apply pointwise
  rintro start ⟨rfl, rfl⟩
  split
  · exact stays _ rfl
  case isFalse isOpen =>
    split
    · exact stays _ rfl
    case h_2 declared found =>
      split
      · exact stays _ rfl
      · split
        · apply bind (m := fun _ service => service =
            { start with declarations := declared.source :: start.declarations })
          · apply Triple.modify
            rintro _ rfl
            rfl
          · intro _
            apply after declared found
            exact consistent.resolve_left isOpen
        · exact stays _ rfl

theorem Good.declare (good : Good codec identity compile start) (declared : Source) :
    Good codec identity compile { start with declarations := declared :: start.declarations } where
  issued := good.issued
  matched published snapshot active := by
    rcases good.matched published snapshot active with ⟨bundle, source, loads, member, compiled⟩
    exact ⟨bundle, source, loads, mem_cons_of_mem _ member, compiled⟩

theorem runOnce_spec (consistent : Consistent codec identity compile start)
    (allowed : ∀ declared source bundle, surroundings.declaration = .ok declared →
      gather codec surroundings identity declared.source
        (start.folder.loadCurrent codec identity).bundle? = .ok (source, bundle) →
      Publishable codec start mode (start.folder.loadCurrent codec identity).bundle? bundle) :
    Live (· = start) (runOnce codec surroundings identity compile mode)
      (Concluded codec identity compile mode) := by
  apply begin_spec consistent
  · intro result refused
    exact .refused consistent refused
  intro declared found good
  have declares := good.declare declared.source
  apply readBind
  intro service
  apply pointwise
  rintro _ ⟨rfl, rfl⟩
  dsimp only [id]
  split
  · exact stay ⟨.inr declares, nofun⟩
  case h_2 source bundle gathered =>
    exact update_spec declares mem_cons_self (gather_spec gathered)
      (allowed declared source bundle found gathered)

structure Serves (codec : Codec) (identity : Text) (compile : Source → Option Policy)
    (declared : Source) (service : Service Policy) : Prop where
  good : Good codec identity compile service
  member : declared ∈ service.declarations

theorem restoreBundle_spec (fallback : Bool) (serves : Serves codec identity compile declared start)
    (loaded : ((if fallback then start.folder.loadPrevious codec identity
      else start.folder.loadCurrent codec identity).bundle?) = some bundle) : Live (· = start)
      (restoreBundle codec identity compile fallback declared bundle)
      (fun _ => Serves codec identity compile declared) := by
  unfold restoreBundle
  split
  · exact stay serves
  case h_2 source restored =>
    have materialized := restoreSource_spec restored
    apply bind (prepare_spec source start)
    intro candidate
    apply pointwise
    intro service prepared
    have still : Serves codec identity compile declared service := by
      apply Serves.mk (prepared.good serves.good)
      rw [prepared.behind.2.2.2.1]
      exact serves.member
    cases candidate with
    | none => exact stay still
    | some candidate =>
      have offered := prepared.offered serves.good.issued candidate rfl
      rw [materialized] at offered
      rw [← prepared.behind.1] at loaded
      have publishes : ∀ folder, (folder.loadCurrent codec identity).bundle? = some bundle →
          ∀ result : Bool → UpdateResult,
          Live (fun state => state = { service with folder := folder })
            ((publish candidate).bind fun published => Prog.pure (result published))
            (fun _ => Serves codec identity compile declared) := by
        intro folder loads result
        have moved : Offered { service with folder := folder } compile
            (declared.materialize bundle) candidate :=
          ⟨offered.compiled, offered.newer, offered.issued⟩
        apply bind (publish_spec moved still.member loads)
        intro published
        apply Triple.pure
        intro state given
        exact ⟨given.2.1, given.2.2.2⟩
      cases fallback with
      | false =>
        simp only [Bool.false_eq_true, if_false]
        exact publishes service.folder loaded _
      | true =>
        apply bind (m := fun result state => ∃ folder,
          state = { service with folder := folder } ∧
            Restored codec identity bundle service.folder result folder)
        · refine .within (restorePreviousAsCurrent_live service.folder loaded) ?_
            (fun _ _ => trivial)
          intro result folder moved
          exact ⟨folder, rfl, moved⟩
        intro result
        apply pointwise
        rintro state ⟨folder, rfl, moved⟩
        cases result with
        | ok _ => exact publishes folder moved _
        | error _ =>
          have unmoved : Unmoved service.folder folder := moved
          have behind : Behind service { service with folder := folder } :=
            ⟨unmoved.keeps, rfl, rfl, rfl⟩
          exact stay ⟨behind.unmoved still.good unmoved.current, still.member⟩

theorem restorePrevious_spec {found : Bool} : Live (Serves codec identity compile declared)
      (restorePrevious codec identity compile declared found)
      (fun _ => Serves codec identity compile declared) := by
  unfold restorePrevious
  apply readBind
  intro loaded
  apply pointwise
  rintro start ⟨serves, found⟩
  cases loaded with
  | none =>
    exact stay serves
  | some bundle =>
    apply bind (restoreBundle_spec true serves found)
    intro result
    apply Triple.pure
    intro _ serves
    exact serves

theorem restoreAndPrepare_spec (consistent : Consistent codec identity compile start) :
    Live (· = start) (restoreAndPrepare codec surroundings identity compile)
      (fun _ => Consistent codec identity compile) := by
  apply begin_spec consistent
  · intro result refused
    exact consistent
  intro declared found good
  have serves : Serves codec identity compile declared.source
      { start with declarations := declared.source :: start.declarations } :=
    ⟨good.declare declared.source, mem_cons_self⟩
  have answers : ∀ state : Service Policy, Serves codec identity compile declared.source state →
      Consistent codec identity compile state := fun _ serves => .inr serves.good
  apply readBind
  intro current
  apply pointwise
  rintro _ ⟨rfl, rfl⟩
  have previous : ∀ found : Bool, Live (Serves codec identity compile declared.source)
      (restorePrevious codec identity compile declared.source found)
      (fun _ => Consistent codec identity compile) := by
    intro found
    exact restorePrevious_spec.ensure fun _ => answers
  split
  · apply (previous _).require
    rintro _ rfl
    exact serves
  case h_2 bundle loaded =>
    apply bind (restoreBundle_spec false serves loaded)
    intro result
    split
    · exact .pure answers
    · exact previous _

variable (codec identity compile)

def Allowed (service : Service Policy) (call : Call) : Prop :=
  ∀ mode declared source bundle, call.request = .runOnce mode →
    call.surroundings.declaration = .ok declared →
    gather codec call.surroundings identity declared.source
      (service.folder.loadCurrent codec identity).bundle? = .ok (source, bundle) →
    Publishable codec service mode (service.folder.loadCurrent codec identity).bundle? bundle

variable {codec identity compile}

theorem program_spec (consistent : Consistent codec identity compile start)
    (allowed : Allowed codec identity start call) :
    Live (· = start) (call.program codec identity compile)
      (fun result service => Consistent codec identity compile service ∧
        (call.request = .runOnce .commitRuntime → result.ok →
          Agrees codec identity compile service)) := by
  unfold Call.program
  cases requested : call.request with
  | restoreAndPrepare =>
    apply (restoreAndPrepare_spec consistent).ensure
    intro result service given
    exact ⟨given, nofun⟩
  | runOnce mode =>
    refine (runOnce_spec consistent ?_).ensure ?_
    · intro declared source bundle found gathered
      exact allowed mode declared source bundle requested found gathered
    · intro result service given
      apply And.intro given.consistent
      rintro ⟨⟩
      exact given.agrees rfl

theorem consistent_step (service : Service Policy) (call : Call)
    (allowed : Allowed codec identity service call)
    (consistent : Consistent codec identity compile service) :
    Consistent codec identity compile (step codec identity compile service call) := by
  have outcome := program_spec consistent allowed call.script service rfl
  unfold step
  generalize call.program codec identity compile call.script service = answered at outcome ⊢
  rcases answered with ⟨_ | result, rest, final⟩
  · exact .inl rfl
  · exact outcome.1

theorem agrees_step {service : Service Policy} (allowed : Allowed codec identity service call)
    (consistent : Consistent codec identity compile service)
    (requested : call.request = .runOnce .commitRuntime)
    (answered : service.answer codec identity compile call = some result) (accepted : result.ok) :
    Agrees codec identity compile (step codec identity compile service call) := by
  have outcome := program_spec consistent allowed call.script service rfl
  unfold answer at answered
  unfold step
  generalize call.program codec identity compile call.script service = ended at answered outcome ⊢
  rcases ended with ⟨_ | other, rest, final⟩
  · cases answered
  · cases answered
    exact outcome.2 requested accepted

/-- On a service over any store: no call takes the published version back, and where each call
meets the condition, a call of `RunOnce` that publishes and returns `Ok` leaves the runtime with
the compilation of the bundle that the store reports. -/
theorem runOnce_agrees (codec : Codec) (identity : Text) (compile : Source → Option Policy)
    (folder : Folder) (calls : List Call) (call : Call) :
    (run (step codec identity compile) { folder := folder } calls).version ≤
        (run (step codec identity compile) { folder := folder } (calls ++ [call])).version ∧
      (Guarded (step codec identity compile) (Allowed codec identity) { folder := folder }
          (calls ++ [call]) →
        call.request = .runOnce .commitRuntime →
        ∀ result, answer codec identity compile
            (run (step codec identity compile) { folder := folder } calls) call = some result →
          result.ok = true →
          Agrees codec identity compile
            (run (step codec identity compile) { folder := folder } (calls ++ [call]))) := by
  rw [run_append]
  apply And.intro (version_le_step _ call)
  intro guarded requested result answered accepted
  rw [guarded_append] at guarded
  have initial : Consistent codec identity compile ({ folder := folder } : Service Policy) :=
    Or.inr ⟨nofun, nofun⟩
  have consistent := guarded_invariant consistent_step guarded.1 initial
  exact agrees_step guarded.2.1 consistent requested answered accepted

def sampleDeclaration : Declaration where
  source := { rulesPath := text "rules.txt" }
  keyed := List.nodup_nil

def sampleIdentity : Text := immutableFingerprint Store.sumDigest sampleDeclaration.source

def rulesBundle (rules : Text) : Bundle where
  identityFingerprint := sampleIdentity
  rules := rules
  rulesValidatedAtMs := 0
  ruleSets := []

def rulesCodec : Codec :=
  Store.codecOf [rulesBundle (text "default proxy"), rulesBundle (text "default direct")]

def sampleCompile (source : Source) : Option Text := some source.rulesText

def sampleCall (mode : UpdateMode) (rules : String) : Call where
  request := .runOnce mode
  surroundings :=
    { declaration := .ok sampleDeclaration, files := fun _ => some (text rules) }

def sampleRun (calls : List Call) : Service Text :=
  run (step rulesCodec sampleIdentity sampleCompile) { folder := .absent } calls

theorem rules_of_agrees {service : Service Text}
    (agrees : Agrees rulesCodec sampleIdentity sampleCompile service) :
    service.runtime.snapshot.map Snapshot.policy =
      (service.folder.loadCurrent rulesCodec sampleIdentity).bundle?.map Bundle.rules := by
  rcases agrees with ⟨snapshot, active, bundle, declared, loads, _, compiled⟩
  simp only [sampleCompile, Source.materialize, some.injEq] at compiled
  simp [active, loads, compiled]

/-- New rules that were only prepared are in the store, so that the call that is to publish them
finds them unchanged: it returns `Ok`, and the runtime keeps the old rules. -/
theorem unchanged_hides_prepared_bundle :
    let calls :=
      [sampleCall .commitRuntime "default proxy", sampleCall .prepareOnly "default direct"]
    let call := sampleCall .commitRuntime "default direct"
    answer rulesCodec sampleIdentity sampleCompile (sampleRun calls) call =
        some { code := .unchanged, version := 1, diagnostic := "policy bytes are unchanged" } ∧
      ((sampleRun (calls ++ [call])).folder.loadCurrent rulesCodec sampleIdentity).bundle?.map
        Bundle.rules = some (text "default direct") ∧
      (sampleRun (calls ++ [call])).runtime.snapshot =
        some { version := 1, policy := text "default proxy" } ∧
      ¬ Agrees rulesCodec sampleIdentity sampleCompile (sampleRun (calls ++ [call])) := by
  intro calls call
  have answered : answer rulesCodec sampleIdentity sampleCompile (sampleRun calls) call =
      some { code := .unchanged, version := 1, diagnostic := "policy bytes are unchanged" } := by
    decide +kernel
  have stored : ((sampleRun (calls ++ [call])).folder.loadCurrent rulesCodec
      sampleIdentity).bundle?.map Bundle.rules = some (text "default direct") := by
    decide +kernel
  have published : (sampleRun (calls ++ [call])).runtime.snapshot =
      some { version := 1, policy := text "default proxy" } := by
    decide +kernel
  apply And.intro answered
  apply And.intro stored
  apply And.intro published
  intro agrees
  have same := rules_of_agrees agrees
  rw [stored, published] at same
  revert same
  decide

theorem rulesBundle_readable (known : rules = "default proxy" ∨ rules = "default direct") :
    (rulesBundle (text rules)).Readable rulesCodec := by
  rcases known with rfl | rfl <;>
    exact Store.readable_codecOf (by simp) (by decide +kernel) (by decide +kernel) nofun

theorem sampleCall_publishable {service : Service Text}
    (known : rules = "default proxy" ∨ rules = "default direct")
    (gathers : ∀ old, gather rulesCodec (sampleCall mode rules).surroundings sampleIdentity
      sampleDeclaration.source old =
        .ok ({ sampleDeclaration.source with rulesText := text rules }, rulesBundle (text rules)))
    (published : service.unpublished = false) :
    Allowed rulesCodec sampleIdentity service (sampleCall mode rules) := by
  intro other declared source bundle requested found gathered
  cases found
  rw [gathers] at gathered
  cases gathered
  apply And.intro (rulesBundle_readable known)
  intro _ left
  rw [published] at left
  cases left

/-- Rules that are published at each call agree with the store. -/
theorem published_rules_agree :
    let calls := [sampleCall .commitRuntime "default proxy"]
    let call := sampleCall .commitRuntime "default direct"
    Guarded (step rulesCodec sampleIdentity sampleCompile) (Allowed rulesCodec sampleIdentity)
        { folder := .absent } (calls ++ [call]) ∧
      Agrees rulesCodec sampleIdentity sampleCompile (sampleRun (calls ++ [call])) := by
  intro calls call
  have guarded : Guarded (step rulesCodec sampleIdentity sampleCompile)
      (Allowed rulesCodec sampleIdentity) { folder := .absent } (calls ++ [call]) := by
    apply And.intro (sampleCall_publishable (.inl rfl) (fun _ => rfl) rfl)
    apply And.intro _ trivial
    exact sampleCall_publishable (.inr rfl) (fun _ => rfl) (by decide +kernel)
  apply And.intro guarded
  apply (runOnce_agrees rulesCodec sampleIdentity sampleCompile .absent calls call).2 guarded rfl
    { code := .updated, version := 2,
      diagnostic := "complete durable policy bundle committed to runtime" }
  · decide +kernel
  · rfl

end Agreement

end Service

end OpenPpp2.Policy
