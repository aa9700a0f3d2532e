import OpenPpp2.Policy.BundleWrites

/-!
# What a running process reads from the policy store

The effect of each program of the store on what the loads return, without crashes: a load that
succeeded keeps returning its bundle until the pointer is moved, and a commit or refresh that
succeeded makes the load return its bundle.
-/

namespace OpenPpp2.Policy

open Lib.CrashLogic Lib.Decimal Lib.Durable Triple Folder List

variable {codec : Codec} {bundle : Bundle} {start folder : Folder}

def Extends (fewer more : Text → Option Text) : Prop :=
  ∀ name bytes, fewer name = some bytes → more name = some bytes

variable {bytes identity digest : Text} {later : Folder} {slot : Slot}

variable {fewer more : Text → Option Text}

theorem readFile_extends (grown : Extends fewer more)
    {limit : Nat} {name : Text} (held : readFile limit (fewer name) = some bytes) :
    readFile limit (more name) = some bytes := by
  simp only [readFile, Option.filter_eq_some_iff] at held ⊢
  exact ⟨grown name bytes held.1, held.2⟩

theorem loadBlob_extends (grown : Extends fewer more)
    {record : Json} (loaded : loadBlob codec fewer record = some bytes) :
    loadBlob codec more record = some bytes := by
  unfold loadBlob at loaded ⊢
  split at loaded
  · split_ifs at loaded with valid
    simp only [valid, Bool.false_eq_true, if_false]
    simp only [Option.filter_eq_some_iff] at loaded ⊢
    exact ⟨readFile_extends grown loaded.1, loaded.2⟩
  · cases loaded

theorem loadSources_extends (grown : Extends fewer more) {records : List (Text × Json)}
    {aggregate : Nat} {answer : List (Text × DurableSource) × Nat}
    (loaded : loadSources codec fewer records aggregate = .ok answer) :
    loadSources codec more records aggregate = .ok answer := by
  induction records generalizing aggregate answer with
  | nil => exact loaded
  | cons entry rest ih =>
    rcases entry with ⟨name, record⟩
    simp only [loadSources] at loaded ⊢
    split at loaded
    · split_ifs at loaded with wellFormed
      split at loaded
      · cases loaded
      case h_2 bytes blob =>
        split_ifs at loaded with fits
        split at loaded
        · cases loaded
        case h_2 tail =>
          simp only [loadBlob_extends grown blob, ih tail, wellFormed, fits, Bool.false_eq_true,
            if_false]
          exact loaded
    · cases loaded

theorem loadParsed_extends (grown : Extends fewer more) {manifest : Json}
    (loaded : loadParsed codec fewer identity manifest = .ok bundle) :
    loadParsed codec more identity manifest = .ok bundle := by
  simp only [loadParsed] at loaded ⊢
  split at loaded
  · split_ifs at loaded with valid
    split at loaded
    case h_1 validated blob =>
      split at loaded
      · cases loaded
      case h_2 sources =>
        simp only [validated, loadBlob_extends grown blob, loadSources_extends grown sources,
          if_neg valid]
        exact loaded
    · cases loaded
  · cases loaded

theorem loadManifest_extends {manifests moreManifests blobs moreBlobs : Text → Option Text}
    (manifestsGrown : Extends manifests moreManifests) (blobsGrown : Extends blobs moreBlobs)
    (loaded : loadManifest codec manifests blobs identity digest = .ok bundle) :
    loadManifest codec moreManifests moreBlobs identity digest = .ok bundle := by
  unfold loadManifest at loaded ⊢
  split_ifs at loaded with valid
  split at loaded
  · cases loaded
  case h_2 content held =>
    split_ifs at loaded with hashed
    split at loaded
    · cases loaded
    case h_2 parsed =>
      simp only [valid, Bool.false_eq_true, if_false, readFile_extends manifestsGrown held,
        if_neg hashed, parsed]
      exact loadParsed_extends blobsGrown loaded

theorem Keeps.load (keeps : Keeps folder later)
    (loaded : folder.load codec identity digest = .ok bundle) :
    later.load codec identity digest = .ok bundle :=
  loadManifest_extends (fun digest bytes held => keeps.content (.manifest digest) bytes rfl held)
    (fun digest bytes held => keeps.content (.blob digest) bytes rfl held) loaded

structure Unmoved (start folder : Folder) : Prop where
  keeps : Keeps start folder
  current : folder.content .current = start.content .current

theorem Unmoved.refl (folder : Folder) : Unmoved folder folder := ⟨Keeps.refl folder, rfl⟩

theorem Unmoved.trans {first second third : Folder} (left : Unmoved first second)
    (right : Unmoved second third) : Unmoved first third :=
  ⟨left.keeps.trans right.keeps, right.current.trans left.current⟩

theorem loadPointer_eq_some :
    (folder.loadPointer codec slot identity).bundle? = some bundle ↔ safeDigest identity ∧ ∃
      digest, readPointer (folder.content slot) = some digest ∧ folder.load codec identity digest =
      .ok bundle := by
  unfold loadPointer
  split
  case isFalse invalid =>
    simp [Load.bundle?, invalid]
  case isTrue safe =>
    split
    case h_1 missing => simp [Load.bundle?, missing]
    case h_2 digest found =>
      simp only [found, safe, true_and, Option.some.injEq, exists_eq_left', Load.bundle?]
      cases folder.load codec identity digest <;> simp

theorem Unmoved.loadCurrent (unmoved : Unmoved folder later)
    (loaded : (folder.loadCurrent codec identity).bundle? = some bundle) :
    (later.loadCurrent codec identity).bundle? = some bundle := by
  unfold Folder.loadCurrent at loaded ⊢
  rw [loadPointer_eq_some] at loaded ⊢
  rcases loaded with ⟨safe, digest, pointer, found⟩
  rw [← unmoved.current] at pointer
  exact ⟨safe, digest, pointer, unmoved.keeps.load found⟩

theorem loadCurrent_of_known (checked : checkBundle codec bundle = .ok ())
    (readable : bundle.Readable codec) (known : Known (bundle.files codec) folder)
    (current : folder.content .current = some (pointerLine (bundle.digest codec))) :
    (folder.loadCurrent codec bundle.identityFingerprint).bundle? = some bundle.stored := by
  unfold loadCurrent
  rw [loadPointer_eq_some, current]
  have pointer : readPointer (some (pointerLine (bundle.digest codec))) =
      some (bundle.digest codec) :=
    readPointer_pointerLine (codec.sha256_safe _) (codec.sha256_lower _)
  apply And.intro (checkBundle_eq_ok.mp checked).2.1
  apply Exists.intro _
  exact ⟨pointer, load_of_files checked readable fun file member => (known file member).2⟩

structure Drafting (start folder : Folder) : Prop where
  unmoved : Unmoved start folder
  reaches : ∀ slot, folder.reaches slot

theorem unmoved_put (unmoved : Unmoved start folder) (file : Option File) (kind : slot.immutable)
    (missing : folder.content slot = none) : Unmoved start (folder.put slot file) := by
  have other : Slot.current ≠ slot := by
    rintro rfl
    cases kind
  constructor
  · exact unmoved.keeps.trans (keeps_put file fun _ => missing)
  · rw [content_put_ne folder file other]
    exact unmoved.current

theorem unmoved_flush (unmoved : Unmoved start folder) (slot : Slot) :
    Unmoved start (folder.flush slot) where
  keeps := unmoved.keeps.trans (keeps_flush folder slot)
  current := by
    rw [content_flush]
    exact unmoved.current

theorem drafting_phase (start : Folder) : WritePhase (Drafting start) (Unmoved start) where
  idle drafting := drafting.unmoved
  reaches drafting := drafting.reaches
  renamed drafting kind missing file := unmoved_put drafting.unmoved file kind missing
  written drafting kind missing bytes :=
    ⟨unmoved_flush (unmoved_put drafting.unmoved _ kind missing) _, fun slot => by
      simp [drafting.reaches slot]⟩

theorem unmoved_makeHere (folder : Folder) : Unmoved folder (makeHere folder) := by
  apply Unmoved.mk (keeps_makeHere folder)
  unfold makeHere
  split
  · rfl
  case isFalse missing =>
    have before : folder.content .current = none := if_neg missing
    rw [before]
    rfl

theorem unmoved_makeBlobs (folder : Folder) : Unmoved folder (makeBlobs folder) := by
  apply Unmoved.mk (keeps_makeBlobs folder)
  unfold makeBlobs
  split <;> rfl

theorem reaches_made (folder : Folder) (slot : Slot) :
    (makeBlobs (makeHere folder)).reaches slot := by
  have here : (makeHere folder).here.live := by
    unfold makeHere
    split
    · assumption
    · rfl
  have blobs : ∀ other, (makeBlobs other).blobsHere.live ∧ (makeBlobs other).here = other.here := by
    intro other
    unfold makeBlobs
    split
    case isTrue live => exact ⟨live, rfl⟩
    · exact ⟨rfl, rfl⟩
  cases slot <;> simp [reaches, blobs, here]

theorem ensureBlobs_drafting (start : Folder) :
    Triple (· = start) ensureBlobs (fun _ => Drafting start) (Unmoved start) := by
  apply actBind (m := fun folder => folder = makeHere start)
  · rintro _ rfl
    rfl
  · rintro _ rfl
    exact .refl _
  · apply act
    · rintro _ rfl
      exact ⟨(unmoved_makeHere start).trans (unmoved_makeBlobs _), reaches_made start⟩
    · rintro _ rfl
      exact unmoved_makeHere start

/-- What a write of CURRENT leaves when it fails: the pointer was not moved. -/
def Pointed (codec : Codec) (bundle : Bundle) (start : Folder) : Except String Unit → Folder → Prop
  | .ok _, folder =>
    Keeps start folder ∧ Known (bundle.files codec) folder ∧
      folder.content .current = some (pointerLine (bundle.digest codec))
  | .error _, folder => Unmoved start folder

theorem content_settled (value : Option Text) (reaches : folder.reaches .current)
    (current : folder.current = .settled (value.map Cell.settled)) :
    folder.content .current = value := by
  simp only [content, reaches, if_true, entry, current, Cell.live_settled, Option.map_map]
  cases value <;> rfl

theorem pointed_of_moved {written : Folder} {result : Except String Unit}
    (drafting : Drafting start written) (known : Known (bundle.files codec) written)
    (moved : PointersMoved written (bundle.digest codec) result folder) :
    Pointed codec bundle start result folder := by
  cases result with
  | ok _ =>
    apply And.intro (drafting.unmoved.keeps.trans moved.1)
    apply And.intro (known.of_keeps moved.1)
    exact content_settled (some _) (moved.1.reaches _ (drafting.reaches _)) moved.2
  | error _ =>
    have reaches := moved.1.reaches .current (drafting.reaches .current)
    apply drafting.unmoved.trans
    apply Unmoved.mk moved.1
    rcases moved.2 with same | restored
    · simp only [content, reaches, drafting.reaches, if_true, entry, same]
    · exact content_settled _ reaches restored

theorem commit_live (bundle : Bundle) (start : Folder) : Live (· = start) (commit codec bundle)
      (fun result folder => Pointed codec bundle start result folder ∧
        (result = .ok () → checkBundle codec bundle = .ok ())) := by
  apply (commit_spec (drafting_phase start) (Unmoved.refl start)
    (ensureBlobs_drafting start)).live.ensure
  rintro result folder (⟨⟨error, rfl⟩, unmoved⟩ | ⟨checked, written, drafting, known, moved⟩)
  · exact ⟨unmoved, nofun⟩
  · exact ⟨pointed_of_moved drafting known moved, fun _ => checked⟩

theorem refreshBlobs_spec {phase failed : Folder → Prop} (writes : WritePhase phase failed)
    (known : List (Slot × Text)) (sources : List (Text × DurableSource)) :
    Triple (fun folder => phase folder ∧ Known known folder) (refreshBlobs codec sources)
      (fun result folder => Wrote phase failed (sourceFiles codec sources ++ known) result folder ∧
        (result = .ok () → ∀ entry ∈ sources, refreshable codec entry)) failed := by
  induction sources generalizing known with
  | nil => exact pure fun _ given => ⟨given, nofun⟩
  | cons entry rest ih =>
    unfold refreshBlobs
    split
    case isFalse invalid => exact pure fun _ given => ⟨writes.idle given.1, nofun⟩
    case isTrue valid =>
      refine andThen (writeBlob_spec writes known entry.2.bytes) (fun _ => ?_)
        (fun _ _ left => ⟨left, nofun⟩)
      apply (ih _).ensure
      intro result folder wrote
      apply And.intro (wrote.1.subset (sourceFiles_cons_subset entry rest))
      intro succeeded other member
      rcases mem_cons.mp member with rfl | later
      · exact valid
      · exact wrote.2 succeeded other later

theorem refreshPointer_spec (start : Folder) (digest : Text) :
    Triple (· = start) (refreshPointer digest) (PointersMoved start digest)
      (Moving (oldOr start digest) start) := by
  apply readBind
  intro current
  apply pointwise
  rintro folder ⟨rfl, rfl⟩
  split
  case h_1 pointer bytes _ held =>
    have content : folder.content .current = some bytes := by
      simp only [readFile, Option.filter_eq_some_iff] at held
      exact held.1
    have fine : oldOr folder digest (some (.settled bytes)) := by
      apply Or.inr (Or.inl _)
      rw [oldPointer, content]
      rfl
    apply bind (pointCurrent_spec folder digest)
    intro answer
    cases answer with
    | ok _ => exact pure fun _ moved => ⟨moved.1.keeps, moved.2⟩
    | error message =>
      apply bind ((writeCurrent_spec false fine).require (fun _ given => given.2))
      intro answer
      cases answer with
      | error rollback =>
        intro script state given
        cases given.1
      | ok _ =>
        apply Triple.pure
        intro state moved
        apply And.intro moved.1.keeps
        right
        rw [oldPointer, content]
        exact moved.2
  · exact stay ⟨Keeps.refl _, Or.inl rfl⟩

/-- What `RefreshCurrent` has tested when it returns true. -/
structure Refreshed (codec : Codec) (bundle : Bundle) : Prop where
  schema : bundle.schema = 1
  identity : safeDigest bundle.identityFingerprint
  rules : bundle.rules.length ≤ sourceLimit
  sources : ∀ entry ∈ bundle.ruleSets, refreshable codec entry

theorem refreshCurrent_live (bundle : Bundle) (start : Folder) :
    Live (· = start) (refreshCurrent codec bundle)
      (fun result folder => Pointed codec bundle start result folder ∧
        (result = .ok () → Refreshed codec bundle)) := by
  unfold refreshCurrent
  split
  · exact stay ⟨Unmoved.refl _, nofun⟩
  case isFalse valid =>
    simp only [ne_eq, not_or, not_not, Bool.not_eq_false, Nat.not_lt] at valid
    have writes := drafting_phase start
    apply bind (ensureBlobs_drafting start).live
    intro _
    refine andThen ((refreshBlobs_spec writes [] bundle.ruleSets).live.require
      (fun _ drafting => ⟨drafting, nofun⟩)) (fun _ => ?_) (fun _ _ left => ⟨left.1, nofun⟩)
    apply pointwise
    rintro middle ⟨drafted, tested⟩
    have refreshed : Refreshed codec bundle := ⟨valid.1, valid.2.1, valid.2.2, tested rfl⟩
    refine andThen ((writeBlob_spec writes _ bundle.rules).live.require
      (by rintro _ rfl; exact drafted)) (fun _ => ?_) (fun _ _ left => ⟨left, nofun⟩)
    refine andThen (persistImmutable_spec writes rfl).live (fun _ => ?_)
      (fun _ _ left => ⟨left, nofun⟩)
    apply pointwise
    rintro written ⟨drafting, known⟩
    have files : Known (bundle.files codec) written := by
      apply known.subset
      simp [Bundle.files, sourceFiles]
    apply (refreshPointer_spec written (bundle.digest codec)).live.ensure
    intro result folder moved
    exact ⟨pointed_of_moved drafting files moved, fun _ => refreshed⟩

theorem reaches_makeHere (folder : Folder) : (makeHere folder).reaches .current := by
  unfold makeHere
  split
  case isTrue live => simp [reaches, live]
  · rfl

theorem restorePointerState_live (identity : Text) (state : PointerState) (start : Folder) :
    Live (· = start) (restorePointerState identity state) (fun result folder => Keeps start folder ∧
        (result = .ok () → folder.content .current = state.current)) := by
  have current : Triple (Moving (fun _ => True) (makeHere start))
      (restorePointer true .current state.current)
      (Answered (fun _ => True) (makeHere start) true (state.current.map Cell.settled))
      (Moving (fun _ => True) (makeHere start)) := restoreCurrent_spec true trivial
  unfold restorePointerState
  split
  · exact stay ⟨Keeps.refl _, nofun⟩
  · apply actBind (m := Moving (fun _ => True) (makeHere start)) _ (fun _ _ => trivial)
    · apply bind (current.live)
      intro currentResult
      cases currentResult with
      | error message =>
        have previous : Live (Moving (fun _ => True) (makeHere start))
            (restorePointer true .previous state.previous)
            (fun _ => Moving (fun _ => True) (makeHere start)) :=
          restorePrevious_keeps true state.previous (fun _ file moving => moving.putPrevious file)
            (fun _ moving => moving.flush rfl) (fun _ _ => trivial)
        apply bind (previous.require (fun _ given => given.2))
        intro previousResult
        apply Triple.pure
        intro folder moving
        apply And.intro ((keeps_makeHere start).trans moving.keeps)
        cases previousResult <;> nofun
      | ok _ =>
        apply bind ((restorePrevious_spec true state.previous _).live)
        intro previousResult
        apply Triple.pure
        intro folder moved
        apply And.intro ((keeps_makeHere start).trans moved.1.keeps)
        intro _
        have reaches := moved.1.keeps.reaches .current (reaches_makeHere start)
        exact content_settled _ reaches moved.2
    · rintro _ rfl
      exact ⟨Keeps.refl _, fun _ _ => trivial⟩

theorem isXDigit_toLower (char : UInt8) (hex : isXDigit char) :
    isXDigit (toLower char) ∧ toLower (toLower char) = toLower char := by
  have each : ∀ value : Fin 256, isXDigit (UInt8.ofFin value) →
      isXDigit (toLower (UInt8.ofFin value)) ∧
        toLower (toLower (UInt8.ofFin value)) = toLower (UInt8.ofFin value) := by
    decide +kernel
  exact each char.toFin hex

theorem readPointer_written {content : Option Text} (pointer : readPointer content = some digest) :
    readPointer (some (pointerLine digest)) = some digest := by
  simp only [readPointer, Option.bind_eq_some_iff] at pointer
  rcases pointer with ⟨bytes, _, read⟩
  split_ifs at read with safe
  cases read
  simp only [safeDigest, Bool.and_eq_true, beq_iff_eq, all_eq_true] at safe
  apply readPointer_pointerLine
  · simp only [safeDigest, Bool.and_eq_true, beq_iff_eq, all_eq_true, lower, length_map, mem_map]
    apply And.intro safe.1
    rintro _ ⟨char, member, rfl⟩
    exact (isXDigit_toLower char (safe.2 char member)).1
  · simp only [lower, map_map]
    apply map_congr_left
    intro char member
    exact (isXDigit_toLower char (safe.2 char member)).2

def Restored (codec : Codec) (identity : Text) (previous : Bundle) (start : Folder) :
    Except String Unit → Folder → Prop
  | .ok _, folder => (folder.loadCurrent codec identity).bundle? = some previous
  | .error _, folder => Unmoved start folder

theorem restorePreviousAsCurrent_live {previous : Bundle} (start : Folder)
    (loaded : (start.loadPrevious codec identity).bundle? = some previous) :
    Live (· = start) (restorePreviousAsCurrent codec identity)
      (Restored codec identity previous start) := by
  unfold loadPrevious at loaded
  rw [loadPointer_eq_some] at loaded
  rcases loaded with ⟨safe, digest, pointer, found⟩
  have reaches : start.reaches .current := by
    by_contra missing
    have unread : start.content .previous = none := if_neg missing
    rw [unread] at pointer
    cases pointer
  have loads : ∀ folder : Folder, Keeps start folder →
      readPointer (folder.content .current) = some digest →
      (folder.loadCurrent codec identity).bundle? = some previous := by
    intro folder keeps current
    unfold loadCurrent
    rw [loadPointer_eq_some]
    exact ⟨safe, digest, current, keeps.load found⟩
  simp only [restorePreviousAsCurrent, safe, Bool.true_eq_false, if_false]
  apply readBind
  intro folder
  apply pointwise
  rintro _ ⟨rfl, rfl⟩
  simp only [id, pointer, found]
  split
  case isTrue same =>
    exact stay (loads _ (Keeps.refl _) same)
  · split
    · exact stay (Unmoved.refl _)
    · rename_i start _ _
      have fine : oldOr start digest start.oldPointer := Or.inr (Or.inl rfl)
      apply bind ((pointCurrent_spec start digest).live)
      intro answer
      cases answer with
      | ok _ =>
        apply Triple.pure
        intro folder moved
        apply loads folder moved.1.keeps
        rw [content_settled (some _) (moved.1.keeps.reaches .current reaches) moved.2]
        exact readPointer_written pointer
      | error message =>
        apply bind ((restoreCurrent_spec false fine).live.require (fun _ given => given.2))
        intro answer
        cases answer with
        | error rollback =>
          intro script folder given
          cases given.1
        | ok _ =>
          apply Triple.pure
          intro folder moved
          have kept := moved.1.keeps
          exact ⟨kept, content_settled _ (kept.reaches .current reaches) moved.2⟩

end OpenPpp2.Policy
