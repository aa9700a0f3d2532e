import OpenPpp2.Lib.Run
import OpenPpp2.Policy.BundleWrites

/-!
# What a crash leaves of the policy store

The files of a bundle are on the disk before a pointer names its manifest, and they are not changed
after.
-/

namespace OpenPpp2.Policy

open Lib.CrashLogic Lib.Durable Lib.Run List

variable (codec : Codec)

/-- Before a commit: the files of the bundle that are there already have reached the disk, and so
has the directory of the blobs if the manifest is there. -/
structure Folder.Prepared (folder : Folder) (bundle : Bundle) : Prop where
  solid : ∀ file ∈ bundle.files codec, ∀ bytes, folder.content file.1 = some bytes →
    Solid (folder.entry file.1) bytes
  blobsHere : (folder.content (.manifest (bundle.digest codec))).isSome →
    folder.blobsHere = .settled true

structure Folder.Holds (folder : Folder) (bundle : Bundle) : Prop where
  here : folder.here = .settled true
  blobsHere : folder.blobsHere = .settled true
  solid : ∀ file ∈ bundle.files codec, Solid (folder.entry file.1) file.2

variable {codec} {bundle : Bundle} {start folder : Folder}

theorem Folder.Holds.reaches (holds : folder.Holds codec bundle) (slot : Slot) :
    folder.reaches slot := by
  cases slot <;> simp [Folder.reaches, holds.here, holds.blobsHere]

open Folder

theorem Folder.Holds.of_keeps {later : Folder} (holds : folder.Holds codec bundle)
    (keeps : Keeps folder later) : later.Holds codec bundle where
  here := keeps.here holds.here
  blobsHere := keeps.blobsHere (holds.reaches .current) holds.blobsHere
  solid file member := by
    have kind : file.1.immutable := by
      simp only [Bundle.files, mem_cons, mem_map] at member
      rcases member with rfl | rfl | ⟨entry, _, rfl⟩ <;> rfl
    exact keeps.solid file.1 file.2 kind (holds.reaches file.1) (holds.solid file member)

structure Frame (start folder : Folder) : Prop where
  keeps : Keeps start folder
  values : ∀ value ∈ folder.current.values, value ∈ start.current.values
  live : folder.current.live = start.current.live

theorem Frame.refl (folder : Folder) : Frame folder folder :=
  ⟨Keeps.refl folder, fun _ member => member, rfl⟩

theorem Frame.put {slot : Slot} (frame : Frame start folder) (file : Option File)
    (kind : slot.immutable) (missing : folder.content slot = none) :
    Frame start (folder.put slot file) := by
  have same : (folder.put slot file).current = folder.current := by
    cases slot with
    | current => cases kind
    | _ => rfl
  constructor
  · exact frame.keeps.trans (keeps_put file fun _ => missing)
  · rw [same]
    exact frame.values
  · rw [same]
    exact frame.live

theorem Frame.flush (frame : Frame start folder) (slot : Slot) :
    Frame start (folder.flush slot) where
  keeps := frame.keeps.trans (keeps_flush folder slot)
  values value member := by
    rcases folder.entry_flush slot .current with synced | same
    · change (folder.flush slot).current = _ at synced
      rw [synced, Cell.sync, Cell.values_settled, mem_singleton] at member
      rw [member]
      exact frame.values _ (Cell.live_mem_values _)
    · change (folder.flush slot).current = _ at same
      rw [same] at member
      exact frame.values value member
  live := (folder.live_entry_flush slot .current).trans frame.live

structure Writing (codec : Codec) (bundle : Bundle) (start folder : Folder) : Prop where
  frame : Frame start folder
  here : folder.here = .settled true
  blobsLive : folder.blobsHere.live
  prepared : folder.Prepared codec bundle

theorem Writing.reaches (writing : Writing codec bundle start folder) (slot : Slot) :
    folder.reaches slot := by
  cases slot <;> simp [Folder.reaches, writing.here, writing.blobsLive]

theorem Writing.write {slot : Slot} (writing : Writing codec bundle start folder)
    (kind : slot.immutable) (missing : folder.content slot = none) (bytes : Text) :
    Writing codec bundle start ((folder.put slot (some (.settled bytes))).flush slot) where
  frame := (writing.frame.put _ kind missing).flush slot
  here := by simp [writing.here]
  blobsLive := by
    cases slot <;> simp [flush, writing.blobsLive]
  prepared := by
    constructor
    · intro file member other held
      rw [content_flush] at held
      by_cases same : file.1 = slot
      · rw [same, content_put_self folder (writing.reaches slot)] at held
        cases held
        rw [same, entry_flush_self, entry_put_self]
        rfl
      · rw [content_put_ne folder _ same] at held
        have solid := writing.prepared.solid file member other held
        rw [← entry_put_ne folder (some (.settled bytes)) same] at solid
        rcases (folder.put slot (some (.settled bytes))).entry_flush slot file.1 with synced | kept
        · rw [synced]
          exact solid.sync
        · rwa [kept]
    · intro present
      rw [content_flush] at present
      cases slot with
      | blob digest =>
        exact writing.prepared.blobsHere present
      | manifest digest =>
        change folder.blobsHere.sync = _
        rw [Cell.sync, writing.blobsLive]
      | current | previous => cases kind

theorem writing_phase (codec : Codec) (bundle : Bundle) (start : Folder) :
    WritePhase (Writing codec bundle start) (Frame start) where
  idle writing := writing.frame
  reaches writing := writing.reaches
  renamed writing kind missing file := writing.frame.put file kind missing
  written writing kind missing bytes := writing.write kind missing bytes

theorem Writing.holds (writing : Writing codec bundle start folder)
    (known : Known (bundle.files codec) folder) : folder.Holds codec bundle where
  here := writing.here
  blobsHere := by
    apply writing.prepared.blobsHere
    rw [(known _ mem_cons_self).2]
    rfl
  solid file member := writing.prepared.solid file member file.2 (known file member).2

section

variable (here : start.here = .settled true) (prepared : start.Prepared codec bundle)
include here prepared

theorem writing_makeBlobs : Writing codec bundle start (makeBlobs start) := by
  have keeps := keeps_makeBlobs start
  unfold makeBlobs at keeps ⊢
  split
  case isTrue live =>
    exact ⟨Frame.refl start, here, live, prepared⟩
  case isFalse missing =>
    rw [if_neg missing] at keeps
    constructor
    · exact ⟨keeps, fun _ member => member, rfl⟩
    · exact here
    · rfl
    · constructor
      · intro file member bytes held
        rcases file with ⟨slot, content⟩
        cases slot with
        | blob digest => simp [Folder.content, entry] at held
        | _ => exact prepared.solid _ member bytes held
      · intro present
        rw [prepared.blobsHere present] at missing
        exact absurd rfl missing

theorem ensureBlobs_writing : Triple (· = start) ensureBlobs (fun _ => Writing codec bundle start)
      (Frame start) := by
  apply Triple.actBind (m := fun folder => folder = start)
  · rintro _ rfl
    simp [makeHere, here]
  · rintro _ rfl
    exact .refl _
  · apply Triple.act
    · rintro _ rfl
      exact writing_makeBlobs here prepared
    · rintro _ rfl
      exact .refl _

end

/-- What a commit leaves: CURRENT has its old values and, once the bundle is on the disk, the
pointer to it. -/
structure Leaves (codec : Codec) (bundle : Bundle) (start folder : Folder) : Prop where
  keeps : Keeps start folder
  values : ∀ value ∈ folder.current.values, value ∈ start.current.values ∨
    (value = some (.settled (pointerLine (bundle.digest codec))) ∧
      folder.Holds codec bundle ∧ checkBundle codec bundle = .ok ())

def Returned (codec : Codec) (bundle : Bundle) (start : Folder) : Except String Unit → Folder → Prop
  | .ok _, folder =>
    Leaves codec bundle start folder ∧
      folder.current = .settled (some (.settled (pointerLine (bundle.digest codec)))) ∧
      folder.Holds codec bundle ∧ checkBundle codec bundle = .ok ()
  | .error _, folder =>
    Keeps start folder ∧ ∀ value ∈ folder.current.values, value ∈ start.current.values

section

variable (here : start.here = .settled true)
    (settled : ∀ file, start.current.live = some file → file = .settled file.live)
include here settled

theorem oldPointer_mem : start.oldPointer ∈ start.current.values := by
  have old : start.oldPointer = start.current.live := by
    simp only [oldPointer, content, reaches, here, Cell.live_settled, if_true, entry]
    cases found : start.current.live with
    | none => rfl
    | some file => simp [← settled file found]
  rw [old]
  exact Cell.live_mem_values _

theorem commit_leaves (prepared : start.Prepared codec bundle) :
    Triple (· = start) (commit codec bundle) (Returned codec bundle start)
      (Leaves codec bundle start) := by
  have old : ∀ written, Writing codec bundle start written →
      written.oldPointer ∈ start.current.values := by
    intro written writing
    apply writing.frame.values
    apply oldPointer_mem writing.here
    rw [writing.frame.live]
    exact settled
  apply (commit_spec (writing_phase codec bundle start) (Frame.refl start)
    (ensureBlobs_writing here prepared)).weaken (fun _ given => given)
  · rintro result folder (⟨⟨error, rfl⟩, frame⟩ | ⟨checked, written, writing, known, moved⟩)
    · exact ⟨frame.keeps, frame.values⟩
    · have keeps := writing.frame.keeps
      cases result with
      | ok _ =>
        have holds := (writing.holds known).of_keeps moved.1
        apply And.intro _ ⟨moved.2, holds, checked⟩
        apply Leaves.mk (keeps.trans moved.1)
        intro value member
        rw [moved.2, Cell.values_settled, mem_singleton] at member
        exact .inr ⟨member, holds, checked⟩
      | error _ =>
        apply And.intro (keeps.trans moved.1)
        intro value member
        rcases moved.2 with same | restored
        · rw [same] at member
          exact writing.frame.values value member
        · rw [restored, Cell.values_settled, mem_singleton] at member
          rw [member]
          exact old written writing
  · intro folder interrupted
    rcases interrupted with frame | ⟨checked, written, writing, known, moving⟩
    · exact ⟨frame.keeps, fun value member => .inl (frame.values value member)⟩
    · have holds := (writing.holds known).of_keeps moving.keeps
      apply Leaves.mk (writing.frame.keeps.trans moving.keeps)
      intro value member
      rcases moving.values value member with kept | restored | new
      · exact .inl (writing.frame.values value kept)
      · rw [restored]
        exact .inl (old written writing)
      · exact .inr ⟨new, holds, checked⟩

end

/-- The directories of the identities. `candidates` is no part of the store: it lists what a
load may return, which is nothing for `none`, the bundle of the last commit that returned true,
or one of a commit that was stopped since. -/
structure Store where
  folders : Text → Folder
  candidates : Text → List (Option Bundle)

inductive StoreEvent where
  | commit (bundle : Bundle) (script : List Outcome)
  | crash (loss : Text → Folder.Loss)

namespace Store

def candidatesAfter (bundle : Bundle) (before : List (Option Bundle)) :
    Option (Except String Unit) → List (Option Bundle)
  | some (.ok _) => [some bundle]
  | some (.error _) => before
  | none => some bundle :: before

def step (codec : Codec) (store : Store) : StoreEvent → Store
  | .commit bundle script =>
    let identity := bundle.identityFingerprint
    let answer := commit codec bundle script (store.folders identity)
    { folders := Function.update store.folders identity answer.2.2
      candidates := Function.update store.candidates identity
        (candidatesAfter bundle (store.candidates identity) answer.1) }
  | .crash loss =>
    { store with folders := fun identity => (store.folders identity).crash (loss identity) }

def made : Store where
  folders _ := { Folder.absent with here := .settled true }
  candidates _ := [none]

def empty : Store where
  folders _ := Folder.absent
  candidates _ := [none]

/-- The condition on a commit: a bundle that passes its tests can be read back as it is, and the
files of the bundle that are there have reached the disk. -/
def Allowed (codec : Codec) (store : Store) : StoreEvent → Prop
  | .commit bundle _ =>
    (checkBundle codec bundle = .ok () → bundle.Readable codec ∧ bundle.stored = bundle) ∧
      (store.folders bundle.identityFingerprint).Prepared codec bundle
  | .crash _ => True

def Names (codec : Codec) (identity : Text) (candidates : List (Option Bundle)) (folder : Folder)
    (value : Option File) : Prop :=
  (value = none ∧ none ∈ candidates) ∨
    ∃ bundle, some bundle ∈ candidates ∧
      value = some (.settled (pointerLine (bundle.digest codec))) ∧ folder.Holds codec bundle ∧
      checkBundle codec bundle = .ok () ∧ bundle.Readable codec ∧ bundle.stored = bundle ∧
      bundle.identityFingerprint = identity

structure Sound (codec : Codec) (identity : Text) (candidates : List (Option Bundle))
    (folder : Folder) : Prop where
  here : folder.here = .settled true
  names : ∀ value ∈ folder.current.values, Names codec identity candidates folder value

variable {identity : Text} {candidates more : List (Option Bundle)}

theorem Names.of_keeps {value : Option File} {later : Folder}
    (names : Names codec identity candidates folder value) (keeps : Keeps folder later)
    (subset : candidates ⊆ more) : Names codec identity more later value := by
  rcases names with ⟨none, member⟩ | ⟨bundle, member, line, holds, rest⟩
  · exact .inl ⟨none, subset member⟩
  · exact .inr ⟨bundle, subset member, line, holds.of_keeps keeps, rest⟩

theorem Sound.settled (sound : Sound codec identity candidates folder) (file : File)
    (live : folder.current.live = some file) : file = .settled file.live := by
  rcases sound.names _ (Cell.live_mem_values _) with ⟨missing, _⟩ | ⟨bundle, _, line, _⟩
  · rw [live] at missing
    cases missing
  · rw [live, Option.some.injEq] at line
    rw [line, Cell.live_settled]

theorem sound_commit (sound : Sound codec bundle.identityFingerprint candidates folder)
    (readable : checkBundle codec bundle = .ok () → bundle.Readable codec ∧ bundle.stored = bundle)
    (prepared : folder.Prepared codec bundle) (script : List Outcome) :
    Sound codec bundle.identityFingerprint
      (candidatesAfter bundle candidates (commit codec bundle script folder).1)
      (commit codec bundle script folder).2.2 := by
  have spec := commit_leaves sound.here sound.settled prepared script folder rfl
  generalize commit codec bundle script folder = answer at spec
  rcases answer with ⟨_ | (error | _), rest, final⟩
  · apply Sound.mk (spec.keeps.here sound.here)
    intro value member
    rcases spec.values value member with old | ⟨line, holds, checked⟩
    · exact (sound.names value old).of_keeps spec.keeps (subset_cons_self _ _)
    · have reads := readable checked
      exact .inr ⟨bundle, mem_cons_self, line, holds, checked, reads.1, reads.2, rfl⟩
  · apply Sound.mk (spec.1.here sound.here)
    intro value member
    exact (sound.names value (spec.2 value member)).of_keeps spec.1 (fun _ member => member)
  · apply Sound.mk (spec.1.keeps.here sound.here)
    intro value member
    rw [spec.2.1, Cell.values_settled, mem_singleton] at member
    have reads := readable spec.2.2.2
    exact .inr ⟨bundle, mem_cons_self, member, spec.2.2.1, spec.2.2.2, reads.1, reads.2, rfl⟩

theorem Solid.crash {entry : Cell (Option File)} {bytes : Text} (solid : Solid entry bytes)
    (entryChoice dataChoice : Nat) :
    Solid (Folder.crashEntry entry entryChoice dataChoice) bytes := by
  rw [Solid] at solid ⊢
  simp [solid, crashEntry]

theorem holds_crash (holds : folder.Holds codec bundle) (loss : Folder.Loss) :
    (folder.crash loss).Holds codec bundle := by
  have kept : folder.here.crash loss.here := by simp [holds.here]
  have blobs : folder.blobsHere.crash loss.blobsHere := by simp [holds.blobsHere]
  simp only [crash, kept, blobs, if_true]
  apply Holds.mk rfl rfl
  intro file member
  have solid := holds.solid file member
  rcases file with ⟨slot, bytes⟩
  cases slot <;> exact Solid.crash solid _ _

theorem sound_crash (sound : Sound codec identity candidates folder) (loss : Folder.Loss) :
    Sound codec identity candidates (folder.crash loss) := by
  have kept : folder.here.crash loss.here := by simp [sound.here]
  have current : (folder.crash loss).current =
      crashEntry folder.current (loss.entry .current) (loss.data .current) := by
    simp [crash, kept, entry]
  constructor
  · simp [crash, kept]
  · intro value member
    rw [current, crashEntry, Cell.values_settled, mem_singleton] at member
    rcases sound.names _ (Cell.crash_mem_values folder.current (loss.entry .current)) with
      ⟨missing, allowed⟩ | ⟨bundle, allowed, line, holds, rest⟩
    · rw [missing] at member
      exact .inl ⟨member, allowed⟩
    · rw [line, Option.map_some, Cell.crash_settled] at member
      exact .inr ⟨bundle, allowed, member, holds_crash holds loss, rest⟩

def AllSound (codec : Codec) (store : Store) : Prop :=
  ∀ identity, Sound codec identity (store.candidates identity) (store.folders identity)

theorem allSound_made (codec : Codec) : AllSound codec made := by
  intro identity
  apply Sound.mk rfl
  intro value member
  rw [show (made.folders identity).current = .settled none from rfl, Cell.values_settled,
    mem_singleton] at member
  exact .inl ⟨member, mem_cons_self⟩

theorem prepared_made (codec : Codec) (bundle : Bundle) (identity : Text) :
    (made.folders identity).Prepared codec bundle := by
  have missing : ∀ slot, (made.folders identity).content slot = none := by
    intro slot
    cases slot <;> rfl
  constructor <;> simp [missing]

theorem allSound_step {store : Store} {event : StoreEvent} (allowed : Allowed codec store event)
    (sound : AllSound codec store) : AllSound codec (step codec store event) := by
  intro identity
  cases event with
  | crash loss => exact sound_crash (sound identity) (loss identity)
  | commit bundle script =>
    by_cases same : identity = bundle.identityFingerprint
    · subst same
      simp only [step, Function.update_self]
      exact sound_commit (sound _) allowed.1 allowed.2 script
    · simp only [step, Function.update_of_ne same]
      exact sound identity

theorem allSound_run {events : List StoreEvent}
    (allowed : Guarded (step codec) (Allowed codec) made events) :
    AllSound codec (run (step codec) made events) :=
  guarded_invariant (fun _ _ => allSound_step) allowed (allSound_made codec)

def Reports (load : Load) : Option Bundle → Prop
  | none => load.found = false
  | some bundle => load.found ∧ load.outcome = .ok bundle

theorem loadCurrent_sound (sound : Sound codec identity candidates folder)
    (safe : safeDigest identity) :
    ∃ candidate ∈ candidates, Reports (folder.loadCurrent codec identity) candidate := by
  have content : folder.content .current = folder.current.live.map Cell.live := by
    simp [content, reaches, sound.here, entry]
  rcases sound.names _ (Cell.live_mem_values _) with
    ⟨missing, allowed⟩ | ⟨bundle, allowed, line, holds, checked, readable, unchanged, rfl⟩
  · apply Exists.intro none
    apply And.intro allowed
    rw [missing] at content
    simp [Reports, loadCurrent, loadPointer, safe, content, readPointer, readFile]
  · apply Exists.intro (some bundle)
    apply And.intro allowed
    have pointer : readPointer (folder.content .current) = some (bundle.digest codec) := by
      rw [content, line]
      exact readPointer_pointerLine (codec.sha256_safe _) (codec.sha256_lower _)
    have loaded := load_of_files checked readable fun file member =>
      content_of_solid (holds.reaches file.1) (holds.solid file member)
    rw [unchanged] at loaded
    simp [Reports, loadCurrent, loadPointer, safe, pointer, loaded]

/-- In every run of commits and crashes whose commits are all allowed, from directories that are
on the disk: a load returns completely the bundle of the last commit that returned true or of a
commit that was stopped since, and nothing before the first. -/
theorem loadCurrent_after_run (codec : Codec) (events : List StoreEvent) (identity : Text)
    (safe : safeDigest identity = true)
    (allowed : Guarded (step codec) (Allowed codec) made events) :
    let store := run (step codec) made events
    ∃ candidate ∈ store.candidates identity,
      Reports ((store.folders identity).loadCurrent codec identity) candidate :=
  loadCurrent_sound (allSound_run allowed identity) safe

def sampleBundle : Bundle where
  identityFingerprint := List.replicate 64 48
  rules := text "default proxy"
  rulesValidatedAtMs := 1700000000000
  ruleSets :=
    [(text "ads",
      { name := text "ads"
        format := text "hosts"
        urlRedacted := text "https://rules.example/[redacted]"
        urlFingerprint := List.replicate 64 49
        etag := text "a1"
        bytes := text "ads.example"
        validatedAtMs := 1700000000000 })]

def sumDigest (bytes : Text) : Text :=
  List.replicate 63 48 ++ [UInt8.ofNat (48 + (bytes.map UInt8.toNat).sum % 10)]

variable (bytes : Text)

theorem safeDigest_sumDigest : safeDigest (sumDigest bytes) := by
  have digits : ∀ digit < 10,
      safeDigest (replicate 63 48 ++ [UInt8.ofNat (48 + digit)]) := by decide
  exact digits _ (Nat.mod_lt _ (by decide))

theorem lower_sumDigest : lower (sumDigest bytes) = sumDigest bytes := by
  have digits : ∀ digit < 10, lower (replicate 63 48 ++ [UInt8.ofNat (48 + digit)]) =
      replicate 63 48 ++ [UInt8.ofNat (48 + digit)] := by decide
  exact digits _ (Nat.mod_lt _ (by decide))

mutual
def spell : Json → Text
  | .null => text "null"
  | .boolean value => flagText value
  | .integer value => intText value
  | .real value => value
  | .string value => 34 :: value ++ [34]
  | .array items => 91 :: spellItems items ++ [93]
  | .object members => 123 :: spellMembers members ++ [125]

def spellItems : List Json → Text
  | [] => []
  | item :: rest => spell item ++ 44 :: spellItems rest

def spellMembers : List (Text × Json) → Text
  | [] => []
  | (key, value) :: rest => key ++ 58 :: spell value ++ 44 :: spellMembers rest
end

/-- A codec that writes every manifest and parses those of the bundles. -/
def codecOf (bundles : List Bundle) : Codec :=
  let writer : Codec :=
    { sha256 := sumDigest, writeString := spell, parse := fun _ => none
      sha256_safe := safeDigest_sumDigest, sha256_lower := lower_sumDigest }
  { writer with parse := fun text =>
      (bundles.map (·.manifest writer)).find? fun manifest => spell manifest = text }

theorem readable_codecOf {bundles : List Bundle} {bundle : Bundle} (member : bundle ∈ bundles)
    (small : (bundle.manifestText (codecOf bundles)).length ≤ manifestLimit)
    (apart : ∀ other ∈ bundles, other.manifestText (codecOf bundles) =
      bundle.manifestText (codecOf bundles) → other = bundle)
    (fingerprints : ∀ entry ∈ bundle.ruleSets,
      entry.2.urlFingerprint = [] ∨ safeDigest entry.2.urlFingerprint) :
    bundle.Readable (codecOf bundles) := by
  refine ⟨small, ?_, fingerprints⟩
  rcases found : (codecOf bundles).parse (bundle.manifestText (codecOf bundles)) with _ | manifest
  · have missed := find?_eq_none.mp found _ (mem_map_of_mem member)
    exact absurd (decide_eq_true rfl) missed
  · have same := find?_some found
    obtain ⟨other, inside, rfl⟩ := mem_map.mp (mem_of_find?_eq_some found)
    rw [apart other inside (of_decide_eq_true same)]
    rfl

def sampleCodec : Codec := codecOf [sampleBundle]

def sampleEvents : List StoreEvent := [.commit sampleBundle [], .crash fun _ => {}]

/-- On a new store a commit makes the directory of its identity and returns true, but never syncs
the root directory: a crash may lose the directory with all that the commit wrote. -/
theorem crash_loses_new_directory :
    (run (step sampleCodec) empty sampleEvents).candidates sampleBundle.identityFingerprint =
      [some sampleBundle] ∧ (((run (step sampleCodec) empty sampleEvents).folders
      sampleBundle.identityFingerprint).loadCurrent sampleCodec
      sampleBundle.identityFingerprint).found = false := by
  decide +kernel

/-- With the directory on the disk, the sample survives the crash. -/
theorem sample_survives_crash : Guarded (step sampleCodec) (Allowed sampleCodec) made sampleEvents ∧
      Reports (((run (step sampleCodec) made sampleEvents).folders
        sampleBundle.identityFingerprint).loadCurrent sampleCodec
        sampleBundle.identityFingerprint) (some sampleBundle) := by
  have readable : sampleBundle.Readable sampleCodec :=
    readable_codecOf mem_cons_self (by decide +kernel) (by decide +kernel) (by decide)
  have allowed : Guarded (step sampleCodec) (Allowed sampleCodec) made sampleEvents :=
    ⟨⟨fun _ => ⟨readable, by decide +kernel⟩, prepared_made _ _ _⟩, trivial, trivial⟩
  have only : (run (step sampleCodec) made sampleEvents).candidates
      sampleBundle.identityFingerprint = [some sampleBundle] := by decide +kernel
  have loaded := loadCurrent_after_run sampleCodec sampleEvents
    sampleBundle.identityFingerprint (by decide) allowed
  dsimp only at loaded
  rw [only] at loaded
  simp only [mem_singleton, exists_eq_left] at loaded
  exact ⟨allowed, loaded⟩

end Store

end OpenPpp2.Policy
