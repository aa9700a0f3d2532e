import Mathlib.Algebra.Group.Int.Defs
import Mathlib.Data.List.DropRight
import OpenPpp2.Policy.Source
import OpenPpp2.Lib.CrashLogic

/-!
# Durable policy bundles and their manifests

`DurablePolicyBundle.cpp`: a bundle is stored as content-addressed blobs and a manifest that names
them.
-/

namespace OpenPpp2.Policy

open Lib.Decimal List

def sourceLimit : Nat := 64 * 1024 * 1024

def bundleLimit : Nat := 256 * 1024 * 1024

def manifestLimit : Nat := 1024 * 1024

def pointerLimit : Nat := 128

structure DurableSource where
  name : Text := []
  format : Text := []
  tag : Text := []
  sha256 : Text := []
  urlRedacted : Text := []
  urlFingerprint : Text := []
  etag : Text := []
  lastModified : Text := []
  bytes : Text := []
  validatedAtMs : BitVec 64 := 0
  deriving DecidableEq, Repr

structure Bundle where
  schema : Nat := 1
  identityFingerprint : Text := []
  rules : Text := []
  rulesValidatedAtMs : BitVec 64 := 0
  ruleSets : List (Text × DurableSource) := []
  deriving DecidableEq, Repr

def isAlnum (char : UInt8) : Bool :=
  isDigit char || decide (65 ≤ char ∧ char ≤ 90) || decide (97 ≤ char ∧ char ≤ 122)

def isXDigit (char : UInt8) : Bool :=
  isDigit char || decide (65 ≤ char ∧ char ≤ 70) || decide (97 ≤ char ∧ char ≤ 102)

def lower (value : Text) : Text := value.map toLower

def safeName (value : Text) : Bool :=
  !value.isEmpty && value.all fun char => isAlnum char || char == 45 || char == 95

def safeDigest (value : Text) : Bool := value.length == 64 && value.all isXDigit

def splitScheme : Text → Option (Text × Text)
  | [] => none
  | char :: rest =>
    if (text "://").isPrefixOf (char :: rest) then some (text "://", rest.drop 2)
    else (splitScheme rest).map fun split => (char :: split.1, split.2)

def withoutUser (authority : Text) : Text := (authority.reverse.takeWhile (· ≠ 64)).reverse

def redactPolicySourceUrl (url : Text) : Text :=
  match splitScheme url with
  | none => text "[invalid-url]"
  | some (scheme, rest) =>
    let authority := withoutUser (rest.takeWhile fun char => char ∉ text "/?#")
    if authority.isEmpty then text "[invalid-url]" else scheme ++ authority ++ text "/[redacted]"

/-- `Json::Value`. The members of an object are in key order. -/
inductive Json where
  | null
  | boolean (value : Bool)
  | integer (value : Int)
  | real (text : Text)
  | string (value : Text)
  | array (items : List Json)
  | object (members : List (Text × Json))

namespace Json

/-- `operator[]` with a key. -/
def member (value : Json) (key : String) : Json :=
  match value with
  | object members => (members.lookup (text key)).getD null
  | _ => null

/-- `isObject` and the members. -/
def object? : Json → Option (List (Text × Json))
  | object members => some members
  | _ => none

/-- `isString` and `asString`. -/
def string? : Json → Option Text
  | string value => some value
  | _ => none

/-- `isUInt64` and `asUInt64`. -/
def uint64? : Json → Option Nat
  | integer value => if 0 ≤ value ∧ value < 2 ^ 64 then some value.toNat else none
  | _ => none

/-- `isUInt` and `asUInt`. -/
def uint? : Json → Option Nat
  | integer value => if 0 ≤ value ∧ value < 2 ^ 32 then some value.toNat else none
  | _ => none

/-- `isInt64` and `asInt64`. -/
def int64? : Json → Option (BitVec 64)
  | integer value => if -2 ^ 63 ≤ value ∧ value < 2 ^ 63 then some (BitVec.ofInt 64 value) else none
  | _ => none

end Json

/-- `PolicySha256`, and the JSON writer and parser. -/
structure Codec where
  sha256 : Text → Text
  writeString : Json → Text
  parse : Text → Option Json
  sha256_safe : ∀ bytes, safeDigest (sha256 bytes)
  sha256_lower : ∀ bytes, lower (sha256 bytes) = sha256 bytes

variable (codec : Codec)

def sourceManifest (source : DurableSource) : Json :=
  .object
    [(text "content_sha256", .string (codec.sha256 source.bytes)),
      (text "etag", .string source.etag),
      (text "format", .string source.format),
      (text "last_modified", .string source.lastModified),
      (text "length", .integer source.bytes.length),
      (text "sha256", .string source.sha256),
      (text "tag", .string source.tag),
      (text "url", .string (redactPolicySourceUrl source.urlRedacted)),
      (text "url_fingerprint", .string source.urlFingerprint),
      (text "validated_at_ms", .integer source.validatedAtMs.toInt)]

/-- The manifest that `Commit` and `RefreshCurrent` build. -/
def Bundle.manifest (bundle : Bundle) : Json := .object
    [(text "identity", .string bundle.identityFingerprint),
      (text "rules", .object
        [(text "content_sha256", .string (codec.sha256 bundle.rules)),
          (text "length", .integer bundle.rules.length),
          (text "validated_at_ms", .integer bundle.rulesValidatedAtMs.toInt)]),
      (text "schema", .integer 1),
      (text "sources", .object
        (bundle.ruleSets.map fun entry => (entry.1, sourceManifest codec entry.2)))]

def Bundle.manifestText (bundle : Bundle) : Text := codec.writeString (bundle.manifest codec)

def Bundle.digest (bundle : Bundle) : Text := codec.sha256 (bundle.manifestText codec)

/-- The test of the sources of a bundle in `Commit`, from the sizes added up so far. -/
def checkSources : List (Text × DurableSource) → Nat → Except String Nat
  | [], aggregate => .ok aggregate
  | (name, source) :: rest, aggregate =>
    if !safeName name || source.name != name || decide (source.bytes.length > sourceLimit) ||
        decide (aggregate > bundleLimit - source.bytes.length) then
      .error "invalid or oversized durable rule-set"
    else if !source.sha256.isEmpty &&
        (!safeDigest source.sha256 || codec.sha256 source.bytes != lower source.sha256) then
      .error "configured rule-set SHA-256 mismatch"
    else checkSources rest (aggregate + source.bytes.length)

/-- The tests that `Commit` makes of a bundle before it writes anything. -/
def checkBundle (bundle : Bundle) : Except String Unit :=
  if bundle.schema ≠ 1 ∨ safeDigest bundle.identityFingerprint = false ∨
      bundle.rules.length > sourceLimit then .error "invalid durable policy bundle"
  else
    match checkSources codec bundle.ruleSets bundle.rules.length with
    | .error error => .error error
    | .ok aggregate =>
      if aggregate > bundleLimit then .error "durable policy bundle exceeds aggregate size limit"
      else .ok ()

/-- `DurablePolicyLoad`; the bundle of a load that failed is not looked at. -/
structure Load where
  found : Bool
  outcome : Except String Bundle

def Load.bundle? (load : Load) : Option Bundle :=
  match load.found, load.outcome with
  | true, .ok bundle => some bundle
  | _, _ => none

/-- `ReadFile` of a file with the given content, if it is there. -/
def readFile (limit : Nat) (content : Option Text) : Option Text :=
  content.filter fun bytes => bytes.length ≤ limit

def readPointer (content : Option Text) : Option Text :=
  (readFile pointerLimit content).bind fun bytes =>
    let digest := bytes.rdropWhile fun char => char == 10 || char == 13
    if safeDigest digest then some (lower digest) else none

/-- `load_blob`, over what the blob directory holds. -/
def loadBlob (blobs : Text → Option Text) (record : Json) : Option Text :=
  match record.object?, (record.member "content_sha256").string?,
    (record.member "length").uint64? with
  | some _, some hash, some length =>
    if !safeDigest hash || decide (length > sourceLimit) then none
    else
      (readFile sourceLimit (blobs (lower hash))).filter fun bytes =>
        bytes.length == length && codec.sha256 bytes == lower hash
  | _, _, _ => none

/-- The fields of a source that a member of "sources" holds, where they have the right types. -/
def readSource (name : Text) (record : Json) : Option DurableSource := do
  let _ ← record.object?
  let format ← (record.member "format").string?
  let tag ← (record.member "tag").string?
  let sha256 ← (record.member "sha256").string?
  let url ← (record.member "url").string?
  let urlFingerprint ← (record.member "url_fingerprint").string?
  let etag ← (record.member "etag").string?
  let lastModified ← (record.member "last_modified").string?
  let validatedAtMs ← (record.member "validated_at_ms").int64?
  some
    { name := name, format := format, tag := tag, sha256 := sha256, urlRedacted := url,
      urlFingerprint := urlFingerprint, etag := etag, lastModified := lastModified,
      validatedAtMs := validatedAtMs }

/-- The loop of `LoadManifest` over the sources, from the sizes added up so far. -/
def loadSources (blobs : Text → Option Text) :
    List (Text × Json) → Nat → Except String (List (Text × DurableSource) × Nat)
  | [], aggregate => .ok ([], aggregate)
  | (name, record) :: rest, aggregate =>
    match safeName name, readSource name record with
    | true, some source =>
      if (!source.sha256.isEmpty && !safeDigest source.sha256) ||
          (!source.urlFingerprint.isEmpty && !safeDigest source.urlFingerprint) then
        .error "durable source pin is malformed"
      else
        match loadBlob codec blobs record with
        | none => .error "durable rule-set reference is missing, corrupt, or over limit"
        | some bytes =>
          if decide (aggregate > bundleLimit - bytes.length) ||
              (!source.sha256.isEmpty && codec.sha256 bytes != lower source.sha256) then
            .error "durable rule-set reference is missing, corrupt, or over limit"
          else
            match loadSources blobs rest (aggregate + bytes.length) with
            | .error error => .error error
            | .ok (sources, total) =>
              .ok ((name, { source with bytes := bytes }) :: sources, total)
    | _, _ => .error "durable source manifest fields have invalid types"

/-- `LoadManifest` once the manifest is parsed. -/
def loadParsed (blobs : Text → Option Text) (identity : Text) (manifest : Json) :
    Except String Bundle :=
  let rules := manifest.member "rules"
  match (manifest.member "schema").uint?, (manifest.member "identity").string?, rules.object?,
    (manifest.member "sources").object? with
  | some schema, some owner, some _, some sources =>
    if schema ≠ 1 ∨ owner ≠ identity then
      .error "durable manifest schema or identity is invalid"
    else
      match (rules.member "validated_at_ms").int64?, loadBlob codec blobs rules with
      | some validatedAtMs, some bytes =>
        match loadSources codec blobs sources bytes.length with
        | .error error => .error error
        | .ok (ruleSets, aggregate) =>
          if aggregate > bundleLimit then
            .error "durable policy bundle exceeds aggregate size limit"
          else
            .ok
              { schema := 1, identityFingerprint := identity, rules := bytes,
                rulesValidatedAtMs := validatedAtMs, ruleSets := ruleSets }
      | _, _ => .error "durable rules payload is missing or corrupt"
  | _, _, _, _ => .error "durable manifest schema or identity is invalid"

/-- `LoadManifest`, over what the directory of the identity and its blob directory hold. -/
def loadManifest (manifests blobs : Text → Option Text) (identity digest : Text) :
    Except String Bundle :=
  if !safeDigest identity || !safeDigest digest then
    .error "invalid durable identity or manifest digest"
  else
    match readFile manifestLimit (manifests digest) with
    | none => .error "durable manifest is missing or corrupt"
    | some content =>
      if codec.sha256 content ≠ digest then .error "durable manifest is missing or corrupt"
      else
        match codec.parse content with
        | none => .error "durable manifest schema or identity is invalid"
        | some manifest => loadParsed codec blobs identity manifest

def DurableSource.stored (source : DurableSource) : DurableSource :=
  { source with urlRedacted := redactPolicySourceUrl source.urlRedacted }

def Bundle.stored (bundle : Bundle) : Bundle :=
  { bundle with ruleSets := bundle.ruleSets.map fun entry => (entry.1, entry.2.stored) }

/-- What the tests of `Commit` leave open: the text of the manifest is small enough and parses
as the manifest, and the fingerprints of URLs are digests. -/
structure Bundle.Readable (bundle : Bundle) : Prop where
  small : (bundle.manifestText codec).length ≤ manifestLimit
  parses : codec.parse (bundle.manifestText codec) = some (bundle.manifest codec)
  fingerprints : ∀ entry ∈ bundle.ruleSets,
    entry.2.urlFingerprint = [] ∨ safeDigest entry.2.urlFingerprint

section ReadBack

variable {codec}

variable {bytes : Text}

theorem uint64?_length (small : bytes.length ≤ sourceLimit) :
    (Json.integer bytes.length).uint64? = some bytes.length := by
  unfold sourceLimit at small
  have bounds : (0 : Int) ≤ bytes.length ∧ (bytes.length : Int) < 2 ^ 64 := by omega
  simp only [Json.uint64?, if_pos bounds, Int.toNat_natCast]

theorem int64?_toInt (value : BitVec 64) : (Json.integer value.toInt).int64? = some value := by
  have below := value.toInt_lt
  have above := value.le_toInt
  have bounds : -2 ^ 63 ≤ value.toInt ∧ value.toInt < 2 ^ 63 := by omega
  simp only [Json.int64?, if_pos bounds, BitVec.ofInt_toInt]

theorem readFile_some {limit : Nat} (small : bytes.length ≤ limit) :
    readFile limit (some bytes) = some bytes := by
  simp [readFile, small]

variable {blobs : Text → Option Text} {aggregate total : Nat}

theorem loadBlob_stored {record : Json}
    {members : List (Text × Json)} (shape : record.object? = some members)
    (hash : record.member "content_sha256" = .string (codec.sha256 bytes))
    (length : record.member "length" = .integer bytes.length)
    (small : bytes.length ≤ sourceLimit) (held : blobs (codec.sha256 bytes) = some bytes) :
    loadBlob codec blobs record = some bytes := by
  have sized : ¬ bytes.length > sourceLimit := by omega
  simp only [loadBlob, shape, hash, length, Json.string?, uint64?_length small,
    codec.sha256_lower, held, readFile_some small]
  simp [codec.sha256_safe, sized]

theorem readSource_sourceManifest (name : Text) (source : DurableSource) :
    readSource name (sourceManifest codec source) =
      some { source.stored with name := name, bytes := [] } := by
  have validated : ((sourceManifest codec source).member "validated_at_ms").int64? =
      some source.validatedAtMs := int64?_toInt source.validatedAtMs
  unfold readSource
  rw [validated]
  rfl

def DurableSource.Pinned (codec : Codec) (source : DurableSource) : Prop :=
  source.sha256 = [] ∨
    (safeDigest source.sha256 ∧ codec.sha256 source.bytes = lower source.sha256)

theorem guard_eq_ok {α : Type} {test : Prop} [Decidable test] {error : String}
    {rest : Except String α} {value : α} :
    (if test then .error error else rest) = .ok value ↔ ¬ test ∧ rest = .ok value := by
  split <;> simp [*]

theorem checkSources_cons {name : Text} {source : DurableSource}
    {rest : List (Text × DurableSource)} :
    checkSources codec ((name, source) :: rest) aggregate = .ok total ↔
      safeName name ∧ source.name = name ∧ source.bytes.length ≤ sourceLimit ∧
        aggregate ≤ bundleLimit - source.bytes.length ∧ source.Pinned codec ∧
        checkSources codec rest (aggregate + source.bytes.length) = .ok total := by
  rw [checkSources, guard_eq_ok, guard_eq_ok]
  simp [DurableSource.Pinned, or_iff_not_imp_left, and_assoc]

variable {bundle : Bundle}

theorem checkBundle_eq_ok : checkBundle codec bundle = .ok () ↔
      bundle.schema = 1 ∧ safeDigest bundle.identityFingerprint ∧
        bundle.rules.length ≤ sourceLimit ∧
        ∃ total, checkSources codec bundle.ruleSets bundle.rules.length = .ok total ∧
          total ≤ bundleLimit := by
  rw [checkBundle, guard_eq_ok]
  cases checkSources codec bundle.ruleSets bundle.rules.length with
  | error error => simp
  | ok total => simp [and_assoc]

theorem loadSources_stored {sources : List (Text × DurableSource)}
    (checked : checkSources codec sources aggregate = .ok total) (fingerprints : ∀ entry ∈ sources,
      entry.2.urlFingerprint = [] ∨ safeDigest entry.2.urlFingerprint)
    (held : ∀ entry ∈ sources, blobs (codec.sha256 entry.2.bytes) = some entry.2.bytes) :
    loadSources codec blobs
      (sources.map fun entry => (entry.1, sourceManifest codec entry.2)) aggregate =
      .ok (sources.map fun entry => (entry.1, entry.2.stored), total) := by
  induction sources generalizing aggregate with
  | nil =>
    simp only [checkSources, Except.ok.injEq] at checked
    simp [loadSources, checked]
  | cons entry rest ih =>
    rcases entry with ⟨name, source⟩
    have ⟨safe, named, small, room, pinned, restChecked⟩ := checkSources_cons.mp checked
    have blob : loadBlob codec blobs (sourceManifest codec source) = some source.bytes :=
      loadBlob_stored rfl rfl rfl small (held (name, source) mem_cons_self)
    have tail := ih restChecked (fun entry member => fingerprints entry (mem_cons_of_mem _ member))
      (fun entry member => held entry (mem_cons_of_mem _ member))
    have fingerprint : source.urlFingerprint = [] ∨ safeDigest source.urlFingerprint :=
      fingerprints (name, source) mem_cons_self
    have wellFormed : ((!source.sha256.isEmpty && !safeDigest source.sha256) ||
        (!source.urlFingerprint.isEmpty && !safeDigest source.urlFingerprint)) = false := by
      rcases pinned with unpinned | pinned <;> rcases fingerprint with none | digest <;>
        simp [*]
    have fits : (decide (aggregate > bundleLimit - source.bytes.length) ||
        (!source.sha256.isEmpty && codec.sha256 source.bytes != lower source.sha256)) = false := by
      rcases pinned with unpinned | pinned <;> simp [*]
    simp only [map_cons, loadSources, readSource_sourceManifest, blob, tail, safe,
      DurableSource.stored, wellFormed, fits, named, Bool.false_eq_true, if_false]

theorem loadManifest_stored {manifests : Text → Option Text}
    (checked : checkBundle codec bundle = .ok ()) (readable : bundle.Readable codec)
    (manifest : manifests (bundle.digest codec) = some (bundle.manifestText codec))
    (rules : blobs (codec.sha256 bundle.rules) = some bundle.rules)
    (held : ∀ entry ∈ bundle.ruleSets, blobs (codec.sha256 entry.2.bytes) = some entry.2.bytes) :
    loadManifest codec manifests blobs bundle.identityFingerprint (bundle.digest codec) =
      .ok bundle.stored := by
  have ⟨versioned, owned, small, _, sources, fits⟩ := checkBundle_eq_ok.mp checked
  have ruleSets := loadSources_stored sources readable.fingerprints held
  have rulesBlob : loadBlob codec blobs ((bundle.manifest codec).member "rules") =
      some bundle.rules := loadBlob_stored rfl rfl rfl small rules
  have validated : (((bundle.manifest codec).member "rules").member
      "validated_at_ms").int64? = some bundle.rulesValidatedAtMs := int64?_toInt _
  have content : readFile manifestLimit (manifests (bundle.digest codec)) =
      some (bundle.manifestText codec) := by
    rw [manifest]
    exact readFile_some readable.small
  have digest : codec.sha256 (bundle.manifestText codec) = bundle.digest codec := rfl
  have safe : safeDigest (bundle.digest codec) := codec.sha256_safe _
  have schema : ((bundle.manifest codec).member "schema").uint? = some 1 := rfl
  have owner : ((bundle.manifest codec).member "identity").string? =
      some bundle.identityFingerprint := rfl
  have sources : ((bundle.manifest codec).member "sources").object? = some
      (bundle.ruleSets.map fun entry => (entry.1, sourceManifest codec entry.2)) := rfl
  have shape : ((bundle.manifest codec).member "rules").object? = some _ := rfl
  have parsed : loadParsed codec blobs bundle.identityFingerprint (bundle.manifest codec) =
      .ok bundle.stored := by
    simp only [loadParsed, schema, owner, sources, shape, validated, rulesBlob, ruleSets,
      if_neg fits.not_gt]
    simp [Bundle.stored, versioned]
  simp [loadManifest, content, digest, readable.parses, parsed, owned, safe]

end ReadBack

open Lib.CrashLogic Lib.Durable

abbrev File := Cell Text

inductive Slot where
  | blob (digest : Text)
  | manifest (digest : Text)
  | current
  | previous
  deriving DecidableEq, Repr

/-- The directory of an identity: its entry in the root directory, the entry of "blobs" in it,
and the entries of the files of both. -/
structure Folder where
  here : Cell Bool
  blobsHere : Cell Bool
  blobs : Text → Cell (Option File)
  manifests : Text → Cell (Option File)
  current : Cell (Option File)
  previous : Cell (Option File)

namespace Folder

def absent : Folder where
  here := .settled false
  blobsHere := .settled false
  blobs _ := .settled none
  manifests _ := .settled none
  current := .settled none
  previous := .settled none

def entry (folder : Folder) : Slot → Cell (Option File)
  | .blob digest => folder.blobs digest
  | .manifest digest => folder.manifests digest
  | .current => folder.current
  | .previous => folder.previous

def put (slot : Slot) (file : Option File) (folder : Folder) : Folder :=
  match slot with
  | .blob digest =>
    { folder with
      blobs := Function.update folder.blobs digest ((folder.blobs digest).put file) }
  | .manifest digest =>
    { folder with
      manifests := Function.update folder.manifests digest ((folder.manifests digest).put file) }
  | .current => { folder with current := folder.current.put file }
  | .previous => { folder with previous := folder.previous.put file }

def flush (slot : Slot) (folder : Folder) : Folder :=
  match slot with
  | .blob _ => { folder with blobs := fun digest => (folder.blobs digest).sync }
  | _ =>
    { folder with
      blobsHere := folder.blobsHere.sync
      manifests := fun digest => (folder.manifests digest).sync
      current := folder.current.sync
      previous := folder.previous.sync }

def reaches (folder : Folder) : Slot → Bool
  | .blob _ => folder.here.live && folder.blobsHere.live
  | _ => folder.here.live

def content (folder : Folder) (slot : Slot) : Option Text :=
  if folder.reaches slot then (folder.entry slot).live.map Cell.live else none

def crashEntry (entry : Cell (Option File)) (entryChoice dataChoice : Nat) : Cell (Option File) :=
  .settled ((entry.crash entryChoice).map fun file => .settled (file.crash dataChoice))

structure Loss where
  here : Nat := 0
  blobsHere : Nat := 0
  entry : Slot → Nat := fun _ => 0
  data : Slot → Nat := fun _ => 0

def crash (folder : Folder) (loss : Loss) : Folder :=
  if folder.here.crash loss.here then
    let kept := folder.blobsHere.crash loss.blobsHere
    let survivor (slot : Slot) : Cell (Option File) :=
      crashEntry (folder.entry slot) (loss.entry slot) (loss.data slot)
    { here := .settled true
      blobsHere := .settled kept
      blobs := fun digest => if kept then survivor (.blob digest) else .settled none
      manifests := fun digest => survivor (.manifest digest)
      current := survivor .current
      previous := survivor .previous }
  else absent

end Folder

/-- `AtomicWrite`: the temporary file is written and synced before it is renamed onto the file,
and the directory is synced after. The changes of the temporary file are no steps of their own,
as nobody reads it. -/
def atomicWrite (asks : Bool) (slot : Slot) (bytes : Text) : Prog Folder (Except String Unit) :=
  .staged asks "cannot write durable temporary file" <|
    let temporary : File := (Cell.settled []).put bytes
    .staged asks "cannot flush durable temporary file" <|
      let flushed := temporary.sync
      .staged asks "cannot atomically replace durable pointer" <|
        (Prog.act (Folder.put slot (some flushed))).bind fun _ =>
          .staged asks "cannot fsync durable directory" <|
            (Prog.act (Folder.flush slot)).bind fun _ => .pure (.ok ())

def removeAndFlush (asks : Bool) (slot : Slot) : Prog Folder (Except String Unit) :=
  (Prog.act (Folder.put slot none)).bind fun _ =>
    .staged asks "cannot fsync durable directory" <|
      (Prog.act (Folder.flush slot)).bind fun _ => .pure (.ok ())

def makeHere (folder : Folder) : Folder :=
  if folder.here.live then folder
  else { Folder.absent with here := folder.here.put true }

def makeBlobs (folder : Folder) : Folder :=
  if folder.blobsHere.live then folder
  else
    { folder with blobsHere := folder.blobsHere.put true, blobs := fun _ => .settled none }

/-- `EnsureDirectory` of the directory of the identity. -/
def ensureDirectory : Prog Folder Unit := Prog.act makeHere

/-- `EnsureDirectory` of "blobs". -/
def ensureBlobs : Prog Folder Unit := ensureDirectory.bind fun _ => Prog.act makeBlobs

/-- `PersistImmutable`. After a refused write the file is not there, so that the second look for
it, which is for concurrent writers, finds nothing. -/
def persistImmutable (slot : Slot) (bytes : Text) (limit : Nat) :
    Prog Folder (Except String Unit) :=
  (Prog.read fun folder => folder.content slot).bind fun
    | some existing =>
      .pure <|
        if readFile limit (some existing) = some bytes then .ok ()
        else .error
          "content-addressed durable file already exists with different or invalid contents"
    | none => atomicWrite true slot bytes

variable (codec : Codec)

def writeBlob (bytes : Text) : Prog Folder (Except String Unit) :=
  persistImmutable (.blob (codec.sha256 bytes)) bytes sourceLimit

def writeBlobs : List (Text × DurableSource) → Prog Folder (Except String Unit)
  | [] => .pure (.ok ())
  | (_, source) :: rest =>
    (writeBlob codec source.bytes).andThen fun _ => writeBlobs rest

def writeManifest (bundle : Bundle) : Prog Folder (Except String Unit) :=
  persistImmutable (.manifest (bundle.digest codec)) (bundle.manifestText codec) manifestLimit

def pointerLine (digest : Text) : Text := digest ++ [10]

def restorePointer (asks : Bool) (slot : Slot) : Option Text → Prog Folder (Except String Unit)
  | some bytes => atomicWrite asks slot bytes
  | none => removeAndFlush asks slot

def rollbackError : Except String Unit → Except String Unit → String
  | .ok _, .ok _ => ""
  | .error current, .ok _ => "; pointer rollback failed: " ++ current
  | .ok _, .error previous => "; pointer rollback failed: " ++ previous
  | .error current, .error previous =>
    "; pointer rollback failed: " ++ current ++ ": " ++ previous

/-- `rollback_pointers`, and the failure of the commit. A write fails only where a stage is refused;
the rollback asks no stage, so that it succeeds here. -/
def rollbackPointers (current previous : Option Text) (error : String) :
    Prog Folder (Except String Unit) :=
  (restorePointer false .current current).bind fun currentResult =>
    (restorePointer false .previous previous).bind fun previousResult =>
      .pure (.error (error ++ rollbackError currentResult previousResult))

def unreadable (content : Option Text) : Bool :=
  content.isSome && (readFile pointerLimit content).isNone

/-- The part of `Commit` that moves the pointers. -/
def movePointers (digest : Text) : Prog Folder (Except String Unit) :=
  (Prog.read fun folder => (folder.content .current, folder.content .previous)).bind
    fun (current, previous) =>
      if unreadable current then .pure (.error "cannot snapshot durable current pointer")
      else if unreadable previous then .pure (.error "cannot snapshot durable previous pointer")
      else
        (atomicWrite true .current (pointerLine digest)).bind fun
          | .error error => rollbackPointers current previous error
          | .ok _ =>
            match readPointer current with
            | none => .pure (.ok ())
            | some old =>
              (atomicWrite true .previous (pointerLine old)).bind fun
                | .error error => rollbackPointers current previous error
                | .ok _ => .pure (.ok ())

def commit (bundle : Bundle) : Prog Folder (Except String Unit) :=
  match checkBundle codec bundle with
  | .error error => .pure (.error error)
  | .ok _ =>
    ensureBlobs.bind fun _ =>
      (writeBlob codec bundle.rules).andThen fun _ =>
        (writeBlobs codec bundle.ruleSets).andThen fun _ =>
          (writeManifest codec bundle).andThen fun _ => movePointers (bundle.digest codec)

/-- `LoadManifest` from a directory. -/
def Folder.load (folder : Folder) (identity digest : Text) : Except String Bundle :=
  loadManifest codec (fun digest => folder.content (.manifest digest))
    (fun digest => folder.content (.blob digest)) identity digest

/-- `LoadCurrent` and `LoadPrevious`, by the pointer they read. -/
def Folder.loadPointer (folder : Folder) (slot : Slot) (identity : Text) : Load :=
  if safeDigest identity then
    match readPointer (folder.content slot) with
    | none => { found := false, outcome := .error "" }
    | some digest => { found := true, outcome := folder.load codec identity digest }
  else { found := false, outcome := .error "invalid durable identity fingerprint" }

def Folder.loadCurrent (folder : Folder) (identity : Text) : Load :=
  folder.loadPointer codec .current identity

def Folder.loadPrevious (folder : Folder) (identity : Text) : Load :=
  folder.loadPointer codec .previous identity

/-- The test of a source in `RefreshCurrent`. -/
def refreshable (entry : Text × DurableSource) : Bool :=
  safeName entry.1 && entry.2.name == entry.1 && decide (entry.2.bytes.length ≤ sourceLimit) &&
    (entry.2.sha256.isEmpty ||
      (safeDigest entry.2.sha256 && codec.sha256 entry.2.bytes == lower entry.2.sha256))

/-- The loop of `RefreshCurrent` over the sources. -/
def refreshBlobs : List (Text × DurableSource) → Prog Folder (Except String Unit)
  | [] => .pure (.ok ())
  | entry :: rest =>
    if refreshable codec entry then
      (writeBlob codec entry.2.bytes).andThen fun _ => refreshBlobs rest
    else .pure (.error "invalid or unpersistable durable rule-set")

def refreshPointer (digest : Text) : Prog Folder (Except String Unit) :=
  (Prog.read fun folder => folder.content .current).bind fun current =>
    match readPointer current, readFile pointerLimit current with
    | some _, some bytes =>
      (atomicWrite true .current (pointerLine digest)).bind fun
        | .ok _ => .pure (.ok ())
        | .error error =>
          (atomicWrite false .current bytes).bind fun
            | .ok _ => .pure (.error error)
            | .error rollback =>
              .pure (.error (error ++ "; current pointer rollback failed: " ++ rollback))
    | _, _ => .pure (.error "cannot refresh absent durable current bundle")

def refreshCurrent (bundle : Bundle) : Prog Folder (Except String Unit) :=
  if bundle.schema ≠ 1 ∨ safeDigest bundle.identityFingerprint = false ∨
      bundle.rules.length > sourceLimit then .pure (.error "invalid durable policy bundle")
  else
    ensureBlobs.bind fun _ =>
      (refreshBlobs codec bundle.ruleSets).andThen fun _ =>
        (writeBlob codec bundle.rules).andThen fun _ =>
          (writeManifest codec bundle).andThen fun _ => refreshPointer (bundle.digest codec)

def restorePreviousAsCurrent (identity : Text) : Prog Folder (Except String Unit) :=
  if safeDigest identity = false then .pure (.error "invalid durable identity fingerprint")
  else
    (Prog.read id).bind fun folder =>
      match readPointer (folder.content .previous) with
      | none => removeAndFlush true .current
      | some previous =>
        match folder.load codec identity previous with
        | .error _ =>
          .pure (.error "durable previous policy bundle failed integrity validation")
        | .ok _ =>
          let current := folder.content .current
          if readPointer current = some previous then .pure (.ok ())
          else if unreadable current then
            .pure (.error "cannot snapshot current pointer before fallback")
          else
            (atomicWrite true .current (pointerLine previous)).bind fun
              | .ok _ => .pure (.ok ())
              | .error error =>
                (restorePointer false .current current).bind fun
                  | .ok _ => .pure (.error error)
                  | .error rollback =>
                    .pure (.error (error ++ "; current pointer rollback failed: " ++ rollback))

structure PointerState where
  current : Option Text
  previous : Option Text

def capturePointerState (identity : Text) : Prog Folder (Except String PointerState) :=
  if safeDigest identity = false then .pure (.error "invalid durable identity fingerprint")
  else
    Prog.read fun folder =>
      let current := folder.content .current
      let previous := folder.content .previous
      if unreadable current || unreadable previous then
        .error "cannot capture durable pointer state"
      else .ok { current := current, previous := previous }

def restorePointerState (identity : Text) (state : PointerState) :
    Prog Folder (Except String Unit) :=
  if safeDigest identity = false then .pure (.error "invalid durable identity fingerprint")
  else
    ensureDirectory.bind fun _ =>
      (restorePointer true .current state.current).bind fun currentResult =>
        (restorePointer true .previous state.previous).bind fun previousResult =>
          .pure <|
            match previousResult, currentResult with
            | .error error, _ => .error error
            | .ok _, result => result

end OpenPpp2.Policy
