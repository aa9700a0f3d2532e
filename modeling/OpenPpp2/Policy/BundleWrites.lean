import OpenPpp2.Policy.Bundle

/-!
# What the programs of the policy store do

Files that are named by their hash are written once and never changed; a pointer is moved when the
files of its bundle are there, and put back when the move fails.
-/

namespace OpenPpp2.Policy

open Lib.CrashLogic Lib.Durable List Triple Folder Cell

def Solid (entry : Cell (Option File)) (bytes : Text) : Prop :=
  entry = .settled (some (.settled bytes))

variable {bytes : Text} {slot : Slot} {value : Option File} {entry : Cell (Option File)}

theorem Solid.sync (solid : Solid entry bytes) : Solid entry.sync bytes := by
  rw [Solid] at solid ⊢
  rw [solid, sync_settled]

theorem Solid.live (solid : Solid entry bytes) : entry.live = some (.settled bytes) := by
  rw [solid, live_settled]

def Slot.immutable : Slot → Bool
  | .blob _ | .manifest _ => true
  | .current | .previous => false

/-- From one state of the directory to a later one: what is on the disk stays there, and the
content of a file that is named by its hash does not change. -/
structure Keeps (before after : Folder) : Prop where
  here : before.here = .settled true → after.here = .settled true
  blobsHere : before.reaches .current → before.blobsHere = .settled true →
    after.blobsHere = .settled true
  solid : ∀ slot bytes, slot.immutable → before.reaches slot →
    Solid (before.entry slot) bytes → Solid (after.entry slot) bytes
  content : ∀ slot bytes, slot.immutable → before.content slot = some bytes →
    after.content slot = some bytes
  reaches : ∀ slot, before.reaches slot → after.reaches slot

variable (folder : Folder)

theorem Keeps.refl : Keeps folder folder :=
  ⟨id, fun _ => id, fun _ _ _ _ solid => solid, fun _ _ _ content => content,
    fun _ reaches => reaches⟩

theorem Keeps.trans {first second third : Folder} (left : Keeps first second)
    (right : Keeps second third) : Keeps first third where
  here settled := right.here (left.here settled)
  blobsHere reaches settled :=
    right.blobsHere (left.reaches .current reaches) (left.blobsHere reaches settled)
  solid slot bytes kind reaches solid :=
    right.solid slot bytes kind (left.reaches slot reaches)
      (left.solid slot bytes kind reaches solid)
  content slot bytes kind content :=
    right.content slot bytes kind (left.content slot bytes kind content)
  reaches slot reaches := right.reaches slot (left.reaches slot reaches)

namespace Folder

variable (folder : Folder)

@[simp] theorem reaches_put (slot other : Slot) (file : Option File) :
    (folder.put slot file).reaches other = folder.reaches other := by
  cases slot <;> cases other <;> rfl

section

variable (slot : Slot) (file : Option File)

@[simp] theorem here_put : (folder.put slot file).here = folder.here := by
  cases slot <;> rfl

@[simp] theorem blobsHere_put : (folder.put slot file).blobsHere = folder.blobsHere := by
  cases slot <;> rfl

@[simp] theorem entry_put_self :
    (folder.put slot file).entry slot = (folder.entry slot).put file := by
  cases slot <;> simp [put, entry]

end

variable {slot : Slot} {other : Slot}

@[simp] theorem entry_put_ne (file : Option File) (ne : other ≠ slot) :
    (folder.put slot file).entry other = folder.entry other := by
  cases slot <;> cases other <;> simp_all [put, entry]

@[simp] theorem here_flush (slot : Slot) : (folder.flush slot).here = folder.here := by
  cases slot <;> rfl

@[simp] theorem reaches_flush (slot other : Slot) :
    (folder.flush slot).reaches other = folder.reaches other := by
  cases slot <;> cases other <;> rfl

theorem entry_flush (slot other : Slot) :
    (folder.flush slot).entry other = (folder.entry other).sync ∨
      (folder.flush slot).entry other = folder.entry other := by
  cases slot <;> cases other <;> simp [flush, entry]

@[simp] theorem entry_flush_self (slot : Slot) :
    (folder.flush slot).entry slot = (folder.entry slot).sync := by
  cases slot <;> rfl

theorem live_entry_flush (slot other : Slot) :
    ((folder.flush slot).entry other).live = (folder.entry other).live := by
  rcases folder.entry_flush slot other with synced | same
  · rw [synced, live_sync]
  · rw [same]

@[simp] theorem content_flush (slot other : Slot) :
    (folder.flush slot).content other = folder.content other := by
  simp only [content, reaches_flush, live_entry_flush]

theorem content_put_self {bytes : Text} (reaches : folder.reaches slot) :
    (folder.put slot (some (.settled bytes))).content slot = some bytes := by
  rw [content, reaches_put, if_pos reaches, entry_put_self]
  rfl

theorem content_put_ne (file : Option File) (ne : other ≠ slot) :
    (folder.put slot file).content other = folder.content other := by
  simp only [content, reaches_put, entry_put_ne folder file ne]

theorem content_of_solid {folder : Folder} {bytes : Text} (reaches : folder.reaches slot)
    (solid : Solid (folder.entry slot) bytes) : folder.content slot = some bytes := by
  simp [content, reaches, solid.live]

end Folder

theorem keeps_put {folder : Folder} (file : Option File)
    (missing : slot.immutable → folder.content slot = none) :
    Keeps folder (folder.put slot file) where
  here settled := by rwa [here_put]
  blobsHere _ settled := by rwa [blobsHere_put]
  solid other bytes kind reaches solid := by
    have ne : other ≠ slot := by
      rintro rfl
      have held := content_of_solid reaches solid
      rw [missing kind] at held
      cases held
    rwa [entry_put_ne folder file ne]
  content other bytes kind held := by
    have ne : other ≠ slot := by
      rintro rfl
      rw [missing kind] at held
      cases held
    rwa [content_put_ne folder file ne]
  reaches other reaches := by rwa [reaches_put]

theorem keeps_flush (slot : Slot) : Keeps folder (folder.flush slot) where
  here settled := by rwa [here_flush]
  blobsHere _ settled := by
    cases slot <;> simp [flush, settled]
  solid other bytes _ _ solid := by
    rcases folder.entry_flush slot other with synced | same
    · rw [synced]
      exact solid.sync
    · rwa [same]
  content other bytes _ held := by rwa [content_flush]
  reaches other reaches := by rwa [reaches_flush]

theorem keeps_makeBlobs : Keeps folder (makeBlobs folder) := by
  unfold makeBlobs
  split
  · exact .refl folder
  case isFalse missing =>
    have unreached : ∀ digest, folder.reaches (.blob digest) = false := by
      intro digest
      simp [reaches, missing]
    constructor
    · exact id
    · intro _ settled
      rw [settled] at missing
      exact absurd rfl missing
    · intro slot bytes kind reaches solid
      cases slot with
      | blob digest => rw [unreached digest] at reaches; cases reaches
      | _ => exact solid
    · intro slot bytes kind held
      cases slot with
      | blob digest => simp [content, unreached digest] at held
      | _ => exact held
    · intro slot reaches
      cases slot with
      | blob digest => rw [unreached digest] at reaches; cases reaches
      | _ => exact reaches

theorem keeps_makeHere : Keeps folder (makeHere folder) := by
  unfold makeHere
  split
  · exact .refl folder
  case isFalse missing =>
    have unreached : ∀ slot, folder.reaches slot = false := by
      intro slot
      cases slot <;> simp [reaches, missing]
    constructor
    · intro settled
      rw [settled] at missing
      exact absurd rfl missing
    · intro reaches
      rw [unreached] at reaches
      cases reaches
    · intro slot bytes _ reaches
      rw [unreached] at reaches
      cases reaches
    · intro slot bytes _ held
      simp [content, unreached slot] at held
    · intro slot reaches
      rw [unreached] at reaches
      cases reaches

/-- The files that a commit writes before it moves the pointers, with their contents. -/
def Bundle.files (codec : Codec) (bundle : Bundle) : List (Slot × Text) :=
  (.manifest (bundle.digest codec), bundle.manifestText codec) ::
    (.blob (codec.sha256 bundle.rules), bundle.rules) ::
      bundle.ruleSets.map fun entry => (.blob (codec.sha256 entry.2.bytes), entry.2.bytes)

/-- What holds while files are written, and what is left of it when a write fails or the program
is stopped. -/
structure WritePhase (phase failed : Folder → Prop) : Prop where
  idle : ∀ {folder}, phase folder → failed folder
  reaches : ∀ {folder}, phase folder → ∀ slot, folder.reaches slot
  renamed : ∀ {folder slot}, phase folder → slot.immutable →
    folder.content slot = none → ∀ file, failed (folder.put slot file)
  written : ∀ {folder slot}, phase folder → slot.immutable →
    folder.content slot = none → ∀ bytes,
    phase ((folder.put slot (some (.settled bytes))).flush slot)

variable {codec : Codec} {bundle : Bundle} {start folder : Folder}
  {phase failed : Folder → Prop} {known : List (Slot × Text)}

theorem load_of_files (checked : checkBundle codec bundle = .ok ())
    (readable : bundle.Readable codec)
    (held : ∀ file ∈ bundle.files codec, folder.content file.1 = some file.2) :
    folder.load codec bundle.identityFingerprint (bundle.digest codec) = .ok bundle.stored := by
  simp only [Bundle.files, forall_mem_cons, forall_mem_map] at held
  exact loadManifest_stored checked readable held.1 held.2.1 held.2.2

def Known (known : List (Slot × Text)) (folder : Folder) : Prop :=
  ∀ file ∈ known, file.1.immutable ∧ folder.content file.1 = some file.2

theorem Known.of_keeps {later : Folder} (holds : Known known folder)
    (keeps : Keeps folder later) : Known known later := by
  intro file member
  have given := holds file member
  exact ⟨given.1, keeps.content file.1 file.2 given.1 given.2⟩

theorem Known.cons (holds : Known known folder) (kind : slot.immutable)
    (held : folder.content slot = some bytes) : Known ((slot, bytes) :: known) folder := by
  intro file member
  rcases mem_cons.mp member with rfl | earlier
  · exact ⟨kind, held⟩
  · exact holds file earlier

variable {fewer : List (Slot × Text)}

theorem Known.subset (holds : Known known folder) (subset : fewer ⊆ known) : Known fewer folder :=
  fun file member => holds file (subset member)

def Wrote (phase failed : Folder → Prop) (known : List (Slot × Text)) :
    Except String Unit → Folder → Prop
  | .ok _, folder => phase folder ∧ Known known folder
  | .error _, folder => failed folder

theorem Wrote.subset (subset : fewer ⊆ known)
    {result : Except String Unit} (wrote : Wrote phase failed known result folder) :
    Wrote phase failed fewer result folder := by
  cases result with
  | error error => exact wrote
  | ok value => exact ⟨wrote.1, wrote.2.subset subset⟩

section

variable (writes : WritePhase phase failed)
include writes

theorem atomicWrite_missing (kind : slot.immutable) :
    Triple (fun folder => (phase folder ∧ Known known folder) ∧ folder.content slot = none)
      (atomicWrite true slot bytes) (Wrote phase failed ((slot, bytes) :: known)) failed := by
  -- the file is put at the third stage, so that a refusal before it changes nothing
  have unchanged : ∀ folder, (phase folder ∧ Known known folder) ∧ folder.content slot = none →
      failed folder := fun _ given => writes.idle given.1.1
  apply staged _ (fun _ => unchanged) unchanged
  apply staged _ (fun _ => unchanged) unchanged
  apply staged _ (fun _ => unchanged) unchanged
  apply actBind (m := fun folder => failed folder ∧
    Wrote phase failed ((slot, bytes) :: known) (.ok ()) (folder.flush slot)) _ unchanged
  · apply staged _ (fun _ _ given => given.1) (fun _ given => given.1)
    apply actBind (fun _ given => given.2) (fun _ given => given.1)
    exact .pure fun _ given => given
  · intro folder given
    have keeps := (keeps_put (some (.settled bytes)) fun _ => given.2).trans (keeps_flush _ slot)
    apply And.intro (writes.renamed given.1.1 kind given.2 _)
    apply And.intro (writes.written given.1.1 kind given.2 bytes)
    apply (given.1.2.of_keeps keeps).cons kind
    rw [content_flush, content_put_self folder (writes.reaches given.1.1 slot)]

theorem persistImmutable_spec {limit : Nat} (kind : slot.immutable) :
    Triple (fun folder => phase folder ∧ Known known folder) (persistImmutable slot bytes limit)
      (Wrote phase failed ((slot, bytes) :: known)) failed := by
  apply readBind
  intro existing
  cases existing with
  | none => exact atomicWrite_missing writes kind
  | some existing =>
    apply Triple.pure
    intro folder given
    split
    case isTrue same =>
      have content : existing = bytes := by
        simp only [readFile, Option.filter_eq_some_iff, Option.some.injEq] at same
        exact same.1
      exact ⟨given.1.1, given.1.2.cons kind (content ▸ given.2)⟩
    · exact writes.idle given.1.1

theorem writeBlob_spec (known : List (Slot × Text)) (bytes : Text) :
    Triple (fun folder => phase folder ∧ Known known folder) (writeBlob codec bytes)
      (Wrote phase failed ((.blob (codec.sha256 bytes), bytes) :: known)) failed :=
  persistImmutable_spec writes rfl

end

def sourceFiles (codec : Codec) (sources : List (Text × DurableSource)) : List (Slot × Text) :=
  sources.map fun entry => (.blob (codec.sha256 entry.2.bytes), entry.2.bytes)

theorem sourceFiles_cons_subset (entry : Text × DurableSource)
    (rest : List (Text × DurableSource)) :
    sourceFiles codec (entry :: rest) ++ known ⊆ sourceFiles codec rest ++
      ((.blob (codec.sha256 entry.2.bytes), entry.2.bytes) :: known) := by
  intro file member
  simp only [sourceFiles, map_cons, cons_append, mem_cons, mem_append]
    at member ⊢
  tauto

theorem writeBlobs_spec (writes : WritePhase phase failed) (known : List (Slot × Text))
    (sources : List (Text × DurableSource)) :
    Triple (fun folder => phase folder ∧ Known known folder) (writeBlobs codec sources)
      (Wrote phase failed (sourceFiles codec sources ++ known)) failed := by
  induction sources generalizing known with
  | nil => exact .pure fun _ given => given
  | cons entry rest ih =>
    refine andThen (writeBlob_spec writes known entry.2.bytes) (fun _ => ?_) (fun _ _ left => left)
    apply (ih _).ensure
    intro result folder wrote
    exact wrote.subset (sourceFiles_cons_subset entry rest)

theorem readPointer_pointerLine {digest : Text} (safe : safeDigest digest)
    (small : lower digest = digest) : readPointer (some (pointerLine digest)) = some digest := by
  have shape := safe
  simp only [safeDigest, Bool.and_eq_true, beq_iff_eq, all_eq_true] at shape
  have length : (pointerLine digest).length ≤ pointerLimit := by
    simp [pointerLine, pointerLimit, shape.1]
  have cut : (pointerLine digest).rdropWhile (fun char => char == 10 || char == 13) = digest := by
    rw [pointerLine, rdropWhile_concat_pos _ _ _ (by decide), rdropWhile_eq_self_iff]
    intro nonempty lineEnd
    have hex := shape.2 _ (getLast_mem nonempty)
    rcases (Bool.or_eq_true _ _).mp lineEnd with newline | newline <;>
      · rw [beq_iff_eq] at newline
        rw [newline] at hex
        exact absurd hex (by decide)
  simp [readPointer, readFile_some length, cut, safe, small]

/-- While the pointers are moved: CURRENT has no values but those of `allowed`. -/
structure Moving (allowed : Option File → Prop) (start folder : Folder) : Prop where
  keeps : Keeps start folder
  values : ∀ value ∈ folder.current.values, allowed value

variable {allowed : Option File → Prop}

section

variable (moving : Moving allowed start folder)
include moving

theorem Moving.putCurrent
    (fine : allowed value) : Moving allowed start (folder.put .current value) where
  keeps := moving.keeps.trans (keeps_put value (nomatch ·))
  values found member := by
    rcases mem_values_put.mp member with rfl | earlier
    · exact fine
    · exact moving.values found earlier

theorem Moving.putPrevious (value : Option File) :
    Moving allowed start (folder.put .previous value) where
  keeps := moving.keeps.trans (keeps_put value (nomatch ·))
  values := moving.values

theorem Moving.flush
    (pointer : slot.immutable = false) : Moving allowed start (folder.flush slot) where
  keeps := moving.keeps.trans (keeps_flush folder slot)
  values found member := by
    have synced : (folder.flush slot).current = folder.current.sync := by
      cases slot with
      | blob digest | manifest digest => cases pointer
      | current => rfl
      | previous => rfl
    rw [synced, sync, values_settled, mem_singleton] at member
    rw [member]
    exact moving.values _ (live_mem_values _)

end

def Moved (allowed : Option File → Prop) (start : Folder) (value : Option File) (folder : Folder) :
    Prop :=
  Moving allowed start folder ∧ folder.current = .settled value

/-- The answer of a write of CURRENT. One that does not ask is not refused. -/
def Answered (allowed : Option File → Prop) (start : Folder) (asks : Bool) (value : Option File) :
    Except String Unit → Folder → Prop
  | .ok _, folder => Moved allowed start value folder
  | .error _, folder => asks ∧ Moving allowed start folder

variable (asks : Bool)

theorem flushCurrent_spec (error : String) (value : Option File) :
    Triple (fun folder => Moving allowed start folder ∧ folder.current.live = value)
      (.staged asks error ((Prog.act (Folder.flush .current)).bind fun _ => .pure (.ok ())))
      (Answered allowed start asks value) (Moving allowed start) := by
  apply staged _ (fun asked _ given => ⟨asked, given.1⟩) (fun _ given => given.1)
  apply actBind (m := Moved allowed start value) _ (fun _ given => given.1)
  · exact .pure fun _ given => given
  · intro folder given
    apply And.intro (given.1.flush rfl)
    change folder.current.sync = _
    rw [sync, given.2]

theorem writeCurrent_spec (fine : allowed (some (.settled bytes))) :
    Triple (Moving allowed start) (atomicWrite asks .current bytes)
      (Answered allowed start asks (some (.settled bytes))) (Moving allowed start) := by
  have same : ∀ folder, Moving allowed start folder → Moving allowed start folder :=
    fun _ moving => moving
  apply staged _ (fun asked _ moving => ⟨asked, moving⟩) same
  apply staged _ (fun asked _ moving => ⟨asked, moving⟩) same
  apply staged _ (fun asked _ moving => ⟨asked, moving⟩) same
  apply actBind _ same (flushCurrent_spec asks _ _)
  intro folder moving
  exact ⟨moving.putCurrent fine, rfl⟩

theorem restoreCurrent_spec {old : Option Text} (fine : allowed (old.map settled)) :
    Triple (Moving allowed start) (restorePointer asks .current old)
      (Answered allowed start asks (old.map settled)) (Moving allowed start) := by
  cases old with
  | some bytes => exact writeCurrent_spec asks fine
  | none =>
    apply actBind _ (fun _ moving => moving) (flushCurrent_spec asks _ none)
    intro folder moving
    exact ⟨moving.putCurrent fine, rfl⟩

theorem Moved.putPrevious (moved : Moved allowed start value folder)
    (file : Option File) : Moved allowed start value (folder.put .previous file) :=
  ⟨moved.1.putPrevious file, moved.2⟩

theorem Moved.flushPrevious (moved : Moved allowed start value folder) :
    Moved allowed start value (folder.flush .previous) := by
  apply And.intro (moved.1.flush rfl)
  change folder.current.sync = _
  rw [moved.2, sync_settled]

theorem restorePrevious_keeps {kept crash : Folder → Prop} (asks : Bool) (old : Option Text)
    (put : ∀ folder file, kept folder → kept (folder.put .previous file))
    (flush : ∀ folder, kept folder → kept (folder.flush .previous))
    (stops : ∀ folder, kept folder → crash folder) :
    Triple kept (restorePointer asks .previous old) (fun _ => kept) crash := by
  have same : ∀ folder, kept folder → kept folder := fun _ given => given
  have flushed (error : String) : Triple kept
      (.staged asks error ((Prog.act (Folder.flush .previous)).bind fun _ => .pure (.ok ())))
      (fun (_ : Except String Unit) => kept) crash := by
    apply staged _ (fun _ => same) stops
    apply actBind flush stops
    exact .pure same
  cases old with
  | some bytes =>
    apply staged _ (fun _ => same) stops
    apply staged _ (fun _ => same) stops
    apply staged _ (fun _ => same) stops
    exact actBind (fun folder given => put folder _ given) stops (flushed _)
  | none => exact actBind (fun folder given => put folder _ given) stops (flushed _)

theorem restorePrevious_spec (old : Option Text) (value : Option File) :
    Triple (Moved allowed start value) (restorePointer asks .previous old)
      (fun _ => Moved allowed start value) (Moving allowed start) :=
  restorePrevious_keeps asks old (fun _ file moved => moved.putPrevious file)
    (fun _ moved => moved.flushPrevious) (fun _ moved => moved.1)

theorem rollbackPointers_spec {current : Option Text} (previous : Option Text) (error : String)
    (fine : allowed (current.map settled)) :
    Triple (Moving allowed start) (rollbackPointers current previous error)
      (fun result folder => (∃ message, result = .error message) ∧
        Moved allowed start (current.map settled) folder) (Moving allowed start) := by
  apply bind (restoreCurrent_spec false fine)
  intro answer
  cases answer with
  | error message =>
    intro script folder given
    cases given.1
  | ok _ =>
    apply bind (restorePrevious_spec false previous _)
    intro answer
    exact .pure fun _ moved => ⟨⟨_, rfl⟩, moved⟩

def Folder.oldPointer (folder : Folder) : Option File := (folder.content .current).map Cell.settled

def oldOr (start : Folder) (digest : Text) (value : Option File) : Prop :=
  value ∈ start.current.values ∨ value = start.oldPointer ∨
    value = some (.settled (pointerLine digest))

/-- What moving the pointers to `digest` ends with: CURRENT names it, or it has its old value. -/
def PointersMoved (start : Folder) (digest : Text) : Except String Unit → Folder → Prop
  | .ok _, folder =>
    Keeps start folder ∧ folder.current = .settled (some (.settled (pointerLine digest)))
  | .error _, folder =>
    Keeps start folder ∧
      (folder.current = start.current ∨ folder.current = .settled start.oldPointer)

theorem moving_start (start : Folder) (digest : Text) : Moving (oldOr start digest) start start :=
  ⟨Keeps.refl start, fun _ member => .inl member⟩

theorem pointCurrent_spec (start : Folder) (digest : Text) :
    Triple (· = start) (atomicWrite true .current (pointerLine digest))
      (Answered (oldOr start digest) start true (some (.settled (pointerLine digest))))
      (Moving (oldOr start digest) start) := by
  have written : Triple (Moving (oldOr start digest) start)
      (atomicWrite true .current (pointerLine digest))
      (Answered (oldOr start digest) start true (some (.settled (pointerLine digest))))
      (Moving (oldOr start digest) start) := writeCurrent_spec true (.inr (.inr rfl))
  apply written.require
  rintro _ rfl
  exact moving_start _ digest

theorem movePointers_spec (start : Folder) (digest : Text) :
    Triple (· = start) (movePointers digest) (PointersMoved start digest)
      (Moving (oldOr start digest) start) := by
  have restored (error : String) (previous : Option Text) :
      Triple (Moving (oldOr start digest) start)
        (rollbackPointers (start.content .current) previous error) (PointersMoved start digest)
        (Moving (oldOr start digest) start) := by
    have fine : oldOr start digest start.oldPointer := Or.inr (.inl rfl)
    apply (rollbackPointers_spec previous error fine).ensure
    rintro result folder ⟨⟨message, rfl⟩, moving, current⟩
    exact ⟨moving.keeps, .inr current⟩
  have unchanged (message : String) : Triple (· = start)
      (.pure (.error message)) (PointersMoved start digest)
      (Moving (oldOr start digest) start) := by
    exact stay ⟨Keeps.refl _, .inl rfl⟩
  apply readBind
  intro looked
  apply pointwise
  rintro folder ⟨rfl, rfl⟩
  dsimp only
  split
  · exact unchanged _
  · split
    · exact unchanged _
    · apply bind (pointCurrent_spec folder digest)
      intro answer
      cases answer with
      | error message =>
        exact (restored message _).require (fun _ given => given.2)
      | ok _ =>
        dsimp only
        split
        · exact .pure fun _ moved => ⟨moved.1.keeps, moved.2⟩
        case h_2 pointer _ =>
          apply bind (restorePrevious_spec true (some (pointerLine pointer)) _)
          intro answer
          cases answer with
          | error message =>
            exact (restored message _).require (fun _ moved => moved.1)
          | ok _ => exact pure fun _ moved => ⟨moved.1.keeps, moved.2⟩

/-- A commit that returned: it failed before the pointers, or the files are written and the
pointers were moved or put back since. -/
def Committed (codec : Codec) (bundle : Bundle) (phase failed : Folder → Prop)
    (result : Except String Unit) (folder : Folder) : Prop :=
  ((∃ error, result = .error error) ∧ failed folder) ∨
    (checkBundle codec bundle = .ok () ∧
      ∃ written, phase written ∧ Known (bundle.files codec) written ∧
        PointersMoved written (bundle.digest codec) result folder)

/-- A commit that was stopped while it wrote files or while it moved the pointers. -/
def Interrupted (codec : Codec) (bundle : Bundle) (phase failed : Folder → Prop)
    (folder : Folder) : Prop :=
  failed folder ∨
    (checkBundle codec bundle = .ok () ∧
      ∃ written, phase written ∧ Known (bundle.files codec) written ∧
        Moving (oldOr written (bundle.digest codec)) written folder)

theorem commit_spec (writes : WritePhase phase failed) (initial : failed start)
    (made : Triple (· = start) ensureBlobs (fun _ => phase) failed) :
    Triple (· = start) (commit codec bundle)
      (Committed codec bundle phase failed) (Interrupted codec bundle phase failed) := by
  have fails : ∀ (error : String) folder, failed folder →
      Committed codec bundle phase failed (.error error) folder :=
    fun error _ left => .inl ⟨⟨error, rfl⟩, left⟩
  have stops : ∀ folder, failed folder → Interrupted codec bundle phase failed folder :=
    fun _ left => .inl left
  unfold commit
  split
  · exact stay (fails _ _ initial)
  case h_2 checked =>
    apply bind (made.stopping stops)
    intro _
    refine andThen (((writeBlob_spec writes [] bundle.rules).stopping stops).require
      (fun _ writing => ⟨writing, nofun⟩)) (fun _ => ?_) fails
    refine andThen ((writeBlobs_spec writes _ bundle.ruleSets).stopping stops) (fun _ => ?_) fails
    refine andThen ((persistImmutable_spec writes rfl).stopping stops) (fun _ => ?_) fails
    apply pointwise
    rintro written ⟨writing, known⟩
    have files : Known (bundle.files codec) written := by
      apply known.subset
      simp [Bundle.files, sourceFiles]
    apply (movePointers_spec written (bundle.digest codec)).weaken (fun _ given => given)
    · intro result folder moved
      exact .inr ⟨checked, written, writing, files, moved⟩
    · intro folder moving
      exact .inr ⟨checked, written, writing, files, moving⟩

end OpenPpp2.Policy
