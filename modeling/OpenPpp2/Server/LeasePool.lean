import OpenPpp2.Lib.InverseMaps
import OpenPpp2.Lib.Run

/-!
# The IPv4 lease pool of the server

`IPv4LeasePool.cpp`: a pool derived from a network and a mask, with one map from sessions to leased
addresses and one back.
-/

namespace OpenPpp2.Server.LeasePool

open Lib.InverseMaps Lib.Run

/-- A session identifier, `Int128`. -/
abbrev SessionId := BitVec 128

abbrev Address := BitVec 32

structure Result where
  ok : Bool := false
  accepted : Bool := false
  conflict : Bool := false
  reason : String := ""
  address : Address := 0
  gateway : Address := 0
  mask : Address := 0
  requestedAddress : Address := 0
  deriving DecidableEq, Repr

structure Pool where
  configured : Bool := false
  network : Address := 0
  mask : Address := 0
  gateway : Address := 0
  broadcast : Address := 0
  ipBySession : AList fun _ : SessionId => Address := ∅
  sessionByIp : AList fun _ : Address => SessionId := ∅

namespace Pool

/-- `Configure`: leases do not survive it, whether or not the pool is degenerate. -/
def configure (network mask : Address) : Bool × Pool :=
  let broadcast := network ||| ~~~mask
  if broadcast ≤ network then (false, {})
  else
    (true, { configured := true, network := network, mask := mask,
             gateway := network + 1, broadcast := broadcast })

variable (pool : Pool)

def makeAutoSuccess (ip : Address) : Result :=
  { ok := true, accepted := true, conflict := false, address := ip,
    gateway := pool.gateway, mask := pool.mask }

def makeManualSuccess (ip : Address) : Result :=
  { ok := true, accepted := true, conflict := false, address := ip,
    gateway := pool.gateway, mask := pool.mask, requestedAddress := ip }

def makeFailure (reason : String) : Result :=
  { ok := false, accepted := false, conflict := false, reason := reason,
    gateway := pool.gateway, mask := pool.mask }

def isBroadcast (ip : Address) : Bool := ip == pool.broadcast

def isLeasedByOtherSession (session : SessionId) (ip : Address) : Bool :=
  match pool.sessionByIp.lookup ip with
  | none => false
  | some holder => holder != session

def tryLease (session : SessionId) (ip : Address) : Bool × Pool :=
  match pool.sessionByIp.lookup ip with
  | some holder => (holder == session, pool)
  | none =>
    (true, { pool with ipBySession := pool.ipBySession.insert session ip
                       sessionByIp := pool.sessionByIp.insert ip session })

def releaseInternal (session : SessionId) : Pool :=
  match pool.ipBySession.lookup session with
  | none => pool
  | some ip => { pool with sessionByIp := pool.sessionByIp.erase ip
                           ipBySession := pool.ipBySession.erase session }

/-- The loop over the candidates, with the number of addresses left before the broadcast
address. -/
def scan (session : SessionId) : Nat → Address → Result × Pool
  | 0, _ => (pool.makeFailure "pool-exhausted", pool)
  | left + 1, ip =>
    if ip = pool.gateway then scan session left (ip + 1)
    else if ip = pool.broadcast then scan session left (ip + 1)
    else if pool.isLeasedByOtherSession session ip then scan session left (ip + 1)
    else if (pool.tryLease session ip).1 then
      (pool.makeAutoSuccess ip, (pool.tryLease session ip).2)
    else scan session left (ip + 1)

/-- `AcquireAutoInternal`: `ip` runs from the gateway while it is below the broadcast address. -/
def acquireAutoInternal (session : SessionId) : Result × Pool :=
  pool.scan session (pool.broadcast.toNat - pool.gateway.toNat) pool.gateway

/-- `AcquireAuto`: its loop is the one of `AcquireAutoInternal`. -/
def acquireAuto (session : SessionId) : Result × Pool :=
  if pool.configured then (pool.releaseInternal session).acquireAutoInternal session
  else (pool.makeFailure "pool-exhausted", pool)

/-- What `AcquireManual` makes of the outcome of the fallback. -/
def reassign (requested : Address) (reason : String) (outcome : Result × Pool) : Result × Pool :=
  if outcome.1.ok then
    ({ outcome.1 with accepted := false, conflict := true, reason := reason,
                      requestedAddress := requested }, outcome.2)
  else ({ outcome.1 with reason := "pool-exhausted" }, outcome.2)

def acquireManual (session : SessionId) (requested : Address) : Result × Pool :=
  if pool.configured then
    let released := pool.releaseInternal session
    if released.isBroadcast requested then
      reassign requested "broadcast" (released.acquireAutoInternal session)
    else if released.isLeasedByOtherSession session requested then
      reassign requested "conflict" (released.acquireAutoInternal session)
    else if (released.tryLease session requested).1 then
      (released.makeManualSuccess requested, (released.tryLease session requested).2)
    else reassign requested "conflict"
      ((released.tryLease session requested).2.acquireAutoInternal session)
  else (pool.makeFailure "pool-exhausted", pool)

end Pool

inductive Call where
  | configure (network mask : Address)
  | acquireAuto (session : SessionId)
  | acquireManual (session : SessionId) (requested : Address)
  | release (session : SessionId)
  deriving DecidableEq, Repr

def Pool.step (pool : Pool) : Call → Pool
  | .configure network mask => (Pool.configure network mask).2
  | .acquireAuto session => (pool.acquireAuto session).2
  | .acquireManual session requested => (pool.acquireManual session requested).2
  | .release session => pool.releaseInternal session

namespace Pool

/-- The two maps are inverse, the broadcast address is bound in neither, and no address of an
unconfigured pool is usable. -/
structure Sound (pool : Pool) : Prop where
  inverse : Inverse (fun session => pool.ipBySession.lookup session)
    fun ip => pool.sessionByIp.lookup ip
  spared : pool.sessionByIp.lookup pool.broadcast = none
  ordered : pool.gateway.toNat ≤ pool.broadcast.toNat
  idle : pool.configured = false → pool.broadcast = 0

theorem sound_empty : Sound {} where
  inverse := inverse_empty
  spared := rfl
  ordered := le_refl 0
  idle _ := rfl

theorem sound_configure (network mask : Address) : Sound (configure network mask).2 := by
  unfold configure
  dsimp only
  split_ifs with degenerate
  · exact sound_empty
  · refine ⟨inverse_empty, rfl, ?_, fun unset => by cases unset⟩
    have above : network.toNat < (network ||| ~~~mask).toNat := by
      rw [BitVec.le_def] at degenerate
      omega
    have one : (1 : Address).toNat = 1 := rfl
    dsimp only
    rw [BitVec.toNat_add, one]
    omega

variable {pool : Pool}

theorem tryLease_cases (pool : Pool) (session : SessionId) (ip : Address) :
    (∃ holder, pool.sessionByIp.lookup ip = some holder ∧
      pool.tryLease session ip = (holder == session, pool)) ∨
    (pool.sessionByIp.lookup ip = none ∧ pool.tryLease session ip =
      (true, { pool with ipBySession := pool.ipBySession.insert session ip
                         sessionByIp := pool.sessionByIp.insert ip session })) := by
  unfold tryLease
  cases held : pool.sessionByIp.lookup ip with
  | some holder => exact .inl ⟨holder, rfl, rfl⟩
  | none => exact .inr ⟨rfl, rfl⟩

variable {session : SessionId} {ip : Address}

theorem sound_tryLease (sound : Sound pool)
    (idle : pool.ipBySession.lookup session = none) (notBroadcast : ip ≠ pool.broadcast) :
    Sound (pool.tryLease session ip).2 := by
  obtain ⟨holder, _, leased⟩ | ⟨free, leased⟩ := tryLease_cases pool session ip
  · rw [leased]
    exact sound
  · rw [leased]
    constructor
    · dsimp only
      rw [lookup_insert_eq_update, lookup_insert_eq_update]
      exact sound.inverse.bind idle free
    · dsimp only
      rw [AList.lookup_insert_ne (Ne.symm notBroadcast)]
      exact sound.spared
    · exact sound.ordered
    · exact sound.idle

theorem sound_releaseInternal (sound : Sound pool) (session : SessionId) :
    Sound (pool.releaseInternal session) := by
  unfold releaseInternal
  cases held : pool.ipBySession.lookup session with
  | none => exact sound
  | some ip =>
    constructor
    · dsimp only
      rw [lookup_erase_eq_update, lookup_erase_eq_update]
      exact sound.inverse.drop held
    · dsimp only
      by_cases same : pool.broadcast = ip
      · rw [same, AList.lookup_erase]
      · rw [AList.lookup_erase_ne same]
        exact sound.spared
    · exact sound.ordered
    · exact sound.idle

theorem releaseInternal_spec (pool : Pool) (session : SessionId) :
    let released := pool.releaseInternal session
    released.ipBySession.lookup session = none ∧ released.gateway = pool.gateway ∧
      released.broadcast = pool.broadcast := by
  unfold releaseInternal
  cases held : pool.ipBySession.lookup session with
  | none => exact ⟨held, rfl, rfl⟩
  | some ip => exact ⟨AList.lookup_erase .., rfl, rfl⟩

theorem lookup_releaseInternal (sound : Sound pool) (session holder : SessionId) (ip : Address)
    (other : holder ≠ session) :
    (pool.releaseInternal session).sessionByIp.lookup ip = some holder ↔
      pool.sessionByIp.lookup ip = some holder := by
  unfold releaseInternal
  cases held : pool.ipBySession.lookup session with
  | none => exact .rfl
  | some own =>
    by_cases same : ip = own
    · have bound : pool.sessionByIp.lookup own = some session := (sound.inverse session own).mp held
      rw [same, AList.lookup_erase, bound]
      simp [Ne.symm other]
    · rw [AList.lookup_erase_ne same]

def Usable (pool : Pool) (ip : Address) : Prop := pool.gateway < ip ∧ ip < pool.broadcast

def LeasedToOther (pool : Pool) (session : SessionId) (ip : Address) : Prop :=
  ∃ holder, holder ≠ session ∧ pool.sessionByIp.lookup ip = some holder

theorem isLeasedByOtherSession_iff (pool : Pool) (session : SessionId) (ip : Address) :
    pool.isLeasedByOtherSession session ip ↔ pool.LeasedToOther session ip := by
  unfold isLeasedByOtherSession LeasedToOther
  cases held : pool.sessionByIp.lookup ip with
  | none => simp
  | some holder => simp

theorem tryLease_of_not_other (free : ¬ pool.isLeasedByOtherSession session ip) :
    (pool.tryLease session ip).1 := by
  obtain ⟨holder, held, leased⟩ | ⟨_, leased⟩ := tryLease_cases pool session ip
  · rw [leased]
    simp only [isLeasedByOtherSession, held, bne_iff_ne, ne_eq, not_not] at free
    exact beq_iff_eq.mpr free
  · rw [leased]

theorem scan_spec (pool : Pool) (session : SessionId) (left : Nat) (ip : Address)
    (lower : pool.gateway.toNat ≤ ip.toNat) (remains : ip.toNat + left = pool.broadcast.toNat) :
    (∃ chosen, pool.Usable chosen ∧
      pool.scan session left ip = (pool.makeAutoSuccess chosen, (pool.tryLease session chosen).2)) ∨
    (pool.scan session left ip = (pool.makeFailure "pool-exhausted", pool) ∧
      ∀ candidate, pool.Usable candidate → ip ≤ candidate →
        pool.LeasedToOther session candidate) := by
  induction left generalizing ip with
  | zero =>
    right
    refine ⟨rfl, ?_⟩
    intro candidate usable above
    have below := usable.2
    rw [BitVec.lt_def] at below
    rw [BitVec.le_def] at above
    omega
  | succ left ih =>
    have next : (ip + 1).toNat = ip.toNat + 1 := by
      have one : (1 : Address).toNat = 1 := rfl
      rw [BitVec.toNat_add, one]
      omega
    have later := ih (ip + 1) (by omega) (by omega)
    have apart (other : Address) : ip ≠ other → ip.toNat ≠ other.toNat :=
      fun differs equal => differs (BitVec.eq_of_toNat_eq equal)
    have inside : ip ≠ pool.broadcast := by
      rintro rfl
      omega
    by_cases passed : ip = pool.gateway ∨ pool.isLeasedByOtherSession session ip
    · have skipped : pool.scan session (left + 1) ip = pool.scan session left (ip + 1) := by
        rw [scan, if_neg inside]
        rcases passed with atGateway | taken
        · rw [if_pos atGateway]
        · rw [if_pos taken, ite_self]
      rw [skipped]
      apply later.imp_right
      rintro ⟨failed, full⟩
      refine ⟨failed, ?_⟩
      intro candidate usable above
      by_cases here : ip = candidate
      · subst here
        rcases passed with atGateway | taken
        · exact absurd usable.1 (by rw [atGateway]; exact BitVec.lt_irrefl _)
        · exact (isLeasedByOtherSession_iff pool session ip).mp taken
      · apply full candidate usable
        rw [BitVec.le_def] at above ⊢
        have := apart candidate here
        omega
    · left
      obtain ⟨notGateway, free⟩ := not_or.mp passed
      refine ⟨ip, ⟨?_, ?_⟩, ?_⟩
      · rw [BitVec.lt_def]
        have := apart _ notGateway
        omega
      · rw [BitVec.lt_def]
        omega
      · rw [scan, if_neg notGateway, if_neg inside, if_neg free,
          if_pos (tryLease_of_not_other free)]

/-- What an automatic choice may do to a pool in which the session holds nothing: it leases a
usable address to the session, or finds all of them leased to others. -/
def Chooses (before : Pool) (session : SessionId) (outcome : Result × Pool) : Prop :=
  (outcome.1.ok ∧ before.Usable outcome.1.address ∧
    outcome.2 = (before.tryLease session outcome.1.address).2) ∨
  (outcome.1.ok = false ∧ outcome.2 = before ∧
    ∀ ip, before.Usable ip → before.LeasedToOther session ip)

theorem acquireAutoInternal_chooses (sound : Sound pool) (session : SessionId) :
    Chooses pool session (pool.acquireAutoInternal session) := by
  have ordered := sound.ordered
  unfold acquireAutoInternal
  obtain ⟨chosen, usable, outcome⟩ | ⟨outcome, full⟩ := scan_spec pool session
    (pool.broadcast.toNat - pool.gateway.toNat) pool.gateway (le_refl _) (by omega)
  · rw [outcome]
    exact .inl ⟨rfl, usable, rfl⟩
  · rw [outcome]
    refine .inr ⟨rfl, rfl, ?_⟩
    intro ip usable
    apply full ip usable
    exact BitVec.le_of_lt usable.1

variable {before : Pool} {outcome : Result × Pool}

theorem reassign_chooses
    (requested : Address) (reason : String) (chooses : Chooses before session outcome) :
    Chooses before session (reassign requested reason outcome) := by
  unfold reassign
  obtain ⟨ok, usable, leased⟩ | ⟨failed, same, full⟩ := chooses
  · rw [if_pos ok]
    exact .inl ⟨ok, usable, leased⟩
  · rw [if_neg (by rw [failed]; decide)]
    exact .inr ⟨failed, same, full⟩

theorem sound_of_chooses (sound : Sound before) (idle : before.ipBySession.lookup session = none)
    (chooses : Chooses before session outcome) : Sound outcome.2 := by
  obtain ⟨_, usable, leased⟩ | ⟨_, same, _⟩ := chooses
  · rw [leased]
    apply sound_tryLease sound idle
    intro atBroadcast
    exact absurd usable.2 (by rw [atBroadcast]; exact BitVec.lt_irrefl _)
  · rw [same]
    exact sound

theorem acquireManual_cases (sound : Sound pool) (session : SessionId) (requested : Address) :
    let outcome := pool.acquireManual session requested
    let released := pool.releaseInternal session
    (pool.configured = false ∧ outcome = (pool.makeFailure "pool-exhausted", pool)) ∨
    (requested ≠ released.broadcast ∧ outcome =
      (released.makeManualSuccess requested, (released.tryLease session requested).2)) ∨
    Chooses released session outcome := by
  have chosen := acquireAutoInternal_chooses (sound_releaseInternal sound session) session
  unfold acquireManual
  dsimp only
  split_ifs with configured atBroadcast taken leased
  · exact .inr (.inr (reassign_chooses requested "broadcast" chosen))
  · exact .inr (.inr (reassign_chooses requested "conflict" chosen))
  · exact .inr (.inl ⟨fun equal => atBroadcast (beq_iff_eq.mpr equal), rfl⟩)
  · exact absurd (tryLease_of_not_other taken) leased
  · exact .inl ⟨Bool.eq_false_iff.mpr configured, rfl⟩

theorem acquireAuto_cases (sound : Sound pool) (session : SessionId) :
    let outcome := pool.acquireAuto session
    (pool.configured = false ∧ outcome = (pool.makeFailure "pool-exhausted", pool)) ∨
    Chooses (pool.releaseInternal session) session outcome := by
  dsimp only
  unfold acquireAuto
  split_ifs with configured
  · exact .inr (acquireAutoInternal_chooses (sound_releaseInternal sound session) session)
  · exact .inl ⟨Bool.eq_false_iff.mpr configured, rfl⟩

theorem sound_step (pool : Pool) (call : Call) (sound : Sound pool) : Sound (pool.step call) := by
  cases call with
  | configure network mask => exact sound_configure network mask
  | release session => exact sound_releaseInternal sound session
  | acquireAuto session =>
    have released := sound_releaseInternal sound session
    have idle := (releaseInternal_spec pool session).1
    obtain ⟨_, outcome⟩ | chooses := acquireAuto_cases sound session
    · rw [step, outcome]
      exact sound
    · exact sound_of_chooses released idle chooses
  | acquireManual session requested =>
    have released := sound_releaseInternal sound session
    have idle := (releaseInternal_spec pool session).1
    obtain ⟨_, outcome⟩ | ⟨notBroadcast, outcome⟩ | chooses :=
      acquireManual_cases sound session requested
    · rw [step, outcome]
      exact sound
    · rw [step, outcome]
      exact sound_tryLease released idle notBroadcast
    · exact sound_of_chooses released idle chooses

theorem sound_run (calls : List Call) : Sound (run step {} calls) :=
  run_invariant sound_step sound_empty calls

/-- An automatic choice in the pool the call started from: the chosen address is usable, and
without one every usable address is leased to another session. -/
def ChoosesIn (pool : Pool) (session : SessionId) (result : Result) : Prop :=
  (result.ok → pool.Usable result.address) ∧
  (result.ok = false → ∀ ip, pool.Usable ip → pool.LeasedToOther session ip)

theorem choosesIn_of_chooses (sound : Sound pool)
    (chooses : Chooses (pool.releaseInternal session) session outcome) :
    pool.ChoosesIn session outcome.1 := by
  obtain ⟨_, gateway, broadcast⟩ := releaseInternal_spec pool session
  have usable_iff (ip : Address) : (pool.releaseInternal session).Usable ip ↔ pool.Usable ip := by
    rw [Usable, gateway, broadcast, Usable]
  obtain ⟨ok, usable, _⟩ | ⟨failed, _, full⟩ := chooses
  · constructor
    · intro _
      exact (usable_iff _).mp usable
    · intro failed
      rw [ok] at failed
      cases failed
  · constructor
    · intro ok
      rw [ok] at failed
      cases failed
    intro _ ip usable
    obtain ⟨holder, other, held⟩ := full ip ((usable_iff ip).mpr usable)
    exact ⟨holder, other, (lookup_releaseInternal sound session holder ip other).mp held⟩

theorem choosesIn_unconfigured (sound : Sound pool) (unset : pool.configured = false)
    (session : SessionId) (reason : String) : pool.ChoosesIn session (pool.makeFailure reason) := by
  constructor
  · intro ok
    cases ok
  intro _ ip usable
  have below := usable.2
  rw [sound.idle unset] at below
  exact absurd below BitVec.not_lt_zero

/-- In every state the calls of the pool can reach: the two maps are inverse to each other, the
broadcast address is leased to nobody, an automatic acquisition chooses an address strictly
between the gateway and the broadcast address, and it fails only when all of those are leased to
other sessions. The same holds of the automatic choice a manual acquisition falls back to, whose
result is marked as a conflict when it succeeds. -/
theorem lease_pool_consistent (calls : List Call) :
    let pool := run step {} calls
    (∀ session ip, pool.ipBySession.lookup session = some ip ↔
      pool.sessionByIp.lookup ip = some session) ∧
    (∀ session, pool.ipBySession.lookup session ≠ some pool.broadcast) ∧
    (∀ session, pool.ChoosesIn session (pool.acquireAuto session).1) ∧
    (∀ session requested, let result := (pool.acquireManual session requested).1
      result.ok = false ∨ result.conflict = true → pool.ChoosesIn session result) := by
  intro pool
  have sound : Sound pool := sound_run calls
  refine ⟨sound.inverse, ?_, ?_, ?_⟩
  · intro session leased
    have bound : pool.sessionByIp.lookup pool.broadcast = some session :=
      (sound.inverse session pool.broadcast).mp leased
    rw [sound.spared] at bound
    cases bound
  · intro session
    obtain ⟨unset, outcome⟩ | chooses := acquireAuto_cases sound session
    · rw [outcome]
      exact choosesIn_unconfigured sound unset session "pool-exhausted"
    · exact choosesIn_of_chooses sound chooses
  · intro session requested result automatic
    obtain ⟨unset, outcome⟩ | ⟨_, outcome⟩ | chooses := acquireManual_cases sound session requested
    · simp only [result, outcome]
      exact choosesIn_unconfigured sound unset session "pool-exhausted"
    · -- The request itself was granted, which is not an automatic choice.
      simp only [result, outcome, makeManualSuccess] at automatic
      simp at automatic
    · exact choosesIn_of_chooses sound chooses

end Pool

end OpenPpp2.Server.LeasePool
