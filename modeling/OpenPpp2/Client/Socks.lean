import Mathlib.Data.List.TakeWhile
import OpenPpp2.Client.HttpHandshake

/-!
# Authentication of the SOCKS proxy

`VEthernetSocksProxyConnection.cpp` up to the request: the method is chosen from the greeting, and
the credentials are read behind it. A read fails exactly if the stream is too short, writes do not.
-/

namespace OpenPpp2.Client.Socks

open List

def socksVer : UInt8 := 5
def methodNone : UInt8 := 0
def methodAuth : UInt8 := 2
def methodRsvd : UInt8 := 255
def protoAuth : UInt8 := 1
def errFF : UInt8 := 255

/-- `SOCKS_ERR_ER` and `SOCKS_ERR_NO`; the results of `SOCKS_ERR_OK` are returned. -/
inductive Failure
  | er
  | no
  deriving DecidableEq

abbrev Result := Except Failure

/-- `client.socks_proxy`. -/
structure Account where
  username : Bytes
  password : Bytes

def Account.noAuth (account : Account) : Bool :=
  account.username.isEmpty && account.password.isEmpty

/-- `async_read` of a count of bytes. -/
def readExact (count : Nat) (stream : Bytes) : Result (Bytes × Bytes) :=
  if count ≤ stream.length then .ok (stream.splitAt count) else .error .er

def chooseMethod (noAuth : Bool) : Bytes → Result UInt8
  | [] => if noAuth then .ok methodNone else .error .no
  | m :: rest =>
    if m = methodRsvd then chooseMethod noAuth rest
    else if m = methodNone then if noAuth then .ok methodNone else chooseMethod noAuth rest
    else if m = methodAuth then .ok (if noAuth then methodNone else m)
    else chooseMethod noAuth rest

def selectMethod (account : Account) : Bytes → Result (UInt8 × Bytes)
  | nver :: nmethod :: rest =>
    if nver ≠ socksVer then .error .no
    else if nmethod = methodNone then
      if account.noAuth then .ok (methodNone, rest) else .error .no
    else do
      let (data, rest) ← readExact nmethod.toNat rest
      let method ← chooseMethod account.noAuth data
      return (method, rest)
  | _ => .error .er

/-- One of the `strings`. It is assigned from the buffer as a C string. -/
def readString : Bytes → Result (Bytes × Bytes)
  | [] => .error .er
  | size :: rest => do
    let (data, rest) ← readExact size.toNat rest
    return (data.takeWhile (· ≠ 0), rest)

def authentication (account : Account) : Bytes → Result Bytes
  | [] => .error .er
  | version :: rest =>
    if version ≠ protoAuth then .error .no
    else do
      let (username, rest) ← readString rest
      let (password, rest) ← readString rest
      if account.username ≠ username ∨ account.password ≠ password then .error .no else .ok rest

/-- The bytes written to the client, and the stream that `Requirement` is left with. -/
def handshake (account : Account) (stream : Bytes) : Bytes × Option Bytes :=
  match selectMethod account stream with
  | .error .er => ([], none)
  | .error .no => ([socksVer, methodRsvd], none)
  | .ok (method, rest) =>
    if method = methodAuth then
      match authentication account rest with
      | .error .er => ([socksVer, method], none)
      | .error .no => ([socksVer, method, protoAuth, errFF], none)
      | .ok rest => ([socksVer, method, protoAuth, 0], some rest)
    else ([socksVer, method], some rest)

def field (text : Bytes) : Bytes := UInt8.ofNat text.length :: text

/-- A greeting of version 5 that offers the method of usernames and passwords. -/
def Greeting (bytes : Bytes) : Prop :=
  ∃ methods, methods.length < 256 ∧ methodAuth ∈ methods ∧ bytes = socksVer :: field methods

/-- The stream begins with such a greeting and with these credentials. -/
def Offers (stream username password rest : Bytes) : Prop :=
  ∃ greeting, Greeting greeting ∧ username.length < 256 ∧ password.length < 256 ∧
    stream = greeting ++ protoAuth :: (field username ++ (field password ++ rest))

variable {account : Account} {stream rest : Bytes}

theorem bind_eq_ok {α β : Type} {first : Result α} {next : α → Result β} {value : β} :
    (first >>= next) = .ok value ↔ ∃ middle, first = .ok middle ∧ next middle = .ok value := by
  cases first <;> simp [bind, Except.bind]

variable {text : Bytes}

theorem readExact_eq_ok {size : UInt8} : readExact size.toNat stream = .ok (text, rest) ↔
      text.length < 256 ∧ size :: stream = field text ++ rest := by
  simp only [readExact, field, splitAt_eq, cons_append, cons.injEq]
  constructor
  · intro read
    split at read <;> cases read
    rename_i room
    have := size.toNat_lt
    simp [Nat.min_eq_left room]; omega
  · rintro ⟨small, rfl, rfl⟩
    simp [Nat.mod_eq_of_lt small]

theorem chooseMethod_eq_ok {methods : Bytes} {method : UInt8} :
    chooseMethod false methods = .ok method ↔ methodAuth ∈ methods ∧ method = methodAuth := by
  induction methods with
  | nil => simp [chooseMethod]
  | cons m rest ih =>
    simp only [chooseMethod, mem_cons, Bool.false_eq_true, if_false]
    split_ifs with reserved none auth
    · simp [ih, reserved, methodAuth, methodRsvd]
    · simp [ih, none, methodAuth, methodNone]
    · simp [auth, eq_comm]
    · simp [ih, Ne.symm auth]

theorem selectMethod_eq_ok (secret : account.noAuth = false) {method : UInt8} :
    selectMethod account stream = .ok (method, rest) ↔
      method = methodAuth ∧ ∃ greeting, Greeting greeting ∧ stream = greeting ++ rest := by
  constructor
  · intro chosen
    unfold selectMethod at chosen
    split at chosen
    · simp only [secret, Bool.false_eq_true, if_false] at chosen
      split_ifs at chosen with version none
      simp only [bind_eq_ok, chooseMethod_eq_ok] at chosen
      obtain ⟨⟨methods, behind⟩, read, _, ⟨offered, rfl⟩, same⟩ := chosen
      cases same
      obtain ⟨small, same⟩ := readExact_eq_ok.1 read
      exact ⟨rfl, _, ⟨methods, small, offered, rfl⟩, by simp [of_not_not version, same]⟩
    · cases chosen
  · rintro ⟨rfl, _, ⟨methods, small, offered, rfl⟩, rfl⟩
    have some : UInt8.ofNat methods.length ≠ methodNone := by
      intro none
      have := congrArg UInt8.toNat none
      simp [methodNone, Nat.mod_eq_of_lt small] at this
      simp [this] at offered
    have read := readExact_eq_ok.2 ⟨small, (rfl : _ :: (methods ++ rest) = _)⟩
    have chosen := chooseMethod_eq_ok.2 ⟨offered, rfl⟩
    simp only [selectMethod, field, cons_append, read]
    simp [some, secret, chosen, bind, Except.bind, pure, Except.pure]

theorem readString_eq_ok : readString stream = .ok (text, rest) ↔ ∃ raw : Bytes, raw.length < 256 ∧
      stream = field raw ++ rest ∧ raw.takeWhile (· ≠ 0) = text := by
  unfold readString
  split
  · simp [field]
  · simp only [bind_eq_ok, Prod.exists, readExact_eq_ok, pure, Except.pure, Except.ok.injEq,
      Prod.mk.injEq]
    simp [and_assoc]

theorem authentication_eq_ok :
    authentication account stream = .ok rest ↔ ∃ username password : Bytes,
      username.length < 256 ∧ password.length < 256 ∧
      stream = protoAuth :: (field username ++ (field password ++ rest)) ∧
      username.takeWhile (· ≠ 0) = account.username ∧
      password.takeWhile (· ≠ 0) = account.password := by
  constructor
  · intro accepted
    unfold authentication at accepted
    split at accepted
    · cases accepted
    split_ifs at accepted with version
    simp only [bind_eq_ok] at accepted
    obtain ⟨⟨_, behind⟩, first, ⟨_, left⟩, second, accepted⟩ := accepted
    split_ifs at accepted with different
    cases accepted
    obtain ⟨username, short, rfl, rfl⟩ := readString_eq_ok.1 first
    obtain ⟨password, small, rfl, rfl⟩ := readString_eq_ok.1 second
    push Not at version different
    exact ⟨_, _, short, small, by rw [version], different.1.symm, different.2.symm⟩
  · rintro ⟨username, password, short, small, rfl, first, second⟩
    simp [authentication, readString_eq_ok.2 ⟨username, short, rfl, first⟩,
      readString_eq_ok.2 ⟨password, small, rfl, second⟩, bind, Except.bind]

theorem handshake_eq_some (secret : account.noAuth = false) :
    (handshake account stream).2 = some rest ↔ ∃ username password, Offers stream username password
      rest ∧ username.takeWhile (· ≠ 0) = account.username ∧
      password.takeWhile (· ≠ 0) = account.password := by
  constructor
  · intro finished
    unfold handshake at finished
    split at finished
    · cases finished
    · cases finished
    rename_i chosen
    obtain ⟨rfl, greeting, offered, rfl⟩ := (selectMethod_eq_ok secret).1 chosen
    rw [if_pos rfl] at finished
    split at finished
    · cases finished
    · cases finished
    rename_i accepted
    cases finished
    obtain ⟨username, password, short, small, rfl, same⟩ := authentication_eq_ok.1 accepted
    exact ⟨username, password, ⟨greeting, offered, short, small, rfl⟩, same⟩
  · rintro ⟨username, password, ⟨greeting, offered, short, small, rfl⟩, same⟩
    rw [handshake, (selectMethod_eq_ok secret).2 ⟨rfl, greeting, offered, rfl⟩]
    simp only [authentication_eq_ok.2 ⟨username, password, short, small, rfl, same⟩, if_pos]

theorem field_append_inj {first second left right : Bytes} (small : first.length < 256)
    (short : second.length < 256) (same : field first ++ left = field second ++ right) :
    first = second ∧ left = right := by
  simp only [field, cons_append, cons.injEq] at same
  have size := congrArg UInt8.toNat same.1
  simp only [UInt8.toNat_ofNat', Nat.mod_eq_of_lt small, Nat.mod_eq_of_lt short] at size
  exact append_inj same.2 size

theorem Offers.unique {username password username' password' rest' : Bytes}
    (offers : Offers stream username password rest)
    (other : Offers stream username' password' rest') :
    username = username' ∧ password = password' := by
  obtain ⟨_, ⟨methods, few, _, rfl⟩, short, small, rfl⟩ := offers
  obtain ⟨_, ⟨methods', few', _, rfl⟩, short', small', same⟩ := other
  simp only [cons_append, cons.injEq, true_and] at same
  obtain ⟨_, behind⟩ := field_append_inj few few' same
  obtain ⟨name, behind⟩ := field_append_inj short short' (cons.inj behind).2
  exact ⟨name, (field_append_inj small small' behind).1⟩

theorem takeWhile_nonzero (free : 0 ∉ text) : text.takeWhile (· ≠ 0) = text :=
  takeWhile_eq_self_iff.2 fun _ member => decide_eq_true (ne_of_mem_of_not_mem member free)

/-- The handshake goes on to the request exactly behind a greeting and the configured credentials,
if and only if no field that agrees with them up to a zero byte has such a byte. -/
theorem handshake_exact (account : Account) (secret : account.username ≠ [] ∨ account.password ≠ [])
    (plain : 0 ∉ account.username ∧ 0 ∉ account.password) (stream : Bytes) :
    (∀ rest, (handshake account stream).2 = some rest ↔
      Offers stream account.username account.password rest) ↔
    ∀ username password rest, Offers stream username password rest →
      username.takeWhile (· ≠ 0) = account.username →
      password.takeWhile (· ≠ 0) = account.password → 0 ∉ username ∧ 0 ∉ password := by
  have closed : account.noAuth = false := by
    rcases secret with some | some <;> simp [Account.noAuth, some]
  simp only [handshake_eq_some closed]
  constructor
  · intro exact username password rest offers first second
    have stated := (exact rest).1 ⟨username, password, offers, first, second⟩
    obtain ⟨rfl, rfl⟩ := offers.unique stated
    exact plain
  · intro free rest
    constructor
    · rintro ⟨username, password, offers, first, second⟩
      obtain ⟨name, word⟩ := free username password rest offers first second
      rwa [← first, ← second, takeWhile_nonzero name, takeWhile_nonzero word]
    · exact fun offers => ⟨_, _, offers, takeWhile_nonzero plain.1, takeWhile_nonzero plain.2⟩

theorem handshake_exact_without_zero :
    (handshake ⟨[97], [98]⟩ [5, 1, 2, 1, 1, 97, 1, 98, 9]).2 = some [9] :=
  ((handshake_exact ⟨[97], [98]⟩ (.inl (by decide)) (by decide) _).2 (by
    rintro username password rest ⟨greeting, -, -, -, same⟩ - -
    have none : (0 : UInt8) ∉ [5, 1, 2, 1, 1, 97, 1, 98, 9] := by decide
    rw [same] at none
    simp_all [field]) [9]).2
    ⟨[5, 1, 2], ⟨[2], by decide, by decide, rfl⟩, by decide, by decide, rfl⟩

/-- What comes behind a zero byte of the username is not compared. -/
theorem handshake_accepts_padded_username :
    (handshake ⟨[97], []⟩ [5, 1, 2, 1, 2, 97, 0, 0]).2 = some [] ∧
      ¬ ∃ rest, Offers [5, 1, 2, 1, 2, 97, 0, 0] [97] [] rest := by
  refine ⟨by decide, ?_⟩
  rintro ⟨rest, offers⟩
  have sent : Offers [5, 1, 2, 1, 2, 97, 0, 0] [97, 0] [] [] :=
    ⟨[5, 1, 2], ⟨[2], by decide, by decide, rfl⟩, by decide, by decide, rfl⟩
  cases (sent.unique offers).1

end OpenPpp2.Client.Socks
