import OpenPpp2.Cryptography.Base94

/-!
# What the vector kernels compute

A round of a vector decoder, read character by character: the characters that stay are those with no
escape character right before them, and each stands for its value.
-/

namespace OpenPpp2.Base94

open Lib.ByteLayout Lib.Lanes Ssea BitVec List

def keptValues (key : UInt8) : Nat → Bool → Bytes → Bytes
  | 0, _, _ => []
  | _ + 1, _, [] => []
  | count + 1, carry, char :: rest =>
    (if carry then [] else [value char (rest.headD 0) + key]) ++
      keptValues key count (decide (0x7D ≤ char)) rest

def carryAfter : Nat → Bool → Bytes → Bool
  | 0, carry, _ => carry
  | _ + 1, carry, [] => carry
  | count + 1, _, char :: rest => carryAfter count (decide (0x7D ≤ char)) rest

def flaggedIn : Nat → Bytes → Bool
  | 0, _ => false
  | _ + 1, [] => false
  | count + 1, char :: rest => flagged char (rest.headD 0) || flaggedIn count rest

variable (key : UInt8) (count : Nat) {lane : Fin 16} {place : Nat} (esc : BitVec 16) (carry : Bool)
    {del : BitVec 16} (kf : BitVec 32) (v : Register)

theorem split_block (first second : Nat) (carry : Bool) (rest : Bytes) :
    keptValues key (first + second) carry rest = keptValues key first carry rest ++ keptValues key
      second (carryAfter first carry rest) (rest.drop first) ∧
    carryAfter (first + second) carry rest =
      carryAfter second (carryAfter first carry rest) (rest.drop first) ∧
    flaggedIn (first + second) rest =
      (flaggedIn first rest || flaggedIn second (rest.drop first)) := by
  induction first generalizing carry rest with
  | zero => simp [keptValues, carryAfter, flaggedIn]
  | succ first induction =>
    rw [Nat.succ_add]
    cases rest with
    | nil => cases second <;> simp [keptValues, carryAfter, flaggedIn]
    | cons char rest =>
      obtain ⟨kept, carries, flags⟩ := induction (decide (0x7D ≤ char)) rest
      simp [keptValues, carryAfter, flaggedIn, kept, carries, flags, Bool.or_assoc]

variable (rest : Bytes)

theorem headD_byteAt : rest.headD 0 = byteAt 0 rest := by
  cases rest <;> rfl

theorem keptValues_filter (long : count ≤ rest.length) (gone : Nat → Bool) (found : Nat → UInt8)
    (first : 0 < count → gone 0 = carry)
    (after : ∀ place, place + 1 < count → gone (place + 1) = decide (0x7D ≤ byteAt place rest))
    (each : ∀ place, place < count →
      found place = value (byteAt place rest) (byteAt (place + 1) rest) + key) :
    ((List.range count).filter (fun place => !gone place)).map found =
      keptValues key count carry rest := by
  induction count generalizing carry rest gone found with
  | zero => rfl
  | succ count induction =>
    cases rest with
    | nil => cases long
    | cons char rest =>
      have tail := induction (decide (0x7D ≤ char)) rest (Nat.le_of_succ_le_succ long)
        (fun place => gone (place + 1)) (fun place => found (place + 1))
        (fun more => after 0 (by omega))
        (fun place inside => after (place + 1) (by omega))
        (fun place inside => each (place + 1) (by omega))
      have head : found 0 = value char (rest.headD 0) + key := by
        rw [each 0 (Nat.succ_pos count), headD_byteAt]
        rfl
      rw [range_succ_eq_map, filter_cons, first (Nat.succ_pos count), keptValues,
        ← tail, filter_map]
      cases carry <;> simp only [head, map_map, Function.comp_def, Bool.not_false, Bool.not_true,
        Bool.false_eq_true, if_true, if_false, map_cons, singleton_append,
        nil_append]

theorem flaggedIn_iff (long : count ≤ rest.length) : flaggedIn count rest ↔
      ∃ place, place < count ∧ flagged (byteAt place rest) (byteAt (place + 1) rest) := by
  induction count generalizing rest with
  | zero => simp [flaggedIn]
  | succ count induction =>
    cases rest with
    | nil => cases long
    | cons char rest =>
      rw [flaggedIn, Bool.or_eq_true, induction rest (Nat.le_of_succ_le_succ long), headD_byteAt]
      constructor
      · rintro (here | ⟨place, inside, later⟩)
        · exact ⟨0, Nat.succ_pos count, here⟩
        · exact ⟨place + 1, Nat.succ_lt_succ inside, later⟩
      · rintro ⟨place, inside, found⟩
        cases place with
        | zero => exact Or.inl found
        | succ place => exact Or.inr ⟨place, Nat.lt_of_succ_lt_succ inside, found⟩

def Selects (select : Register → Register → Register → Register) : Prop :=
  ∀ (norm escaped esc : Register) (lane : Fin 16) (truth : Bool), esc lane = ones truth →
    select norm escaped esc lane = if truth then escaped lane else norm lane

theorem selects_selectMasked : Selects selectMasked := by
  intro norm escaped esc lane truth mask
  simp only [selectMasked, or8, and8, andnot8, map2, mask]
  exact ones_select truth (norm lane) (escaped lane)

theorem selects_blendv : Selects blendv := by
  intro norm escaped esc lane truth mask
  have top := ones_top truth
  simp only [blendv, mask]
  cases truth <;> simp_all

variable (select : Register → Register → Register → Register) (c16 : Register) {after : Fin 16}

theorem srli_lane (next : after.val = lane.val + 1) : srli 1 c16 lane = c16 after := by
  have inside : lane.val + 1 < 16 := by omega
  have same : Fin.ofNat 16 (lane.val + 1) = after := by
    apply Fin.ext
    rw [Fin.val_ofNat, Nat.mod_eq_of_lt inside, next]
  simp only [srli, inside, if_true, same]

theorem lt_succ (bound char : UInt8) (small : bound < 255) :
    decide (bound < char) = decide (bound + 1 ≤ char) := by
  rw [decide_eq_decide]
  simp only [UInt8.le_iff_toNat_le, UInt8.lt_iff_toNat_lt, UInt8.toNat_add, UInt8.reduceToNat] at *
  omega

theorem getLsbD_low (mask : BitVec 16) (inside : place < 8) :
    (mask &&& 0xFF).getLsbD place = mask.getLsbD place := by
  rw [getLsbD_and]
  interval_cases place <;> simp

theorem classify_esc (lane : Fin 16) (inside : lane.val < 8) :
    (classify select c16).esc.getLsbD lane.val = decide (0x7D ≤ c16 lane) := by
  simp only [classify]
  rw [getLsbD_low _ inside, getLsbD_movemask, cmpgt_bound, ones_top]
  exact lt_succ 0x7C (c16 lane) (by decide)

theorem classify_vbad (inside : lane.val < 8) (next : after.val = lane.val + 1) :
    (classify select c16).vbad.getLsbD lane.val = flagged (c16 lane) (c16 after) := by
  simp only [classify]
  rw [getLsbD_low _ inside, getLsbD_movemask]
  simp only [or8, and8, map2, cmpgt_bound, bound_cmpgt, srli_lane c16 next, ones_or, ones_and,
    ones_top, flagged, gt_iff_lt, Bool.or_assoc]
  rw [lt_succ 0x7C (c16 lane) (by decide), lt_succ 0x7D (c16 lane) (by decide),
    lt_succ 0x7D (c16 after) (by decide)]
  rfl

theorem classify_v (selects : Selects select) (next : after.val = lane.val + 1) :
    (classify select c16).v lane = value (c16 lane) (c16 after) := by
  have mask := cmpgt_bound c16 0x7C lane
  simp only [classify]
  rw [selects _ _ _ _ _ mask]
  simp only [add8, and8, sub8, map2, cmpgt_bound, srli_lane c16 next, ones_and_byte]
  rw [lt_succ 0x7C (c16 lane) (by decide), lt_succ 0x7D (c16 lane) (by decide)]
  simp only [value, set1, decide_eq_true_eq]
  rfl

theorem val_lane (inside : place < 16) : (Fin.ofNat 16 place).val = place := by
  rw [Fin.val_ofNat, Nat.mod_eq_of_lt inside]

theorem window_lane (inside : place ≤ 8) :
    window rest (Fin.ofNat 16 place) = byteAt place rest := by
  simp only [window, or8, map2, loadl, slli, cvtsi32, val_lane (by omega : place < 16)]
  by_cases low : place < 8
  · have above : ¬ 8 ≤ place := by omega
    simp only [low, above, if_true, if_false, UInt8.or_zero]
  · have last : place = 8 := by omega
    simp [last]

def carryOf (carry : Bool) : BitVec 16 := if carry then 1 else 0

theorem toNat_carryOf : (carryOf carry).toNat = carry.toNat := by
  cases carry <;> rfl

theorem carryOf_succ (place : Nat) : (carryOf carry).getLsbD (place + 1) = false := by
  cases carry <;> simp [carryOf]

theorem carried_eq : carried esc = carryOf (esc.getLsbD 7) := by
  apply eq_of_getLsbD_eq
  intro place _
  rw [carried, getLsbD_and, getLsbD_ushiftRight]
  cases place with
  | zero => cases esc.getLsbD (7 + 0) <;> rfl
  | succ place => simp [carryOf_succ]

theorem deleted_zero : (deleted esc (carryOf carry)).getLsbD 0 = carry := by
  rw [deleted, getLsbD_or, getLsbD_and, getLsbD_shiftLeft]
  cases carry <;> simp [carryOf]

theorem deleted_succ (inside : place + 1 < 8) :
    (deleted esc (carryOf carry)).getLsbD (place + 1) = esc.getLsbD place := by
  rw [deleted, getLsbD_or, carryOf_succ, Bool.or_false, getLsbD_low _ inside, getLsbD_shiftLeft]
  simp
  omega

theorem kept_lt (stays : place ∈ kept del) : place < 8 := mem_range.mp (mem_filter.mp stays).1

theorem length_kept (del : BitVec 16) : (kept del).length = 8 - popcount8 del := by
  have total : (range 8).length = _ := length_eq_countP_add_countP fun place => del.getLsbD place
  rw [length_range] at total
  rw [kept, ← countP_eq_length_filter, popcount8]
  have same : (range 8).countP (fun place => !del.getLsbD place) =
      (range 8).countP (fun place => decide ¬ del.getLsbD place) := by
    apply countP_congr
    intro place _
    simp
  omega

def Gathers (key : UInt8) (gather : Register → BitVec 16 → Output → Output) : Prop :=
  ∀ (v : Register) (del : BitVec 16) (out : Output) (written : Bytes), out.Holds written →
    (gather v del out).Holds (written ++ (kept del).map fun place => v (Fin.ofNat 16 place) + key)

theorem gathers_gatherEach : Gathers (lowByte kf) (gatherEach kf) := by
  intro v del out written holds
  rw [gatherEach, ← foldl_map]
  exact holds.foldl _

theorem gatherEach_clean (del : BitVec 16) {out : Output}
    (clean : out.Clean) : (gatherEach kf v del out).Clean := by
  rw [gatherEach, ← foldl_map]
  exact clean.foldl _

theorem shuffle_table (stays : (kept del)[lane.val]? = some place) :
    shuffle (unpacklo v v) (decodeTable del) lane = v (Fin.ofNat 16 place) := by
  have small := kept_lt (mem_of_getElem? stays)
  simp only [shuffle, decodeTable, stays, Option.elim_some, unpacklo]
  interval_cases place <;> simp

theorem gathers_gatherShuffle : Gathers (lowByte kf) (gatherShuffle kf) := by
  intro v del out written holds
  constructor
  · rw [length_append, length_map, length_kept, gatherShuffle, holds.size]
  · intro place byte here
    simp only [gatherShuffle, store, holds.size]
    by_cases before : place < written.length
    · have outside : ¬ (written.length ≤ place ∧ place < written.length + 16) := by omega
      rw [List.getElem?_append_left before] at here
      rw [if_neg outside]
      exact holds.bytes place byte here
    · rw [List.getElem?_append_right (by omega), List.getElem?_map, Option.map_eq_some_iff] at here
      rcases here with ⟨kept, found, rfl⟩
      have short := (List.getElem?_eq_some_iff.mp found).1
      rw [length_kept] at short
      have inside : written.length ≤ place ∧ place < written.length + 16 := by omega
      rw [← val_lane (by omega : place - written.length < 16)] at found
      rw [if_pos inside]
      exact congrArg (· + lowByte kf) (shuffle_table v found)

theorem carryAfter_succ (long : count < rest.length) :
    carryAfter (count + 1) carry rest = decide (0x7D ≤ byteAt count rest) := by
  induction count generalizing carry rest with
  | zero =>
    cases rest with
    | nil => cases long
    | cons char rest => rfl
  | succ count induction =>
    cases rest with
    | nil => cases long
    | cons char rest => exact induction _ rest (Nat.lt_of_succ_lt_succ long)

section Block

variable {select} (selects : Selects select) {rest : Bytes} (long : 8 < rest.length)

theorem eq_zero_of_low {mask : BitVec 16}
    (low : ∀ place, place < 8 → (mask &&& 0xFF).getLsbD place = false) : mask &&& 0xFF = 0#16 := by
  have high : ∀ place : Fin 16, ¬ place.val < 8 → (0xFF : BitVec 16).getLsbD place = false := by
    decide
  apply eq_of_getLsbD_eq
  intro place inside
  rw [getLsbD_zero]
  by_cases small : place < 8
  · exact low place small
  · rw [getLsbD_and, high ⟨place, inside⟩ small, Bool.and_false]

variable {place : Nat}

theorem next_lane (inside : place < 8) :
    (Fin.ofNat 16 (place + 1)).val = (Fin.ofNat 16 place).val + 1 := by
  rw [val_lane (by omega), val_lane (by omega)]

theorem esc_window (select : Register → Register → Register → Register) (inside : place < 8) :
    (classify select (window rest)).esc.getLsbD place = decide (0x7D ≤ byteAt place rest) := by
  have here : (Fin.ofNat 16 place).val = place := val_lane (by omega)
  have bit := classify_esc select (window rest) (Fin.ofNat 16 place) (by omega)
  rw [here, window_lane rest (by omega)] at bit
  exact bit

include long in
theorem vbad_window (select : Register → Register → Register → Register) :
    (classify select (window rest)).vbad ≠ 0#16 ↔ flaggedIn 8 rest := by
  have bit : ∀ place, place < 8 → (classify select (window rest)).vbad.getLsbD place =
      flagged (byteAt place rest) (byteAt (place + 1) rest) := by
    intro place inside
    have here : (Fin.ofNat 16 place).val = place := val_lane (by omega)
    have found := classify_vbad select (window rest) (by omega) (next_lane inside)
    rw [here, window_lane rest (by omega), window_lane rest (by omega)] at found
    exact found
  rw [flaggedIn_iff 8 rest (Nat.le_of_lt long)]
  constructor
  · intro bad
    by_contra none
    apply bad
    apply eq_zero_of_low
    intro place inside
    have same := bit place inside
    rw [Bool.eq_false_iff.mpr fun found => none ⟨place, inside, found⟩] at same
    exact same
  · rintro ⟨place, inside, found⟩ zero
    rw [← bit place inside, zero, getLsbD_zero] at found
    cases found

include long in
theorem carried_window (select : Register → Register → Register → Register) (carry : Bool) :
    carried (classify select (window rest)).esc = carryOf (carryAfter 8 carry rest) := by
  rw [carried_eq, carryAfter_succ 7 carry rest (by omega), esc_window select (by decide)]

include selects long in
theorem gathered_window (key : UInt8) (carry : Bool) :
    (kept (deleted (classify select (window rest)).esc (carryOf carry))).map
        (fun place => (classify select (window rest)).v (Fin.ofNat 16 place) + key) =
      keptValues key 8 carry rest := by
  apply keptValues_filter key 8 carry rest (Nat.le_of_lt long)
  · intro _
    exact deleted_zero _ carry
  · intro place inside
    rw [deleted_succ _ carry inside, esc_window select (by omega)]
  · intro place inside
    rw [classify_v select (window rest) selects (next_lane inside),
      window_lane rest (by omega), window_lane rest (by omega)]

end Block

/-- A flag refuses; without one there is an output, and it holds the bytes. -/
def Tells {γ : Type} (flag : Bool) (result : Option γ) (state : Output → γ) (bytes : Bytes) :
    Prop :=
  (flag → result = none) ∧
    (flag = false → ∃ next, result = some (state next) ∧ next.Holds bytes)

theorem Tells.next {γ δ : Type} {flag later : Bool} {first : Option γ} {result : Option δ}
    {state : Output → γ} {ended : Output → δ} {bytes all : Bytes}
    (tells : Tells flag first state bytes) (stops : first = none → result = none)
    (goes : ∀ out, first = some (state out) → out.Holds bytes → Tells later result ended all) :
    Tells (flag || later) result ended all := by
  cases flag with
  | true => exact ⟨fun _ => stops (tells.1 rfl), nofun⟩
  | false =>
    rcases tells.2 rfl with ⟨out, done, holds⟩
    rw [Bool.false_or]
    exact goes out done holds

def Reads (key : UInt8) (block : Nat) (round : Round) : Prop :=
  ∀ (rest : Bytes) (carry : Bool) (out : Output) (written : Bytes), block < rest.length →
    out.Holds written →
    (flaggedIn block rest → round rest (carryOf carry) out = none) ∧
    (flaggedIn block rest = false → ∃ next,
      round rest (carryOf carry) out = some (carryOf (carryAfter block carry rest), next) ∧
      next.Holds (written ++ keptValues key block carry rest))

variable {key : UInt8} (kf : BitVec 32) {block : Nat}

theorem reads_narrowRound {select : Register → Register → Register → Register}
    (selects : Selects select) {gather : Register → BitVec 16 → Output → Output}
    (gathers : Gathers key gather) : Reads key 8 (narrowRound select gather) := by
  intro rest carry out written long holds
  have bad := vbad_window long select
  constructor
  · intro found
    rw [narrowRound, if_pos (bad.mpr found)]
  · intro none
    have good : ¬ (classify select (window rest)).vbad ≠ 0#16 := by
      intro found
      rw [bad.mp found] at none
      cases none
    have gathered := gathers (classify select (window rest)).v
      (deleted (classify select (window rest)).esc (carryOf carry)) out written holds
    rw [gathered_window selects long key carry] at gathered
    refine ⟨_, ?_, gathered⟩
    simp only [narrowRound, if_neg good, carried_window long select carry]

theorem wideRound_eq (carry : BitVec 16) (out : Output) :
    wideRound kf rest carry out = (narrowRound blendv (gatherShuffle kf) rest carry out).bind fun
      (carry, out) => narrowRound blendv (gatherShuffle kf) (rest.drop 8) carry out := by
  simp only [wideRound, narrowRound]
  generalize classify blendv (window rest) = first
  generalize classify blendv (window (rest.drop 8)) = second
  by_cases refused : first.vbad ≠ 0#16
  · rw [if_pos refused, if_pos (Or.inl refused), Option.bind_none]
  · rw [if_neg refused, Option.bind_some]
    simp only [refused, false_or]

theorem reads_wideRound : Reads (lowByte kf) 16 (wideRound kf) := by
  intro rest carry out written long holds
  have narrow := reads_narrowRound selects_blendv (gathers_gatherShuffle kf)
  obtain ⟨kept, carries, flags⟩ := split_block (lowByte kf) 8 8 carry rest
  have later : 8 < (rest.drop 8).length := by
    rw [length_drop]
    omega
  rw [flags, kept, carries, ← List.append_assoc, wideRound_eq]
  apply Tells.next (narrow rest carry out written (by omega) holds)
  · intro refused
    rw [refused, Option.bind_none]
  · intro next done holds
    rw [done]
    exact narrow (rest.drop 8) _ next _ later holds

/-- The characters that whole blocks cover, each block with one character after it. -/
def covered (block : Nat) (rest : Bytes) : Nat := block * ((rest.length - 1) / block)

theorem covered_step (positive : 0 < block) {rest : Bytes} (long : block + 1 ≤ rest.length) :
    covered block rest = block + covered block (rest.drop block) := by
  rw [covered, covered, length_drop]
  have more : rest.length - 1 = (rest.length - block - 1) + block := by omega
  rw [more, Nat.add_div_right _ positive, Nat.mul_succ, Nat.add_comm]

theorem covered_end (positive : 0 < block) {rest : Bytes}
    (short : rest.length < block + 1) : covered block rest = 0 := by
  rw [covered, Nat.div_eq_of_lt (by omega), Nat.mul_zero]

theorem vectorLoop_spec (positive : 0 < block) {round : Round} (reads : Reads key block round)
    (rest : Bytes) (carry : Bool) (out : Output) (written : Bytes) (holds : out.Holds written) :
    Tells (flaggedIn (covered block rest) rest) (vectorLoop block round rest (carryOf carry) out)
      (fun next => (rest.drop (covered block rest),
        carryOf (carryAfter (covered block rest) carry rest), next))
      (written ++ keptValues key (covered block rest) carry rest) := by
  induction size : rest.length using Nat.strong_induction_on
    generalizing rest carry out written with
  | _ size induction =>
  subst size
  rw [vectorLoop]
  by_cases more : 0 < block ∧ block + 1 ≤ rest.length
  · obtain ⟨kept, carries, flags⟩ :=
      split_block key block (covered block (rest.drop block)) carry rest
    rw [if_pos more, covered_step positive more.2, flags, kept, carries, ← List.append_assoc,
      ← List.drop_drop]
    apply Tells.next (reads rest carry out written more.2 holds)
    · intro refused
      rw [refused]
    · intro next done holds
      rw [done]
      exact induction _ (by rw [length_drop]; omega) _ _ next _ holds rfl
  · rw [if_neg more, covered_end positive (by omega), keptValues, append_nil]
    exact ⟨nofun, fun _ => ⟨out, rfl, holds⟩⟩

open Option

/-- Whether one of the first characters is an escape character right after another. -/
def overlapIn : Nat → Bool → Bytes → Bool
  | 0, _, _ => false
  | _ + 1, _, [] => false
  | count + 1, carry, char :: rest =>
    carry && decide (0x7D ≤ char) || overlapIn count (decide (0x7D ≤ char)) rest

def vectorValues (key : UInt8) (count : Nat) (carry : Bool) (rest : Bytes) : Bytes :=
  keptValues key count carry rest ++
    values key ((rest.drop count).drop (carryAfter count carry rest).toNat)

variable {key : UInt8} {count : Nat}

variable (carry : Bool) (char : UInt8) (rest : Bytes)

theorem vectorValues_zero : vectorValues key 0 carry rest = values key (rest.drop carry.toNat) :=
    rfl

theorem vectorValues_succ : vectorValues key (count + 1) carry (char :: rest) =
      (if carry then [] else [value char (rest.headD 0) + key]) ++ vectorValues key count
      (decide (0x7D ≤ char)) rest := by
  simp only [vectorValues, keptValues, carryAfter, drop_succ_cons, List.append_assoc]

theorem values_cons {rest : Bytes} (more : rest ≠ []) :
    values key (char :: rest) = (value char (rest.headD 0) + key) ::
      values key (rest.drop (decide (0x7D ≤ char)).toNat) := by
  cases rest with
  | nil => exact absurd rfl more
  | cons next rest =>
    by_cases esc : 0x7D ≤ char
    · simp [values, esc]
    · simp [values, esc]

theorem tailValid_cons {char : UInt8} {rest : Bytes} (more : rest ≠ [])
    (good : flagged char (rest.headD 0) = false) :
    tailValid (char :: rest) = tailValid (rest.drop (decide (0x7D ≤ char)).toNat) := by
  cases rest with
  | nil => exact absurd rfl more
  | cons next rest =>
    rw [headD_cons] at good
    by_cases esc : 0x7D ≤ char
    · simp [tailValid_escape esc, good, esc]
    · have low : 0x20 ≤ char := by
        simp only [flagged, Bool.or_eq_false_iff, decide_eq_false_iff_not] at good
        exact UInt8.not_lt.mp good.1.1.1.1.1
      simp [tailValid_plain esc, low, esc]

theorem ne_nil_of_long {char : UInt8} {rest : Bytes} (long : count + 1 < (char :: rest).length) :
    rest ≠ [] := by
  intro empty
  rw [empty, length_singleton] at long
  omega

theorem vectorValues_apart (long : count < rest.length) (good : flaggedIn count rest = false)
    (apart : overlapIn count carry rest = false) :
    vectorValues key count carry rest = values key (rest.drop carry.toNat) ∧ tailValid
      ((rest.drop count).drop (carryAfter count carry rest).toNat) = tailValid
      (rest.drop carry.toNat) := by
  induction count generalizing carry rest with
  | zero => exact ⟨rfl, rfl⟩
  | succ count induction =>
    cases rest with
    | nil => cases long
    | cons char rest =>
      have more := ne_nil_of_long long
      rw [flaggedIn, Bool.or_eq_false_iff] at good
      rw [overlapIn, Bool.or_eq_false_iff] at apart
      rcases induction (decide (0x7D ≤ char)) rest (Nat.lt_of_succ_lt_succ long) good.2
        apart.2 with ⟨bytes, valid⟩
      rw [vectorValues_succ, bytes, carryAfter, drop_succ_cons, valid]
      cases carry with
      | false =>
        rw [Bool.toNat_false, drop_zero, values_cons char more, tailValid_cons more good.1]
        exact ⟨rfl, rfl⟩
      | true =>
        -- The character is the second of a pair, so that it starts nothing.
        rw [Bool.true_and] at apart
        rw [apart.1]
        exact ⟨rfl, rfl⟩

variable (key) in
theorem length_vectorValues (skip : Bool) (rest : Bytes) (long : count < rest.length)
    (implied : skip → carry) :
    (vectorValues key count carry rest).length ≤ (values key (rest.drop skip.toNat)).length ∧
      (0 < count → carry → skip = false → (vectorValues key count carry rest).length <
        (values key (rest.drop skip.toNat)).length) := by
  induction count generalizing carry skip rest with
  | zero =>
    rw [vectorValues_zero]
    constructor
    · cases rest with
      | nil => simp
      | cons char rest =>
        have more := (length_values_cons key char rest).1
        cases carry <;> cases skip
        · exact Nat.le_refl _
        · cases implied rfl
        · exact more
        · exact Nat.le_refl _
    · intro impossible
      cases impossible
  | succ count induction =>
    cases rest with
    | nil => cases long
    | cons char rest =>
      have more := ne_nil_of_long long
      have inside := Nat.lt_of_succ_lt_succ long
      have same := (induction (decide (0x7D ≤ char)) (decide (0x7D ≤ char)) rest inside id).1
      rw [vectorValues_succ]
      cases skip with
      | false =>
        rw [Bool.toNat_false, drop_zero, values_cons char more, length_cons]
        cases carry with
        | false =>
          simp only [Bool.false_eq_true, if_false, singleton_append,
            length_cons, false_implies, implies_true, and_true]
          omega
        | true =>
          simp only [if_true, nil_append]
          omega
      | true =>
        rw [implied rfl]
        simp only [if_true, nil_append, Bool.true_eq_false, false_implies, implies_true, and_true]
        exact (induction (decide (0x7D ≤ char)) false rest inside nofun).1

theorem vectorValues_overlap (long : count < rest.length) (good : flaggedIn count rest = false)
    (overlap : overlapIn count carry rest) (valid : tailValid (rest.drop carry.toNat))
    (tail : tailValid ((rest.drop count).drop (carryAfter count carry rest).toNat)) :
    vectorValues 0 count carry rest ≠ values 0 (rest.drop carry.toNat) := by
  induction count generalizing carry rest with
  | zero => cases overlap
  | succ count induction =>
    cases rest with
    | nil => cases long
    | cons char rest =>
      have more := ne_nil_of_long long
      have inside := Nat.lt_of_succ_lt_succ long
      rw [flaggedIn, Bool.or_eq_false_iff] at good
      rw [overlapIn, Bool.or_eq_true] at overlap
      rw [carryAfter, drop_succ_cons] at tail
      rw [vectorValues_succ]
      cases carry with
      | false =>
        rw [Bool.toNat_false, drop_zero] at valid ⊢
        rw [tailValid_cons more good.1] at valid
        rw [values_cons char more]
        intro same
        exact induction _ rest inside good.2 (overlap.resolve_left (by simp)) valid tail
          (cons.inj same).2
      | true =>
        by_cases esc : 0x7D ≤ char
        · -- The vector decoder goes on one character later than the scalar one.
          simp only [esc, decide_true, if_true, nil_append] at tail ⊢
          cases count with
          | zero =>
            cases rest with
            | nil => exact absurd rfl more
            | cons next rest => exact (values_tail_ne valid tail).symm
          | succ count =>
            have fewer := (length_vectorValues 0 true false rest inside (by simp)).2
              (Nat.succ_pos count) rfl rfl
            intro same
            rw [same] at fewer
            exact absurd fewer (Nat.lt_irrefl _)
        · simp only [esc, decide_false, if_true, nil_append] at tail overlap ⊢
          exact induction false rest inside good.2 (overlap.resolve_left (by simp)) valid
            tail

def tailOf (block : Nat) (text : Bytes) : Bytes :=
  (text.drop (covered block text)).drop (carryAfter (covered block text) false text).toNat

def fallsBack (block : Nat) (text : Bytes) : Bool :=
  decide (text.length < 16) || flaggedIn (covered block text) text || !tailValid (tailOf block text)

/-- A text that a vector decoder hands on, or whose blocks have no escape character right
after another. -/
def Apart (block : Nat) (text : Bytes) : Prop :=
  fallsBack block text ∨ overlapIn (covered block text) false text = false

instance (block : Nat) (text : Bytes) : Decidable (Apart block text) := by
  unfold Apart
  infer_instance

theorem covered_lt (block : Nat) {text : Bytes} (filled : text ≠ []) :
    covered block text < text.length := by
  have positive := length_pos_iff.mpr filled
  have bound := Nat.mul_div_le (text.length - 1) block
  rw [covered]
  omega

theorem fallsBack_eq_false {block : Nat} {text : Bytes} (own : fallsBack block text = false) :
    text ≠ [] ∧ ¬ text.length < 16 ∧ flaggedIn (covered block text) text = false ∧
      tailValid (tailOf block text) := by
  simp only [fallsBack, Bool.or_eq_false_iff, decide_eq_false_iff_not, Bool.not_eq_false'] at own
  refine ⟨?_, own.1.1, own.1.2, own.2⟩
  rintro rfl
  exact own.1.1 (by decide)

section Decoder

variable {block : Nat} (positive : 0 < block) {round : Round} {kf : BitVec 32}
  (reads : Reads (lowByte kf) block round) {text : Bytes}

include positive reads

theorem decodeVector_fallsBack (handed : fallsBack block text) :
    decodeVector block round kf text = base94DecodeScalar kf text := by
  rw [decodeVector]
  by_cases empty : text.length < 1
  · rw [if_pos empty, base94DecodeScalar, if_pos empty]
  by_cases short : text.length < 16
  · rw [if_neg empty, if_pos short]
  rw [if_neg empty, if_neg short]
  rcases vectorLoop_spec positive reads text false Output.new [] Output.holds_new with
    ⟨refused, read⟩
  rw [fallsBack, decide_eq_false short, Bool.false_or, Bool.or_eq_true, Bool.not_eq_true'] at handed
  by_cases bad : flaggedIn (covered block text) text
  · rw [show (0 : BitVec 16) = carryOf false from rfl, refused bad]
  · rcases read (Bool.eq_false_iff.mpr bad) with ⟨next, done, _⟩
    have invalid := handed.resolve_left bad
    rw [tailOf] at invalid
    rw [show (0 : BitVec 16) = carryOf false from rfl, done]
    dsimp only
    rw [toNat_carryOf, invalid, if_neg Bool.false_ne_true]

theorem decodeVector_own (own : fallsBack block text = false) :
    ∃ out, vectorLoop block round text 0 Output.new = some (text.drop (covered block text),
          carryOf (carryAfter (covered block text) false text), out) ∧
      decodeVector block round kf text =
        some (((values (lowByte kf) (tailOf block text)).foldl Output.put out).returned
          (outLength text)) ∧ ((values (lowByte kf) (tailOf block text)).foldl Output.put out).Holds
        (vectorValues (lowByte kf) (covered block text) false text) := by
  rcases fallsBack_eq_false own with ⟨_, long, good, valid⟩
  have filled : ¬ text.length < 1 := by omega
  rcases (vectorLoop_spec positive reads text false Output.new [] Output.holds_new).2 good with
    ⟨out, done, holds⟩
  have all := holds.foldl (values (lowByte kf) (tailOf block text))
  refine ⟨out, done, ?_, all⟩
  rw [decodeVector, if_neg filled, if_neg long, show (0 : BitVec 16) = carryOf false from rfl, done]
  dsimp only
  rw [toNat_carryOf]
  obtain ⟨-, accepted⟩ := if_pos valid ▸ scalar_spec kf (tailOf block text)
  rw [tailOf] at valid accepted ⊢
  rw [if_pos valid, accepted, map_some]

theorem decodeVector_apart (apart : Apart block text) :
    decodeVector block round kf text = base94DecodeScalar kf text := by
  rcases apart with handed | apart
  · exact decodeVector_fallsBack positive reads handed
  by_cases handed : fallsBack block text
  · exact decodeVector_fallsBack positive reads handed
  have own := Bool.eq_false_iff.mpr handed
  rcases decodeVector_own positive reads own with ⟨out, _, returned, holds⟩
  rcases fallsBack_eq_false own with ⟨filled, _, good, valid⟩
  rcases vectorValues_apart false text (covered_lt block filled) good apart with ⟨bytes, same⟩
  have accepted : tailValid text := same.symm.trans valid
  rw [bytes, Bool.toNat_false, drop_zero] at holds
  rw [returned, base94DecodeScalar_valid kf filled accepted,
    outLength_values (lowByte kf) accepted, holds.returned]

end Decoder

theorem vectorLoop_clean {block : Nat} {round : Round}
    (keeps : ∀ rest carry out carry' out', round rest carry out = some (carry', out') →
      out.Clean → out'.Clean) {rest rest' : Bytes} {carry carry' : BitVec 16} {out out' : Output}
    (done : vectorLoop block round rest carry out = some (rest', carry', out'))
    (clean : out.Clean) : out'.Clean := by
  fun_induction vectorLoop block round rest carry out with
  | case1 => cases done
  | case2 rest carry out more carry' next ended induction =>
    exact induction done (keeps _ _ _ _ _ ended clean)
  | case3 =>
    cases done
    exact clean

theorem values_key (key : UInt8) (text : Bytes) : values key text = (values 0 text).map (· + key) :=
    by
  induction text using values.induct with
  | case1 => rfl
  | case2 char => simp [values]
  | case3 char next rest short long =>
    by_cases esc : 0x7D ≤ char
    · simp [values, esc, short]
    · simp [values, esc, long]

theorem keptValues_key (key : UInt8) (count : Nat) (carry : Bool) (rest : Bytes) :
    keptValues key count carry rest = (keptValues 0 count carry rest).map (· + key) := by
  induction count generalizing carry rest with
  | zero => rfl
  | succ count induction =>
    cases rest with
    | nil => rfl
    | cons char rest =>
      rw [keptValues, keptValues, map_append, induction]
      cases carry <;> simp

theorem length_vectorValues_key (key : UInt8) (count : Nat) (carry : Bool) (rest : Bytes) :
    (vectorValues key count carry rest).length = (vectorValues 0 count carry rest).length := by
  simp [vectorValues, keptValues_key key, values_key key]

theorem base94DecodeSse2_own (kf : BitVec 32) {text : Bytes} (own : fallsBack 8 text = false) :
    ∃ out : Output, base94DecodeSse2 kf text = some (out.returned (outLength text)) ∧
      out.Holds (vectorValues (lowByte kf) (covered 8 text) false text) ∧ out.Clean := by
  have reads := reads_narrowRound selects_selectMasked (gathers_gatherEach kf)
  rcases decodeVector_own (by decide) reads own with ⟨out, loop, returned, holds⟩
  refine ⟨_, returned, holds, ?_⟩
  apply Output.Clean.foldl
  apply vectorLoop_clean _ loop
  · intro place _
    rfl
  · intro rest carry out carry' out' round clean
    simp only [narrowRound] at round
    split at round
    · cases round
    · cases round
      exact gatherEach_clean kf _ _ clean

theorem Output.Clean.returned {out : Output} (clean : out.Clean) {written : Bytes}
    (holds : out.Holds written) {length : Nat} (short : written.length < length) :
    (out.returned length)[written.length]? = some 0 := by
  rw [Output.returned, getElem?_map, getElem?_range short, map_some,
    clean _ (Nat.le_of_eq holds.size)]

theorem base94DecodeSse2_overlap {text : Bytes} (own : fallsBack 8 text = false)
    (overlap : overlapIn (covered 8 text) false text) :
    ∃ kf, base94DecodeSse2 kf text ≠ base94DecodeScalar kf text := by
  by_contra every
  have agrees : ∀ kf, base94DecodeSse2 kf text = base94DecodeScalar kf text := by
    intro kf
    by_contra differs
    exact every ⟨kf, differs⟩
  rcases fallsBack_eq_false own with ⟨filled, _, good, tail⟩
  have valid : tailValid text := by
    by_contra invalid
    rcases base94DecodeSse2_own 0 own with ⟨out, returned, _⟩
    have none := base94DecodeScalar_invalid 0 (Bool.eq_false_iff.mpr invalid)
    rw [← agrees 0, returned] at none
    cases none
  have same : ∀ kf, ∃ out : Output, out.returned (outLength text) = values (lowByte kf) text ∧
      out.Holds (vectorValues (lowByte kf) (covered 8 text) false text) ∧ out.Clean := by
    intro kf
    rcases base94DecodeSse2_own kf own with ⟨out, returned, rest⟩
    rw [agrees kf, base94DecodeScalar_valid kf filled valid, some.injEq] at returned
    exact ⟨out, returned.symm, rest⟩
  have differ := vectorValues_overlap false text (covered_lt 8 filled) good overlap valid tail
  have most := (length_vectorValues 0 false false text (covered_lt 8 filled) id).1
  rw [Bool.toNat_false, drop_zero] at differ most
  rcases same 0 with ⟨out, returned, holds, clean⟩
  rw [show lowByte 0 = 0 from rfl] at returned holds
  by_cases full : (vectorValues 0 (covered 8 text) false text).length = (values 0 text).length
  · -- As many bytes, but other ones.
    apply differ
    rw [← holds.returned, ← returned, full, outLength_values 0 valid]
  · -- A byte that nothing was put to is zero for every key.
    have short : (vectorValues 0 (covered 8 text) false text).length < outLength text := by
      rw [outLength_values 0 valid]
      omega
    have zero := clean.returned holds short
    rw [returned] at zero
    rcases same 1 with ⟨out, returned, holds, clean⟩
    rw [show lowByte 1 = 1 from rfl] at returned holds
    have length := length_vectorValues_key 1 (covered 8 text) false text
    have shifted := clean.returned holds (by rw [length]; exact short)
    rw [returned, values_key, getElem?_map, length, zero] at shifted
    exact absurd shifted (by decide)

/-- SSE2 agrees with the scalar decoder on a text, for every key, exactly when the text is
apart; then SSE and SSE4.1 agree as well, and AVX2 does for its longer blocks. -/
theorem vector_decoders_agree_iff (text : Bytes) :
    ((∀ kf, base94DecodeSse2 kf text = base94DecodeScalar kf text) ↔ Apart 8 text) ∧
      (Apart 8 text → ∀ kf, base94DecodeSse kf text = base94DecodeScalar kf text ∧
        base94DecodeSse41 kf text = base94DecodeScalar kf text) ∧
      (Apart 16 text → ∀ kf, base94DecodeAvx2 kf text = base94DecodeScalar kf text) := by
  refine ⟨⟨?_, ?_⟩, ?_, ?_⟩
  · intro agrees
    by_contra apart
    obtain ⟨first, second⟩ := not_or.mp apart
    rw [Bool.not_eq_true] at first
    rw [Bool.not_eq_false] at second
    rcases base94DecodeSse2_overlap first second with ⟨kf, differs⟩
    exact differs (agrees kf)
  · intro apart kf
    exact decodeVector_apart (by decide)
      (reads_narrowRound selects_selectMasked (gathers_gatherEach kf)) apart
  · intro apart kf
    constructor
    · exact decodeVector_apart (by decide)
        (reads_narrowRound selects_selectMasked (gathers_gatherShuffle kf)) apart
    · exact decodeVector_apart (by decide)
        (reads_narrowRound selects_blendv (gathers_gatherShuffle kf)) apart
  · intro apart kf
    exact decodeVector_apart (by decide) (reads_wideRound kf) apart

def doubled : Bytes := [125, 125, 97, 98, 99, 100, 101, 102, 103, 104, 105, 106, 107, 108, 109,
  110, 111]

theorem doubled_escape_differs : base94DecodeSse 3 doubled ≠ base94DecodeScalar 3 doubled ∧
      base94DecodeSse2 3 doubled ≠ base94DecodeScalar 3 doubled ∧
      base94DecodeSse41 3 doubled ≠ base94DecodeScalar 3 doubled ∧
      base94DecodeAvx2 3 doubled ≠ base94DecodeScalar 3 doubled := by
  decide +kernel

/-- The doubled text with a letter in the middle. -/
theorem single_escape_agrees : base94DecodeAvx2 3 (125 :: 97 :: doubled.drop 1) =
      base94DecodeScalar 3 (125 :: 97 :: doubled.drop 1) :=
  (vector_decoders_agree_iff _).2.2 (by decide +kernel) 3

end OpenPpp2.Base94
