import Mathlib
import OpenPpp2.Lib.Decimal

/-!
# Network segments of the firewall

`Firewall.cpp`: the segments of both address families share one table, from the network value in 128
bits to the smallest prefix length that was given for it.
-/

namespace OpenPpp2.Net.Firewall

open Lib.PrefixMask Lib.Decimal List

inductive Address where
  | v4 (value : BitVec 32)
  | v6 (value : BitVec 128)
  deriving DecidableEq, Repr

/-- `FirewallPrefixMask` of IPv4. -/
def prefixMask32 (length : Nat) : BitVec 32 :=
  if length = 0 then 0#32 else BitVec.allOnes 32 <<< (32 - length)

/-- `PrefixMask128`; the high half of the word stands first. -/
def prefixMask128 (length : Nat) : BitVec 128 :=
  if length = 0 then 0#128
  else if 128 ≤ length then BitVec.allOnes 128
  else if 64 ≤ length then
    BitVec.allOnes 64 ++
      (if length - 64 = 0 then 0#64 else BitVec.allOnes 64 <<< (64 - (length - 64)))
  else (BitVec.allOnes 64 <<< (64 - length)) ++ 0#64

namespace Address

def width : Address → Nat
  | v4 _ => 32
  | v6 _ => 128

/-- The key of the network of an address; an IPv4 value is extended with zeros. -/
def network (length : Nat) : Address → BitVec 128
  | v4 value => (value &&& prefixMask32 length).setWidth 128
  | v6 value => value &&& prefixMask128 length

/-- A length out of the family's range stands for a single host. -/
def clamp (ip : Address) (length : Int) : Nat :=
  if length < 0 ∨ ip.width < length then ip.width else length.toNat

theorem clamp_le (ip : Address) (length : Int) : ip.clamp length ≤ ip.width := by
  unfold clamp
  split_ifs with outside
  · exact Nat.le_refl _
  · omega

end Address

abbrev NetworkSegmentTable := AList fun _ : BitVec 128 => Nat

def setNetworkSegments (table : NetworkSegmentTable) (key : BitVec 128) (length : Nat) :
    NetworkSegmentTable × Bool :=
  match table.lookup key with
  | none => (table.insert key length, true)
  | some now => if length < now then (table.insert key length, true) else (table, false)

def dropNetworkSegment (table : NetworkSegmentTable) (ip : Address) (length : Int) :
    NetworkSegmentTable × Bool :=
  setNetworkSegments table (ip.network (ip.clamp length)) (ip.clamp length)

def isDropNetworkSegment (table : NetworkSegmentTable) (ip : Address) : Bool :=
  !table.entries.isEmpty && (List.range (ip.width + 1)).reverse.any fun length =>
    match table.lookup (ip.network length) with
    | none => false
    | some stored => decide (stored ≤ length)

/-- The arguments of a call of `DropNetworkSegment`. -/
structure Rule where
  ip : Address
  length : Int
  deriving DecidableEq, Repr

def dropAll (rules : List Rule) : NetworkSegmentTable :=
  rules.foldl (fun table rule => (dropNetworkSegment table rule.ip rule.length).1) ∅

/-- The table has an entry of at most the given length for the key. -/
def Reaches (table : NetworkSegmentTable) (key : BitVec 128) (length : Nat) : Prop :=
  ∃ stored, table.lookup key = some stored ∧ stored ≤ length

variable {length : Nat} {ip : Address}

variable {table : NetworkSegmentTable} {key : BitVec 128} {given : Nat} {rules : List Rule}
    {rule : Rule}

theorem reaches_setNetworkSegments {added : BitVec 128} :
    Reaches (setNetworkSegments table added given).1 key length ↔
      Reaches table key length ∨ (added = key ∧ given ≤ length) := by
  unfold setNetworkSegments
  by_cases same : key = added
  · subst same
    cases found : table.lookup key with
    | none => simp [Reaches, found]
    | some now =>
      dsimp only
      split_ifs <;> simp only [Reaches, found, AList.lookup_insert, Option.some.injEq,
        exists_eq_left', true_and] <;> omega
  · have other : ¬ added = key := fun equal => same equal.symm
    cases table.lookup added with
    | none => simp [Reaches, AList.lookup_insert_ne same, other]
    | some now =>
      dsimp only
      split_ifs <;> simp [Reaches, AList.lookup_insert_ne same, other]

theorem reaches_dropAll : Reaches (dropAll rules) key length ↔ ∃ rule ∈ rules,
      rule.ip.network (rule.ip.clamp rule.length) = key ∧ rule.ip.clamp rule.length ≤ length := by
  unfold dropAll
  induction rules using reverseRecOn with
  | nil => simp [Reaches]
  | append_singleton rules rule ih =>
    rw [foldl_append, foldl_cons, foldl_nil, dropNetworkSegment, reaches_setNetworkSegments, ih]
    simp only [mem_append, mem_singleton, or_and_right, exists_or, exists_eq_left]

theorem isDropNetworkSegment_iff : isDropNetworkSegment table ip ↔
      ∃ length ≤ ip.width, Reaches table (ip.network length) length := by
  unfold isDropNetworkSegment
  rw [Bool.and_eq_true, any_reverse, any_eq_true]
  constructor
  · rintro ⟨_, length, inside, found⟩
    refine ⟨length, by simpa [Nat.lt_succ_iff] using inside, ?_⟩
    cases stored : table.lookup (ip.network length) with
    | none => simp [stored] at found
    | some value => exact ⟨value, stored, by simpa [stored] using found⟩
  · rintro ⟨length, inside, value, stored, small⟩
    refine ⟨?_, length, by simpa [Nat.lt_succ_iff] using inside, by simpa [stored] using small⟩
    cases entries : table.entries with
    | nil => simp [AList.lookup, entries] at stored
    | cons first rest => rfl

/-- The rule is of the family of the address and agrees with it in its leading bits. -/
def Rule.Contains (rule : Rule) (ip : Address) : Prop :=
  match rule.ip, ip with
  | .v4 base, .v4 value =>
    ∀ index < rule.ip.clamp rule.length, value.getMsbD index = base.getMsbD index
  | .v6 base, .v6 value =>
    ∀ index < rule.ip.clamp rule.length, value.getMsbD index = base.getMsbD index
  | _, _ => False

/-- The value of the rule's network is the address cut at a length that the rule covers. -/
def Rule.Meets (rule : Rule) (ip : Address) : Prop :=
  ∃ length ≤ ip.width, rule.ip.network (rule.ip.clamp rule.length) = ip.network length ∧
    rule.ip.clamp rule.length ≤ length

theorem prefixMask32_eq (short : length ≤ 32) : prefixMask32 length = mask 32 length := by
  have all : ∀ length : Fin 33, prefixMask32 length = mask 32 length := by decide
  exact all ⟨length, Nat.lt_succ_of_le short⟩

theorem prefixMask128_eq (short : length ≤ 128) : prefixMask128 length = mask 128 length := by
  have all : ∀ length : Fin 129, prefixMask128 length = mask 128 length := by decide +kernel
  exact all ⟨length, Nat.lt_succ_of_le short⟩

theorem exists_cut_iff {width : Nat} (short : given ≤ width) (base value : BitVec width) :
    (∃ length ≤ width, base &&& mask width given = value &&& mask width length ∧ given ≤ length) ↔
      ∀ index < given, value.getMsbD index = base.getMsbD index := by
  rw [← and_mask_eq_and_mask_iff]
  constructor
  · rintro ⟨length, _, same, shorter⟩
    have own : base &&& mask width given &&& mask width given = base &&& mask width given := by
      rw [and_mask_and_mask, Nat.min_self]
    exact @cut_eq_of_bucket _ (fun length word => word &&& mask width length)
      (fun first second word => and_mask_and_mask word first second) _ _ _ _ same.symm own shorter
  · intro same
    exact ⟨given, short, same.symm, Nat.le_refl _⟩

theorem setWidth_inj {left right : BitVec 32} :
    left.setWidth 128 = right.setWidth 128 ↔ left = right := by
  constructor
  · intro same
    simpa using congrArg (BitVec.setWidth 32) same
  · exact congrArg _

theorem Rule.meets_iff (family : rule.ip.width = ip.width) : rule.Meets ip ↔ rule.Contains ip := by
  obtain ⟨base, given⟩ := rule
  have short := base.clamp_le given
  cases base <;> cases ip
  case v4.v6 | v6.v4 => cases family
  all_goals
    refine Iff.trans (exists_congr fun length => and_congr_right fun inside => ?_)
      (exists_cut_iff short _ _)
  · simp only [Address.network, setWidth_inj, prefixMask32_eq short, prefixMask32_eq inside]
    exact .rfl
  · simp only [Address.network, prefixMask128_eq short, prefixMask128_eq inside]
    exact .rfl

theorem Rule.Contains.family (contains : rule.Contains ip) : rule.ip.width = ip.width := by
  obtain ⟨base, given⟩ := rule
  cases base <;> cases ip <;> first | rfl | exact contains.elim

theorem isDropNetworkSegment_dropAll :
    isDropNetworkSegment (dropAll rules) ip ↔ ∃ rule ∈ rules, rule.Meets ip := by
  simp only [isDropNetworkSegment_iff, reaches_dropAll, Rule.Meets]
  constructor
  · rintro ⟨length, inside, rule, member, meets⟩
    exact ⟨rule, member, length, inside, meets⟩
  · rintro ⟨rule, member, length, inside, meets⟩
    exact ⟨length, inside, rule, member, meets⟩

/-- An address is dropped exactly for the rules of its family, unless a rule of the other family
has the value of one of its networks and no rule of its own contains it. -/
theorem isDropNetworkSegment_contains_iff (rules : List Rule) (ip : Address) :
    (isDropNetworkSegment (dropAll rules) ip = true ↔ ∃ rule ∈ rules, rule.Contains ip) ↔
      (∃ rule ∈ rules, rule.Contains ip) ∨
        ∀ rule ∈ rules, rule.ip.width ≠ ip.width → ¬ rule.Meets ip := by
  rw [isDropNetworkSegment_dropAll]
  constructor
  · intro exact
    by_cases contained : ∃ rule ∈ rules, rule.Contains ip
    · exact .inl contained
    · right
      intro rule member _ meets
      exact contained (exact.mp ⟨rule, member, meets⟩)
  · intro apart
    constructor
    · rintro ⟨rule, member, meets⟩
      rcases apart with contained | apart
      · exact contained
      · by_cases family : rule.ip.width = ip.width
        · exact ⟨rule, member, (Rule.meets_iff family).mp meets⟩
        · exact absurd meets (apart rule member family)
    · rintro ⟨rule, member, contains⟩
      exact ⟨rule, member, (Rule.meets_iff contains.family).mpr contains⟩

/-- The default network of IPv6 drops every IPv4 address. -/
theorem v6_default_drops_v4 :
    isDropNetworkSegment (dropAll [⟨.v6 0#128, 0⟩]) (.v4 0x0a000001#32) = true ∧
      ¬ ∃ rule ∈ [(⟨.v6 0#128, 0⟩ : Rule)], rule.Contains (.v4 0x0a000001#32) := by
  refine ⟨by decide +kernel, ?_⟩
  rintro ⟨rule, member, contains⟩
  rw [mem_singleton.mp member] at contains
  exact contains

abbrev Text := List UInt8

/-- `ppp::isspace`, which counts the zero byte. -/
def isspace (char : UInt8) : Bool := char == 0 || Lib.Decimal.isspace char

def trim (text : Text) : Text := ((text.reverse.dropWhile isspace).reverse).dropWhile isspace

def normalize (text : Text) : Text := trim (text.map toLower)

/-- `Tokenize` with the dot as the only delimiter. -/
def tokenize (text : Text) : List Text := (text.splitOn 46).filter (· ≠ [])

def join (labels : List Text) : Text := [46].intercalate labels

def dropNetworkDomains (domains : List Text) (host : Text) : List Text :=
  if normalize host = [] then domains else normalize host :: domains

/-- `IsSameNetworkDomains`, of the part of the name that a C string shows. -/
def isSameNetworkDomains (contains : Text → Bool) (host : Text) : Bool :=
  let host := host.takeWhile (· ≠ 0)
  if host = [] then false
  else if contains host then true
  else
    let labels := tokenize host
    if labels.length < 2 then false
    else
      let labels := labels.map trim
      if [] ∈ labels then true
      else (List.range' 1 (labels.length - 2)).any (fun first => contains (join (labels.drop first)))
        || contains (labels.getLastD [])

/-- `IsDropNetworkDomains`; `stringToAddress` reads an IP literal. -/
def isDropNetworkDomains (stringToAddress : Text → Option Address) (table : NetworkSegmentTable)
    (domains : List Text) (host : Text) : Bool :=
  let host := normalize host
  if host = [] then false
  else match stringToAddress (host.takeWhile (· ≠ 0)) with
    | some ip => isDropNetworkSegment table ip
    | none => isSameNetworkDomains (fun text => text ∈ domains) host

def Plain (label : Text) : Prop := label ≠ [] ∧ ∀ char ∈ label, char ≠ 46 ∧ isspace char = false

structure HostName where
  first : Text
  rest : List Text
  plain : ∀ label ∈ first :: rest, Plain label

namespace HostName

def labels (name : HostName) : List Text := name.first :: name.rest

def spelled (name : HostName) (rooted : Bool) : Text :=
  join name.labels ++ if rooted then [46] else []

end HostName

def IsRule (rules : List Text) (text : Text) : Prop := text ≠ [] ∧ text ∈ rules.map normalize

/-- A rule blocks the name and the names under it. -/
def Blocked (rules : List Text) (name : Text) : Prop :=
  IsRule rules name ∨ ∃ rule, IsRule rules rule ∧ 46 :: rule <:+ name

theorem mem_dropNetworkDomains (rules domains : List Text) (text : Text) :
    text ∈ rules.foldl dropNetworkDomains domains ↔ text ∈ domains ∨ IsRule rules text := by
  induction rules generalizing domains with
  | nil => simp [IsRule]
  | cons rule rest ih =>
    rw [foldl_cons, ih, dropNetworkDomains]
    unfold IsRule
    split_ifs with blank <;> grind

theorem plain_toLower (char : UInt8) (plain : char ≠ 46 ∧ isspace char = false) :
    toLower char ≠ 46 ∧ isspace (toLower char) = false := by
  have all : ∀ value : Fin 256, UInt8.ofFin value ≠ 46 ∧ isspace (UInt8.ofFin value) = false →
      toLower (UInt8.ofFin value) ≠ 46 ∧ isspace (toLower (UInt8.ofFin value)) = false := by
    decide +kernel
  exact all char.toFin plain

theorem join_cons_cons (first second : Text) (rest : List Text) :
    join (first :: second :: rest) = first ++ 46 :: join (second :: rest) := by
  simp [join, intercalate_cons_cons]

theorem dot_suffix_append {label : Text} (free : 46 ∉ label) (rule tail : Text) :
    46 :: rule <:+ label ++ 46 :: tail ↔ rule = tail ∨ 46 :: rule <:+ tail := by
  induction label with
  | nil => simp [suffix_cons_iff]
  | cons char rest ih =>
    rw [cons_append, suffix_cons_iff, ih (by grind)]
    grind

variable {rest : List Text}

theorem dot_suffix_join {first : Text} (free : ∀ label ∈ first :: rest, 46 ∉ label) (rule : Text) :
    46 :: rule <:+ join (first :: rest) ↔ ∃ index < rest.length, rule = join (rest.drop index) := by
  induction rest generalizing first with
  | nil =>
    have absent : ¬ 46 :: rule <:+ first := fun found =>
      free first (by simp) (found.subset (by simp))
    simpa [join] using absent
  | cons second rest ih =>
    rw [join_cons_cons, dot_suffix_append (free first (by simp)), ih (by grind)]
    constructor
    · rintro (rfl | ⟨index, inside, rfl⟩)
      · exact ⟨0, by simp, rfl⟩
      · exact ⟨index + 1, by simpa using inside, rfl⟩
    · rintro ⟨index, inside, rfl⟩
      cases index with
      | zero => exact .inl rfl
      | succ index => exact .inr ⟨index, by simpa using inside, rfl⟩

theorem map_join (labels : List Text) :
    (join labels).map toLower = join (labels.map (·.map toLower)) := by
  induction labels with
  | nil => rfl
  | cons first rest ih =>
    cases rest with
    | nil => simp [join]
    | cons second rest =>
      rw [join_cons_cons, map_append, map_cons, ih]
      simp [join_cons_cons, toLower]

theorem mem_join {labels : List Text} {char : UInt8} (member : char ∈ join labels) :
    char = 46 ∨ ∃ label ∈ labels, char ∈ label := by
  induction labels with
  | nil => cases member
  | cons first rest ih =>
    cases rest with
    | nil => exact .inr ⟨first, by simp, by simpa [join] using member⟩
    | cons second rest =>
      rw [join_cons_cons] at member
      grind

theorem join_append_dot (first : Text) (rest : List Text) :
    join (first :: rest) ++ [46] = join (first :: rest ++ [[]]) := by
  induction rest generalizing first with
  | nil => simp [join, intercalate_cons_cons]
  | cons second rest ih =>
    rw [join_cons_cons, append_assoc, cons_append, ih]
    exact (join_cons_cons first second (rest ++ [[]])).symm

theorem trim_eq_self {text : Text} (shown : ∀ char ∈ text, isspace char = false) :
    trim text = text := by
  have same : ∀ word : Text, (∀ char ∈ word, isspace char = false) →
      word.dropWhile isspace = word := by
    intro word shown
    cases word <;> simp_all [dropWhile]
  unfold trim
  rw [same text.reverse (by simpa using shown), reverse_reverse, same text shown]

namespace HostName

variable (name : HostName)

def lower : HostName where
  first := name.first.map toLower
  rest := name.rest.map (·.map toLower)
  plain := by
    intro label member
    rw [← List.map_cons, List.mem_map] at member
    obtain ⟨source, found, rfl⟩ := member
    have plain := name.plain source found
    refine ⟨by simpa using plain.1, fun char inside => ?_⟩
    obtain ⟨char, found, rfl⟩ := List.mem_map.1 inside
    exact plain_toLower char (plain.2 char found)

variable (rooted : Bool)

theorem map_spelled : (name.spelled rooted).map toLower = name.lower.spelled rooted := by
  unfold spelled
  rw [map_append, map_join]
  cases rooted <;> rfl

theorem shown : ∀ char ∈ name.spelled rooted, isspace char = false := by
  intro char member
  have dot : isspace 46 = false := rfl
  have plain := name.plain
  unfold spelled at member
  rw [mem_append] at member
  cases member with
  | inl inside =>
    have := mem_join inside
    grind [Plain, labels]
  | inr last => grind

theorem spelled_ne_nil : name.spelled rooted ≠ [] := by
  have := (name.plain name.first (by simp)).1
  unfold spelled labels join
  cases name.rest <;> simp_all

theorem takeWhile_spelled : (name.spelled rooted).takeWhile (· ≠ 0) = name.spelled rooted := by
  have shown := name.shown rooted
  generalize name.spelled rooted = text at shown ⊢
  induction text with
  | nil => rfl
  | cons char rest ih =>
    have := shown char (by simp)
    rw [takeWhile_cons_of_pos (by grind [isspace]), ih (by grind)]

theorem tokenize_spelled : tokenize (name.spelled rooted) = name.labels := by
  have plain := name.plain
  have whole : name.labels.filter (· ≠ []) = name.labels := by
    rw [filter_eq_self]
    intro label member
    simpa using (plain label member).1
  unfold tokenize spelled
  cases rooted with
  | false =>
    simp only [Bool.false_eq_true, if_false, append_nil]
    rw [labels, join, splitOn_intercalate 46 (by grind [Plain]) (by simp)]
    exact whole
  | true =>
    simp only [if_true]
    rw [labels, join_append_dot, join, splitOn_intercalate 46 ?_ (by simp)]
    · rw [filter_append]
      exact (append_nil _).trans whole
    · grind [Plain]

end HostName

theorem walk_iff (contains : Text → Bool) (first : Text) (more : rest ≠ []) :
    ((List.range' 1 (rest.length - 1)).any (fun start => contains (join ((first :: rest).drop start)))
        || contains ((first :: rest).getLastD [])) ↔
      ∃ index < rest.length, contains (join (rest.drop index)) := by
  have last : (first :: rest).getLastD [] = join (rest.drop (rest.length - 1)) := by
    rw [drop_length_sub_one more, join, intercalate_singleton,
      getLastD_eq_getLast?, getLast?_cons_of_ne_nil more, getLast?_eq_some_getLast more]
    rfl
  have long := length_pos_of_ne_nil more
  rw [last, Bool.or_eq_true, any_eq_true]
  constructor
  · rintro (⟨start, inside, found⟩ | found)
    · obtain ⟨index, _, rfl⟩ := mem_range'.1 inside
      refine ⟨index, by omega, ?_⟩
      rwa [show 1 + 1 * index = index + 1 by omega] at found
    · exact ⟨_, by omega, found⟩
  · rintro ⟨index, inside, found⟩
    by_cases final : index = rest.length - 1
    · exact .inr (final ▸ found)
    · exact .inl ⟨index + 1, mem_range'.2 ⟨index, by omega, by omega⟩, found⟩

theorem isSameNetworkDomains_iff (contains : Text → Bool) (name : HostName) (rooted : Bool) :
    isSameNetworkDomains contains (name.spelled rooted) ↔ contains (name.spelled rooted) ∨
        ∃ index < name.rest.length, contains (join (name.rest.drop index)) := by
  have whole := name.takeWhile_spelled rooted
  have plain := name.plain
  have trimmed : name.labels.map trim = name.labels := by
    refine (map_congr_left fun label member => ?_).trans (map_id _)
    exact trim_eq_self fun char inside => ((plain label member).2 char inside).2
  have named : [] ∉ name.labels := fun empty => (plain [] empty).1 rfl
  have filled := name.spelled_ne_nil rooted
  unfold isSameNetworkDomains
  simp only [whole, filled, name.tokenize_spelled, trimmed, named, if_false]
  by_cases exact : contains (name.spelled rooted)
  · simp [exact]
  · have count : name.labels.length = name.rest.length + 1 := rfl
    rw [if_neg exact, or_iff_right exact]
    by_cases single : name.rest = []
    · rw [if_pos (by rw [count, single]; decide)]
      simp [single]
    · have long := length_pos_of_ne_nil single
      rw [if_neg (by omega), count, ← walk_iff contains name.first single]
      rfl

/-- The rules block exactly the names at or under them, unless the name is written with the root dot
and only its whole form decides. -/
theorem isDropNetworkDomains_blocked_iff (stringToAddress : Text → Option Address)
    (table : NetworkSegmentTable) (rules : List Text) (name : HostName) (rooted : Bool)
    (named : stringToAddress (name.lower.spelled rooted) = none) :
    (isDropNetworkDomains stringToAddress table (rules.foldl dropNetworkDomains [])
        (name.spelled rooted) = true ↔ Blocked rules (name.lower.spelled false)) ↔
      (rooted = false ∨ (∃ rule, IsRule rules rule ∧ 46 :: rule <:+ name.lower.spelled false) ∨
        (IsRule rules (name.lower.spelled true) ↔ IsRule rules (name.lower.spelled false))) := by
  have normal : normalize (name.spelled rooted) = name.lower.spelled rooted := by
    rw [normalize, name.map_spelled, trim_eq_self (name.lower.shown rooted)]
  have filled := (name.lower.spelled_ne_nil rooted)
  have blocks : isDropNetworkDomains stringToAddress table (rules.foldl dropNetworkDomains [])
      (name.spelled rooted) = true ↔ IsRule rules (name.lower.spelled rooted) ∨
        ∃ rule, IsRule rules rule ∧ 46 :: rule <:+ name.lower.spelled false := by
    unfold isDropNetworkDomains
    simp only [normal, filled, if_false, name.lower.takeWhile_spelled, named]
    rw [isSameNetworkDomains_iff]
    simp only [decide_eq_true_eq, mem_dropNetworkDomains, not_mem_nil, false_or]
    refine or_congr Iff.rfl ?_
    have under := dot_suffix_join (fun label member dot =>
      ((name.lower.plain label member).2 46 dot).1 rfl)
    simp only [HostName.spelled, HostName.labels, Bool.false_eq_true, if_false, append_nil, under]
    grind
  rw [blocks, Blocked]
  cases rooted <;> grind

/-- `evil.com.` passes the rule `evil.com`. -/
theorem root_dot_evades_rule :
    let evil : Text := [101, 118, 105, 108, 46, 99, 111, 109]
    isDropNetworkDomains (fun _ => none) ∅ ([evil].foldl dropNetworkDomains []) (evil ++ [46]) =
      false ∧ Blocked [evil] evil :=
  ⟨by decide +kernel, .inl ⟨by decide, by decide +kernel⟩⟩

/-- `A.com` under the rule `COM`. -/
theorem isDropNetworkDomains_blocked_iff_upper :
    let name : HostName := ⟨[65], [[99, 111, 109]], by unfold Plain; decide +kernel⟩
    (isDropNetworkDomains (fun _ => none) ∅ ([[67, 79, 77]].foldl dropNetworkDomains [])
        (name.spelled false) = true ↔ Blocked [[67, 79, 77]] (name.lower.spelled false)) := by
  intro name
  exact (isDropNetworkDomains_blocked_iff _ ∅ _ name false rfl).2 (.inl rfl)

end OpenPpp2.Net.Firewall
