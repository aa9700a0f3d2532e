import OpenPpp2.Policy.Compiler

/-!
# What the index of a policy holds

Each lookup of the index lists the rules of its kind, by their values: what a compiled policy finds
under a value are the identifiers of the rules with this value.
-/

namespace OpenPpp2.Policy

open Lib Lib.Trie List Option

variable {regex : Regex} {rules : List Rule}

def Lists (rules : List Rule) (test : Rule → Prop) (ids : List Nat) : Prop :=
  ∀ id, id ∈ ids ↔ ∃ rule, rules[id]? = some rule ∧ test rule

theorem getElem?_push_eq_some {rule found : Rule} {id : Nat} : (rules ++ [rule])[id]? = some found ↔
      rules[id]? = some found ∨ id = rules.length ∧ rule = found := by
  rw [List.getElem?_append, List.getElem?_singleton]
  split_ifs with inside last
  · simp [Nat.ne_of_lt inside]
  · simp [show id = rules.length by omega]
  · have beyond : rules.length < id := by omega
    simp [beyond.le, beyond.ne']

variable {ids : List Nat}

variable {rule : Rule}

theorem exists_push {id : Nat} {test : Rule → Prop} :
    (∃ found, (rules ++ [rule])[id]? = some found ∧ test found) ↔
      (∃ found, rules[id]? = some found ∧ test found) ∨ id = rules.length ∧ test rule := by
  simp [getElem?_push_eq_some, or_and_right, exists_or, and_assoc]

theorem Lists.skip {test : Rule → Prop}
    (lists : Lists rules test ids) (fails : ¬ test rule) : Lists (rules ++ [rule]) test ids := by
  intro id
  rw [lists id, exists_push]
  simp [fails]

theorem Lists.push {test : Rule → Prop} (lists : Lists rules test ids)
    (passes : test rule) : Lists (rules ++ [rule]) test (ids ++ [rules.length]) := by
  intro id
  rw [mem_append, mem_singleton, lists id, exists_push]
  simp [passes]

structure Spelled {α : Type} [DecidableEq α] (rules : List Rule) (test : Rule → Prop)
    (word : Rule → List α) (nodes : List (Node α)) : Prop where
  filled : Filled nodes
  lists : ∀ letters, Lists rules (fun rule => test rule ∧ word rule = letters)
    (itemsAt nodes letters)

section Tries

variable {α : Type} [DecidableEq α] {test : Rule → Prop} {word : Rule → List α}
  {nodes : List (Node α)} {rule : Rule}

theorem Spelled.skip (spelled : Spelled rules test word nodes) (fails : ¬ test rule) :
    Spelled (rules ++ [rule]) test word nodes where
  filled := spelled.filled
  lists letters := (spelled.lists letters).skip fun both => fails both.1

theorem Spelled.add (spelled : Spelled rules test word nodes) (passes : test rule) :
    Spelled (rules ++ [rule]) test word (Trie.add nodes (word rule) rules.length) where
  filled := spelled.filled.add _ _
  lists letters := by
    rw [spelled.filled.itemsAt_add]
    split_ifs with same
    · exact (spelled.lists letters).push ⟨passes, same.symm⟩
    · exact (spelled.lists letters).skip fun both => same both.2.symm

end Tries

def OfKind (dns : Bool) (rule : Rule) : Prop := rule.resolver.isEmpty = !dns

structure Entered (regex : Regex) (rules : List Rule) (dns : Bool) (lookup : DomainIndex) :
    Prop where
  exact : ∀ value, Lists rules
    (fun rule => OfKind dns rule ∧ rule.condition = .exact ∧ rule.value = value)
    (lookup.exact value)
  suffix : Spelled rules
    (fun rule => OfKind dns rule ∧ (rule.condition = .suffix ∨ rule.condition = .subdomain))
    (fun rule => rule.value.reverse) lookup.suffix
  keywords : Spelled rules (fun rule => OfKind dns rule ∧ rule.condition = .keyword)
    Rule.value lookup.keywords
  regex : ∀ id search, (id, search) ∈ lookup.regex ↔ ∃ rule, rules[id]? = some rule ∧
    OfKind dns rule ∧ rule.condition = .regexp ∧ regex rule.value = some search

structure Indexed (regex : Regex) (index : Index) : Prop where
  domain : Entered regex index.rules false index.domain
  dns : Entered regex index.rules true index.dns
  prefixes : Spelled index.rules (fun rule => rule.condition = .ipv4Cidr)
    (fun rule => (cidr rule.value).elim [] fun network => leadingBits network.1 network.2)
    index.prefixes

section Enter

variable {dns : Bool} {lookup : DomainIndex} {rule : Rule}

section

variable (entered : Entered regex rules dns lookup)
include entered

theorem Entered.exact_skip (fails : ¬ (OfKind dns rule ∧ rule.condition = .exact)) (value : Text) :
    Lists (rules ++ [rule])
      (fun rule => OfKind dns rule ∧ rule.condition = .exact ∧ rule.value = value)
      (lookup.exact value) :=
  (entered.exact value).skip fun all => fails ⟨all.1, all.2.1⟩

theorem Entered.regex_skip
    (fails : ¬ (OfKind dns rule ∧ rule.condition = .regexp)) (id : Nat) (search : Text → Bool) :
    (id, search) ∈ lookup.regex ↔ ∃ found, (rules ++ [rule])[id]? = some found ∧
      OfKind dns found ∧ found.condition = .regexp ∧ regex found.value = some search := by
  rw [entered.regex, exists_push]
  apply (or_iff_left _).symm
  rintro ⟨_, kind, pattern, _⟩
  exact fails ⟨kind, pattern⟩

theorem Entered.skip (other : ¬ OfKind dns rule ∨ rule.condition = .ipv4Cidr) :
    Entered regex (rules ++ [rule]) dns lookup := by
  have apart : ∀ condition : Condition, condition ≠ .ipv4Cidr →
      ¬ (OfKind dns rule ∧ rule.condition = condition) := by
    rintro condition domain ⟨kind, same⟩
    rcases other with unlike | network
    · exact unlike kind
    · exact domain (same.symm.trans network)
  constructor
  · exact entered.exact_skip (apart .exact (by decide))
  · apply entered.suffix.skip
    rintro ⟨kind, suffix | subdomain⟩
    · exact apart .suffix (by decide) ⟨kind, suffix⟩
    · exact apart .subdomain (by decide) ⟨kind, subdomain⟩
  · exact entered.keywords.skip (apart .keyword (by decide))
  · exact entered.regex_skip (apart .regexp (by decide))

section

variable (kind : OfKind dns rule)
include kind

theorem Entered.enter_regex (pattern : rule.condition = .regexp) {search : Text → Bool}
    (accepted : regex rule.value = some search) : Entered regex (rules ++ [rule]) dns
      { lookup with regex := lookup.regex ++ [(rules.length, search)] } := by
  constructor
  · exact entered.exact_skip (by simp [pattern])
  · exact entered.suffix.skip (by simp [pattern])
  · exact entered.keywords.skip (by simp [pattern])
  · intro id other
    rw [mem_append, entered.regex, exists_push]
    simp [kind, pattern, accepted, eq_comm]

theorem Entered.enter_exact (exact : rule.condition = .exact) :
    Entered regex (rules ++ [rule]) dns { lookup with
      exact := Function.update lookup.exact rule.value
        (lookup.exact rule.value ++ [rules.length]) } := by
  constructor
  · intro value
    dsimp only
    by_cases same : value = rule.value
    · subst same
      rw [Function.update_self]
      exact (entered.exact rule.value).push ⟨kind, exact, rfl⟩
    · rw [Function.update_of_ne same]
      exact (entered.exact value).skip fun all => same all.2.2.symm
  · exact entered.suffix.skip (by simp [exact])
  · exact entered.keywords.skip (by simp [exact])
  · exact entered.regex_skip (by simp [exact])

theorem Entered.enter_suffix (suffix : rule.condition = .suffix ∨ rule.condition = .subdomain) :
    Entered regex (rules ++ [rule]) dns { lookup with
      suffix := Trie.add lookup.suffix rule.value.reverse rules.length } := by
  have apart : ∀ condition, condition ≠ .suffix → condition ≠ .subdomain →
      ¬ (OfKind dns rule ∧ rule.condition = condition) := by
    rintro condition one two ⟨_, same⟩
    rcases suffix with suffix | subdomain
    · exact one (same.symm.trans suffix)
    · exact two (same.symm.trans subdomain)
  constructor
  · exact entered.exact_skip (apart .exact (by decide) (by decide))
  · exact entered.suffix.add ⟨kind, suffix⟩
  · exact entered.keywords.skip (apart .keyword (by decide) (by decide))
  · exact entered.regex_skip (apart .regexp (by decide) (by decide))

theorem Entered.enter_keyword (keyword : rule.condition = .keyword) :
    Entered regex (rules ++ [rule]) dns { lookup with
      keywords := Trie.add lookup.keywords rule.value rules.length } := by
  constructor
  · exact entered.exact_skip (by simp [keyword])
  · exact entered.suffix.skip (by simp [keyword])
  · exact entered.keywords.add ⟨kind, keyword⟩
  · exact entered.regex_skip (by simp [keyword])

theorem Entered.enter
    {grown : DomainIndex} (made : Build.enter regex rule rules.length lookup = some grown) :
    Entered regex (rules ++ [rule]) dns grown := by
  unfold Build.enter at made
  split at made
  case h_1 pattern =>
    rw [map_eq_some_iff] at made
    rcases made with ⟨search, accepted, rfl⟩
    exact entered.enter_regex kind pattern accepted
  case h_2 exact =>
    cases made
    exact entered.enter_exact kind exact
  case h_3 suffix =>
    cases made
    exact entered.enter_suffix kind (.inl suffix)
  case h_4 subdomain =>
    cases made
    exact entered.enter_suffix kind (.inr subdomain)
  case h_5 keyword =>
    cases made
    exact entered.enter_keyword kind keyword
  case h_6 network =>
    cases made
    exact entered.skip (.inr network)

end

end

end Enter

/-- The value as it is compared: a network by its masked address, a name in lower case. -/
def Rule.normal (rule : Rule) : Rule :=
  { rule with
    value :=
      match rule.condition with
      | .ipv4Cidr => (cidr rule.value).elim rule.value fun network => cidrText network.1 network.2
      | .regexp => rule.value
      | .keyword => lower rule.value
      | _ => (domain rule.value).getD rule.value }

structure Normal (rule : Rule) : Prop where
  network : rule.condition = .ipv4Cidr →
    rule.resolver = [] ∧ ∃ address length, cidr rule.value = some (address, length)
  nonempty : rule.condition ≠ .ipv4Cidr → rule.value ≠ []

variable {value : Text} {address : BitVec 32} {length : Nat}

theorem domain_ne_nil {folded : Text} (found : domain value = some folded) : folded ≠ [] := by
  simp only [domain, ite_none_left_eq_some, ite_none_right_eq_some,
    Option.some.injEq, Bool.or_eq_true, List.isEmpty_iff, not_or] at found
  rcases found with ⟨⟨nonempty, _⟩, _, _, rfl⟩
  exact nonempty

theorem number_le {size limit value : Nat} {digits : Text}
    (found : number size limit digits = some value) : value ≤ limit := by
  simp only [number, ite_none_left_eq_some, Option.some.injEq] at found
  rcases found with ⟨_, bounded, rfl⟩
  exact Nat.not_lt.mp bounded

theorem cidr_masked (found : cidr value = some (address, length)) :
    length ≤ 32 ∧ address &&& PrefixMask.mask 32 length = address := by
  simp only [cidr, DottedQuad.readNetwork, bind_eq_bind] at found
  rw [bind_eq_some_iff] at found
  rcases found with ⟨whole, _, found⟩
  have shape : ∃ size ≤ 32, some (whole &&& PrefixMask.mask 32 size, size) =
      some (address, length) := by
    split at found
    · exact ⟨32, le_rfl, found⟩
    · rw [bind_eq_some_iff] at found
      rcases found with ⟨size, sized, found⟩
      exact ⟨size, number_le sized, found⟩
  rcases shape with ⟨size, bound, same⟩
  cases same
  exact ⟨bound, by rw [PrefixMask.and_mask_and_mask, Nat.min_self]⟩

theorem normal_of_domain (other : rule.condition ≠ .ipv4Cidr) (nonempty : rule.value ≠ []) :
    Normal rule ∧ (rule.condition = .ipv4Cidr → cidr rule.value = some (address, length)) :=
  ⟨⟨fun network => absurd network other, fun _ => nonempty⟩, fun network => absurd network other⟩

theorem normalize_spec {given rule : Rule}
    (made : Build.normalize given = .ok (rule, address, length)) :
    rule = given.normal ∧ Normal rule ∧
      (rule.condition = .ipv4Cidr → cidr rule.value = some (address, length)) := by
  unfold Build.normalize at made
  unfold Rule.normal
  split at made
  case h_1 network =>
    split_ifs at made with route
    split at made
    · cases made
    case h_2 address length found =>
      cases made
      have masked := cidr_masked found
      have again : cidr (cidrText address length) = some (address, length) := by
        rw [cidr_cidrText address masked.1, masked.2]
      refine ⟨by simp [network, found], ⟨fun _ => ?_, fun other => absurd network other⟩,
        fun _ => again⟩
      simp only [Bool.not_eq_true, Bool.not_eq_false', List.isEmpty_iff] at route
      exact ⟨route, address, length, again⟩
  case h_2 pattern =>
    split_ifs at made with nonempty
    cases made
    exact ⟨by cases given; cases pattern; rfl, normal_of_domain (by simp [pattern]) (by simpa using nonempty)⟩
  case h_3 keyword =>
    dsimp only at made
    split_ifs at made with nonempty
    cases made
    simp only [Bool.or_eq_true, not_or, List.isEmpty_iff] at nonempty
    exact ⟨by simp [keyword], normal_of_domain (by simp [keyword]) nonempty.1⟩
  case h_4 other pattern keyword =>
    split at made
    · cases made
    case h_2 folded found =>
      cases made
      refine ⟨?_, normal_of_domain other (domain_ne_nil found)⟩
      simp [found]

theorem insert_spec {index grown : Index} (indexed : Indexed regex index)
    (network : rule.condition = .ipv4Cidr → cidr rule.value = some (address, length))
    (made : Build.insert regex rule address length index = some grown) :
    Indexed regex grown ∧ grown.rules = index.rules ++ [rule] ∧ grown.fallback = index.fallback := by
  simp only [Build.insert] at made
  split_ifs at made with isNetwork route
  · cases made
    have word : (cidr rule.value).elim [] (fun network => leadingBits network.1 network.2) =
        leadingBits address length := by
      rw [network isNetwork]
      rfl
    have added := indexed.prefixes.add isNetwork
    rw [word] at added
    exact ⟨⟨indexed.domain.skip (.inr isNetwork), indexed.dns.skip (.inr isNetwork), added⟩, rfl, rfl⟩
  · obtain ⟨lookup, entered, rfl⟩ := map_eq_some_iff.1 made
    have other : ¬ OfKind true rule := by simp [OfKind, route]
    exact ⟨⟨indexed.domain.enter route entered, indexed.dns.skip (.inl other),
      indexed.prefixes.skip isNetwork⟩, rfl, rfl⟩
  · obtain ⟨lookup, entered, rfl⟩ := map_eq_some_iff.1 made
    have kind : OfKind true rule := by simpa [OfKind] using route
    have other : ¬ OfKind false rule := by simpa [OfKind] using route
    exact ⟨⟨indexed.domain.skip (.inl other), indexed.dns.enter kind entered,
      indexed.prefixes.skip isNetwork⟩, rfl, rfl⟩

end OpenPpp2.Policy
