import Mathlib.Data.Prod.Lex
import OpenPpp2.Policy.PolicyText

/-!
# What a compiled policy means

`Evaluate` walks tries and an automaton.
-/

namespace OpenPpp2.Policy

open Lib Lib.Trie Bool List AhoCorasick

def Rule.Matches (regex : Regex) (rule : Rule) (name : Text) : Prop :=
  match rule.condition with
  | .exact => name = rule.value
  | .suffix => name = rule.value ∨ 46 :: rule.value <:+ name
  | .subdomain => 46 :: rule.value <:+ name
  | .keyword => rule.value <:+: name
  | .regexp => ∃ search, regex rule.value = some search ∧ search name
  | .ipv4Cidr => False

def Rule.Covers (rule : Rule) (address : BitVec 32) : Prop :=
  rule.condition = .ipv4Cidr ∧ ∃ network length, cidr rule.value = some (network, length) ∧
    address &&& PrefixMask.mask 32 length = network

/-- What `Better` compares, in this order. -/
def Rule.score (rule : Rule) : ℤ ×ₗ ℤ ×ₗ ℤ ×ₗ ℤ ×ₗ ℤ :=
  let special : Nat :=
    if rule.condition = .ipv4Cidr then rule.prefixLength
    else if rule.condition.rank = 1 then rule.value.length
    else 0
  toLex (if rule.origin = .explicit then 0 else 1, toLex (rule.condition.rank,
    toLex (-(special : ℤ), toLex (if rule.condition = .subdomain then 0 else 1, rule.order))))

section Selection

variable {rules : List Rule} {test : Rule → Prop} {ids : List Nat}

variable {other : Rule → Prop}

theorem Lists.congr (lists : Lists rules test ids)
    (same : ∀ rule ∈ rules, test rule ↔ other rule) : Lists rules other ids := by
  intro id
  rw [lists id]
  exact exists_congr fun rule => and_congr_right fun held => same rule (mem_of_getElem? held)

theorem Lists.append {more : List Nat} (first : Lists rules test ids)
    (second : Lists rules other more) :
    Lists rules (fun rule => test rule ∨ other rule) (ids ++ more) := by
  intro id
  rw [mem_append, first id, second id, ← exists_or]
  simp only [and_or_left]

end Selection

section Loops

variable (rules : List Rule)

variable (nodes : List (Node UInt8)) (word : Text) (pos : Nat) (best : Option Nat)

end Loops

section Listed

variable {regex : Regex} {rules : List Rule} {lookup : DomainIndex}

variable {id : Nat} (address : BitVec 32) {length : Nat}

section

variable (entered : Entered regex rules false lookup)
include entered

end

end Listed

section Evaluate

variable {regex : Regex} {build : Build} {reading : Reading}

variable {reader : GeoReader} {source : Source} {version : Nat} {index : Index}

end Evaluate

def sampleSource : Source :=
  { rulesText := text ("default proxy\ndns direct home\ndns proxy home\n[direct]\n" ++
      "*.lan.example\nkeyword:ads\n[reject]\n10.0.0.0/8\nset:cloud\n")
    resolvers := [(text "home", {})]
    ruleSets := [(text "cloud", { format := text "geoip-text" })] }

end OpenPpp2.Policy
