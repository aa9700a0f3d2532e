import OpenPpp2.Policy.Bundle
import OpenPpp2.Lib.AhoCorasick
import OpenPpp2.Lib.Best

/-!
# Conditions of a policy

The helpers of `PolicyCompiler.cpp` that read domains, IPv4 addresses and networks, and the rules
that they make.
-/

namespace OpenPpp2.Policy

open Lib

/-- The blanks of `Trim`. -/
def isBlank (char : UInt8) : Bool := char == 32 || char == 9 || char == 13 || char == 10

def trim (value : Text) : Text := (value.dropWhile isBlank).rdropWhile isBlank

/-- The words that `>>` reads of a stream. -/
def words (value : Text) : List Text := (value.splitOnP Decimal.isspace).filter fun word => !word.isEmpty

/-- The lines that `std::getline` reads of a stream: nothing follows a last line feed. -/
def lines (value : Text) : List Text :=
  let parts := value.splitOn 10
  if parts.getLast? = some [] then parts.dropLast else parts

/-- `rfind(literal, 0) == 0`. -/
def startsWith (value : Text) (literal : String) : Bool := (text literal).isPrefixOf value

/-- The text before the first occurrence of `literal`, if it occurs. -/
def before (literal : Text) : Text → Option Text
  | [] => if literal.isEmpty then some [] else none
  | char :: rest =>
    if literal.isPrefixOf (char :: rest) then some []
    else (before literal rest).map (char :: ·)

/-- The loop of `Domain` over the characters, with the length of the label and the character
before. -/
def labelsValid : Text → Nat → UInt8 → Bool
  | [], label, previous => label != 0 && decide (label ≤ 63) && previous != 45
  | char :: rest, label, previous =>
    if char = 46 then
      if label = 0 ∨ label > 63 ∨ previous = 45 then false else labelsValid rest 0 char
    else
      if !(isAlnum char || char == 45) || decide (char ≥ 128) || (label == 0 && char == 45) then
        false
      else labelsValid rest (label + 1) char

/-- The normalized text of `Domain`. -/
def foldDomain (value : Text) : Text :=
  let folded := lower value
  if folded.getLast? = some 46 then folded.dropLast else folded

/-- `Domain`: the normalized domain. -/
def domain (value : Text) : Option Text :=
  let folded := foldDomain value
  if folded.isEmpty || decide (folded.length > 253) then none
  else if folded.contains 46 && folded.all (fun char => Decimal.isDigit char || char == 46) then none
  else if labelsValid folded 0 46 then some folded
  else none

/-- A number of at most `size` digits, not above `limit`. -/
def number (size limit : Nat) (digits : Text) : Option Nat :=
  if digits.isEmpty || decide (digits.length > size) || !digits.all Decimal.isDigit then none
  else if Decimal.digitsValue digits > limit then none
  else some (Decimal.digitsValue digits)

def ip (value : Text) : Option (BitVec 32) := DottedQuad.readAddress (number 3 255) value

def cidr (value : Text) : Option (BitVec 32 × Nat) :=
  DottedQuad.readNetwork (number 3 255) (number 2 32) value

def cidrText (address : BitVec 32) (length : Nat) : Text := DottedQuad.network address length

theorem number_decimal {size limit value : Nat} (fits : value < 10 ^ size) (wide : 0 < size)
    (bound : value ≤ limit) : number size limit (Decimal.decimal value) = some value := by
  have digits := Decimal.isDigit_decimal value
  have length := Decimal.length_decimal fits wide
  have nonempty := Decimal.decimal_ne_nil value
  simp [number, digits, nonempty, Nat.not_lt.mpr length, Decimal.digitsValue_decimal,
    Nat.not_lt.mpr bound]

theorem cidr_cidrText (address : BitVec 32) {length : Nat} (short : length ≤ 32) :
    cidr (cidrText address length) = some (address &&& PrefixMask.mask 32 length, length) := by
  apply DottedQuad.readNetwork_network
  · intro value small
    exact number_decimal (by omega) (by decide) (by omega)
  · exact number_decimal (by omega) (by decide) short

inductive Origin where
  | explicit
  | ruleSet
  deriving DecidableEq, Repr

inductive Condition where
  | exact
  | suffix
  | subdomain
  | keyword
  | regexp
  | ipv4Cidr
  deriving DecidableEq, Repr

structure Rule where
  condition : Condition := .suffix
  value : Text := []
  action : Action := .proxy
  origin : Origin := .explicit
  resolver : Text := []
  file : Text := []
  line : Nat := 0
  originalLine : Text := []
  sourceName : Text := []
  order : Nat := 0
  deriving DecidableEq, Repr, Inhabited

/-- `rank` of `Better`. -/
def Condition.rank : Condition → Nat
  | .exact => 0
  | .suffix | .subdomain => 1
  | .keyword => 2
  | .regexp => 3
  | .ipv4Cidr => 0

/-- The prefix length that `Better` reads; it is not set where the value is no network. -/
def Rule.prefixLength (rule : Rule) : Nat := (cidr rule.value).elim 0 Prod.snd

/-- `Better` of two rules. -/
def Rule.better (first second : Rule) : Bool :=
  if first.origin ≠ second.origin then first.origin == .explicit
  else if first.condition.rank ≠ second.condition.rank then
    decide (first.condition.rank < second.condition.rank)
  else if first.condition.rank = 1 ∧ first.value.length ≠ second.value.length then
    decide (first.value.length > second.value.length)
  else if first.condition.rank = 1 ∧ first.condition ≠ second.condition then
    first.condition == .subdomain
  else if first.condition = .ipv4Cidr ∧ first.prefixLength ≠ second.prefixLength then
    decide (first.prefixLength > second.prefixLength)
  else decide (first.order < second.order)

open Lib.Trie Lib.AhoCorasick

/-- `std::regex`: the search of a pattern, missing when the pattern is rejected. -/
abbrev Regex := Text → Option (Text → Bool)

/-- `DomainIndex`. A map from strings to vectors is a function, empty where there is no key. -/
structure DomainIndex where
  exact : Text → List Nat := fun _ => []
  suffix : List (Node UInt8) := Trie.empty
  keywords : List (Node UInt8) := Trie.empty
  regex : List (Nat × (Text → Bool)) := []

/-- `PolicySnapshot::Index`. The two children of a `PrefixNode` are those of a trie of bits. -/
structure Index where
  version : Nat := 1
  skippedIpv6 : Nat := 0
  fallback : Action := .proxy
  defaultLocation : Rule := {}
  dnsDirect : Text := []
  dnsProxy : Text := []
  resolvers : List (Text × Resolver) := []
  rules : List Rule := []
  domain : DomainIndex := {}
  dns : DomainIndex := {}
  prefixes : List (Node Bool) := Trie.empty

section Lookup

variable (rules : List Rule)

def ruleAt (id : Nat) : Rule := rules.getD id default

def better (first second : Nat) : Bool := (ruleAt rules first).better (ruleAt rules second)

end Lookup

def leadingBits (address : BitVec 32) (length : Nat) : List Bool :=
  (List.range length).map address.getMsbD

structure Decision where
  action : Action := .proxy
  matched : Bool := false
  needsIpResolution : Bool := false
  ruleId : Text := []
  source : Text := []
  file : Text := []
  line : Nat := 0
  reason : String := ""
  version : Nat := 0
  deriving DecidableEq, Repr

def Index.unmatched (index : Index) : Decision :=
  { version := index.version
    action := index.fallback
    source := text "default"
    file := index.defaultLocation.file
    line := index.defaultLocation.line }

def Index.decide (index : Index) (id : Nat) (decision : Decision) : Decision :=
  let rule := ruleAt index.rules id
  { decision with
    action := rule.action
    matched := true
    ruleId := text "r" ++ Decimal.decimal (id + 1)
    source := rule.sourceName
    file := rule.file
    line := rule.line }

/-- The severity of a `PolicyDiagnostic`. -/
inductive Severity where
  | error
  | warning
  deriving DecidableEq, Repr

structure Diagnostic where
  code : String
  severity : Severity := .error
  file : Text
  line : Nat
  originalLine : Text
  message : Text
  deriving DecidableEq, Repr

inductive GeoDomainType where
  | plain
  | regex
  | domain
  | full
  deriving DecidableEq, Repr

/-- The parts of a `GeoDataCidr` that the compiler reads. -/
structure GeoCidr where
  addressSize : Nat
  cidr : Text
  line : Nat

structure GeoDomain where
  type : GeoDomainType
  value : Text
  line : Nat

structure GeoIpData where
  succeeded : Bool
  entries : List GeoCidr
  skipped : Nat
  ipv6Entries : Nat

structure GeoSiteData where
  succeeded : Bool
  entries : List GeoDomain
  skipped : Nat

/-- `GeoDataReader` on a rule set, by its format and by whether its bytes are there. -/
structure GeoReader where
  geoIp : RuleSet → GeoIpData
  geoSite : RuleSet → GeoSiteData

/-- The key under which `add` looks for a rule with the same condition. -/
structure RuleKey where
  dns : Bool
  condition : Condition
  value : Text
  deriving DecidableEq, Repr

/-- The state of `Compile`. -/
structure Build where
  index : Index := {}
  order : Nat := 0
  duplicates : RuleKey → Option Nat := fun _ => none
  diagnostics : List Diagnostic := []
  hasDefault : Bool := false
  hasSection : Bool := false
  action : Action := .proxy
  resolver : Text := []

namespace Build

def report (rule : Rule) (code : String) (message : Text) (severity : Severity := .error)
    (build : Build) : Build :=
  { build with
    diagnostics := build.diagnostics ++
      [{ code := code, severity := severity, file := rule.file, line := rule.line,
         originalLine := rule.originalLine, message := message }] }

/-- The first part of `add`: the rule with its value normalized, and the network of an address
rule, or the code and the text of the error. -/
def normalize (rule : Rule) : Except (String × String) (Rule × BitVec 32 × Nat) :=
  match rule.condition with
  | .ipv4Cidr =>
    if !rule.resolver.isEmpty then
      .error ("dns_ip_condition", "DNS exceptions cannot contain IP conditions")
    else
      match cidr rule.value with
      | none => .error ("invalid_cidr", "Invalid IPv4 CIDR")
      | some (address, length) =>
        .ok ({ rule with value := cidrText address length }, address, length)
  | .regexp =>
    if rule.value.isEmpty then .error ("invalid_regex", "Empty regular expression")
    else .ok (rule, 0, 0)
  | .keyword =>
    let folded := lower rule.value
    if folded.isEmpty || folded.any (fun char => decide (char ≤ 32) || decide (char ≥ 127)) then
      .error ("invalid_keyword", "Keywords must be nonempty printable ASCII without whitespace")
    else .ok ({ rule with value := folded }, 0, 0)
  | _ =>
    match domain rule.value with
    | none => .error ("invalid_domain", "Domain must contain valid ASCII/Punycode labels")
    | some folded => .ok ({ rule with value := folded }, 0, 0)

def key (rule : Rule) : RuleKey :=
  { dns := !rule.resolver.isEmpty, condition := rule.condition, value := rule.value }

def place (rule : Rule) : Text := rule.file ++ text ":" ++ Decimal.decimal rule.line

/-- The rule in the lookup of its kind; nothing when its pattern is rejected. -/
def enter (regex : Regex) (rule : Rule) (id : Nat) (lookup : DomainIndex) : Option DomainIndex :=
  match rule.condition with
  | .regexp =>
    (regex rule.value).map fun search =>
      { lookup with regex := lookup.regex ++ [(id, search)] }
  | .exact =>
    some { lookup with
      exact := Function.update lookup.exact rule.value (lookup.exact rule.value ++ [id]) }
  | .suffix | .subdomain =>
    some { lookup with suffix := Trie.add lookup.suffix rule.value.reverse id }
  | .keyword => some { lookup with keywords := Trie.add lookup.keywords rule.value id }
  | .ipv4Cidr => some lookup

def insert (regex : Regex) (rule : Rule) (address : BitVec 32) (length : Nat) (index : Index) :
    Option Index :=
  let id := index.rules.length
  if rule.condition = .ipv4Cidr then
    some { index with
      prefixes := Trie.add index.prefixes (leadingBits address length) id
      rules := index.rules ++ [rule] }
  else if rule.resolver.isEmpty then
    (enter regex rule id index.domain).map fun lookup =>
      { index with domain := lookup, rules := index.rules ++ [rule] }
  else
    (enter regex rule id index.dns).map fun lookup =>
      { index with dns := lookup, rules := index.rules ++ [rule] }

/-- The last part of `add`: the rule gets its order and is entered. -/
def append (regex : Regex) (rule : Rule) (address : BitVec 32) (length : Nat)
    (prior : Option Nat) (build : Build) : Build :=
  let ordered := { rule with order := build.order }
  let build := { build with order := build.order + 1 }
  match insert regex ordered address length build.index with
  | none => build.report ordered "invalid_regex" (text "Invalid ECMAScript regular expression")
  | some index =>
    { build with
      index := index
      duplicates :=
        if prior.isNone || rule.origin == .explicit then
          Function.update build.duplicates (key rule) (some build.index.rules.length)
        else build.duplicates }

def add (regex : Regex) (given : Rule) (build : Build) : Build :=
  match normalize given with
  | .error (code, message) => build.report given code (text message)
  | .ok (rule, address, length) =>
    let prior := build.duplicates (key rule)
    match prior with
    | none => build.append regex rule address length prior
    | some id =>
      let first := ruleAt build.index.rules id
      if first.origin = .explicit ∧ rule.origin = .explicit then
        let same := first.resolver == rule.resolver &&
          (!rule.resolver.isEmpty || first.action == rule.action)
        let message := text "Condition previously declared at " ++ place first
        if same then build.report rule "duplicate_rule" message .warning
        else
          (build.report rule "conflicting_rule" message).report first "conflicting_rule"
            (text "Conflicting condition also declared at " ++ place rule)
      else
        (build.report rule "shadowed_condition"
          (text "Same condition also supplied by " ++ first.sourceName ++ text " at " ++
            place first) .warning).append regex rule address length prior

/-- `condition`: the condition that a text of the rules stands for. -/
def condition (regex : Regex) (rule : Rule) (value : Text) (build : Build) : Build :=
  if startsWith value "regexp:" then
    build.add regex { rule with condition := .regexp, value := value.drop 7 }
  else if startsWith value "keyword:" then
    build.add regex { rule with condition := .keyword, value := value.drop 8 }
  else if startsWith value "full:" then
    build.add regex { rule with condition := .exact, value := value.drop 5 }
  else if startsWith value "=" then
    build.add regex { rule with condition := .exact, value := value.drop 1 }
  else if startsWith value "*." then
    build.add regex { rule with condition := .subdomain, value := value.drop 2 }
  else if value.contains 58 then
    build.report rule "unsupported_ipv6"
      (text "IPv6 conditions and unknown condition prefixes are unsupported")
  else if (cidr value).isNone && value.contains 46 &&
      value.all (fun char => Decimal.isDigit char || char == 46 || char == 47) then
    build.report rule "invalid_cidr" (text "Invalid numeric IPv4 condition")
  else
    build.add regex { rule with
      condition := if (cidr value).isSome || value.contains 47 then .ipv4Cidr else .suffix
      value := value }

/-- The networks of `lan`. -/
def lanNetworks : List String :=
  ["0.0.0.0/8", "10.0.0.0/8", "127.0.0.0/8", "169.254.0.0/16", "172.16.0.0/12",
    "192.168.0.0/16", "224.0.0.0/4", "255.255.255.255/32"]

def GeoDomainType.condition : GeoDomainType → Condition
  | .full => .exact
  | .domain => .suffix
  | .regex => .regexp
  | .plain => .keyword

def addGeoIp (regex : Regex) (rule : Rule) (data : GeoIpData) (build : Build) : Build :=
  if !data.succeeded then
    build.report rule "rule_set_unavailable" (text "GeoIP source unavailable or malformed")
  else
    let build := { build with
      index := { build.index with skippedIpv6 := build.index.skippedIpv6 + data.ipv6Entries } }
    let build :=
      if data.skipped = 0 then build
      else build.report rule "skipped_geo_entries"
        (Decimal.decimal data.skipped ++ text " invalid GeoIP entries skipped") .warning
    data.entries.foldl (fun build entry =>
      if entry.addressSize ≠ 4 then build
      else
        build.add regex { rule with
          line := entry.line, originalLine := entry.cidr, condition := .ipv4Cidr,
          value := entry.cidr }) build

def addGeoSite (regex : Regex) (rule : Rule) (data : GeoSiteData) (build : Build) : Build :=
  if !data.succeeded then
    build.report rule "rule_set_unavailable" (text "GeoSite source unavailable or malformed")
  else
    let build :=
      if data.skipped = 0 then build
      else build.report rule "skipped_geo_entries"
        (Decimal.decimal data.skipped ++ text " invalid GeoSite entries skipped") .warning
    data.entries.foldl (fun build entry =>
      build.add regex { rule with
        line := entry.line, originalLine := entry.value, value := entry.value,
        condition := GeoDomainType.condition entry.type }) build

section Lines

variable (regex : Regex) (reader : GeoReader) (source : Source)

def addSet (rule : Rule) (name : Text) (build : Build) : Build :=
  match source.ruleSets.lookup name with
  | none => build.report rule "unknown_rule_set" (text "Reference to undeclared rule set")
  | some ruleSet =>
    let rule := { rule with origin := .ruleSet, sourceName := name, file := ruleSet.path }
    if ruleSet.format = text "geoip-dat" ∨ ruleSet.format = text "geoip-text" then
      if !rule.resolver.isEmpty then
        build.report rule "dns_ip_condition" (text "DNS exceptions cannot reference IP rule sets")
      else build.addGeoIp regex rule (reader.geoIp ruleSet)
    else if ruleSet.format = text "geosite-dat" ∨ ruleSet.format = text "geosite-text" then
      build.addGeoSite regex rule (reader.geoSite ruleSet)
    else build.report rule "unsupported_rule_set_format" (text "Unsupported rule-set format")

def parseAction (value : Text) : Option Action :=
  if value = text "direct" then some .direct
  else if value = text "proxy" then some .proxy
  else if value = text "reject" then some .reject
  else none

def openSection (rule : Rule) (value : Text) (build : Build) : Build :=
  if value.getLast? ≠ some 93 then
    build.report rule "invalid_section" (text "Malformed group header")
  else
    let group := value.tail.dropLast
    if startsWith group "dns:" then
      let resolver := group.drop 4
      let build := { build with resolver := resolver, hasSection := true }
      if (source.resolvers.lookup resolver).isSome then build
      else build.report rule "unknown_resolver" (text "DNS group references an undeclared resolver")
    else
      match parseAction group with
      | some action => { build with resolver := [], hasSection := true, action := action }
      | none =>
        { build with resolver := [], hasSection := false }.report rule "invalid_section"
          (text "Unknown action group")

def setDefault (rule : Rule) (value : Text) (build : Build) : Build :=
  let invalid := text "Exactly one default direct/proxy/reject directive is required"
  let build' :=
    if build.hasDefault then build.report rule "invalid_default" invalid
    else
      match parseAction (trim (value.drop 8)) with
      | none => build.report rule "invalid_default" invalid
      | some action =>
        { build with index := { build.index with fallback := action, defaultLocation := rule } }
  { build' with hasDefault := true }

def bindDns (rule : Rule) (value : Text) (build : Build) : Build :=
  let parts := words value
  let via := parts.getD 1 []
  let name := parts.getD 2 []
  let extra := parts.getD 3 []
  let fits := !name.isEmpty && extra.isEmpty && (source.resolvers.lookup name).isSome
  if via = text "direct" ∧ fits ∧ build.index.dnsDirect = [] then
    { build with index := { build.index with dnsDirect := name } }
  else if via = text "proxy" ∧ fits ∧ build.index.dnsProxy = [] then
    { build with index := { build.index with dnsProxy := name } }
  else
    build.report rule "invalid_dns_binding"
      (text "DNS binding requires a declared resolver and a unique direct/proxy action")

def addLine (rule : Rule) (value : Text) (build : Build) : Build :=
  if startsWith value "[" then build.openSection source rule value
  else if startsWith value "default " then build.setDefault rule value
  else if startsWith value "dns " then build.bindDns source rule value
  else if !build.hasSection then
    build.report rule "missing_section" (text "Condition requires an action or DNS group")
  else if value = text "lan" then
    lanNetworks.foldl (fun build network => build.condition regex rule (text network)) build
  else if startsWith value "set:" then
    build.addSet regex reader source rule (trim (value.drop 4))
  else build.condition regex rule value

def readLine (original : Text) (line : Nat) (build : Build) : Build :=
  let value := trim original
  if value.isEmpty || startsWith value "#" || startsWith value ";" then build
  else
    let value := (before (text " #") value).elim value trim
    let rule : Rule :=
      { file := source.rulesPath, line := line, originalLine := original, action := build.action,
        resolver := build.resolver, sourceName := text "explicit", order := build.order }
    { build with order := build.order + 1 }.addLine regex reader source rule value

def readLines : List Text → Nat → Build → Build
  | [], _, build => build
  | original :: rest, line, build =>
    readLines rest (line + 1) (build.readLine regex reader source original line)

def finish (build : Build) : Build :=
  let location : Rule := { file := source.rulesPath }
  let build :=
    if build.index.dnsDirect.isEmpty || build.index.dnsProxy.isEmpty then
      build.report location "missing_dns_binding"
        (text "Both direct and proxy DNS bindings are required")
    else build
  if source.version ≠ 2 then
    build.report location "unsupported_version" (text "Compiler accepts only policy version 2")
  else build

end Lines

end Build

/-- `Failures` on both automata. -/
def Index.link (index : Index) : Index :=
  { index with
    domain := { index.domain with keywords := AhoCorasick.failures index.domain.keywords }
    dns := { index.dns with keywords := AhoCorasick.failures index.dns.keywords } }

def Build.start (source : Source) (version : Nat) : Build :=
  { index :=
      { version := version, resolvers := source.resolvers,
        defaultLocation := { file := source.rulesPath, sourceName := text "default" } } }

def Build.read (regex : Regex) (reader : GeoReader) (source : Source) (version : Nat) : Build :=
  (Build.readLines regex reader source (lines source.rulesText) 1
    (Build.start source version)).finish source

end OpenPpp2.Policy
