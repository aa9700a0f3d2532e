import OpenPpp2.Policy.IndexContent

/-!
# What a policy text declares

The rules of a policy are read off its lines and rule sets one after another, without an index. A
policy that is compiled without an error has these rules.
-/

namespace OpenPpp2.Policy

open Lib List Option

def Rule.written (rule : Rule) (value : Text) : Rule :=
  if startsWith value "regexp:" then { rule with condition := .regexp, value := value.drop 7 }
  else if startsWith value "keyword:" then
    { rule with condition := .keyword, value := value.drop 8 }
  else if startsWith value "full:" then { rule with condition := .exact, value := value.drop 5 }
  else if startsWith value "=" then { rule with condition := .exact, value := value.drop 1 }
  else if startsWith value "*." then { rule with condition := .subdomain, value := value.drop 2 }
  else if (cidr value).isSome || value.contains 47 then
    { rule with condition := .ipv4Cidr, value := value }
  else { rule with condition := .suffix, value := value }

section

variable (reader : GeoReader) (source : Source)

def geoIpRules (rule : Rule) (data : GeoIpData) : List Rule :=
  data.entries.flatMap fun entry =>
    if entry.addressSize ≠ 4 then []
    else
      [{ rule with
         line := entry.line, originalLine := entry.cidr, condition := .ipv4Cidr,
         value := entry.cidr }]

def geoSiteRules (rule : Rule) (data : GeoSiteData) : List Rule :=
  data.entries.map fun entry =>
    { rule with
      line := entry.line, originalLine := entry.value, value := entry.value,
      condition := Build.GeoDomainType.condition entry.type }

def setRules (rule : Rule) (name : Text) : List Rule :=
  (source.ruleSets.lookup name).elim [] fun ruleSet =>
    let rule := { rule with origin := .ruleSet, sourceName := name, file := ruleSet.path }
    if ruleSet.format = text "geoip-dat" ∨ ruleSet.format = text "geoip-text" then
      geoIpRules rule (reader.geoIp ruleSet)
    else geoSiteRules rule (reader.geoSite ruleSet)

def lineRules (rule : Rule) (value : Text) : List Rule :=
  if value = text "lan" then Build.lanNetworks.map fun network => rule.written (text network)
  else if startsWith value "set:" then setRules reader source rule (trim (value.drop 4))
  else [rule.written value]

structure Reading where
  rules : List Rule := []
  action : Action := .proxy
  resolver : Text := []
  fallback : Action := .proxy

namespace Reading

def openGroup (group : Text) (reading : Reading) : Reading :=
  if startsWith group "dns:" then { reading with resolver := group.drop 4 }
  else { reading with resolver := [], action := (Build.parseAction group).getD reading.action }

def template (original : Text) (line : Nat) (reading : Reading) : Rule :=
  { file := source.rulesPath, line := line, originalLine := original, action := reading.action,
    resolver := reading.resolver, sourceName := text "explicit" }

def readStatement (original : Text) (line : Nat) (value : Text) (reading : Reading) : Reading :=
  if startsWith value "[" then reading.openGroup value.tail.dropLast
  else if startsWith value "default " then
    { reading with fallback := (Build.parseAction (trim (value.drop 8))).getD reading.fallback }
  else if startsWith value "dns " then reading
  else
    { reading with
      rules := reading.rules ++
        (lineRules reader source (reading.template source original line) value).map Rule.normal }

def readLine (original : Text) (line : Nat) (reading : Reading) : Reading :=
  let value := trim original
  if value.isEmpty || startsWith value "#" || startsWith value ";" then reading
  else
    reading.readStatement reader source original line ((before (text " #") value).elim value trim)

def readLines : List Text → Nat → Reading → Reading
  | [], _, reading => reading
  | original :: rest, line, reading =>
    readLines rest (line + 1) (reading.readLine reader source original line)

end Reading

def declared : Reading := Reading.readLines reader source (lines source.rulesText) 1 {}

end

/-- No error has been reported, so that the policy is accepted. -/
def Build.Clean (build : Build) : Prop :=
  ∀ diagnostic ∈ build.diagnostics, diagnostic.severity ≠ .error

variable {regex : Regex} {build : Build} {rule : Rule} {address : BitVec 32} {length : Nat}

variable {message : Text} {code : String}

@[simp] theorem clean_report {severity : Severity} :
    (build.report rule code message severity).Clean ↔ build.Clean ∧ severity ≠ .error := by
  simp [Build.Clean, Build.report, or_imp, forall_and]

theorem clean_of_append {prior : Option Nat}
    (clean : (build.append regex rule address length prior).Clean) : build.Clean := by
  simp only [Build.append] at clean
  split at clean
  · exact (clean_report.1 clean).1
  · exact clean

theorem clean_of_add (clean : (build.add regex rule).Clean) : build.Clean := by
  simp only [Build.add] at clean
  split at clean
  · exact (clean_report.1 clean).1
  split at clean
  · exact clean_of_append clean
  split_ifs at clean
  · exact (clean_report.1 clean).1
  · exact (clean_report.1 (clean_report.1 clean).1).1
  · exact (clean_report.1 (clean_of_append clean)).1

/-- What `Better` and the lookups read of a rule, its order apart. -/
def Rule.Alike (first second : Rule) : Prop :=
  first.origin = second.origin ∧ first.condition = second.condition ∧
    first.value = second.value ∧ first.resolver = second.resolver

def Rule.unordered (rule : Rule) : Rule := { rule with order := 0 }

/-- The kept rules are given ones, in their order, and every given rule has one like it among them:
itself or, where it repeats a condition, an earlier one. -/
structure Retained (given kept : List Rule) : Prop where
  sublist : kept.map Rule.unordered <+ given.map Rule.unordered
  covered : ∀ rule ∈ given, ∃ first ∈ kept, first.Alike rule

section

variable {given kept : List Rule} (retained : Retained given kept)
include retained

theorem Retained.drop {first : Rule} (member : first ∈ kept) (alike : first.Alike rule) :
    Retained (given ++ [rule]) kept := by
  constructor
  · rw [map_append]
    exact retained.sublist.trans (sublist_append_left ..)
  · simpa [or_imp, forall_and] using ⟨retained.covered, first, member, alike⟩

theorem Retained.push (rule : Rule) (order : Nat) :
    Retained (given ++ [rule]) (kept ++ [{ rule with order := order }]) := by
  constructor
  · rw [map_append, map_append]
    exact retained.sublist.append (.refl _)
  · intro each member
    rcases mem_append.1 member with old | new
    · obtain ⟨first, listed, alike⟩ := retained.covered each old
      exact ⟨first, mem_append_left _ listed, alike⟩
    · rw [mem_singleton.1 new]
      exact ⟨_, mem_append_right _ (mem_singleton.2 rfl), rfl, rfl, rfl, rfl⟩

end

/-- The state of the compiler: the index lists the declared rules, which are normal and in order. -/
structure Sound (regex : Regex) (reading : Reading) (build : Build) : Prop where
  indexed : Indexed regex build.index
  normal : ∀ rule ∈ build.index.rules, Normal rule
  ordered : build.index.rules.Pairwise fun first second => first.order < second.order
  below : ∀ rule ∈ build.index.rules, rule.order < build.order
  known : ∀ key id, build.duplicates key = some id →
    ∃ rule, build.index.rules[id]? = some rule ∧ Build.key rule = key
  retained : Retained reading.rules build.index.rules
  action : build.action = reading.action
  resolver : build.resolver = reading.resolver
  fallback : build.index.fallback = reading.fallback

section

variable {reading : Reading}

theorem ruleAt_of_getElem? {rules : List Rule} {id : Nat} (found : rules[id]? = some rule) :
    ruleAt rules id = rule := by
  unfold ruleAt
  rw [getD_eq_getElem?_getD, found, Option.getD_some]

section

variable (sound : Sound regex reading build)
include sound

variable {diagnostics : List Diagnostic}

theorem Sound.beside {next : Reading} {order skipped : Nat} {location : Rule}
    {direct proxy resolver : Text} {hasDefault hasSection : Bool}
    {action fallback : Action} (later : build.order ≤ order) (rules : next.rules = reading.rules)
    (action_eq : action = next.action) (resolver_eq : resolver = next.resolver)
    (fallback_eq : fallback = next.fallback) : Sound regex next { build with
      order := order, diagnostics := diagnostics, hasDefault := hasDefault,
      hasSection := hasSection, action := action, resolver := resolver
      index := { build.index with
        skippedIpv6 := skipped, fallback := fallback, defaultLocation := location,
        dnsDirect := direct, dnsProxy := proxy } } where
  indexed := ⟨sound.indexed.domain, sound.indexed.dns, sound.indexed.prefixes⟩
  normal := sound.normal
  ordered := sound.ordered
  below := fun rule member => lt_of_lt_of_le (sound.below rule member) later
  known := sound.known
  retained := rules ▸ sound.retained
  action := action_eq
  resolver := resolver_eq
  fallback := fallback_eq

theorem Sound.aside {skipped : Nat} : Sound regex reading { build with
      index := { build.index with skippedIpv6 := skipped }, diagnostics := diagnostics } :=
  sound.beside le_rfl rfl sound.action sound.resolver sound.fallback

theorem Sound.append {order : Nat} (normal : Normal rule)
    (network : rule.condition = .ipv4Cidr → cidr rule.value = some (address, length))
    (prior : Option Nat)
    (clean : (build.append regex { rule with order := order } address length prior).Clean) :
    Sound regex { reading with rules := reading.rules ++ [rule] }
      (build.append regex { rule with order := order } address length prior) := by
  unfold Build.append at clean ⊢
  dsimp only at clean ⊢
  split at clean
  · exact absurd rfl (clean_report.1 clean).2
  case h_2 index made =>
    have ready : ({ rule with order := build.order } : Rule).condition = .ipv4Cidr →
        cidr ({ rule with order := build.order } : Rule).value = some (address, length) := network
    obtain ⟨indexed, grown, same⟩ := insert_spec sound.indexed ready made
    refine ⟨indexed, ?_, ?_, ?_, ?_, grown ▸ sound.retained.push rule build.order, sound.action,
      sound.resolver, same.trans sound.fallback⟩
    · rw [grown]
      intro each member
      rcases mem_append.mp member with old | new
      · exact sound.normal each old
      · rw [mem_singleton.mp new]
        exact ⟨normal.network, normal.nonempty⟩
    · rw [grown, pairwise_append]
      apply And.intro sound.ordered
      apply And.intro (pairwise_singleton _ _)
      intro first old second new
      rw [mem_singleton.mp new]
      exact sound.below first old
    · rw [grown]
      intro each member
      rcases mem_append.mp member with old | new
      · exact Nat.lt_succ_of_lt (sound.below each old)
      · rw [mem_singleton.mp new]
        exact Nat.lt_succ_self _
    · rw [grown]
      have kept : ∀ key id, build.duplicates key = some id → ∃ found,
          (build.index.rules ++ [{ rule with order := build.order }])[id]? = some found ∧
            Build.key found = key := by
        intro key id found
        obtain ⟨first, held, same⟩ := sound.known key id found
        exact ⟨first, getElem?_push_eq_some.2 (.inl held), same⟩
      intro key id found
      dsimp only at found
      split_ifs at found
      · by_cases own : key = Build.key { rule with order := order }
        · rw [own, Function.update_self] at found
          cases found
          exact ⟨_, getElem?_push_eq_some.2 (.inr ⟨rfl, rfl⟩), own.symm⟩
        · rw [Function.update_of_ne own] at found
          exact kept key id found
      · exact kept key id found

theorem Sound.add (given : Rule) (order : Nat)
    (clean : (build.add regex { given with order := order }).Clean) :
    Sound regex { reading with rules := reading.rules ++ [given.normal] }
      (build.add regex { given with order := order }) := by
  unfold Build.add at clean ⊢
  split at clean
  · exact absurd rfl (clean_report.1 clean).2
  case h_2 rule address length made =>
    obtain ⟨rfl, normal, network⟩ := normalize_spec made
    have plain : Normal given.normal := ⟨normal.network, normal.nonempty⟩
    dsimp only at clean ⊢
    split at clean
    case h_1 unknown => exact sound.append plain network _ clean
    case h_2 id found =>
      split_ifs at clean ⊢ with explicit same
      · obtain ⟨first, held, key⟩ := sound.known _ id found
        rw [ruleAt_of_getElem? held] at explicit same
        simp only [Build.key, RuleKey.mk.injEq] at key
        have resolver := beq_iff_eq.1 (Bool.and_eq_true_iff.1 same).1
        exact ⟨sound.indexed, sound.normal, sound.ordered, sound.below, sound.known,
          sound.retained.drop (mem_of_getElem? held)
            ⟨explicit.1.trans explicit.2.symm, key.2.1, key.2.2, resolver⟩,
          sound.action, sound.resolver, sound.fallback⟩
      · exact absurd rfl (clean_report.1 clean).2
      · exact sound.aside.append plain network _ clean

end

/-- The compiler goes on as the reading of the text does, unless it reports an error. -/
def Reads (regex : Regex) (reading : Reading) (build : Build) (next : Reading) (other : Build) :
    Prop :=
  (other.Clean → build.Clean) ∧ (Sound regex reading build → other.Clean → Sound regex next other)

def Reading.append (given : List Rule) (reading : Reading) : Reading :=
  { reading with rules := reading.rules ++ given.map Rule.normal }

namespace Reads

variable {next : Reading} {other : Build}

theorem trans {final : Reading} {last : Build} (one : Reads regex reading build next other)
    (two : Reads regex next other final last) : Reads regex reading build final last :=
  ⟨fun clean => one.1 (two.1 clean), fun sound clean => two.2 (one.2 sound (two.1 clean)) clean⟩

theorem fails {build middle : Build} (clean : middle.Clean → build.Clean) :
    Reads regex reading build next (middle.report rule code message) :=
  ⟨fun done => clean (clean_report.1 done).1, fun _ done => absurd rfl (clean_report.1 done).2⟩

theorem refl : Reads regex reading build reading build := ⟨id, fun sound _ => sound⟩

theorem warns : Reads regex reading build reading (build.report rule code message .warning) :=
  ⟨fun done => (clean_report.1 done).1, fun sound _ => sound.aside⟩

theorem add (given : Rule) (order : Nat) : Reads regex reading build (reading.append [given])
      (build.add regex { given with order := order }) :=
  ⟨clean_of_add, fun sound => sound.add given order⟩

theorem foldl {α : Type} {step : Build → α → Build} {given : α → List Rule}
    (each : ∀ reading build value,
      Reads regex reading build (reading.append (given value)) (step build value))
    (values : List α) : Reads regex reading build (reading.append (values.flatMap given))
      (values.foldl step build) := by
  induction values generalizing reading build with
  | nil => simpa [Reading.append] using refl
  | cons value rest ih =>
    have both := (each reading build value).trans ih
    rwa [Reading.append, Reading.append, append_assoc, ← map_append] at both

variable (rule) (order : Nat)

theorem condition (value : Text) : Reads regex reading build (reading.append [rule.written value])
      (build.condition regex { rule with order := order } value) := by
  unfold Build.condition Rule.written
  split_ifs
  all_goals first
    | exact add _ order
    | exact fails id

theorem addGeoIp (data : GeoIpData) :
    Reads regex reading build (reading.append (geoIpRules rule data))
      (build.addGeoIp regex { rule with order := order } data) := by
  unfold Build.addGeoIp
  split
  · exact fails id
  have counted : Reads regex reading build reading { build with
      index := { build.index with skippedIpv6 := build.index.skippedIpv6 + data.ipv6Entries } } :=
    ⟨id, fun sound _ => sound.aside⟩
  refine trans ?_ (foldl (fun reading build entry => ?_) _)
  · split
    · exact counted
    · exact counted.trans warns
  · split_ifs
    · simpa [Reading.append] using refl
    · exact add _ order

theorem addGeoSite (data : GeoSiteData) :
    Reads regex reading build (reading.append (geoSiteRules rule data))
      (build.addGeoSite regex { rule with order := order } data) := by
  unfold Build.addGeoSite geoSiteRules
  rw [map_eq_flatMap]
  split
  · exact fails id
  refine trans ?_ (foldl (fun _ _ entry => add _ order) _)
  split
  · exact refl
  · exact warns

variable (reader : GeoReader) (source : Source)

theorem addSet (name : Text) :
    Reads regex reading build (reading.append (setRules reader source rule name))
      (build.addSet regex reader source { rule with order := order } name) := by
  unfold Build.addSet setRules
  rcases source.ruleSets.lookup name with _ | ruleSet
  · exact fails id
  dsimp only [Option.elim]
  split_ifs
  · exact fails id
  · exact addGeoIp _ order _
  · exact addGeoSite _ order _
  · exact fails id

variable (value : Text)

theorem openSection : Reads regex reading build (reading.openGroup value.tail.dropLast)
      (build.openSection source rule value) := by
  unfold Build.openSection Reading.openGroup
  dsimp only
  split_ifs
  · exact fails id
  · exact ⟨id, fun sound _ => sound.beside le_rfl rfl sound.action rfl sound.fallback⟩
  · exact fails id
  · exact fails id
  split
  case h_1 action found =>
    exact ⟨id, fun sound _ => sound.beside le_rfl rfl (by rw [found]; rfl) rfl sound.fallback⟩
  · exact fails id

theorem setDefault : Reads regex reading build { reading with
        fallback := (Build.parseAction (trim (value.drop 8))).getD reading.fallback }
      (build.setDefault rule value) := by
  have refused : ∀ {code message next}, Reads regex reading build next
      (Build.report rule code message .error { build with hasDefault := true }) := fails id
  unfold Build.setDefault
  dsimp only
  split_ifs
  · exact refused
  split
  · exact refused
  case h_2 action found =>
    rw [found]
    exact ⟨id, fun sound _ => sound.beside le_rfl rfl sound.action sound.resolver rfl⟩

theorem bindDns : Reads regex reading build reading (build.bindDns source rule value) := by
  unfold Build.bindDns
  dsimp only
  split_ifs
  · exact ⟨id, fun sound _ => sound.beside le_rfl rfl sound.action sound.resolver sound.fallback⟩
  · exact ⟨id, fun sound _ => sound.beside le_rfl rfl sound.action sound.resolver sound.fallback⟩
  · exact fails id

theorem addLine (original : Text) (line : Nat) :
    Reads regex reading build (reading.readStatement reader source original line value)
      (build.addLine regex reader source
        { reading.template source original line with order := order } value) := by
  unfold Build.addLine Reading.readStatement lineRules
  split_ifs
  · exact openSection ..
  · exact setDefault ..
  · exact bindDns ..
  · exact fails id
  · rw [map_eq_flatMap]
    exact foldl (fun _ _ network => condition _ order (text network)) _
  · exact fails id
  · exact addSet _ order ..
  · exact fails id
  · exact condition _ order value

theorem readLine (original : Text) (line : Nat) :
    Reads regex reading build (reading.readLine reader source original line)
      (build.readLine regex reader source original line) := by
  unfold Build.readLine Reading.readLine
  dsimp only
  split
  · exact refl
  -- the rule is stamped with the group of the compiler, which is that of the reading
  let grouped : Reading := { reading with action := build.action, resolver := build.resolver }
  have stated : Reads regex grouped { build with order := build.order + 1 } _ _ :=
    addLine build.order reader source ((before (text " #") (trim original)).elim (trim original)
      trim) original line
  refine ⟨stated.1, fun sound clean => ?_⟩
  have same : grouped = reading := by
    simp only [grouped, sound.action, sound.resolver]
  rw [← same]
  refine stated.2 ?_ clean
  rw [same]
  exact sound.beside (Nat.le_succ _) rfl sound.action sound.resolver sound.fallback

theorem readLines (originals : List Text) (line : Nat) :
    Reads regex reading build (reading.readLines reader source originals line)
      (build.readLines regex reader source originals line) := by
  induction originals generalizing line reading build with
  | nil => exact refl
  | cons original rest ih => exact (readLine reader source original line).trans (ih _)

end Reads

variable {reader : GeoReader} {source : Source} (version : Nat)

end

end OpenPpp2.Policy
