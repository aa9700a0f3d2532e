import OpenPpp2.Policy.BundleLive
import OpenPpp2.Policy.UpdateService

/-!
# The bundle of a call and the source it compiles

A call compiles the declaration with the bytes of the bundle it stores, and so does the restoration
of a bundle.
-/

namespace OpenPpp2.Policy

open List Prod

variable {codec : Codec} {surroundings : Surroundings}

def RuleSet.materialize (ruleSet : RuleSet) (source : Option DurableSource) : RuleSet :=
  match source with
  | some source => { ruleSet with text := source.bytes, materialized := true }
  | none => ruleSet

def Source.materialize (declared : Source) (bundle : Bundle) : Source :=
  { declared with
    rulesText := bundle.rules
    ruleSets := declared.ruleSets.map fun entry =>
      (entry.1, entry.2.materialize (bundle.ruleSets.lookup entry.1)) }

theorem materialize_congr {first second : Bundle} (rules : first.rules = second.rules)
    (bytes : ∀ name, (first.ruleSets.lookup name).map DurableSource.bytes =
      (second.ruleSets.lookup name).map DurableSource.bytes) (declared : Source) :
    declared.materialize first = declared.materialize second := by
  have same : ∀ entry : Text × RuleSet,
      entry.2.materialize (first.ruleSets.lookup entry.1) =
        entry.2.materialize (second.ruleSets.lookup entry.1) := by
    intro entry
    have equal := bytes entry.1
    generalize first.ruleSets.lookup entry.1 = source at equal
    generalize second.ruleSets.lookup entry.1 = other at equal
    cases source <;> cases other <;> simp_all [RuleSet.materialize]
  simp only [Source.materialize, same, rules]

theorem lookup_stored (sources : List (Text × DurableSource)) (name : Text) :
    (sources.map fun entry => (entry.1, entry.2.stored)).lookup name =
      (sources.lookup name).map DurableSource.stored := by
  induction sources with
  | nil => rfl
  | cons entry rest ih =>
    rcases entry with ⟨key, source⟩
    by_cases same : name == key
    · simp [lookup_cons, same]
    · simp [lookup_cons, same, ih]

theorem materialize_stored (declared : Source) (bundle : Bundle) :
    declared.materialize bundle.stored = declared.materialize bundle := by
  apply materialize_congr (show bundle.stored.rules = bundle.rules from rfl)
  intro name
  simp only [Bundle.stored, lookup_stored, Option.map_map]
  rfl

variable {name : Text} {sources : List (Text × DurableSource)} {bundle : Bundle} {ruleSet : RuleSet}
    {aggregate : Nat} {source : DurableSource} {old : Option Bundle} {via : Action}
    {identity : Text}

theorem lookup_eq_none_of_not_mem
    (missing : name ∉ sources.map Prod.fst) : sources.lookup name = none := by
  rw [lookup_eq_none_iff]
  intro entry member
  rw [bne_iff_ne]
  rintro rfl
  exact missing (mem_map.mpr ⟨entry, member, rfl⟩)

theorem lookup_bytes_of_unchanged {old : Bundle} (keyed : (bundle.ruleSets.map Prod.fst).Nodup)
    (unchanged : bundleChanged (some old) bundle = false) (name : Text) :
    (bundle.ruleSets.lookup name).map DurableSource.bytes = (old.ruleSets.lookup name).map
      DurableSource.bytes := by
  simp only [bundleChanged, Bool.or_eq_false_iff, bne_eq_false_iff_eq, any_eq_false]
    at unchanged
  rcases unchanged with ⟨⟨_, lengths⟩, entries⟩
  have held : ∀ entry ∈ bundle.ruleSets,
      (old.ruleSets.lookup entry.1).map DurableSource.bytes = some entry.2.bytes := by
    intro entry member
    have tested := entries entry member
    split at tested
    · exact absurd rfl tested
    case h_2 source found =>
      simp only [bne_iff_ne, ne_eq, not_not] at tested
      simp [found, tested]
  by_cases listed : name ∈ bundle.ruleSets.map fst
  · cases found : bundle.ruleSets.lookup name with
    | none =>
      rw [lookup_eq_none_iff] at found
      rcases mem_map.mp listed with ⟨entry, member, rfl⟩
      exact absurd (found entry member) (by simp)
    | some source =>
      rcases lookup_eq_some_iff.mp found with ⟨before, after, split, _⟩
      have member : (name, source) ∈ bundle.ruleSets := by simp [split]
      exact (held _ member).symm
  · -- the names of the bundle are all names of the old one, which has as many
    have subset : bundle.ruleSets.map fst ⊆ old.ruleSets.map fst := by
      intro key member
      rcases mem_map.mp member with ⟨entry, inside, rfl⟩
      by_contra missing
      have lost := held entry inside
      rw [lookup_eq_none_of_not_mem missing] at lost
      cases lost
    have perm : (bundle.ruleSets.map fst).Perm (old.ruleSets.map fst) :=
      (subperm_of_subset keyed subset).perm_of_length_le (by simp [lengths])
    have absent : name ∉ old.ruleSets.map fst := fun member => listed (perm.mem_iff.mpr member)
    rw [lookup_eq_none_of_not_mem listed, lookup_eq_none_of_not_mem absent]

theorem materialize_of_unchanged {old : Bundle} (keyed : (bundle.ruleSets.map Prod.fst).Nodup)
    (unchanged : bundleChanged (some old) bundle = false) (declared : Source) :
    declared.materialize bundle = declared.materialize old := by
  apply materialize_congr _ (lookup_bytes_of_unchanged keyed unchanged)
  simp only [bundleChanged, Bool.or_eq_false_iff, bne_eq_false_iff_eq] at unchanged
  exact unchanged.1.1.symm

structure Gathered (codec : Codec) (name : Text) (ruleSet declared : RuleSet)
    (source : DurableSource) (aggregate : Nat) : Prop where
  declared : declared = { ruleSet with text := source.bytes, materialized := true }
  small : source.bytes.length ≤ sourceLimit
  room : aggregate ≤ bundleLimit - source.bytes.length

variable {declared : RuleSet}

theorem readLocal_spec (read : readLocal surroundings ruleSet = .ok declared) (bytes : Text) :
    { declared with text := bytes, materialized := true } =
      { ruleSet with text := bytes, materialized := true } := by
  unfold readLocal at read
  split_ifs at read
  · split at read <;> cases read
    rfl
  · cases read
    rfl

theorem checkGathered_spec (checked : checkGathered codec declared aggregate source = .ok ()) :
    source.bytes.length ≤ sourceLimit ∧ aggregate ≤ bundleLimit - source.bytes.length := by
  simp only [checkGathered, guard_eq_ok, Nat.not_lt] at checked
  exact ⟨checked.1, checked.2.2.1⟩

theorem bind_eq_ok {α β : Type} {first : Except String α} {rest : α → Except String β} {value : β} :
    (first >>= rest) = .ok value ↔ ∃ middle, first = .ok middle ∧ rest middle = .ok value := by
  cases first <;> simp [bind, Except.bind]

theorem gatherSource_spec
    (gathered : gatherSource codec surroundings via old name ruleSet aggregate =
      .ok (declared, source)) : Gathered codec name ruleSet declared source aggregate := by
  simp only [gatherSource, bind_eq_ok] at gathered
  rcases gathered with ⟨_, read, _, _, _, checked, ⟨⟩⟩
  have facts := checkGathered_spec checked
  exact ⟨readLocal_spec read _, facts.1, facts.2⟩

def withBytes (declared : List (Text × RuleSet)) (sources : List (Text × DurableSource)) :
    List (Text × RuleSet) :=
  List.zipWith (fun entry source =>
    (entry.1, { entry.2 with text := source.2.bytes, materialized := true })) declared sources

theorem gatherSources_spec {declared ruleSets : List (Text × RuleSet)}
    (gathered : gatherSources codec surroundings via old declared aggregate =
      .ok (ruleSets, sources)) :
    sources.map Prod.fst = declared.map Prod.fst ∧ ruleSets = withBytes declared sources ∧
      (aggregate ≤ bundleLimit → (∀ entry ∈ sources, refreshable codec entry) →
        ∃ total, checkSources codec sources aggregate = .ok total ∧ total ≤ bundleLimit) := by
  induction declared generalizing aggregate ruleSets sources with
  | nil =>
    rcases gathered with ⟨rfl, rfl⟩
    exact ⟨rfl, rfl, fun fits _ => ⟨aggregate, rfl, fits⟩⟩
  | cons entry rest ih =>
    rcases entry with ⟨name, ruleSet⟩
    simp only [gatherSources, bind_eq_ok] at gathered
    rcases gathered with ⟨first, one, more, many, ⟨⟩⟩
    have head := gatherSource_spec one
    have ⟨names, texts, checks⟩ := ih many
    apply And.intro (by simp [names])
    apply And.intro (by simp [withBytes, texts, head.declared])
    intro fits tested
    have room : aggregate + first.2.bytes.length ≤ bundleLimit := by
      have small := head.small
      have left := head.room
      unfold sourceLimit at small
      unfold bundleLimit at left ⊢
      omega
    have ⟨own, others⟩ := forall_mem_cons.mp tested
    simp only [refreshable, Bool.and_eq_true, Bool.or_eq_true, beq_iff_eq, decide_eq_true_eq,
      List.isEmpty_iff] at own
    rcases own with ⟨⟨⟨safe, named⟩, small⟩, pinned⟩
    simp only [checkSources_cons]
    rcases checks room others with ⟨total, checked, bound⟩
    exact ⟨total, ⟨safe, named, small, head.room, pinned, checked⟩, bound⟩

theorem withBytes_eq_map {declared : List (Text × RuleSet)}
    (names : sources.map Prod.fst = declared.map Prod.fst) (keyed : (declared.map Prod.fst).Nodup) :
    withBytes declared sources = declared.map fun entry =>
      (entry.1, entry.2.materialize (sources.lookup entry.1)) := by
  induction declared generalizing sources with
  | nil => rfl
  | cons entry rest ih =>
    cases sources with
    | nil => cases names
    | cons source more =>
      rcases entry with ⟨name, ruleSet⟩
      rcases source with ⟨key, source⟩
      simp only [map_cons, cons.injEq] at names
      rcases names with ⟨rfl, names⟩
      simp only [map_cons, nodup_cons] at keyed
      have tail := ih names keyed.2
      simp only [withBytes] at tail
      simp only [withBytes, zipWith_cons_cons, map_cons, lookup_cons_self,
        RuleSet.materialize, tail, cons.injEq, true_and]
      apply map_congr_left
      intro other member
      have ne : (other.1 == key) = false := by
        rw [beq_eq_false_iff_ne]
        rintro rfl
        exact keyed.1 (mem_map.mpr ⟨other, member, rfl⟩)
      simp [lookup_cons, ne]

/-- What a call gathers: the source it compiles is the one its bundle stands for. -/
structure GatheredBundle (codec : Codec) (identity : Text) (declared source : Source)
    (bundle : Bundle) : Prop where
  source : source = declared.materialize bundle
  names : bundle.ruleSets.map Prod.fst = declared.ruleSets.map Prod.fst
  identified : bundle.identityFingerprint = identity
  checked : (∀ entry ∈ bundle.ruleSets, refreshable codec entry) →
    safeDigest identity → checkBundle codec bundle = .ok ()

theorem gather_spec {declared : Declaration} {source : Source}
    (gathered : gather codec surroundings identity declared.source old = .ok (source, bundle)) :
    GatheredBundle codec identity declared.source source bundle := by
  simp only [gather, bind_eq_ok] at gathered
  rcases gathered with ⟨rules, found, both, many, ⟨⟩⟩
  have ⟨names, texts, checks⟩ := gatherSources_spec many
  have small : rules.length ≤ sourceLimit := by
    unfold gatherRules at found
    split at found
    · split_ifs at found with bound
      cases found
      exact Nat.not_lt.mp bound
    · split at found
      · cases found
      case h_2 read =>
        cases found
        simp only [readFile, Option.filter_eq_some_iff, decide_eq_true_eq] at read
        exact read.2
  have fits : rules.length ≤ bundleLimit := by
    unfold sourceLimit at small
    unfold bundleLimit
    omega
  constructor
  · simp only [Source.materialize]
    rw [texts, withBytes_eq_map names declared.keyed]
  · exact names
  · rfl
  · intro tested safe
    exact checkBundle_eq_ok.mpr ⟨rfl, safe, small, checks fits tested⟩

theorem restoreRuleSets_spec {declared ruleSets : List (Text × RuleSet)}
    (restored : Service.restoreRuleSets codec bundle declared = some ruleSets) :
    ruleSets = declared.map fun entry =>
      (entry.1, entry.2.materialize (bundle.ruleSets.lookup entry.1)) := by
  induction declared generalizing ruleSets with
  | nil =>
    cases restored
    rfl
  | cons entry rest ih =>
    rcases entry with ⟨name, ruleSet⟩
    simp only [Service.restoreRuleSets] at restored
    split at restored
    · cases restored
    case h_2 source found =>
      split_ifs at restored
      obtain ⟨more, others, rfl⟩ := Option.map_eq_some_iff.1 restored
      simp [ih others, found, RuleSet.materialize]

theorem restoreSource_spec {declared source : Source}
    (restored : Service.restoreSource codec identity declared bundle = .ok source) :
    source = declared.materialize bundle := by
  rw [Service.restoreSource, guard_eq_ok, guard_eq_ok] at restored
  have restored := restored.2.2
  split at restored
  · cases restored
  case h_2 ruleSets found =>
    cases restored
    simp only [Source.materialize, restoreRuleSets_spec found]

end OpenPpp2.Policy
