import Mathlib.Data.Finset.Card
import Mathlib.Data.List.Infix
import OpenPpp2.Lib.Trie

/-!
# Failure links and the search for many words at once

The links of a trie are set level by level: the link of a node leads to the node of the longest
proper suffix of its word that the trie has.
-/

namespace OpenPpp2.Lib.AhoCorasick

open Lib.Trie List Option

variable {α : Type} [DecidableEq α]

section Definitions

variable (nodes : List (Node α))

/-- The first node along the links, from `pos`, that has a child by the letter, or the root. The
loop is cut after `fuel` links. -/
def follow (letter : α) : Nat → Nat → Nat
  | 0, pos => pos
  | fuel + 1, pos =>
    if pos ≠ 0 ∧ child nodes pos letter = none then follow letter fuel (failure nodes pos)
    else pos

def next (pos : Nat) (letter : α) : Nat :=
  let stop := follow nodes letter nodes.length pos
  (child nodes stop letter).getD stop

def outputs : Nat → Nat → List Nat
  | 0, _ => []
  | fuel + 1, pos => if pos = 0 then [] else items nodes pos ++ outputs fuel (failure nodes pos)

def scan : Nat → List α → List Nat
  | _, [] => []
  | pos, letter :: rest =>
    outputs nodes nodes.length (next nodes pos letter) ++ scan (next nodes pos letter) rest

def deepest : List α → Nat
  | [] => 0
  | letter :: rest =>
    match walk nodes 0 (letter :: rest) with
    | some pos => pos
    | none => deepest rest

end Definitions

def setFailure (nodes : List (Node α)) (pos link : Nat) : List (Node α) :=
  nodes.modify pos fun node => { node with failure := link }

def relink (pos : Nat) : List (Σ _ : α, Nat) → List (Node α) → List (Node α)
  | [], nodes => nodes
  | edge :: rest, nodes =>
    relink pos rest (setFailure nodes edge.2 (next nodes (failure nodes pos) edge.1))

/-- The loop over the queue of nodes whose children have no link yet, cut after `fuel` nodes. -/
def spread : Nat → List Nat → List (Node α) → List (Node α)
  | 0, _, nodes => nodes
  | _ + 1, [], nodes => nodes
  | fuel + 1, pos :: queue, nodes =>
    spread fuel (queue ++ (children nodes pos).entries.map Sigma.snd)
      (relink pos (children nodes pos).entries nodes)

def failures (nodes : List (Node α)) : List (Node α) :=
  spread nodes.length ((children nodes 0).entries.map Sigma.snd) nodes

abbrev kids (nodes : List (Node α)) (pos : Nat) : List Nat :=
  (children nodes pos).entries.map Sigma.snd

variable {nodes : List (Node α)} {path : Nat → List α}

theorem deepest_lt (valid : Valid nodes path) (word : List α) :
    deepest nodes word < nodes.length := by
  induction word with
  | nil => exact valid.root
  | cons letter rest ih =>
    unfold deepest
    split
    case h_1 pos found => exact (valid.walk_iff.mp found).1
    · exact ih

theorem path_deepest_suffix (valid : Valid nodes path) (word : List α) :
    path (deepest nodes word) <:+ word := by
  induction word with
  | nil =>
    rw [deepest, valid.start]
  | cons letter rest ih =>
    unfold deepest
    split
    case h_1 pos found =>
      rw [(valid.walk_iff.mp found).2]
    · exact ih.trans (suffix_cons letter rest)

variable {pos : Nat}

theorem deepest_of_walk {word : List α} (walked : walk nodes 0 word = some pos) :
    deepest nodes word = pos := by
  cases word with
  | nil =>
    cases walked
    rfl
  | cons letter rest => simp only [deepest, walked]

theorem deepest_append (valid : Valid nodes path) (word : List α) (letter : α) :
    deepest nodes (word ++ [letter]) = deepest nodes (path (deepest nodes word) ++ [letter]) := by
  induction word with
  | nil => rw [deepest, valid.start]
  | cons first rest ih =>
    cases walked : walk nodes 0 (first :: rest) with
    | some pos =>
      rw [deepest_of_walk walked, (valid.walk_iff.mp walked).2]
    | none =>
      have missing : walk nodes 0 (first :: (rest ++ [letter])) = none := by
        rw [← cons_append, walk_append, walked]
        rfl
      have shorter : deepest nodes (first :: rest) = deepest nodes rest := by
        simp only [deepest, walked]
      rw [shorter, ← ih, cons_append]
      simp only [deepest, missing]

def Linked (nodes : List (Node α)) (path : Nat → List α) (pos : Nat) : Prop :=
  failure nodes pos = deepest nodes (path pos).tail

/-- The links of all words up to the length of that of `pos` are set. -/
def LinkedUpTo (nodes : List (Node α)) (path : Nat → List α) (pos : Nat) : Prop :=
  ∀ slot < nodes.length, (path slot).length ≤ (path pos).length → Linked nodes path slot

section

variable (valid : Valid nodes path)
include valid

theorem length_path_lt (inside : pos < nodes.length) : (path pos).length < nodes.length := by
  have walks : ∀ size, ∃ found, walk nodes 0 ((path pos).take size) = some found := by
    intro size
    have whole := valid.reached pos inside
    rw [← take_append_drop size (path pos), walk_append, bind_eq_some_iff] at whole
    rcases whole with ⟨found, walked, _⟩
    exact ⟨found, walked⟩
  choose node walked using walks
  have spelled := fun size => valid.walk_iff.mp (walked size)
  have injective : Set.InjOn node (Finset.range ((path pos).length + 1) : Set Nat) := by
    intro first one second two same
    have equal : (path pos).take first = (path pos).take second := by
      rw [← (spelled first).2, ← (spelled second).2, same]
    have lengths := congrArg length equal
    simp only [Finset.coe_range, Set.mem_Iio] at one two
    simp only [length_take] at lengths
    omega
  have card := Finset.card_le_card_of_injOn node
    (fun size _ => Finset.mem_coe.mpr (Finset.mem_range.mpr (spelled size).1)) injective
  simp only [Finset.card_range] at card
  exact card

theorem eq_root_of_path (inside : pos < nodes.length) (nothing : path pos = []) : pos = 0 :=
  valid.path_injective inside valid.root (nothing.trans valid.start.symm)

theorem Linked.cons (linked : Linked nodes path pos) (inside : pos < nodes.length)
    (below : pos ≠ 0) :
    ∃ first rest, path pos = first :: rest ∧ failure nodes pos = deepest nodes rest := by
  cases spelled : path pos with
  | nil => exact absurd (eq_root_of_path valid inside spelled) below
  | cons first rest =>
    rw [Linked, spelled] at linked
    exact ⟨first, rest, rfl, linked⟩

theorem walk_letter (inside : pos < nodes.length)
    (letter : α) : walk nodes 0 (path pos ++ [letter]) = child nodes pos letter := by
  rw [walk_append, valid.reached pos inside]
  simp [walk]

theorem deepest_stop {letter : α}
    (inside : pos < nodes.length) (stops : pos = 0 ∨ child nodes pos letter ≠ none) :
    (child nodes pos letter).getD pos = deepest nodes (path pos ++ [letter]) := by
  have walked := walk_letter valid inside letter
  cases found : child nodes pos letter with
  | some below =>
    rw [found] at walked
    exact (deepest_of_walk walked).symm
  | none =>
    have root := stops.resolve_right (fun missing => missing found)
    rw [found] at walked
    rw [root, valid.start, nil_append] at walked ⊢
    simp only [deepest, walked, getD_none]

theorem follow_spec (letter : α) {fuel pos : Nat} (inside : pos < nodes.length)
    (enough : (path pos).length ≤ fuel) (linked : LinkedUpTo nodes path pos) :
    (child nodes (follow nodes letter fuel pos) letter).getD (follow nodes letter fuel pos) =
      deepest nodes (path pos ++ [letter]) := by
  induction fuel generalizing pos with
  | zero =>
    have nothing : path pos = [] := length_eq_zero_iff.mp (Nat.le_zero.mp enough)
    exact deepest_stop valid inside (.inl (eq_root_of_path valid inside nothing))
  | succ fuel ih =>
    unfold follow
    split
    case isFalse stops =>
      apply deepest_stop valid inside
      by_cases root : pos = 0
      · exact .inl root
      · exact .inr fun missing => stops ⟨root, missing⟩
    case isTrue goes =>
      rcases (linked pos inside le_rfl).cons valid inside goes.1 with ⟨first, rest, spelled, link⟩
      have shorter := (path_deepest_suffix valid rest).length_le
      have size : (path pos).length = rest.length + 1 := by
        rw [spelled, length_cons]
      have missing : walk nodes 0 (first :: (rest ++ [letter])) = none := by
        rw [← cons_append, ← spelled, walk_letter valid inside]
        exact goes.2
      rw [link, ih (deepest_lt valid rest) (by omega)
        (fun other within fits => linked other within (by omega)), spelled,
        ← deepest_append valid, cons_append]
      simp only [deepest, missing]

theorem next_spec (letter : α) (inside : pos < nodes.length) (linked : LinkedUpTo nodes path pos) :
    next nodes pos letter = deepest nodes (path pos ++ [letter]) :=
  follow_spec valid letter inside (Nat.le_of_lt (length_path_lt valid inside)) linked

end

section Scan

variable (linked : ∀ pos < nodes.length, Linked nodes path pos)

include linked

section

variable (valid : Valid nodes path)
include valid

end

end Scan

section Links

variable {other : List (Node α)} {pos link : Nat}

structure Alike (nodes other : List (Node α)) : Prop where
  length : other.length = nodes.length
  children : ∀ pos, children other pos = children nodes pos
  items : ∀ pos, items other pos = items nodes pos

omit [DecidableEq α] in
theorem Alike.refl (nodes : List (Node α)) : Alike nodes nodes := ⟨rfl, fun _ => rfl, fun _ => rfl⟩

omit [DecidableEq α] in
theorem Alike.trans {first second third : List (Node α)} (one : Alike first second)
    (two : Alike second third) : Alike first third where
  length := two.length.trans one.length
  children pos := (two.children pos).trans (one.children pos)
  items pos := (two.items pos).trans (one.items pos)

section

variable (alike : Alike nodes other)
include alike

theorem Alike.child (pos : Nat) (letter : α) : child other pos letter = child nodes pos letter := by
  unfold Trie.child
  rw [alike.children]

theorem Alike.walk (pos : Nat) (word : List α) : walk other pos word = walk nodes pos word :=
  walk_congr alike.child pos word

theorem Alike.itemsAt (word : List α) : itemsAt other word = itemsAt nodes word := by
  unfold Trie.itemsAt
  rw [alike.walk]
  cases Trie.walk nodes 0 word with
  | none => rfl
  | some pos => exact alike.items pos

theorem Alike.deepest (word : List α) : deepest other word = deepest nodes word := by
  induction word with
  | nil => rfl
  | cons letter rest ih => simp only [AhoCorasick.deepest, alike.walk, ih]

theorem Alike.valid (valid : Valid nodes path) : Valid other path where
  root := by
    rw [alike.length]
    exact valid.root
  start := valid.start
  edge found := by
    rw [alike.child] at found
    rw [alike.length]
    exact valid.edge found
  reached pos inside := by
    rw [alike.length] at inside
    rw [alike.walk]
    exact valid.reached pos inside

theorem Alike.linked (same : failure other pos = failure nodes pos)
    (linked : Linked nodes path pos) : Linked other path pos := by
  unfold Linked at linked ⊢
  rw [same, alike.deepest]
  exact linked

end

omit [DecidableEq α] in
theorem alike_setFailure : Alike nodes (setFailure nodes pos link) where
  length := by simp [setFailure]
  children slot := elim_change slot Node.children fun _ => rfl
  items slot := elim_change slot Node.items fun _ => rfl

omit [DecidableEq α] in
theorem failure_setFailure_self (inside : pos < nodes.length) :
    failure (setFailure nodes pos link) pos = link := by
  unfold Trie.failure setFailure
  rw [getElem?_change, getElem?_eq_getElem inside]
  simp

variable {slot kid : Nat} {letter : α} {queue : List Nat}

omit [DecidableEq α] in
theorem failure_setFailure_ne (apart : slot ≠ pos) :
    failure (setFailure nodes pos link) slot = failure nodes slot := by
  unfold Trie.failure setFailure
  rw [getElem?_change]
  cases nodes[slot]? <;> simp [Ne.symm apart]

section

variable (valid : Valid nodes path) (inside : pos < nodes.length) (below : pos ≠ 0)
    (linked : LinkedUpTo nodes path pos)
include valid inside below linked

theorem next_failure (edge : child nodes pos letter = some kid) :
    next nodes (failure nodes pos) letter = deepest nodes (path kid).tail := by
  rcases (linked pos inside le_rfl).cons valid inside below with ⟨first, rest, spelled, link⟩
  have shorter := (path_deepest_suffix valid rest).length_le
  rw [(valid.edge edge).2, spelled, cons_append, tail_cons, link,
    next_spec valid letter (deepest_lt valid rest), ← deepest_append valid]
  intro slot within fits
  apply linked slot within
  rw [spelled, length_cons]
  omega

theorem relink_spec {edges : List (Σ _ : α, Nat)}
    (kids : ∀ edge ∈ edges, child nodes pos edge.1 = some edge.2) :
    Alike nodes (relink pos edges nodes) ∧ (∀ slot, slot ∉ edges.map Sigma.snd →
        failure (relink pos edges nodes) slot = failure nodes slot) ∧
      ∀ slot ∈ edges.map Sigma.snd, Linked (relink pos edges nodes) path slot := by
  induction edges generalizing nodes with
  | nil => exact ⟨Alike.refl nodes, fun _ _ => rfl, nofun⟩
  | cons edge rest ih =>
    have first := kids edge mem_cons_self
    have step := valid.edge first
    have target := next_failure valid inside below linked first
    have alike := @alike_setFailure α nodes edge.2 (next nodes (failure nodes pos) edge.1)
    have self := @failure_setFailure_self α nodes _ (next nodes (failure nodes pos) edge.1) step.1
    have apart := @failure_setFailure_ne α nodes edge.2 (next nodes (failure nodes pos) edge.1)
    unfold relink
    generalize setFailure nodes edge.2 _ = changed at alike self apart ⊢
    have kept : LinkedUpTo changed path pos := by
      intro slot within fits
      rw [alike.length] at within
      apply alike.linked (apart _) (linked slot within fits)
      rintro rfl
      rw [step.2, length_append, length_singleton] at fits
      omega
    have own : Linked changed path edge.2 := by
      rw [Linked, self, alike.deepest]
      exact target
    rcases ih (alike.valid valid) (by rw [alike.length]; exact inside) kept
      (fun edge member => by
        rw [alike.child]
        exact kids edge (mem_cons_of_mem _ member)) with ⟨more, unchanged, links⟩
    refine ⟨alike.trans more, fun slot outside => ?_, fun slot member => ?_⟩
    · simp only [map_cons, mem_cons, not_or] at outside
      rw [unchanged slot outside.2, apart outside.1]
    · by_cases again : slot ∈ rest.map Sigma.snd
      · exact links slot again
      · rw [map_cons, mem_cons, or_iff_left again] at member
        rw [member] at again ⊢
        exact more.linked (unchanged edge.2 again) own

end

theorem child_of_mem_entries {edge : Σ _ : α, Nat} (member : edge ∈ (children nodes pos).entries) :
    child nodes pos edge.1 = some edge.2 :=
  AList.mem_lookup_iff.mpr member

theorem mem_kids (edge : child nodes pos letter = some kid) : kid ∈ kids nodes pos :=
  mem_map.mpr ⟨⟨letter, kid⟩, AList.mem_lookup_iff.mp edge, rfl⟩

theorem kid_of_mem (member : kid ∈ kids nodes pos) :
    ∃ letter, child nodes pos letter = some kid := by
  rcases mem_map.mp member with ⟨edge, inside, rfl⟩
  exact ⟨edge.1, child_of_mem_entries inside⟩

theorem nodup_kids (valid : Valid nodes path) (pos : Nat) : (kids nodes pos).Nodup := by
  apply Nodup.map_on _ (children nodes pos).nodupKeys.nodup
  rintro ⟨letter, kid⟩ one ⟨other, twin⟩ two same
  cases same
  have first := (valid.edge (child_of_mem_entries one)).2
  have second := (valid.edge (child_of_mem_entries two)).2
  rw [first, append_cancel_left_eq, singleton_inj] at second
  exact congrArg (fun letter => (⟨letter, kid⟩ : Σ _ : α, Nat)) second

/-- Words of which one is a letter longer than the other at most, in this order. -/
def Level (path : Nat → List α) (first second : Nat) : Prop :=
  (path first).length ≤ (path second).length ∧ (path second).length ≤ (path first).length + 1

section

variable (valid : Valid nodes path)
include valid

theorem kid_spelled (member : kid ∈ kids nodes pos) :
    (kid < nodes.length ∧ kid ≠ 0) ∧ ∃ letter, path kid = path pos ++ [letter] := by
  rcases kid_of_mem member with ⟨letter, edge⟩
  have spelled := valid.edge edge
  refine ⟨⟨spelled.1, ?_⟩, letter, spelled.2⟩
  rintro rfl
  rw [valid.start] at spelled
  exact append_ne_nil_of_right_ne_nil _ (cons_ne_nil _ _) spelled.2.symm

theorem length_kid (member : kid ∈ kids nodes pos) : (path kid).length = (path pos).length + 1 := by
  rcases (kid_spelled valid member).2 with ⟨letter, spelled⟩
  rw [spelled, length_append, length_singleton]

theorem levels_kids (pos : Nat) : (kids nodes pos).Pairwise (Level path) := by
  apply Pairwise.imp_of_mem _ (pairwise_of_forall (fun _ _ => trivial))
  intro first second one two _
  unfold Level
  rw [length_kid valid one, length_kid valid two]
  omega

theorem parent_eq (inside : pos < nodes.length) (member : kid ∈ kids nodes pos) {parent : Nat}
    (edge : child nodes parent letter = some kid) : pos = parent := by
  rcases (kid_spelled valid member).2 with ⟨other, spelled⟩
  rw [(valid.edge edge).2] at spelled
  exact (valid.path_injective (child_lt edge) inside (append_inj' spelled rfl).1).symm

end

structure Pending (nodes : List (Node α)) (path : Nat → List α) (done queue : List Nat) :
    Prop where
  valid : Valid nodes path
  covered : ∀ pos < nodes.length, Linked nodes path pos ∨
    ∃ above ∈ queue, ∃ letter rest, path pos = path above ++ letter :: rest
  levels : queue.Pairwise (Level path)
  distinct : (done ++ queue).Nodup
  bounded : ∀ pos ∈ done ++ queue, pos < nodes.length ∧ pos ≠ 0
  parents : ∀ pos ∈ done ++ queue, ∀ parent letter, child nodes parent letter = some pos →
    parent = 0 ∨ parent ∈ done

variable {done : List Nat}

theorem Pending.linkedUpTo
    (pending : Pending nodes path done (pos :: queue)) : LinkedUpTo nodes path pos := by
  intro slot within fits
  rcases pending.covered slot within with linked | ⟨above, member, letter, rest, spelled⟩
  · exact linked
  · have lower : (path pos).length ≤ (path above).length := by
      rcases mem_cons.mp member with rfl | later
      · exact le_rfl
      · exact ((pairwise_cons.mp pending.levels).1 above later).1
    rw [spelled, length_append, length_cons] at fits
    omega

theorem exists_kid (valid : Valid nodes path) (inside : pos < nodes.length)
    (within : slot < nodes.length) {rest : List α}
    (spelled : path slot = path pos ++ letter :: rest) :
    ∃ kid, child nodes pos letter = some kid ∧ path kid = path pos ++ [letter] := by
  have walked := valid.reached slot within
  rw [spelled, walk_append, valid.reached pos inside, bind_some, Trie.walk,
    bind_eq_some_iff] at walked
  rcases walked with ⟨kid, edge, _⟩
  exact ⟨kid, edge, (valid.edge edge).2⟩

theorem Pending.step (pending : Pending nodes path done (pos :: queue)) :
    Alike nodes (relink pos (children nodes pos).entries nodes) ∧ Pending
      (relink pos (children nodes pos).entries nodes) path (done ++ [pos])
      (queue ++ kids nodes pos) := by
  have member : pos ∈ done ++ pos :: queue := mem_append_right done mem_cons_self
  have own := pending.bounded pos member
  have valid := pending.valid
  rcases relink_spec valid own.1 own.2 pending.linkedUpTo
    (fun edge inside => child_of_mem_entries inside) with ⟨alike, unchanged, links⟩
  generalize relink pos (children nodes pos).entries nodes = other at alike unchanged links
  have order : (done ++ [pos]) ++ (queue ++ kids nodes pos) =
      (done ++ pos :: queue) ++ kids nodes pos := by simp
  have fresh : ∀ kid ∈ kids nodes pos, kid ∉ done ++ pos :: queue := by
    intro kid inside known
    rcases kid_of_mem inside with ⟨letter, edge⟩
    rcases pending.parents kid known pos letter edge with root | before
    · exact own.2 root
    · exact (nodup_append.mp pending.distinct).2.2 pos before pos mem_cons_self rfl
  apply And.intro alike
  constructor
  · exact alike.valid valid
  · intro slot within
    rw [alike.length] at within
    rcases pending.covered slot within with linked | ⟨above, waiting, letter, rest, spelled⟩
    · by_cases kid : slot ∈ kids nodes pos
      · exact .inl (links slot kid)
      · exact .inl (alike.linked (unchanged slot kid) linked)
    · rcases mem_cons.mp waiting with rfl | later
      · rcases exists_kid valid own.1 within spelled with ⟨kid, edge, word⟩
        cases rest with
        | nil =>
          have same := valid.path_injective within (valid.edge edge).1 (spelled.trans word.symm)
          rw [same]
          exact .inl (links kid (mem_kids edge))
        | cons second more =>
          rw [append_cons, ← word] at spelled
          exact .inr ⟨kid, mem_append_right _ (mem_kids edge), second, more, spelled⟩
      · exact .inr ⟨above, mem_append_left _ later, letter, rest, spelled⟩
  · have sorted := pairwise_cons.mp pending.levels
    rw [pairwise_append]
    refine ⟨sorted.2, levels_kids valid pos, fun first one second two => ?_⟩
    have near := sorted.1 first one
    unfold Level at near ⊢
    rw [length_kid valid two]
    omega
  · rw [order, nodup_append]
    exact ⟨pending.distinct, nodup_kids valid pos,
      fun first one second two same => fresh second two (same ▸ one)⟩
  · rw [order, alike.length]
    intro slot inside
    rcases mem_append.mp inside with old | kid
    · exact pending.bounded slot old
    · exact (kid_spelled valid kid).1
  · rw [order]
    intro slot inside parent letter edge
    rw [alike.child] at edge
    rcases mem_append.mp inside with old | kid
    · rcases pending.parents slot old parent letter edge with root | before
      · exact .inl root
      · exact .inr (mem_append_left _ before)
    · rw [← parent_eq valid own.1 kid edge]
      exact .inr (mem_append_right _ mem_cons_self)

end Links

end OpenPpp2.Lib.AhoCorasick
