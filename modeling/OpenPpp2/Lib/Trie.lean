import Mathlib.Data.List.AList
import Mathlib.Logic.Function.Basic

/-!
# Tries in a vector of nodes

The nodes of a trie stand in one list and name their children by position; the root is at position
0.
-/

namespace OpenPpp2.Lib.Trie

open List Option Function

variable {α : Type} [DecidableEq α]

structure Node (α : Type) where
  children : AList (fun _ : α => Nat) := ∅
  items : List Nat := []
  failure : Nat := 0

def empty : List (Node α) := [{}]

section Reading

variable (nodes : List (Node α))

def children (pos : Nat) : AList (fun _ : α => Nat) := (nodes[pos]?).elim ∅ Node.children

def items (pos : Nat) : List Nat := (nodes[pos]?).elim [] Node.items

def failure (pos : Nat) : Nat := (nodes[pos]?).elim 0 Node.failure

def child (pos : Nat) (letter : α) : Option Nat := (children nodes pos).lookup letter

def walk : Nat → List α → Option Nat
  | pos, [] => some pos
  | pos, letter :: rest => (child nodes pos letter).bind fun next => walk next rest

def itemsAt (word : List α) : List Nat := (walk nodes 0 word).elim [] (items nodes)

end Reading

def extend (nodes : List (Node α)) (pos : Nat) (letter : α) : List (Node α) :=
  nodes.modify pos (fun node =>
    { node with children := node.children.insert letter nodes.length }) ++ [({} : Node α)]

def insertFrom (nodes : List (Node α)) (pos : Nat) : List α → List (Node α) × Nat
  | [] => (nodes, pos)
  | letter :: rest =>
    match child nodes pos letter with
    | none => insertFrom (extend nodes pos letter) nodes.length rest
    | some next => insertFrom nodes next rest

def insert (nodes : List (Node α)) (word : List α) : List (Node α) × Nat := insertFrom nodes 0 word

def push (nodes : List (Node α)) (pos : Nat) (item : Nat) : List (Node α) :=
  nodes.modify pos fun node => { node with items := node.items ++ [item] }

def add (nodes : List (Node α)) (word : List α) (item : Nat) : List (Node α) :=
  push (insert nodes word).1 (insert nodes word).2 item

variable {nodes other : List (Node α)} {path : Nat → List α}

theorem walk_append (pos : Nat) (first second : List α) : walk nodes pos (first ++ second) =
      (walk nodes pos first).bind fun middle => walk nodes middle second := by
  induction first generalizing pos with
  | nil => rfl
  | cons letter rest ih =>
    simp only [cons_append, walk]
    cases child nodes pos letter with
    | none => rfl
    | some next => exact ih next

theorem walk_mono (kept : ∀ pos letter next, child nodes pos letter = some next →
      child other pos letter = some next) {pos final : Nat} {word : List α}
    (walked : walk nodes pos word = some final) : walk other pos word = some final := by
  induction word generalizing pos with
  | nil => exact walked
  | cons letter rest ih =>
    simp only [walk, bind_eq_some_iff] at walked ⊢
    rcases walked with ⟨next, first, later⟩
    exact ⟨next, kept pos letter next first, ih later⟩

theorem walk_congr (same : ∀ pos letter, child other pos letter = child nodes pos letter)
    (pos : Nat) (word : List α) : walk other pos word = walk nodes pos word := by
  induction word generalizing pos with
  | nil => rfl
  | cons letter rest ih =>
    simp only [walk, same]
    cases child nodes pos letter with
    | none => rfl
    | some next => exact ih next

structure Valid (nodes : List (Node α)) (path : Nat → List α) : Prop where
  root : 0 < nodes.length
  start : path 0 = []
  edge : ∀ {pos : Nat} {letter : α} {next : Nat}, child nodes pos letter = some next →
    next < nodes.length ∧ path next = path pos ++ [letter]
  reached : ∀ pos < nodes.length, walk nodes 0 (path pos) = some pos

theorem child_lt {pos next : Nat} {letter : α} (found : child nodes pos letter = some next) :
    pos < nodes.length := by
  by_contra outside
  simp [child, children, getElem?_eq_none (Nat.not_lt.mp outside)] at found

theorem Valid.walk_path (valid : Valid nodes path) {pos final : Nat} {word : List α}
    (inside : pos < nodes.length) (walked : walk nodes pos word = some final) :
    final < nodes.length ∧ path final = path pos ++ word := by
  induction word generalizing pos with
  | nil =>
    cases walked
    simp [inside]
  | cons letter rest ih =>
    simp only [walk, bind_eq_some_iff] at walked
    rcases walked with ⟨next, first, later⟩
    have step := valid.edge first
    have tail := ih step.1 later
    apply And.intro tail.1
    rw [tail.2, step.2, append_assoc]
    rfl

theorem Valid.walk_iff (valid : Valid nodes path) {word : List α} {pos : Nat} :
    walk nodes 0 word = some pos ↔ pos < nodes.length ∧ path pos = word := by
  constructor
  · intro walked
    have found := valid.walk_path valid.root walked
    rw [valid.start, nil_append] at found
    exact found
  · rintro ⟨inside, rfl⟩
    exact valid.reached pos inside

theorem Valid.path_injective (valid : Valid nodes path) {first second : Nat}
    (one : first < nodes.length) (two : second < nodes.length)
    (same : path first = path second) : first = second := by
  have left := valid.reached first one
  rw [same, valid.reached second two] at left
  exact (some.inj left).symm

variable (slot : Nat)

section Extend

variable {pos : Nat} {letter : α}

theorem length_extend : (extend nodes pos letter).length = nodes.length + 1 := by
  simp [extend]

theorem getElem?_extend : (extend nodes pos letter)[slot]? = if slot = nodes.length then some {}
      else (nodes[slot]?).map fun node =>
        if pos = slot then { node with children := node.children.insert letter nodes.length }
        else node := by
  simp only [extend, getElem?_append, length_modify, getElem?_modify]
  by_cases inside : slot < nodes.length
  · have old : slot ≠ nodes.length := Nat.ne_of_lt inside
    simp only [inside, old, if_true, if_false]
    by_cases here : pos = slot <;> simp [here]
  · by_cases new : slot = nodes.length
    · simp [new]
    · have missing : slot - nodes.length ≠ 0 := by omega
      simp [inside, new, missing]

theorem child_extend (inside : pos < nodes.length) (slot : Nat) (key : α) :
    child (extend nodes pos letter) slot key =
      if slot = pos ∧ key = letter then some nodes.length else child nodes slot key := by
  unfold child children
  rw [getElem?_extend]
  by_cases new : slot = nodes.length
  · have old : slot ≠ pos := by omega
    have missing : nodes[slot]? = none := getElem?_eq_none (by omega)
    simp only [new, if_true, elim_some, AList.lookup_empty]
    rw [if_neg (fun both => old (new.trans both.1)), ← new, missing]
    rfl
  · simp only [new, if_false]
    by_cases here : pos = slot
    · subst here
      have found : nodes[pos]? = some nodes[pos] := getElem?_eq_getElem inside
      simp only [found, map_some, if_true, elim_some, true_and]
      by_cases same : key = letter
      · rw [if_pos same, same, AList.lookup_insert]
      · rw [if_neg same, AList.lookup_insert_ne same]
    · have other : ¬ (slot = pos ∧ key = letter) := fun both => here both.1.symm
      rw [if_neg other]
      cases nodes[slot]? <;> simp [here]

theorem elim_extend {β : Type} {absent : β} (part : Node α → β) (fresh : part {} = absent)
    (keeps : ∀ node, part { node with children := node.children.insert letter nodes.length } =
      part node) :
    ((extend nodes pos letter)[slot]?).elim absent part = (nodes[slot]?).elim absent part := by
  rw [getElem?_extend]
  by_cases new : slot = nodes.length
  · simp [new, fresh]
  · simp only [new, if_false]
    cases nodes[slot]? with
    | none => rfl
    | some node => by_cases here : pos = slot <;> simp [here, keeps]

theorem items_extend : items (extend nodes pos letter) slot = items nodes slot :=
  elim_extend slot Node.items rfl fun _ => rfl

theorem failure_extend : failure (extend nodes pos letter) slot = failure nodes slot :=
  elim_extend slot Node.failure rfl fun _ => rfl

theorem child_kept (inside : pos < nodes.length) (missing : child nodes pos letter = none)
    (slot : Nat) (key : α) (next : Nat) (found : child nodes slot key = some next) :
    child (extend nodes pos letter) slot key = some next := by
  rw [child_extend inside, if_neg]
  · exact found
  · rintro ⟨rfl, rfl⟩
    rw [missing] at found
    cases found

theorem Valid.extend (valid : Valid nodes path) (inside : pos < nodes.length)
    (missing : child nodes pos letter = none) : Valid (extend nodes pos letter)
      (Function.update path nodes.length (path pos ++ [letter])) where
  root := by
    rw [length_extend]
    exact Nat.succ_pos _
  start := by
    rw [update_of_ne (Nat.ne_of_lt valid.root)]
    exact valid.start
  edge found := by
    rename_i source key next
    rw [child_extend inside] at found
    rw [length_extend]
    split at found
    case isTrue both =>
      cases found
      rw [both.1, both.2, update_self, update_of_ne (Nat.ne_of_lt inside)]
      exact ⟨Nat.lt_succ_self _, rfl⟩
    case isFalse =>
      have old := valid.edge found
      rw [update_of_ne (Nat.ne_of_lt old.1), update_of_ne (Nat.ne_of_lt (child_lt found))]
      exact ⟨Nat.lt_succ_of_lt old.1, old.2⟩
  reached slot bound := by
    rw [length_extend] at bound
    have mono := @walk_mono α _ nodes (Trie.extend nodes pos letter) (child_kept inside missing)
    by_cases new : slot = nodes.length
    · rw [new, update_self, walk_append, mono (valid.reached pos inside)]
      simp [walk, child_extend inside]
    · rw [update_of_ne new]
      exact mono (valid.reached slot (by omega))

theorem Valid.itemsAt_extend (valid : Valid nodes path) (inside : pos < nodes.length)
    (missing : child nodes pos letter = none) (word : List α) :
    itemsAt (Trie.extend nodes pos letter) word = itemsAt nodes word := by
  have mono := @walk_mono α _ nodes (Trie.extend nodes pos letter) (child_kept inside missing)
  unfold itemsAt
  cases before : walk nodes 0 word with
  | some found =>
    rw [mono before]
    exact items_extend found
  | none =>
    cases after : walk (Trie.extend nodes pos letter) 0 word with
    | none => rfl
    | some found =>
      -- A word that leads somewhere only now leads to the new node.
      have spelled := (valid.extend inside missing).walk_iff.mp after
      rw [length_extend] at spelled
      have new : found = nodes.length := by
        by_contra old
        rw [update_of_ne old] at spelled
        have walked := valid.walk_iff.mpr ⟨by omega, spelled.2⟩
        rw [before] at walked
        cases walked
      rw [elim_some, items_extend, new]
      simp [items]

end Extend

structure Inserted (nodes : List (Node α)) (word : List α) (answer : List (Node α) × Nat) :
    Prop where
  valid : ∃ path, Valid answer.1 path
  walked : walk answer.1 0 word = some answer.2
  kept : ∀ other, itemsAt answer.1 other = itemsAt nodes other
  links : ∀ pos, failure answer.1 pos = failure nodes pos

theorem insertFrom_spec (valid : Valid nodes path) {pos : Nat} (inside : pos < nodes.length)
    (word : List α) : Inserted nodes (path pos ++ word) (insertFrom nodes pos word) := by
  induction word generalizing nodes path pos with
  | nil =>
    rw [append_nil]
    exact ⟨⟨path, valid⟩, valid.reached pos inside, fun _ => rfl, fun _ => rfl⟩
  | cons letter rest ih =>
    unfold insertFrom
    split
    case h_1 missing =>
      have bound : nodes.length < (extend nodes pos letter).length := by
        rw [length_extend]
        exact Nat.lt_succ_self _
      have later := ih (valid.extend inside missing) bound
      rw [update_self, append_assoc] at later
      constructor
      · exact later.valid
      · exact later.walked
      · intro other
        rw [later.kept, valid.itemsAt_extend inside missing]
      · intro slot
        rw [later.links, failure_extend]
    case h_2 next found =>
      have step := valid.edge found
      have later := ih valid step.1
      rw [step.2, append_assoc] at later
      exact later

theorem insert_spec (valid : Valid nodes path) (word : List α) :
    Inserted nodes word (insert nodes word) := by
  have inserted := insertFrom_spec valid valid.root word
  rw [valid.start] at inserted
  exact inserted

section Push

variable {pos item : Nat}

omit [DecidableEq α] in
theorem getElem?_change (change : Node α → Node α) : (nodes.modify pos change)[slot]? =
    (nodes[slot]?).map fun node => if pos = slot then change node else node := by
  by_cases here : pos = slot <;> simp [here]

omit [DecidableEq α] in
theorem elim_change {β : Type} {absent : β} {change : Node α → Node α} (part : Node α → β)
    (keeps : ∀ node, part (change node) = part node) :
    ((nodes.modify pos change)[slot]?).elim absent part = (nodes[slot]?).elim absent part := by
  rw [getElem?_change]
  cases nodes[slot]? with
  | none => rfl
  | some node => by_cases here : pos = slot <;> simp [here, keeps]

omit [DecidableEq α] in
theorem children_push : children (push nodes pos item) slot = children nodes slot :=
  elim_change slot Node.children fun _ => rfl

omit [DecidableEq α] in
theorem failure_push : failure (push nodes pos item) slot = failure nodes slot :=
  elim_change slot Node.failure fun _ => rfl

omit [DecidableEq α] in
theorem items_push (inside : pos < nodes.length) (slot : Nat) : items (push nodes pos item) slot =
      if slot = pos then items nodes slot ++ [item] else items nodes slot := by
  unfold items push
  rw [getElem?_change]
  by_cases here : slot = pos
  · subst here
    simp [getElem?_eq_getElem inside]
  · cases nodes[slot]? <;> simp [here, Ne.symm here]

theorem walk_push (word : List α) : walk (push nodes pos item) 0 word = walk nodes 0 word := by
  apply walk_congr
  intro slot letter
  unfold child
  rw [children_push]

theorem Valid.push (valid : Valid nodes path) : Valid (push nodes pos item) path where
  root := by
    simpa [Trie.push] using valid.root
  start := valid.start
  edge found := by
    unfold child at found
    rw [children_push] at found
    simpa [Trie.push] using valid.edge found
  reached slot inside := by
    rw [walk_push]
    exact valid.reached slot (by simpa [Trie.push] using inside)

end Push

structure Filled (nodes : List (Node α)) : Prop where
  valid : ∃ path, Valid nodes path
  links : ∀ pos, failure nodes pos = 0

theorem Filled.add (filled : Filled nodes) (word : List α) (item : Nat) :
    Filled (add nodes word item) := by
  rcases filled.valid with ⟨path, valid⟩
  have inserted := insert_spec valid word
  rcases inserted.valid with ⟨longer, grown⟩
  constructor
  · exact ⟨longer, grown.push⟩
  · intro pos
    rw [Trie.add, failure_push, inserted.links, filled.links]

theorem Filled.itemsAt_add (filled : Filled nodes) (word other : List α) (item : Nat) :
    itemsAt (Trie.add nodes word item) other =
      if other = word then itemsAt nodes other ++ [item] else itemsAt nodes other := by
  rcases filled.valid with ⟨path, valid⟩
  have inserted := insert_spec valid word
  rcases inserted.valid with ⟨longer, grown⟩
  have target := grown.walk_iff.mp inserted.walked
  rw [← inserted.kept]
  unfold Trie.add itemsAt
  rw [walk_push]
  cases walked : walk (insert nodes word).1 0 other with
  | none =>
    rw [if_neg]
    · rfl
    · rintro rfl
      rw [inserted.walked] at walked
      cases walked
  | some found =>
    have spelled := grown.walk_iff.mp walked
    rw [elim_some, elim_some, items_push target.1]
    have same : found = (insert nodes word).2 ↔ other = word := by
      constructor
      · rintro rfl
        exact spelled.2.symm.trans target.2
      · rintro rfl
        exact grown.path_injective spelled.1 target.1 (spelled.2.trans target.2.symm)
    simp only [same]

end OpenPpp2.Lib.Trie
