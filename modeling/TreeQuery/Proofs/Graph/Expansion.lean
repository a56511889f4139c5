import Mathlib.Data.List.Forall2
import TreeQuery.Graph.Expansion
import TreeQuery.Proofs.Graph.Denotation

/-!
# Expanding handles level by level

A node unfolds to a value when the two have the same shape and the handles of
the node unfold to the parts of the value.  A handle expands to the value that
its node unfolds to, and goes on to do so in a larger graph.
-/

namespace TreeQuery

private theorem mapM_eq_some_iff {α β : Type} {change : α → Option β}
    {items : List α} {values : List β} :
    items.mapM change = some values ↔
      List.Forall₂ (fun item value => change item = some value) items
        values := by
  induction items generalizing values with
  | nil =>
      constructor
      · intro mapped
        cases mapped
        exact .nil
      · intro all
        cases all
        rfl
  | cons item items induction =>
      simp only [List.mapM_cons, Option.pure_def, Option.bind_eq_bind,
        Option.bind_eq_some_iff, Option.some.injEq]
      constructor
      · intro mapped
        obtain ⟨value, first, values, others, rfl⟩ := mapped
        exact .cons first (induction.mp others)
      · intro all
        cases all with
        | cons first others =>
            exact ⟨_, first, _, induction.mpr others, rfl⟩

namespace Graph

/-- The slot of the handle is an entry, and its handles unfold to the parts. -/
def UnfoldsEntry (graph : Graph) (unfolds : ValueId → Value → Prop)
    (id : EntryId) (entry : Value × Value) : Prop :=
  ∃ stored, graph.entry? id = some stored ∧ unfolds stored.key entry.1 ∧
    unfolds stored.value entry.2

/-- The names are the same and the handle unfolds to the child. -/
def UnfoldsField (unfolds : ValueId → Value → Prop) (id : String × ValueId)
    (field : String × Value) : Prop :=
  id.1 = field.1 ∧ unfolds id.2 field.2

/-- The node has the shape of the value, and its handles unfold to the parts. -/
inductive Unfolds (graph : Graph) (unfolds : ValueId → Value → Prop) :
    Node → Value → Prop where
  | map {ids : List EntryId} {entries : List (Value × Value)} :
      List.Forall₂ (graph.UnfoldsEntry unfolds) ids entries →
      Unfolds graph unfolds (.map ids) (.map entries)
  | list {ids : List ValueId} {items : List Value} :
      List.Forall₂ unfolds ids items →
      Unfolds graph unfolds (.list ids) (.list items)
  | set {ids : List ValueId} {items : List Value} :
      List.Forall₂ unfolds ids items →
      Unfolds graph unfolds (.set ids) (.set items)
  | tuple {ids : List ValueId} {items : List Value} :
      List.Forall₂ unfolds ids items →
      Unfolds graph unfolds (.tuple ids) (.tuple items)
  | constr {kind : ConstructorKind} {name : String} {ids : List ValueId}
      {fields : List (String × ValueId)} {positional : List Value}
      {named : List (String × Value)} :
      List.Forall₂ unfolds ids positional →
      List.Forall₂ (UnfoldsField unfolds) fields named →
      Unfolds graph unfolds (.constr kind name ids fields)
        (.constr kind name positional named)
  | string (text : Text) : Unfolds graph unfolds (.string text) (.string text)
  | number (digits : String) :
      Unfolds graph unfolds (.number digits) (.number digits)
  | boolean (truth : Bool) :
      Unfolds graph unfolds (.boolean truth) (.boolean truth)
  | location (place : Location) :
      Unfolds graph unfolds (.location place) (.location place)

theorem Unfolds.mono {large small : Graph}
    {unfolds unfolds' : ValueId → Value → Prop} {node : Node} {value : Value}
    (growth : large.Extends small)
    (implied : ∀ id value, unfolds id value → unfolds' id value)
    (shape : small.Unfolds unfolds node value) :
    large.Unfolds unfolds' node value := by
  cases shape with
  | map entries =>
      apply Unfolds.map
      apply entries.imp
      intro id entry unfolded
      obtain ⟨stored, found, key, value⟩ := unfolded
      exact ⟨stored, growth.entry? found, implied _ _ key, implied _ _ value⟩
  | list items => exact .list (items.imp implied)
  | set items => exact .set (items.imp implied)
  | tuple items => exact .tuple (items.imp implied)
  | constr items fields =>
      apply Unfolds.constr (items.imp implied)
      apply fields.imp
      intro id field unfolded
      exact ⟨unfolded.1, implied _ _ unfolded.2⟩
  | string text => exact .string text
  | number digits => exact .number digits
  | boolean truth => exact .boolean truth
  | location place => exact .location place

section

variable {graph : Graph} {depth : Nat} {id : ValueId} {value : Value}

/-- The handle expands to the value, whose leaves are at most so many levels
down. -/
def ExpandsWithin (graph : Graph) (depth : Nat) (id : ValueId)
    (value : Value) : Prop :=
  graph.expandWithin depth id = some value

theorem expandEntry_eq_some_iff {id : EntryId} {entry : Value × Value} :
    ((graph.entry? id).bind fun stored =>
      (graph.expandWithin depth stored.key).bind fun key =>
        (graph.expandWithin depth stored.value).map fun value =>
          (key, value)) = some entry ↔
      graph.UnfoldsEntry (graph.ExpandsWithin depth) id entry := by
  obtain ⟨key, value⟩ := entry
  simp [UnfoldsEntry, ExpandsWithin, Option.bind_eq_some_iff]

theorem expandField_iff {field : String × ValueId} {child : String × Value} :
    (∃ value, graph.expandWithin depth field.2 = some value ∧
      (field.1, value) = child) ↔
      UnfoldsField (graph.ExpandsWithin depth) field child := by
  obtain ⟨name, value⟩ := child
  simp [UnfoldsField, ExpandsWithin, and_comm]

/-- A handle expands to what its node unfolds to, one level further down. -/
theorem expandsWithin_succ_iff :
    graph.ExpandsWithin (depth + 1) id value ↔
      ∃ node, graph.value? id = some node ∧
        graph.Unfolds (graph.ExpandsWithin depth) node value := by
  unfold ExpandsWithin
  rw [expandWithin]
  simp only [Option.bind_eq_some_iff]
  apply exists_congr
  intro node
  apply and_congr_right
  intro _
  cases node with
  | map ids =>
      simp only [Option.map_eq_some_iff, mapM_eq_some_iff,
        expandEntry_eq_some_iff]
      constructor
      · intro expanded
        obtain ⟨entries, all, rfl⟩ := expanded
        exact .map all
      · intro shape
        cases shape with
        | map all => exact ⟨_, all, rfl⟩
  | list ids | set ids | tuple ids =>
      simp only [Option.map_eq_some_iff, mapM_eq_some_iff]
      constructor
      · intro expanded
        obtain ⟨items, all, rfl⟩ := expanded
        constructor
        exact all
      · intro shape
        cases shape with
        | _ all => exact ⟨_, all, rfl⟩
  | constr kind name ids fields =>
      simp only [Option.bind_eq_some_iff, Option.map_eq_some_iff,
        mapM_eq_some_iff, expandField_iff]
      constructor
      · intro expanded
        obtain ⟨positional, items, named, others, rfl⟩ := expanded
        exact .constr items others
      · intro shape
        cases shape with
        | constr items others => exact ⟨_, items, _, others, rfl⟩
  | string _ | number _ | boolean _ | location _ =>
      constructor
      · intro expanded
        cases expanded
        constructor
      · intro shape
        cases shape
        rfl

end

/-- A handle goes on to expand to the same value when the graph grows and more
levels are allowed. -/
theorem ExpandsWithin.mono {large small : Graph} {depth depth' : Nat}
    {id : ValueId} {value : Value} (growth : large.Extends small)
    (deeper : depth ≤ depth') (expands : small.ExpandsWithin depth id value) :
    large.ExpandsWithin depth' id value := by
  induction depth generalizing depth' id value with
  | zero => cases expands
  | succ depth induction =>
      cases depth' with
      | zero => exact absurd deeper (Nat.not_succ_le_zero depth)
      | succ depth' =>
          obtain ⟨node, found, shape⟩ := expandsWithin_succ_iff.mp expands
          apply expandsWithin_succ_iff.mpr
          refine ⟨node, growth.value? found, shape.mono growth ?_⟩
          intro id value
          exact induction (Nat.le_of_succ_le_succ deeper)

end Graph

end TreeQuery
