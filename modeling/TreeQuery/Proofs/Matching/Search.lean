import Mathlib.Data.List.Basic
import TreeQuery.Proofs.Flat.Preorder
import TreeQuery.Proofs.Matching.Tree

/-!
# Searching a tree

`scan` lists the places of a tree at which a pattern matches, without graph and
records.  The search through the records of a handle returns the first of these
places for the tree of the handle, whatever else the graph holds and however
labels are cut.
-/

namespace TreeQuery

namespace Pattern

mutual

/-- Does the pattern match a map entry?  A map pattern with one pair stands for
an entry. -/
def acceptsTreeEntry : Pattern → (key value : Value) → Bool
  | any, _, _ => true
  | or options, key, value => acceptsTreeSomeEntry options key value
  | map [(forKey, forValue)], key, value =>
      forKey.acceptsTree key && forValue.acceptsTree value
  | _, _, _ => false

def acceptsTreeSomeEntry : List Pattern → (key value : Value) → Bool
  | [], _, _ => false
  | option :: options, key, value =>
      acceptsTreeEntry option key value ||
        acceptsTreeSomeEntry options key value

end

def acceptsOccurrence (pattern : Pattern) : Occurrence → Bool
  | .value tree => pattern.acceptsTree tree
  | .entry key tree => pattern.acceptsTreeEntry key tree

/-- The places in the listing of a tree at which the pattern matches, in
order. -/
def scan (pattern : Pattern) (tree : Value) : List Nat :=
  tree.listing.findIdxs pattern.acceptsOccurrence

section

variable {graph : Graph}

mutual

/-- Matching an entry and matching the key and value it denotes agree. -/
theorem acceptsEntry_of_denotes {id : EntryId} {key tree : Value}
    (denotes : graph.DenotesEntry id (key, tree)) (pattern : Pattern) :
    pattern.acceptsEntry graph id = pattern.acceptsTreeEntry key tree := by
  match pattern with
  | .any => rfl
  | .or options => exact acceptsSomeEntry_of_denotes denotes options
  | .map [(forKey, forValue)] =>
      obtain ⟨stored, found, denotesKey, denotesValue⟩ := denotes
      simp [acceptsEntry, acceptsPairs, acceptsTreeEntry, found,
        accepts_of_denotes denotesKey, accepts_of_denotes denotesValue]
  | .map [] | .map (_ :: _ :: _) | .repeated _ | .regex _ | .text _ | .list _
  | .set _ | .tuple _ | .constr _ _ _ | .string _ | .number _ | .boolean _
  | .location _ => rfl

theorem acceptsSomeEntry_of_denotes {id : EntryId} {key tree : Value}
    (denotes : graph.DenotesEntry id (key, tree)) (options : List Pattern) :
    acceptsSomeEntry graph options id =
      acceptsTreeSomeEntry options key tree := by
  match options with
  | [] => rfl
  | option :: options =>
      rw [acceptsSomeEntry, acceptsTreeSomeEntry,
        acceptsEntry_of_denotes denotes option,
        acceptsSomeEntry_of_denotes denotes options]

end

theorem acceptsTarget_of_expands {target : Target} {occurrence : Occurrence}
    (expands : graph.Expands target occurrence) (pattern : Pattern) :
    pattern.acceptsTarget graph target =
      pattern.acceptsOccurrence occurrence := by
  cases expands with
  | value expanded =>
      exact accepts_of_denotes (Graph.ExpandsWithin.denotes expanded) pattern
  | entry found key tree =>
      have denotes : graph.DenotesEntry _ (_, _) :=
        ⟨_, found, Graph.ExpandsWithin.denotes key,
          Graph.ExpandsWithin.denotes tree⟩
      exact acceptsEntry_of_denotes denotes pattern

end

end Pattern

private theorem findIdxs_congr_of_forall₂ {α β : Type} {related : α → β → Prop}
    {test : α → Bool} {test' : β → Bool} {items : List α} {items' : List β}
    (all : List.Forall₂ related items items')
    (agree : ∀ item item', related item item' → test item = test' item')
    (start : Nat) :
    items.findIdxs test start = items'.findIdxs test' start := by
  induction all generalizing start with
  | nil => rfl
  | cons first _ induction =>
      rw [List.findIdxs_cons, List.findIdxs_cons, agree _ _ first, induction]

/-- A search returns the first places of the targets that match. -/
theorem Flat.search_ofOutlines (graph : Graph) (outlines : List Outline)
    (pattern : Pattern) (limit : Nat) :
    (ofOutlines outlines).search graph pattern limit =
      ((Outline.targetsAll outlines).findIdxs
        (pattern.acceptsTarget graph)).take limit := by
  have here : ∀ record ∈ (ofOutlines outlines).records.toList,
      pattern.acceptsRecord graph (ofOutlines outlines) record.id =
        pattern.acceptsTarget graph record.shown.1 := by
    intro record member
    rw [Pattern.acceptsRecord, get?_id member]
    rfl
  rw [search, List.filter_congr here, List.findIdxs_eq_filterMap_zipIdx,
    ← map_shown_records, List.filterMap_map, ← List.filterMap_eq_map,
    List.filterMap_filter]
  congr 2
  funext record
  simp [Record.shown, Bool.cond_eq_ite]

/-- Searching the records of a handle is scanning the tree it expands to. -/
theorem Graph.Layered.search_flatten {graph : Graph} (layered : graph.Layered)
    {root : ValueId} {tree : Value} (expands : graph.expand? root = some tree)
    (labelLimit : Nat) (pattern : Pattern) (limit : Nat) :
    (graph.flatten labelLimit [root]).search graph pattern limit =
      (pattern.scan tree).take limit := by
  obtain ⟨outline, flattened, shows⟩ :=
    layered.exists_flatten labelLimit expands
  rw [flattened, Flat.search_ofOutlines, Pattern.scan,
    findIdxs_congr_of_forall₂ shows]
  intro target occurrence expands
  exact Pattern.acceptsTarget_of_expands expands pattern

/-- In whatever interner a value was interned, its handle expands to a tree that
is the same value as long as all slots can be counted, and a search through the
records of the handle returns the first places of that tree at which the pattern
matches.  The tree alone decides the answer: neither the cut of the labels nor
the other slots matter. -/
theorem search_flatten_eq_scan {interner : Interner} (value : Value)
    (reached : interner.Reached) :
    let graph := (interner.intern value).2.graph
    let root := (interner.intern value).1
    (graph.size ≤ UInt32.size →
      ∃ tree, graph.expand? root = some tree ∧ tree.Same value) ∧
    ∀ (tree : Value), graph.expand? root = some tree →
      ∀ (labelLimit : Nat) (pattern : Pattern) (limit : Nat),
        (graph.flatten labelLimit [root]).search graph pattern limit =
          (pattern.scan tree).take limit := by
  intro graph root
  have layered : graph.Layered := (reached.intern value).layered
  refine ⟨?_, fun tree expands => layered.search_flatten expands⟩
  intro room
  have valid := reached.run.valid Interner.empty_valid
    ((Interner.intern_run interner value).growth.size_le.trans room)
  have denotes := Interner.intern_denotes valid value room
  obtain ⟨node, found⟩ := denotes.resolves
  obtain ⟨tree, expands⟩ := layered.exists_expand found
  have denotesTree := Graph.ExpandsWithin.denotes expands
  exact ⟨tree, expands, denotesTree.same denotes⟩

/-- A constructor was interned with its children in one order and is interned
again in the other.  Both `[1]` share one handle and are found at two places, the
entry of the map at a third. -/
theorem search_flatten_eq_scan_shared :
    let one := Value.list [.number "1"]
    let left := Value.constr .identifier "f" []
      [("a", one), ("b", .map [(.string (.ofPlain "k"), one)])]
    let right := Value.constr .identifier "f" []
      [("b", .map [(.string (.ofPlain "k"), one)]), ("a", one)]
    let pattern := Pattern.or [.list [.any], .map [(.any, .list [.any])]]
    let early := (Interner.empty.intern left).2
    early.Reached ∧ (early.intern right).2.graph.size ≤ UInt32.size ∧
      ((early.intern right).2.graph.flatten 0
          [(early.intern right).1]).search
        (early.intern right).2.graph pattern 3 = [1, 3, 4] := by
  intro one left right pattern early
  have reached : early.Reached := .intern left .empty
  have count : (early.intern right).2.graph.size = 6 := by
    simp only [early, right, left, one]
    cbv
  have room : (early.intern right).2.graph.size ≤ UInt32.size := by
    rw [count]
    decide
  obtain ⟨expanding, found⟩ := search_flatten_eq_scan right reached
  obtain ⟨tree, expands, -⟩ := expanding room
  have shape : (early.intern right).2.graph.expand? (early.intern right).1 =
      some left := by
    simp only [early, right, left, one]
    cbv
  have same : tree = left := Option.some.inj (expands.symm.trans shape)
  have places : pattern.scan left = [1, 3, 4, 6] := by
    simp only [pattern, left, one]
    cbv
  refine ⟨reached, room, (found tree expands 0 pattern 3).trans ?_⟩
  rw [same, places]
  rfl

end TreeQuery
