import Mathlib.Tactic
import TreeQuery.Proofs.Graph.Expansion
import TreeQuery.Proofs.Graph.Interning
import TreeQuery.Proofs.Value.RoundTrip

/-!
# The written form of a handle

The tree of a handle is interned again without adding a slot, since the table
finds each of its parts.  When only values that were read have been interned,
every handle has a well-formed tree, so its written form is read and interned to
the handle itself.
-/

namespace TreeQuery

namespace Interner

/-! ## Trees that are in the graph -/

theorem Indexed.insertNode {interner : Interner} (indexed : interner.Indexed)
    {id : ValueId} {node : Node}
    (found : interner.graph.value? id = some node) :
    interner.insertNode node = (id, interner) := by
  have entered := indexed id.index _ (Graph.value?_eq_some_iff.mp found)
  simp [Interner.insertNode, Interner.insert, entered]

theorem Indexed.insertEntry {interner : Interner} (indexed : interner.Indexed)
    {id : EntryId} {entry : Entry}
    (found : interner.graph.entry? id = some entry) :
    interner.insertEntry entry = (id, interner) := by
  have entered := indexed id.index _ (Graph.entry?_eq_some_iff.mp found)
  simp [Interner.insertEntry, Interner.insert, entered]

section

variable {interner : Interner} {unfolds : ValueId → Value → Prop}
  (back : ∀ id value, unfolds id value → interner.intern value = (id, interner))

include back

theorem internItems_back {ids : List ValueId} {items : List Value}
    (all : List.Forall₂ unfolds ids items) :
    interner.internItems items = (ids, interner) := by
  induction all with
  | nil => rfl
  | cons first _ induction =>
      simp only [internItems, back _ _ first, induction]

theorem internFields_back {ids : List (String × ValueId)}
    {fields : List (String × Value)}
    (all : List.Forall₂ (Graph.UnfoldsField unfolds) ids fields) :
    interner.internFields fields = (ids, interner) := by
  induction all with
  | nil => rfl
  | cons first _ induction =>
      obtain ⟨name, unfolded⟩ := first
      simp only [internFields, back _ _ unfolded, induction, ← name]

variable (indexed : interner.Indexed)

include indexed

theorem internEntry_back {id : EntryId} {entry : Value × Value}
    (unfolded : interner.graph.UnfoldsEntry unfolds id entry) :
    interner.internEntry entry = (id, interner) := by
  obtain ⟨key, value⟩ := entry
  obtain ⟨stored, found, unfoldsKey, unfoldsValue⟩ := unfolded
  simp only [internEntry, back _ _ unfoldsKey, back _ _ unfoldsValue,
    indexed.insertEntry found]

theorem internEntries_back {ids : List EntryId}
    {entries : List (Value × Value)}
    (all : List.Forall₂ (interner.graph.UnfoldsEntry unfolds) ids entries) :
    interner.internEntries entries = (ids, interner) := by
  induction all with
  | nil => rfl
  | cons first _ induction =>
      simp only [internEntries, internEntry_back back indexed first, induction]

/-- What the node of a handle unfolds to is interned to the handle, if the parts
are interned to theirs. -/
theorem intern_back {id : ValueId} {node : Node} {value : Value}
    (found : interner.graph.value? id = some node)
    (shape : interner.graph.Unfolds unfolds node value) :
    interner.intern value = (id, interner) := by
  have known := indexed.insertNode found
  cases shape with
  | map entries =>
      simp only [intern, internEntries_back back indexed entries, known]
  | list items | set items | tuple items =>
      simp only [intern, internItems_back back items, known]
  | constr items fields =>
      simp only [intern, internItems_back back items,
        internFields_back back fields, known]
  | string | number | boolean | location => exact known

end

/-- The tree of a handle is interned to the handle and adds nothing. -/
theorem Indexed.intern_expanded {interner : Interner}
    (indexed : interner.Indexed) {depth : Nat} {id : ValueId} {value : Value}
    (expands : interner.graph.ExpandsWithin depth id value) :
    interner.intern value = (id, interner) := by
  induction depth generalizing id value with
  | zero => cases expands
  | succ depth induction =>
      obtain ⟨node, found, shape⟩ := Graph.expandsWithin_succ_iff.mp expands
      -- The levels below are interned first; each finds its slot.
      exact intern_back (fun _ _ => induction) indexed found shape

/-! ## Trees that can be written -/

end Interner

/-- The handles of the slot expand to values that can be written, and so does
the slot if it holds a value. -/
def Slot.LegibleWithin (graph : Graph) (depth : Nat) : Slot → Prop
  | .value node =>
      ∃ value, Value.WellFormed value ∧
        graph.Unfolds (graph.ExpandsWithin depth) node value
  | .entry stored =>
      (∃ key, Value.WellFormed key ∧
        graph.ExpandsWithin depth stored.key key) ∧
      ∃ value, Value.WellFormed value ∧
        graph.ExpandsWithin depth stored.value value

theorem Slot.LegibleWithin.mono {large small : Graph} {depth depth' : Nat}
    {slot : Slot} (growth : large.Extends small) (deeper : depth ≤ depth')
    (legible : slot.LegibleWithin small depth) :
    slot.LegibleWithin large depth' := by
  cases slot with
  | value node =>
      obtain ⟨value, wellFormed, shape⟩ := legible
      refine ⟨value, wellFormed, shape.mono growth ?_⟩
      intro id value expands
      exact expands.mono growth deeper
  | entry stored =>
      obtain ⟨⟨key, wellFormedKey, expandsKey⟩, value, wellFormedValue,
        expandsValue⟩ := legible
      exact ⟨⟨key, wellFormedKey, expandsKey.mono growth deeper⟩, value,
        wellFormedValue, expandsValue.mono growth deeper⟩

namespace Interner

/-- Every slot that an index leads to is legible within the slots before it. -/
structure Legible (interner : Interner) : Prop where
  run : Run empty interner
  slot : ∀ (index : UInt32) (slot : Slot),
    interner.graph.slots[index.toNat]? = some slot →
      slot.LegibleWithin interner.graph index.toNat

theorem empty_legible : Legible empty := by
  refine ⟨.refl, ?_⟩
  intro index slot found
  simp [empty, Graph.empty] at found

section

variable {interner : Interner} (legible : interner.Legible)

include legible

/-- A legible slot is added; nothing is asked of a slot that no index leads
to. -/
theorem Legible.insert {slot : Slot}
    (fits : interner.graph.size < UInt32.size →
      slot.LegibleWithin interner.graph interner.graph.size) :
    (interner.insert slot).2.Legible := by
  refine ⟨legible.run.insert slot, ?_⟩
  have growth := insert_extends interner slot
  rcases insert_cases interner slot with ⟨_, -, result⟩ | ⟨-, result⟩
  · rw [result]
    exact legible.slot
  · rw [result] at growth ⊢
    intro index stored found
    rcases Graph.push_cases found with ⟨atEnd, rfl⟩ | former
    · -- An index leads to the new slot, so all slots before it were counted.
      have room : interner.graph.size < UInt32.size := by
        rw [← atEnd]
        exact index.toNat_lt_size
      exact (fits room).mono growth (Nat.le_of_eq atEnd.symm)
    · exact (legible.slot index stored former).mono growth (Nat.le_refl _)

theorem Legible.expands {id : ValueId} {node : Node}
    (found : interner.graph.value? id = some node) :
    ∃ value, Value.WellFormed value ∧
      interner.graph.ExpandsWithin interner.graph.size id value := by
  have stored := Graph.value?_eq_some_iff.mp found
  obtain ⟨inside, -⟩ := Array.getElem?_eq_some_iff.mp stored
  obtain ⟨value, wellFormed, shape⟩ := legible.slot id.index _ stored
  have expands : interner.graph.ExpandsWithin (id.index.toNat + 1) id value :=
    Graph.expandsWithin_succ_iff.mpr ⟨node, found, shape⟩
  exact ⟨value, wellFormed, expands.mono (.refl _) inside⟩

theorem Legible.unfoldsEntry {id : EntryId} {entry : Value × Value}
    (denotes : interner.graph.DenotesEntry id entry) :
    ∃ key value, Value.WellFormed key ∧ Value.WellFormed value ∧
      interner.graph.UnfoldsEntry
        (interner.graph.ExpandsWithin interner.graph.size) id
        (key, value) := by
  obtain ⟨key, value⟩ := entry
  obtain ⟨stored, found, denotesKey, denotesValue⟩ := denotes
  obtain ⟨_, foundKey⟩ := denotesKey.resolves
  obtain ⟨_, foundValue⟩ := denotesValue.resolves
  obtain ⟨key', wellFormedKey, expandsKey⟩ := legible.expands foundKey
  obtain ⟨value', wellFormedValue, expandsValue⟩ := legible.expands foundValue
  exact ⟨key', value', wellFormedKey, wellFormedValue, stored, found,
    expandsKey, expandsValue⟩

theorem Legible.items {ids : List ValueId} {items : List Value}
    (denotes : interner.graph.DenotesItems ids items) :
    ∃ items', Value.WellFormedItems items' ∧
      List.Forall₂ (interner.graph.ExpandsWithin interner.graph.size) ids
        items' := by
  rw [Graph.denotesItems_iff_forall₂] at denotes
  induction denotes with
  | nil => exact ⟨[], trivial, .nil⟩
  | cons first _ induction =>
      obtain ⟨_, found⟩ := first.resolves
      obtain ⟨value, wellFormed, expands⟩ := legible.expands found
      obtain ⟨items', wellFormedItems, all⟩ := induction
      exact ⟨value :: items', ⟨wellFormed, wellFormedItems⟩,
        .cons expands all⟩

theorem Legible.entries {ids : List EntryId} {entries : List (Value × Value)}
    (denotes : interner.graph.DenotesEntries ids entries) :
    ∃ entries', Value.WellFormedEntries entries' ∧
      List.Forall₂ (interner.graph.UnfoldsEntry
        (interner.graph.ExpandsWithin interner.graph.size)) ids entries' := by
  rw [Graph.denotesEntries_iff_forall₂] at denotes
  induction denotes with
  | nil => exact ⟨[], trivial, .nil⟩
  | cons first _ induction =>
      obtain ⟨key, value, wellFormedKey, wellFormedValue, unfolds⟩ :=
        legible.unfoldsEntry first
      obtain ⟨entries', wellFormedEntries, all⟩ := induction
      exact ⟨(key, value) :: entries',
        ⟨wellFormedKey, wellFormedValue, wellFormedEntries⟩,
        .cons unfolds all⟩

theorem Legible.fields {ids : List (String × ValueId)}
    {fields : List (String × Value)}
    (denotes : interner.graph.DenotesFields ids fields)
    (wellFormed : Value.WellFormedFields fields) :
    ∃ fields', Value.WellFormedFields fields' ∧
      List.Forall₂ (Graph.UnfoldsField
        (interner.graph.ExpandsWithin interner.graph.size)) ids fields' := by
  rw [Graph.denotesFields_iff_forall₂] at denotes
  induction denotes with
  | nil => exact ⟨[], trivial, .nil⟩
  | @cons id field _ _ first _ induction =>
      obtain ⟨name, child⟩ := field
      obtain ⟨isIdentifier, _, wellFormedOthers⟩ := wellFormed
      obtain ⟨sameName, denotesChild⟩ := first
      obtain ⟨_, found⟩ := denotesChild.resolves
      obtain ⟨value, wellFormedChild, expands⟩ := legible.expands found
      obtain ⟨fields', wellFormedFields, all⟩ := induction wellFormedOthers
      exact ⟨(name, value) :: fields',
        ⟨isIdentifier, wellFormedChild, wellFormedFields⟩,
        .cons ⟨sameName, expands⟩ all⟩

theorem Legible.valid {finish : Interner} (run : Run interner finish)
    (room : finish.graph.size < UInt32.size) : interner.Valid :=
  legible.run.valid empty_valid
    (run.growth.size_le.trans (Nat.le_of_lt room))

/-- The handles of items that were interned expand to well-formed values. -/
theorem Legible.interned {items : List Value}
    (legible' : (interner.internItems items).2.Legible)
    (room : (interner.internItems items).2.graph.size < UInt32.size) :
    ∃ items', Value.WellFormedItems items' ∧
      List.Forall₂ ((interner.internItems items).2.graph.ExpandsWithin
        (interner.internItems items).2.graph.size)
        (interner.internItems items).1 items' := by
  have valid := legible.valid (internItems_run interner items) room
  exact legible'.items (internItems_denotes valid items (Nat.le_of_lt room))

end

mutual

/-- Interning a well-formed value keeps all slots legible. -/
theorem intern_legible {interner : Interner} (legible : interner.Legible)
    (value : Value) (wellFormed : Value.WellFormed value) :
    (interner.intern value).2.Legible := by
  match value with
  | .map entries =>
      have legible' := internEntries_legible legible entries wellFormed
      apply legible'.insert
      intro room
      have denotes := internEntries_denotes
        (legible.valid (internEntries_run interner entries) room) entries
        (Nat.le_of_lt room)
      obtain ⟨entries', wellFormed', all⟩ := legible'.entries denotes
      exact ⟨.map entries', wellFormed', .map all⟩
  | .list items =>
      have legible' := internItems_legible legible items wellFormed
      apply legible'.insert
      intro room
      obtain ⟨items', wellFormed', all⟩ := legible.interned legible' room
      exact ⟨.list items', wellFormed', .list all⟩
  | .set items =>
      have legible' := internItems_legible legible items wellFormed
      apply legible'.insert
      intro room
      obtain ⟨items', wellFormed', all⟩ := legible.interned legible' room
      exact ⟨.set items', wellFormed', .set all⟩
  | .tuple items =>
      have legible' := internItems_legible legible items wellFormed
      apply legible'.insert
      intro room
      obtain ⟨items', wellFormed', all⟩ := legible.interned legible' room
      exact ⟨.tuple items', wellFormed', .tuple all⟩
  | .constr kind name positional named =>
      obtain ⟨isName, wellFormedItems, wellFormedFields⟩ := wellFormed
      have legibleItems :=
        internItems_legible legible positional wellFormedItems
      have legible' := internFields_legible legibleItems named wellFormedFields
      apply legible'.insert
      intro room
      have runFields :=
        internFields_run (interner.internItems positional).2 named
      have runBoth := (internItems_run interner positional).trans runFields
      have roomItems := runFields.growth.size_le.trans (Nat.le_of_lt room)
      have denotesItems := internItems_denotes (legible.valid runBoth room)
        positional roomItems
      have denotesFields := internFields_denotes
        (legibleItems.valid runFields room) named (Nat.le_of_lt room)
      obtain ⟨items', wellFormedItems', allItems⟩ :=
        legible'.items (denotesItems.mono runFields.growth)
      obtain ⟨fields', wellFormedFields', allFields⟩ :=
        legible'.fields denotesFields wellFormedFields
      exact ⟨.constr kind name items' fields',
        ⟨isName, wellFormedItems', wellFormedFields'⟩,
        .constr allItems allFields⟩
  | .string text => exact legible.insert fun _ => ⟨_, wellFormed, .string text⟩
  | .number digits =>
      exact legible.insert fun _ => ⟨_, wellFormed, .number digits⟩
  | .boolean truth =>
      exact legible.insert fun _ => ⟨_, wellFormed, .boolean truth⟩
  | .location place =>
      exact legible.insert fun _ => ⟨_, wellFormed, .location place⟩
termination_by structural value

theorem internItems_legible {interner : Interner} (legible : interner.Legible)
    (items : List Value) (wellFormed : Value.WellFormedItems items) :
    (interner.internItems items).2.Legible := by
  match items with
  | [] => exact legible
  | value :: values =>
      obtain ⟨wellFormedFirst, wellFormedRest⟩ := wellFormed
      exact internItems_legible (intern_legible legible value wellFormedFirst)
        values wellFormedRest
termination_by structural items

theorem internEntries_legible {interner : Interner}
    (legible : interner.Legible) (entries : List (Value × Value))
    (wellFormed : Value.WellFormedEntries entries) :
    (interner.internEntries entries).2.Legible := by
  match entries with
  | [] => exact legible
  | entry :: entries =>
      obtain ⟨wellFormedKey, wellFormedValue, wellFormedRest⟩ := wellFormed
      exact internEntries_legible
        (internEntry_legible legible entry wellFormedKey wellFormedValue)
        entries wellFormedRest
termination_by structural entries

theorem internEntry_legible {interner : Interner} (legible : interner.Legible)
    (entry : Value × Value) (wellFormedKey : Value.WellFormed entry.1)
    (wellFormedValue : Value.WellFormed entry.2) :
    (interner.internEntry entry).2.Legible := by
  match entry with
  | (key, value) =>
      have legibleKey := intern_legible legible key wellFormedKey
      have legible' := intern_legible legibleKey value wellFormedValue
      apply legible'.insert
      intro room
      have runValue := intern_run (interner.intern key).2 value
      have runBoth := (intern_run interner key).trans runValue
      have denotesKey := intern_denotes (legible.valid runBoth room) key
        (runValue.growth.size_le.trans (Nat.le_of_lt room))
      have denotesValue := intern_denotes (legibleKey.valid runValue room)
        value (Nat.le_of_lt room)
      obtain ⟨_, foundKey⟩ := (denotesKey.mono runValue.growth).resolves
      obtain ⟨_, foundValue⟩ := denotesValue.resolves
      exact ⟨legible'.expands foundKey, legible'.expands foundValue⟩
termination_by structural entry

theorem internFields_legible {interner : Interner} (legible : interner.Legible)
    (fields : List (String × Value))
    (wellFormed : Value.WellFormedFields fields) :
    (interner.internFields fields).2.Legible := by
  match fields with
  | [] => exact legible
  | (_, value) :: fields =>
      obtain ⟨_, wellFormedFirst, wellFormedRest⟩ := wellFormed
      exact internFields_legible (intern_legible legible value wellFormedFirst)
        fields wellFormedRest
termination_by structural fields

end

/-- The interners reached from the empty one by interning values that were
read. -/
inductive ReachedByReading : Interner → Prop where
  | empty : ReachedByReading empty
  | intern {interner : Interner} {source : String} {value : Value} :
      ReachedByReading interner → Value.read source = .ok value →
      ReachedByReading (interner.intern value).2

theorem ReachedByReading.legible {interner : Interner}
    (reached : ReachedByReading interner) : interner.Legible := by
  induction reached with
  | empty => exact empty_legible
  | intern _ result legible =>
      exact intern_legible legible _ (Value.wellFormed_of_read result)

/-- The written form of a handle is read, and interning what was read gives the
handle back and changes nothing. -/
theorem intern_read_text {interner : Interner}
    (reached : ReachedByReading interner) {id : ValueId} {node : Node}
    (found : interner.graph.value? id = some node) :
    ∃ text value, interner.graph.text? id = some text ∧
      Value.read text = .ok value ∧ interner.intern value = (id, interner) := by
  have legible := reached.legible
  obtain ⟨value, wellFormed, expands⟩ := legible.expands found
  have expanded : interner.graph.expand? id = some value := expands
  have written : interner.graph.text? id = some value.text := by
    rw [Graph.text?, expanded, Option.map_some]
  have result : Value.read value.text = .ok value :=
    Value.read_of_wellFormed wellFormed
  have back : interner.intern value = (id, interner) :=
    legible.run.indexed.intern_expanded expands
  exact ⟨value.text, value, written, result, back⟩

theorem intern_read_text_swapped :
    let left := Value.constr .identifier "f" []
      [("a", .number "1"), ("b", .boolean true)]
    let right := Value.constr .identifier "f" []
      [("b", .boolean true), ("a", .number "1")]
    let first := (empty.intern left).2
    let second := (first.intern right).2
    let id := (first.intern right).1
    Value.read "f(a=1,b=true)" = .ok left ∧
      Value.read "f(b=true,a=1)" = .ok right ∧ ReachedByReading second ∧
      second.graph.value? id =
        some (.constr .identifier "f" [] [("a", ⟨0⟩), ("b", ⟨1⟩)]) ∧
      ∃ text value, second.graph.text? id = some text ∧
        Value.read text = .ok value ∧ second.intern value = (id, second) := by
  intro left right first second id
  have resultLeft : Value.read "f(a=1,b=true)" = .ok left := by
    decide +kernel
  have resultRight : Value.read "f(b=true,a=1)" = .ok right := by
    decide +kernel
  have reached : ReachedByReading second :=
    (ReachedByReading.empty.intern resultLeft).intern resultRight
  have found : second.graph.value? id =
      some (.constr .identifier "f" [] [("a", ⟨0⟩), ("b", ⟨1⟩)]) := by
    simp only [second, id, first, left, right]
    cbv
  exact ⟨resultLeft, resultRight, reached, found,
    intern_read_text reached found⟩

end Interner

end TreeQuery
