import Mathlib.Tactic
import TreeQuery.Proofs.Graph.Interning

/-!
# Handles and structural equality

When the table finds every slot, a value has at most one handle.  Together with
what handles denote this makes equality of handles the equality of values up to
the order of named children.
-/

namespace TreeQuery

namespace Interner

section

variable {interner : Interner}

theorem Indexed.valueId_eq (indexed : interner.Indexed) {id id' : ValueId}
    {node node' : Node} (found : interner.graph.value? id = some node)
    (found' : interner.graph.value? id' = some node')
    (same : (Slot.value node).key = (Slot.value node').key) : id = id' := by
  rw [Graph.value?_eq_some_iff] at found found'
  have sameIndex := indexed.index_eq found found' same
  cases id
  cases id'
  exact congrArg ValueId.mk sameIndex

theorem Indexed.entryId_eq (indexed : interner.Indexed) {id id' : EntryId}
    {entry : Entry} (found : interner.graph.entry? id = some entry)
    (found' : interner.graph.entry? id' = some entry) : id = id' := by
  rw [Graph.entry?_eq_some_iff] at found found'
  have sameIndex := indexed.index_eq found found' rfl
  cases id
  cases id'
  exact congrArg EntryId.mk sameIndex

mutual

/-- A value has one handle. -/
theorem Indexed.denotes_unique (indexed : interner.Indexed) {id id' : ValueId}
    {value : Value} (denotes : interner.graph.Denotes id value)
    (denotes' : interner.graph.Denotes id' value) : id = id' := by
  match value with
  | .map entries =>
      obtain ⟨ids, found, children⟩ := denotes
      obtain ⟨ids', found', children'⟩ := denotes'
      obtain rfl := indexed.denotesEntries_unique children children'
      exact indexed.valueId_eq found found' rfl
  | .list items | .set items | .tuple items =>
      obtain ⟨ids, found, children⟩ := denotes
      obtain ⟨ids', found', children'⟩ := denotes'
      obtain rfl := indexed.denotesItems_unique children children'
      exact indexed.valueId_eq found found' rfl
  | .constr kind name positional named =>
      obtain ⟨ids, fields, found, children, arranged, order, others⟩ := denotes
      obtain ⟨ids', fields', found', children', arranged', order', others'⟩ :=
        denotes'
      obtain rfl := indexed.denotesItems_unique children children'
      obtain rfl := indexed.denotesFields_unique others others'
      have sameFields : fields.Perm fields' := order.trans order'.symm
      exact indexed.valueId_eq found found'
        (Slot.key_constr_eq_iff.mpr ⟨fields, rfl, sameFields⟩)
  | .string _ | .number _ | .boolean _ | .location _ =>
      exact indexed.valueId_eq denotes denotes' rfl
termination_by structural value

theorem Indexed.denotesItems_unique (indexed : interner.Indexed)
    {ids ids' : List ValueId} {values : List Value}
    (denotes : interner.graph.DenotesItems ids values)
    (denotes' : interner.graph.DenotesItems ids' values) : ids = ids' := by
  match ids, ids', values with
  | [], [], [] => rfl
  | _ :: _, _ :: _, value :: values =>
      have first := indexed.denotes_unique denotes.1 denotes'.1
      have others := indexed.denotesItems_unique denotes.2 denotes'.2
      rw [first, others]
  | [], _, _ :: _ | _ :: _, _, [] => exact denotes.elim
  | _, [], _ :: _ | _, _ :: _, [] => exact denotes'.elim
termination_by structural values

theorem Indexed.denotesEntries_unique (indexed : interner.Indexed)
    {ids ids' : List EntryId} {entries : List (Value × Value)}
    (denotes : interner.graph.DenotesEntries ids entries)
    (denotes' : interner.graph.DenotesEntries ids' entries) : ids = ids' := by
  match ids, ids', entries with
  | [], [], [] => rfl
  | _ :: _, _ :: _, entry :: entries =>
      have first := indexed.denotesEntry_unique denotes.1 denotes'.1
      have others := indexed.denotesEntries_unique denotes.2 denotes'.2
      rw [first, others]
  | [], _, _ :: _ | _ :: _, _, [] => exact denotes.elim
  | _, [], _ :: _ | _, _ :: _, [] => exact denotes'.elim
termination_by structural entries

theorem Indexed.denotesEntry_unique (indexed : interner.Indexed)
    {id id' : EntryId} {entry : Value × Value}
    (denotes : interner.graph.DenotesEntry id entry)
    (denotes' : interner.graph.DenotesEntry id' entry) : id = id' := by
  match entry with
  | (key, value) =>
      obtain ⟨⟨keyId, valueId⟩, found, denotesKey, denotesValue⟩ := denotes
      obtain ⟨⟨keyId', valueId'⟩, found', denotesKey', denotesValue'⟩ :=
        denotes'
      obtain rfl : keyId = keyId' :=
        indexed.denotes_unique denotesKey denotesKey'
      obtain rfl : valueId = valueId' :=
        indexed.denotes_unique denotesValue denotesValue'
      exact indexed.entryId_eq found found'
termination_by structural entry

theorem Indexed.denotesFields_unique (indexed : interner.Indexed)
    {ids ids' : List (String × ValueId)} {fields : List (String × Value)}
    (denotes : interner.graph.DenotesFields ids fields)
    (denotes' : interner.graph.DenotesFields ids' fields) : ids = ids' := by
  match ids, ids', fields with
  | [], [], [] => rfl
  | (name, id) :: _, (name', id') :: _, (_, value) :: fields =>
      obtain rfl : name = name' := denotes.1.trans denotes'.1.symm
      obtain rfl : id = id' := indexed.denotes_unique denotes.2.1 denotes'.2.1
      have others := indexed.denotesFields_unique denotes.2.2 denotes'.2.2
      rw [others]
  | [], _, _ :: _ | _ :: _, _, [] => exact denotes.elim
  | _, [], _ :: _ | _, _ :: _, [] => exact denotes'.elim
termination_by structural fields

end

/-- Values have one handle exactly when they are the same. -/
theorem Indexed.denotes_eq_iff (indexed : interner.Indexed) {id id' : ValueId}
    {value value' : Value} (denotes : interner.graph.Denotes id value)
    (denotes' : interner.graph.Denotes id' value') :
    id = id' ↔ value.Same value' := by
  constructor
  · intro same
    subst same
    exact denotes.same denotes'
  · intro same
    exact indexed.denotes_unique (denotes.ofSame same) denotes'

theorem Indexed.denotesEntry_eq_iff (indexed : interner.Indexed)
    {id id' : EntryId} {entry entry' : Value × Value}
    (denotes : interner.graph.DenotesEntry id entry)
    (denotes' : interner.graph.DenotesEntry id' entry') :
    id = id' ↔ Value.SameEntry entry entry' := by
  constructor
  · intro same
    subst same
    exact denotes.same denotes'
  · intro same
    exact indexed.denotesEntry_unique (denotes.ofSame same) denotes'

end

/-- In a run from the empty interner up to this one, some call interned the
value and returned the handle. -/
def Returned (interner : Interner) (value : Value) (id : ValueId) : Prop :=
  ∃ before : Interner, Run empty before ∧ (before.intern value).1 = id ∧
    Run (before.intern value).2 interner

/-- In a run from the empty interner up to this one, some call interned the
entry and returned the handle. -/
def ReturnedEntry (interner : Interner) (entry : Value × Value)
    (id : EntryId) : Prop :=
  ∃ before : Interner, Run empty before ∧ (before.internEntry entry).1 = id ∧
    Run (before.internEntry entry).2 interner

section

variable {interner : Interner}

theorem Returned.valid {value : Value} {id : ValueId}
    (returned : interner.Returned value id)
    (room : interner.graph.size ≤ UInt32.size) : interner.Valid := by
  obtain ⟨before, run, -, later⟩ := returned
  exact (run.trans ((intern_run before value).trans later)).valid
    empty_valid room

theorem Returned.denotes {value : Value} {id : ValueId}
    (returned : interner.Returned value id)
    (room : interner.graph.size ≤ UInt32.size) :
    interner.graph.Denotes id value := by
  obtain ⟨before, run, rfl, later⟩ := returned
  have callRoom := later.growth.size_le.trans room
  have beforeRoom := (intern_run before value).growth.size_le.trans callRoom
  have denotes :=
    intern_denotes (run.valid empty_valid beforeRoom) value callRoom
  exact denotes.mono later.growth

theorem ReturnedEntry.valid {entry : Value × Value} {id : EntryId}
    (returned : interner.ReturnedEntry entry id)
    (room : interner.graph.size ≤ UInt32.size) : interner.Valid := by
  obtain ⟨before, run, -, later⟩ := returned
  exact (run.trans ((internEntry_run before entry).trans later)).valid
    empty_valid room

theorem ReturnedEntry.denotes {entry : Value × Value} {id : EntryId}
    (returned : interner.ReturnedEntry entry id)
    (room : interner.graph.size ≤ UInt32.size) :
    interner.graph.DenotesEntry id entry := by
  obtain ⟨before, run, rfl, later⟩ := returned
  have callRoom := later.growth.size_le.trans room
  have beforeRoom :=
    (internEntry_run before entry).growth.size_le.trans callRoom
  have denotes :=
    internEntry_denotes (run.valid empty_valid beforeRoom) entry callRoom
  exact denotes.mono later.growth

end

/-- Equality of handles is structural equality, for values and for map entries,
at whatever points of a run they were interned. -/
theorem handle_eq_iff_same {interner : Interner}
    (room : interner.graph.size ≤ UInt32.size) :
    (∀ {value value' id id'}, interner.Returned value id →
      interner.Returned value' id' → (id = id' ↔ value.Same value')) ∧
    (∀ {entry entry' id id'}, interner.ReturnedEntry entry id →
      interner.ReturnedEntry entry' id' →
        (id = id' ↔ Value.SameEntry entry entry')) := by
  constructor
  · intro value value' id id' returned returned'
    exact (returned.valid room).indexed.denotes_eq_iff
      (returned.denotes room) (returned'.denotes room)
  · intro entry entry' id id' returned returned'
    exact (returned.valid room).indexed.denotesEntry_eq_iff
      (returned.denotes room) (returned'.denotes room)

theorem handle_eq_iff_same_swapped :
    let left := Value.constr .identifier "f" []
      [("a", .number "1"), ("b", .boolean true)]
    let right := Value.constr .identifier "f" []
      [("b", .boolean true), ("a", .number "1")]
    let first := empty.intern left
    let second := first.2.intern right
    let third := second.2.internEntry (left, right)
    let fourth := third.2.internEntry (right, left)
    fourth.2.graph.size ≤ UInt32.size ∧
      fourth.2.Returned left first.1 ∧ fourth.2.Returned right second.1 ∧
      left.Same right ∧
      fourth.2.ReturnedEntry (left, right) third.1 ∧
      fourth.2.ReturnedEntry (right, left) fourth.1 ∧
      Value.SameEntry (left, right) (right, left) := by
  intro left right first second third fourth
  have laterRun : Run second.2 fourth.2 :=
    (internEntry_run second.2 (left, right)).trans
      (internEntry_run third.2 (right, left))
  have count : fourth.2.graph.size = 4 := by
    simp only [fourth, third, second, first, left, right]
    cbv
  have room : fourth.2.graph.size ≤ UInt32.size := by
    rw [count]
    decide
  have returned : fourth.2.Returned left first.1 :=
    ⟨empty, .refl, rfl, (intern_run first.2 right).trans laterRun⟩
  have returned' : fourth.2.Returned right second.1 :=
    ⟨first.2, intern_run empty left, rfl, laterRun⟩
  have run : Run empty second.2 :=
    (intern_run empty left).trans (intern_run first.2 right)
  have entry : fourth.2.ReturnedEntry (left, right) third.1 :=
    ⟨second.2, run, rfl, internEntry_run third.2 (right, left)⟩
  have entry' : fourth.2.ReturnedEntry (right, left) fourth.1 :=
    ⟨third.2, run.trans (internEntry_run second.2 (left, right)), rfl, .refl⟩
  have equal : first.1 = second.1 := by
    simp only [second, first, left, right]
    cbv
  have same := ((handle_eq_iff_same room).1 returned returned').mp equal
  have equalEntry : third.1 = fourth.1 := by
    simp only [fourth, third, second, first, left, right]
    cbv
  have sameEntry := ((handle_eq_iff_same room).2 entry entry').mp equalEntry
  exact ⟨room, returned, returned', same, entry, entry', sameEntry⟩

end Interner

end TreeQuery
