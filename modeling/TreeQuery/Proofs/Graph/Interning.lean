import Mathlib.Data.String.Basic
import TreeQuery.Graph.Interner
import TreeQuery.Proofs.Graph.Denotation

/-!
# Runs of an interner

The table of an interner finds exactly the slots of its graph, each under its
own key.  Interning keeps this, only adds slots, and returns a handle that
denotes the value; so, whatever was interned before or after, equal handles and
equal values go together.
-/

namespace TreeQuery

section

variable {left right : String × ValueId}

private theorem fieldLe_iff :
    fieldLe left right = true ↔
      left.1 < right.1 ∨ left.1 = right.1 ∧ left.2.index ≤ right.2.index := by
  simp [fieldLe]

private theorem fieldLe_trans (left middle right : String × ValueId)
    (lower : fieldLe left middle = true)
    (upper : fieldLe middle right = true) : fieldLe left right = true := by
  rw [fieldLe_iff] at lower upper ⊢
  rcases lower with before | ⟨sameName, below⟩
  · rcases upper with before' | ⟨sameName', -⟩
    · exact .inl (before.trans before')
    · exact .inl (sameName' ▸ before)
  · rcases upper with before' | ⟨sameName', below'⟩
    · exact .inl (sameName ▸ before')
    · exact .inr ⟨sameName.trans sameName', UInt32.le_trans below below'⟩

private theorem fieldLe_total (left right : String × ValueId) :
    (fieldLe left right || fieldLe right left) = true := by
  rw [Bool.or_eq_true, fieldLe_iff, fieldLe_iff]
  rcases lt_trichotomy left.1 right.1 with before | same | behind
  · exact .inl (.inl before)
  · rcases UInt32.le_total left.2.index right.2.index with below | above
    · exact .inl (.inr ⟨same, below⟩)
    · exact .inr (.inr ⟨same.symm, above⟩)
  · exact .inr (.inl behind)

private theorem fieldLe_antisymm (lower : fieldLe left right = true)
    (upper : fieldLe right left = true) : left = right := by
  rw [fieldLe_iff] at lower upper
  rcases lower with before | ⟨same, below⟩
  · rcases upper with behind | ⟨same, -⟩
    · exact absurd behind before.asymm
    · exact absurd before (same ▸ lt_irrefl _)
  · rcases upper with behind | ⟨-, above⟩
    · exact absurd behind (same ▸ lt_irrefl _)
    · have sameIndex := UInt32.le_antisymm below above
      obtain ⟨name, ⟨index⟩⟩ := left
      obtain ⟨name', ⟨index'⟩⟩ := right
      simp_all

end

/-- Sorting forgets the order and nothing else. -/
private theorem sortedFields_eq_iff {fields fields' : List (String × ValueId)} :
    fields.mergeSort fieldLe = fields'.mergeSort fieldLe ↔
      fields.Perm fields' := by
  have sorted (fields : List (String × ValueId)) :
      (fields.mergeSort fieldLe).Pairwise (fieldLe · · = true) :=
    List.pairwise_mergeSort fieldLe_trans fieldLe_total fields
  constructor
  · intro same
    have order := (List.mergeSort_perm fields fieldLe).symm
    rw [same] at order
    exact order.trans (List.mergeSort_perm fields' fieldLe)
  · intro order
    have sortedOrder :
        (fields.mergeSort fieldLe).Perm (fields'.mergeSort fieldLe) :=
      (List.mergeSort_perm fields fieldLe).trans
        (order.trans (List.mergeSort_perm fields' fieldLe).symm)
    refine sortedOrder.eq_of_pairwise ?_ (sorted fields) (sorted fields')
    intro _ _ _ _ lower upper
    exact fieldLe_antisymm lower upper

namespace Slot

/-- Two constructors with one key differ at most in the order of their named
children. -/
theorem key_constr_eq_iff {stored : Slot} {kind : ConstructorKind}
    {name : String} {positional : List ValueId}
    {fields : List (String × ValueId)} :
    stored.key = (value (.constr kind name positional fields)).key ↔
      ∃ fields', stored = value (.constr kind name positional fields') ∧
        fields'.Perm fields := by
  constructor
  · intro same
    cases stored with
    | entry => simp [key] at same
    | value node =>
        cases node with
        | constr kind' name' positional' fields' =>
            simp only [key, value.injEq, Node.constr.injEq,
              sortedFields_eq_iff] at same
            obtain ⟨rfl, rfl, rfl, order⟩ := same
            exact ⟨fields', rfl, order⟩
        | _ => simp [key] at same
  · intro stored
    obtain ⟨fields', rfl, order⟩ := stored
    simp only [key, sortedFields_eq_iff.mpr order]

/-- Every other slot is its own key. -/
theorem eq_of_key_eq {stored slot : Slot} (own : slot.key = slot)
    (plain : ∀ kind name positional fields,
      slot ≠ value (.constr kind name positional fields))
    (same : stored.key = slot.key) : stored = slot := by
  cases stored with
  | entry => exact same.trans own
  | value node =>
      cases node with
      | constr => exact absurd (own ▸ same.symm) (plain _ _ _ _)
      | _ => exact same.trans own

end Slot

namespace Interner

/-- The table finds the slots of the graph under their keys and nothing else. -/
structure Valid (interner : Interner) : Prop where
  size_le : interner.graph.size ≤ UInt32.size
  table_iff : ∀ (key : Slot) (index : UInt32),
    interner.table[key]? = some index ↔
      ∃ slot, interner.graph.slots[index.toNat]? = some slot ∧ slot.key = key

theorem empty_valid : empty.Valid := by
  constructor
  · exact Nat.zero_le _
  · intro key index
    rw [empty, Std.HashMap.getElem?_empty]
    constructor
    · intro found
      cases found
    · intro stored
      rcases stored with ⟨slot, found, _⟩
      rw [Graph.empty, Array.getElem?_empty] at found
      cases found

/-- A slot is found under its key, or it is added with the next index. -/
theorem insert_cases (interner : Interner) (slot : Slot) :
    (∃ index, interner.table[slot.key]? = some index ∧
      interner.insert slot = (index, interner)) ∨
    (interner.table[slot.key]? = none ∧
      interner.insert slot =
        (interner.graph.nextIndex,
          { graph := interner.graph.push slot
            table := interner.table.insert slot.key
              interner.graph.nextIndex })) := by
  cases found : interner.table[slot.key]? with
  | some index => exact .inl ⟨index, rfl, by simp [insert, found]⟩
  | none => exact .inr ⟨rfl, by simp [insert, found]⟩

theorem insert_extends (interner : Interner) (slot : Slot) :
    (interner.insert slot).2.graph.Extends interner.graph := by
  rcases insert_cases interner slot with ⟨index, -, result⟩ | ⟨-, result⟩
  · rw [result]
    exact .refl _
  · rw [result]
    exact .push _ _

/-- The index of a new slot is exact as long as all slots can be counted. -/
theorem nextIndex_toNat {graph : Graph} {slot : Slot}
    (room : (graph.push slot).size ≤ UInt32.size) :
    graph.nextIndex.toNat = graph.slots.size := by
  have smaller : graph.slots.size < UInt32.size := by
    rw [Graph.size, Graph.push, Array.size_push] at room
    omega
  exact Nat.mod_eq_of_lt smaller

theorem Valid.push {interner : Interner} (valid : interner.Valid) {slot : Slot}
    (missing : interner.table[slot.key]? = none)
    (room : (interner.graph.push slot).size ≤ UInt32.size) :
    Valid
      { graph := interner.graph.push slot
        table := interner.table.insert slot.key interner.graph.nextIndex } := by
  have last := nextIndex_toNat room
  refine ⟨room, ?_⟩
  intro key index
  have former := valid.table_iff key index
  simp only [Std.HashMap.getElem?_insert, beq_iff_eq, Graph.push,
    Array.getElem?_push]
  by_cases same : slot.key = key
  · subst same
    rw [missing] at former
    simp only [if_pos]
    constructor
    · intro found
      obtain rfl : interner.graph.nextIndex = index := by simpa using found
      exact ⟨slot, by simp [last], rfl⟩
    · intro held
      obtain ⟨stored, found, sameKey⟩ := held
      split at found
      · next atEnd =>
          exact congrArg some (UInt32.toNat_inj.mp (last.trans atEnd.symm))
      · exact absurd (former.mpr ⟨stored, found, sameKey⟩) (by simp)
  · rw [if_neg same, former]
    constructor
    · intro held
      obtain ⟨stored, found, sameKey⟩ := held
      have inside := (Array.getElem?_eq_some_iff.mp found).1
      exact ⟨stored, by rw [if_neg (by omega), found], sameKey⟩
    · intro held
      obtain ⟨stored, found, sameKey⟩ := held
      split at found
      · obtain rfl : slot = stored := by simpa using found
        exact absurd sameKey same
      · exact ⟨stored, found, sameKey⟩

/-- What one insertion does: the table stays exact, and the index returned is
that of a slot with the key looked for. -/
theorem Valid.insert {interner : Interner} (valid : interner.Valid)
    {slot : Slot}
    (room : (interner.insert slot).2.graph.size ≤ UInt32.size) :
    (interner.insert slot).2.Valid ∧
      ∃ stored, (interner.insert slot).2.graph.slots[
          (interner.insert slot).1.toNat]? = some stored ∧
        stored.key = slot.key := by
  rcases insert_cases interner slot with
    ⟨index, found, result⟩ | ⟨missing, result⟩
  · rw [result]
    exact ⟨valid, (valid.table_iff slot.key index).mp found⟩
  · rw [result] at room ⊢
    refine ⟨valid.push missing room, slot, ?_, rfl⟩
    simp [nextIndex_toNat room, Graph.push]

/-- The table finds every slot that an index leads to. -/
def Indexed (interner : Interner) : Prop :=
  ∀ (index : UInt32) (slot : Slot),
    interner.graph.slots[index.toNat]? = some slot →
      interner.table[slot.key]? = some index

theorem Valid.indexed {interner : Interner} (valid : interner.Valid) :
    interner.Indexed :=
  fun index slot found => (valid.table_iff slot.key index).mpr ⟨slot, found, rfl⟩

/-- One key has one index. -/
theorem Indexed.index_eq {interner : Interner} (indexed : interner.Indexed)
    {index index' : UInt32} {slot slot' : Slot}
    (found : interner.graph.slots[index.toNat]? = some slot)
    (found' : interner.graph.slots[index'.toNat]? = some slot')
    (same : slot.key = slot'.key) : index = index' := by
  have entered := indexed index slot found
  have entered' := indexed index' slot' found'
  rw [same, entered'] at entered
  exact (Option.some.inj entered).symm

theorem Indexed.insert {interner : Interner} (indexed : interner.Indexed)
    (slot : Slot) : (interner.insert slot).2.Indexed := by
  rcases insert_cases interner slot with ⟨_, -, result⟩ | ⟨missing, result⟩
  · rw [result]
    exact indexed
  · rw [result]
    intro index stored found
    rw [Std.HashMap.getElem?_insert]
    rcases Graph.push_cases found with ⟨atEnd, rfl⟩ | former
    · have last : interner.graph.nextIndex = index := by
        rw [Graph.nextIndex, ← atEnd, UInt32.ofNat_toNat]
      simp [last]
    · have entered := indexed index stored former
      -- A former slot keeps its entry, since only a missing key is added.
      have differ : slot.key ≠ stored.key := by
        intro same
        rw [same, entered] at missing
        cases missing
      simp [differ, entered]

/-- One interner becomes another by insertions one after the other.  Every call
that interns values or entries is such a run, and so is any sequence of calls
or the part of a call that follows a call inside it. -/
inductive Run (start : Interner) : Interner → Prop where
  | refl : Run start start
  | insert {middle : Interner} (slot : Slot) :
      Run start middle → Run start (middle.insert slot).2

namespace Run

variable {start middle finish : Interner}

theorem trans (first : Run start middle) (second : Run middle finish) :
    Run start finish := by
  induction second with
  | refl => exact first
  | insert slot _ induction => exact .insert slot induction

theorem growth (run : Run start finish) :
    finish.graph.Extends start.graph := by
  induction run with
  | refl => exact .refl _
  | insert slot _ induction => exact (insert_extends _ slot).trans induction

theorem valid (run : Run start finish) (valid : start.Valid)
    (room : finish.graph.size ≤ UInt32.size) : finish.Valid := by
  induction run with
  | refl => exact valid
  | insert slot _ induction =>
      have smaller := (insert_extends _ slot).size_le.trans room
      exact ((induction smaller).insert room).1

theorem indexed (run : Run empty finish) : finish.Indexed := by
  induction run with
  | refl =>
      intro index slot found
      simp [empty, Graph.empty] at found
  | insert slot _ induction => exact induction.insert slot

end Run

mutual

theorem intern_run (interner : Interner) (value : Value) :
    Run interner (interner.intern value).2 := by
  match value with
  | .map entries => exact .insert _ (internEntries_run interner entries)
  | .list items | .set items | .tuple items =>
      exact .insert _ (internItems_run interner items)
  | .constr _ _ positional named =>
      exact .insert _ ((internItems_run interner positional).trans
        (internFields_run _ named))
  | .string _ | .number _ | .boolean _ | .location _ => exact .insert _ .refl
termination_by structural value

theorem internItems_run (interner : Interner) (values : List Value) :
    Run interner (interner.internItems values).2 := by
  match values with
  | [] => exact .refl
  | value :: values =>
      exact (intern_run interner value).trans (internItems_run _ values)
termination_by structural values

theorem internEntries_run (interner : Interner)
    (entries : List (Value × Value)) :
    Run interner (interner.internEntries entries).2 := by
  match entries with
  | [] => exact .refl
  | entry :: entries =>
      exact (internEntry_run interner entry).trans (internEntries_run _ entries)
termination_by structural entries

theorem internEntry_run (interner : Interner) (entry : Value × Value) :
    Run interner (interner.internEntry entry).2 := by
  match entry with
  | (key, value) =>
      exact .insert _ ((intern_run interner key).trans (intern_run _ value))
termination_by structural entry

theorem internFields_run (interner : Interner)
    (fields : List (String × Value)) :
    Run interner (interner.internFields fields).2 := by
  match fields with
  | [] => exact .refl
  | (_, value) :: fields =>
      exact (intern_run interner value).trans (internFields_run _ fields)
termination_by structural fields

end

theorem insert_room {interner : Interner} {slot : Slot}
    (room : (interner.insert slot).2.graph.size ≤ UInt32.size) :
    interner.graph.size ≤ UInt32.size :=
  (insert_extends interner slot).size_le.trans room

/-- The slot of a node that is its own key is stored as it is. -/
theorem value?_insertNode {interner : Interner} (valid : interner.Valid)
    {node : Node} (own : (Slot.value node).key = .value node)
    (plain : ∀ kind name positional fields,
      Slot.value node ≠ .value (.constr kind name positional fields))
    (room : (interner.insertNode node).2.graph.size ≤ UInt32.size) :
    (interner.insertNode node).2.graph.value? (interner.insertNode node).1 =
      some node := by
  obtain ⟨-, stored, found, same⟩ := valid.insert room
  obtain rfl := Slot.eq_of_key_eq own plain same
  simp [Graph.value?, insertNode, found]

/-- The slot of a constructor may hold the named children in another order. -/
theorem value?_insertNode_constr {interner : Interner} (valid : interner.Valid)
    {kind : ConstructorKind} {name : String} {positional : List ValueId}
    {fields : List (String × ValueId)} {node : Node}
    (shape : node = .constr kind name positional fields)
    (room : (interner.insertNode node).2.graph.size ≤ UInt32.size) :
    ∃ fields', (interner.insertNode node).2.graph.value?
          (interner.insertNode node).1 =
            some (.constr kind name positional fields') ∧
        fields'.Perm fields := by
  obtain ⟨-, stored, found, same⟩ := valid.insert room
  rw [shape] at same
  obtain ⟨fields', rfl, order⟩ := Slot.key_constr_eq_iff.mp same
  exact ⟨fields', by simp [Graph.value?, insertNode, found], order⟩

theorem entry?_insertEntry {interner : Interner} (valid : interner.Valid)
    {entry : Entry}
    (room : (interner.insertEntry entry).2.graph.size ≤ UInt32.size) :
    (interner.insertEntry entry).2.graph.entry?
      (interner.insertEntry entry).1 = some entry := by
  obtain ⟨-, stored, found, same⟩ := valid.insert room
  obtain rfl := Slot.eq_of_key_eq rfl (by simp) same
  simp [Graph.entry?, insertEntry, found]

mutual

/-- The handle that interning returns denotes the value. -/
theorem intern_denotes {interner : Interner} (valid : interner.Valid)
    (value : Value)
    (room : (interner.intern value).2.graph.size ≤ UInt32.size) :
    (interner.intern value).2.graph.Denotes (interner.intern value).1
      value := by
  match value with
  | .map entries =>
      have children := internEntries_denotes valid entries (insert_room room)
      have valid' :=
        (internEntries_run interner entries).valid valid (insert_room room)
      exact ⟨_, value?_insertNode valid' rfl (by simp) room,
        children.mono (insert_extends _ _)⟩
  | .list items | .set items | .tuple items =>
      have children := internItems_denotes valid items (insert_room room)
      have valid' :=
        (internItems_run interner items).valid valid (insert_room room)
      exact ⟨_, value?_insertNode valid' rfl (by simp) room,
        children.mono (insert_extends _ _)⟩
  | .constr kind name positional named =>
      have growth :=
        (internFields_run (interner.internItems positional).2 named).growth
      have fieldsRoom := insert_room room
      have itemsRoom := growth.size_le.trans fieldsRoom
      have children := internItems_denotes valid positional itemsRoom
      have valid' :=
        (internItems_run interner positional).valid valid itemsRoom
      have others := internFields_denotes valid' named fieldsRoom
      have finish := (internFields_run _ named).valid valid' fieldsRoom
      obtain ⟨fields, found, order⟩ := value?_insertNode_constr finish rfl room
      exact ⟨_, fields, found,
        children.mono ((insert_extends _ _).trans growth), _, order,
        others.mono (insert_extends _ _)⟩
  | .string _ | .number _ | .boolean _ | .location _ =>
      exact value?_insertNode valid rfl (by simp) room
termination_by structural value

theorem internItems_denotes {interner : Interner} (valid : interner.Valid)
    (values : List Value)
    (room : (interner.internItems values).2.graph.size ≤ UInt32.size) :
    (interner.internItems values).2.graph.DenotesItems
      (interner.internItems values).1 values := by
  match values with
  | [] => trivial
  | value :: values =>
      have growth := (internItems_run (interner.intern value).2 values).growth
      have firstRoom := growth.size_le.trans room
      have first := intern_denotes valid value firstRoom
      have valid' := (intern_run interner value).valid valid firstRoom
      exact ⟨first.mono growth, internItems_denotes valid' values room⟩
termination_by structural values

theorem internEntries_denotes {interner : Interner} (valid : interner.Valid)
    (entries : List (Value × Value))
    (room : (interner.internEntries entries).2.graph.size ≤ UInt32.size) :
    (interner.internEntries entries).2.graph.DenotesEntries
      (interner.internEntries entries).1 entries := by
  match entries with
  | [] => trivial
  | entry :: entries =>
      have growth :=
        (internEntries_run (interner.internEntry entry).2 entries).growth
      have firstRoom := growth.size_le.trans room
      have first := internEntry_denotes valid entry firstRoom
      have valid' := (internEntry_run interner entry).valid valid firstRoom
      exact ⟨first.mono growth, internEntries_denotes valid' entries room⟩
termination_by structural entries

theorem internEntry_denotes {interner : Interner} (valid : interner.Valid)
    (entry : Value × Value)
    (room : (interner.internEntry entry).2.graph.size ≤ UInt32.size) :
    (interner.internEntry entry).2.graph.DenotesEntry
      (interner.internEntry entry).1 entry := by
  match entry with
  | (key, value) =>
      have growth := (intern_run (interner.intern key).2 value).growth
      have valueRoom := insert_room room
      have keyRoom := growth.size_le.trans valueRoom
      have denotesKey := intern_denotes valid key keyRoom
      have valid' := (intern_run interner key).valid valid keyRoom
      have denotesValue := intern_denotes valid' value valueRoom
      have finish := (intern_run _ value).valid valid' valueRoom
      exact ⟨_, entry?_insertEntry finish room,
        denotesKey.mono ((insert_extends _ _).trans growth),
        denotesValue.mono (insert_extends _ _)⟩
termination_by structural entry

theorem internFields_denotes {interner : Interner} (valid : interner.Valid)
    (fields : List (String × Value))
    (room : (interner.internFields fields).2.graph.size ≤ UInt32.size) :
    (interner.internFields fields).2.graph.DenotesFields
      (interner.internFields fields).1 fields := by
  match fields with
  | [] => trivial
  | (_, value) :: fields =>
      have growth := (internFields_run (interner.intern value).2 fields).growth
      have firstRoom := growth.size_le.trans room
      have first := intern_denotes valid value firstRoom
      have valid' := (intern_run interner value).valid valid firstRoom
      exact ⟨rfl, first.mono growth, internFields_denotes valid' fields room⟩
termination_by structural fields

end

end Interner

end TreeQuery
