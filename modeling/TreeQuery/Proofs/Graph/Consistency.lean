import TreeQuery.Proofs.Graph.Sharing

/-!
# Slots, keys and the table

After any sequence of calls, the slots of an interner, their keys and its table
agree, and every handle of a value expands.  A call that adds slots returns the
handle of the last one: the children of a node that is already stored lie before
it, so none of them can have been added just now.
-/

namespace TreeQuery

theorem Slot.key_targets_perm (slot : Slot) :
    slot.key.targets.Perm slot.targets := by
  cases slot with
  | entry => exact .refl _
  | value node =>
      cases node with
      | constr kind name positional named =>
          exact ((named.mergeSort_perm fieldLe).map _).append_left _
      | _ => exact .refl _

/-- Slots with one key have the same handles, up to their order. -/
theorem Slot.mem_targets_iff {slot slot' : Slot} (same : slot.key = slot'.key)
    {target : Target} : target ∈ slot.targets ↔ target ∈ slot'.targets := by
  rw [← slot.key_targets_perm.mem_iff, same, slot'.key_targets_perm.mem_iff]

namespace Graph

variable {graph : Graph} {id : ValueId}

theorem expandWithin_eq_none (missing : graph.value? id = none) (depth : Nat) :
    graph.expandWithin depth id = none := by
  cases depth with
  | zero => rfl
  | succ depth => simp only [expandWithin, missing, Option.bind_none]

/-- No more levels are needed than there are slots up to the handle's own. -/
theorem Layered.expandWithin_eq (layered : graph.Layered) {depth : Nat}
    (below : id.index.toNat < depth) :
    graph.expandWithin depth id = graph.expand? id := by
  cases found : graph.value? id with
  | none =>
      rw [expandWithin_eq_none found, expand?, expandWithin_eq_none found]
  | some node =>
      have resolves : graph.Resolves (.value id) := ⟨node, found⟩
      obtain ⟨value, least⟩ :=
        layered.exists_expandsWithin found (Nat.lt_succ_self id.index.toNat)
      have within : graph.ExpandsWithin depth id value :=
        least.mono (.refl graph) below
      have whole : graph.ExpandsWithin graph.size id value :=
        least.mono (.refl graph) resolves.index_lt
      exact Eq.trans within whole.symm

theorem Layered.expand?_isSome_iff (layered : graph.Layered) :
    (graph.expand? id).isSome ↔ ∃ node, graph.value? id = some node := by
  constructor
  · intro expanded
    obtain ⟨tree, expands⟩ := Option.isSome_iff_exists.mp expanded
    obtain ⟨node, found, -⟩ := exists_unfolds_of_expand? expands
    exact ⟨node, found⟩
  · intro stored
    obtain ⟨node, found⟩ := stored
    obtain ⟨tree, expands⟩ := layered.exists_expand found
    exact Option.isSome_iff_exists.mpr ⟨tree, expands⟩

end Graph

namespace Interner

/-! ## What a call that adds slots returns -/

/-- The interner was built by adding slots that show occurrences of values. -/
def Grown (interner : Interner) : Prop :=
  ∃ listed, ShowingRun listed empty interner

theorem Grown.trans {start finish : Interner} {listed : List Occurrence}
    (grown : start.Grown)
    (later : Run empty start → ShowingRun listed start finish) :
    finish.Grown := by
  obtain ⟨listed', showing⟩ := grown
  exact ⟨listed' ++ listed, (showing.mono (List.subset_append_left _ _)).trans
    ((later showing.run).mono (List.subset_append_right _ _))⟩

/-- Nothing was added, or one of the handles leads to the last slot. -/
def Tops (before after : Interner) (targets : List Target) : Prop :=
  after.graph.size = before.graph.size ∨
    ∃ target ∈ targets, target.index.toNat + 1 = after.graph.size

namespace Tops

variable {before middle after : Interner} {first second : List Target}

theorem append (left : Tops before middle first)
    (right : Tops middle after second) :
    Tops before after (first ++ second) := by
  rcases right with kept | ⟨target, among, last⟩
  · rcases left with kept' | ⟨target, among, last⟩
    · exact .inl (kept.trans kept')
    · exact .inr ⟨target, List.mem_append_left _ among, last.trans kept.symm⟩
  · exact .inr ⟨target, List.mem_append_right _ among, last⟩

/-- A slot that is found lies behind its handles.  So if one of these was added
last, the slot is a new one. -/
theorem insert (grown : middle.Grown) {slot : Slot}
    (handles : Tops before middle slot.targets)
    (room : (middle.insert slot).2.graph.size ≤ UInt32.size) {target : Target}
    (returned : target.index = (middle.insert slot).1) :
    Tops before (middle.insert slot).2 [target] := by
  obtain ⟨listed, showing⟩ := grown
  have valid := showing.run.valid empty_valid (insert_room room)
  rcases insert_cases middle slot with ⟨index, entered, result⟩ | ⟨-, result⟩
  · rw [result]
    rcases handles with kept | ⟨child, among, last⟩
    · exact .inl kept
    · obtain ⟨stored, found, same⟩ := (valid.table_iff _ _).mp entered
      have earlier := (showing.layered index stored found child
        ((Slot.mem_targets_iff same).mpr among)).1
      have inside := (Array.getElem?_eq_some_iff.mp found).1
      rw [Graph.size] at last
      omega
  · rw [result] at returned room ⊢
    refine .inr ⟨target, List.mem_singleton_self _, ?_⟩
    rw [returned, nextIndex_toNat room, Graph.size, Graph.push, Array.size_push]

end Tops

mutual

theorem intern_tops {interner : Interner} (grown : interner.Grown)
    (value : Value)
    (room : (interner.intern value).2.graph.size ≤ UInt32.size) :
    Tops interner (interner.intern value).2
      [.value (interner.intern value).1] := by
  match value with
  | .map entries =>
      have handles := internEntries_tops grown entries (insert_room room)
      exact handles.insert
        (grown.trans fun run => internEntries_showing run entries) room rfl
  | .list items | .set items | .tuple items =>
      have handles := internItems_tops grown items (insert_room room)
      exact handles.insert
        (grown.trans fun run => internItems_showing run items) room rfl
  | .constr kind name positional named =>
      have growth :=
        (internFields_run (interner.internItems positional).2 named).growth
      have grown' := grown.trans fun run => internItems_showing run positional
      have items := internItems_tops grown positional
        (growth.size_le.trans (insert_room room))
      have fields := internFields_tops grown' named (insert_room room)
      exact (items.append fields).insert
        (grown'.trans fun run => internFields_showing run named) room rfl
  | .string _ | .number _ | .boolean _ | .location _ =>
      exact Tops.insert grown (.inl rfl) room rfl
termination_by structural value

theorem internItems_tops {interner : Interner} (grown : interner.Grown)
    (items : List Value)
    (room : (interner.internItems items).2.graph.size ≤ UInt32.size) :
    Tops interner (interner.internItems items).2
      ((interner.internItems items).1.map .value) := by
  match items with
  | [] => exact .inl rfl
  | value :: values =>
      have growth := (internItems_run (interner.intern value).2 values).growth
      have grown' := grown.trans fun run => intern_showing run value
      have first := intern_tops grown value (growth.size_le.trans room)
      exact first.append (internItems_tops grown' values room)
termination_by structural items

theorem internEntries_tops {interner : Interner} (grown : interner.Grown)
    (entries : List (Value × Value))
    (room : (interner.internEntries entries).2.graph.size ≤ UInt32.size) :
    Tops interner (interner.internEntries entries).2
      ((interner.internEntries entries).1.map .entry) := by
  match entries with
  | [] => exact .inl rfl
  | entry :: entries =>
      have growth :=
        (internEntries_run (interner.internEntry entry).2 entries).growth
      have grown' := grown.trans fun run => internEntry_showing run entry
      have first := internEntry_tops grown entry (growth.size_le.trans room)
      exact first.append (internEntries_tops grown' entries room)
termination_by structural entries

theorem internEntry_tops {interner : Interner} (grown : interner.Grown)
    (entry : Value × Value)
    (room : (interner.internEntry entry).2.graph.size ≤ UInt32.size) :
    Tops interner (interner.internEntry entry).2
      [.entry (interner.internEntry entry).1] := by
  match entry with
  | (key, value) =>
      have growth := (intern_run (interner.intern key).2 value).growth
      have grown' := grown.trans fun run => intern_showing run key
      have ofKey :=
        intern_tops grown key (growth.size_le.trans (insert_room room))
      have ofValue := intern_tops grown' value (insert_room room)
      exact (ofKey.append ofValue).insert
        (grown'.trans fun run => intern_showing run value) room rfl
termination_by structural entry

theorem internFields_tops {interner : Interner} (grown : interner.Grown)
    (fields : List (String × Value))
    (room : (interner.internFields fields).2.graph.size ≤ UInt32.size) :
    Tops interner (interner.internFields fields).2
      ((interner.internFields fields).1.map fun field => .value field.2) := by
  match fields with
  | [] => exact .inl rfl
  | (_, value) :: fields =>
      have growth := (internFields_run (interner.intern value).2 fields).growth
      have grown' := grown.trans fun run => intern_showing run value
      have first := intern_tops grown value (growth.size_le.trans room)
      exact first.append (internFields_tops grown' fields room)
termination_by structural fields

end

/-! ## The invariant of a run -/

/-- The handles in a slot lead to earlier slots of the right kind, no two slots
have one key, and the table finds every slot under its key and nothing else. -/
structure Consistent (interner : Interner) : Prop where
  earlier : ∀ (place : Nat) (slot : Slot),
    interner.graph.slots[place]? = some slot → ∀ target ∈ slot.targets,
      target.index.toNat < place ∧ interner.graph.Resolves target
  distinct : ∀ (place place' : Nat) (slot slot' : Slot),
    interner.graph.slots[place]? = some slot →
    interner.graph.slots[place']? = some slot' → slot.key = slot'.key →
      place = place'
  entered : ∀ (place : Nat) (slot : Slot),
    interner.graph.slots[place]? = some slot →
      ∃ index : UInt32, index.toNat = place ∧
        interner.table[slot.key]? = some index
  stored : ∀ (key : Slot) (index : UInt32),
    interner.table[key]? = some index →
      ∃ slot, interner.graph.slots[index.toNat]? = some slot ∧ slot.key = key

theorem Grown.consistent {interner : Interner} (grown : interner.Grown)
    (room : interner.graph.size ≤ UInt32.size) : interner.Consistent := by
  obtain ⟨listed, showing⟩ := grown
  have valid := showing.run.valid empty_valid room
  refine ⟨?_, ?_, ?_, ?_⟩
  · intro place slot found target among
    obtain ⟨index, rfl, -⟩ := valid.table_key found
    exact showing.layered index slot found target among
  · intro place place' slot slot' found found' same
    obtain ⟨index, rfl, -⟩ := valid.table_key found
    obtain ⟨index', rfl, -⟩ := valid.table_key found'
    exact congrArg UInt32.toNat (valid.indexed.index_eq found found' same)
  · intro place slot found
    exact valid.table_key found
  · intro key index entered
    exact (valid.table_iff key index).mp entered

/-- After any sequence of calls slots, keys and table agree; expanding a handle
ends within as many levels as there are slots up to its own and gives a tree
exactly for the handles of values; and one more call that adds a slot returns
the handle of the last slot. -/
theorem consistent_of_reached {interner : Interner}
    (reached : Reached interner) (room : interner.graph.size ≤ UInt32.size) :
    interner.Consistent ∧
    (∀ (id : ValueId) (depth : Nat), id.index.toNat < depth →
      interner.graph.expandWithin depth id = interner.graph.expand? id) ∧
    (∀ id : ValueId,
      ((interner.graph.expand? id).isSome ↔
        ∃ node, interner.graph.value? id = some node) ∧
      ((interner.graph.text? id).isSome ↔
        ∃ node, interner.graph.value? id = some node)) ∧
    ∀ value : Value,
      (interner.intern value).2.graph.size ≤ UInt32.size →
      (interner.intern value).2.graph.size ≠ interner.graph.size →
        (interner.intern value).1.index.toNat + 1 =
          (interner.intern value).2.graph.size := by
  have layered := reached.layered
  refine ⟨Grown.consistent reached.exists_showing room, ?_, ?_, ?_⟩
  · intro id depth below
    exact layered.expandWithin_eq below
  · intro id
    refine ⟨layered.expand?_isSome_iff, ?_⟩
    rw [Graph.text?, Option.isSome_map]
    exact layered.expand?_isSome_iff
  · intro value room' added
    rcases intern_tops reached.exists_showing value room' with
      kept | ⟨target, among, last⟩
    · exact absurd kept added
    · obtain rfl := List.mem_singleton.mp among
      exact last

/-- The second call finds the constructor and adds only what is around it. -/
theorem consistent_of_reached_swapped :
    let left := Value.constr .identifier "f" []
      [("a", .number "1"), ("b", .boolean true)]
    let right := Value.constr .identifier "f" []
      [("b", .boolean true), ("a", .number "1")]
    let around := Value.map [(right, .number "2")]
    let first := (empty.intern left).2
    Reached first ∧ first.graph.size = 3 ∧
      (first.intern around).2.graph.size = 6 ∧ first.Consistent ∧
      (first.intern around).1.index.toNat + 1 =
        (first.intern around).2.graph.size := by
  intro left right around first
  have reached : Reached first := .intern left .empty
  have count : first.graph.size = 3 := by
    simp only [first, left]
    cbv
  have count' : (first.intern around).2.graph.size = 6 := by
    simp only [around, first, left, right]
    cbv
  have room : first.graph.size ≤ UInt32.size := by
    rw [count]
    decide
  have room' : (first.intern around).2.graph.size ≤ UInt32.size := by
    rw [count']
    decide
  have added : (first.intern around).2.graph.size ≠ first.graph.size := by
    rw [count', count]
    decide
  obtain ⟨consistent, -, -, last⟩ := consistent_of_reached reached room
  exact ⟨reached, count, count', consistent, last around room' added⟩

end Interner

end TreeQuery
