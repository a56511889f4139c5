import TreeQuery.Proofs.Graph.Expansion
import TreeQuery.Proofs.Graph.Interning
import TreeQuery.Proofs.Value.Postorder

/-!
# What interning adds

Every slot that interning a value adds shows an occurrence of the value: its
handles denote the parts of the occurrence.  So in a graph that was built by
interning values, the handles of a slot lead to earlier slots of the right kind.
-/

namespace TreeQuery

namespace Graph

variable {graph : Graph}

theorem denotesEntries_iff_unfolds {ids : List EntryId}
    {entries : List (Value × Value)} :
    graph.DenotesEntries ids entries ↔
      List.Forall₂ (graph.UnfoldsEntry graph.Denotes) ids entries := by
  have same : graph.DenotesEntry = graph.UnfoldsEntry graph.Denotes := by
    funext id entry
    cases entry
    rfl
  rw [denotesEntries_iff_forall₂, same]

end Graph

/-- The slot has the shape of the occurrence and its handles denote the parts. -/
inductive Slot.Shows (graph : Graph) : Slot → Occurrence → Prop where
  | value {node : Node} {tree : Value} :
      graph.Unfolds graph.Denotes node tree →
      Shows graph (.value node) (.value tree)
  | entry {stored : Entry} {key tree : Value} :
      graph.Denotes stored.key key → graph.Denotes stored.value tree →
      Shows graph (.entry stored) (.entry key tree)

namespace Interner

/-- A run in which every slot shows a listed occurrence when it is added, as
long as all slots can be counted. -/
inductive ShowingRun (listed : List Occurrence) (start : Interner) :
    Interner → Prop where
  | refl : ShowingRun listed start start
  | insert {middle : Interner} {slot : Slot} {occurrence : Occurrence} :
      ShowingRun listed start middle → occurrence ∈ listed →
      (middle.graph.size ≤ UInt32.size →
        slot.Shows middle.graph occurrence) →
      ShowingRun listed start (middle.insert slot).2

namespace ShowingRun

variable {start middle finish : Interner} {listed listed' : List Occurrence}

theorem run (showing : ShowingRun listed start finish) : Run start finish := by
  induction showing with
  | refl => exact .refl
  | insert _ _ _ induction => exact .insert _ induction

theorem mono (showing : ShowingRun listed start finish)
    (more : listed ⊆ listed') : ShowingRun listed' start finish := by
  induction showing with
  | refl => exact .refl
  | insert _ member shows induction =>
      exact .insert induction (more member) shows

theorem trans (first : ShowingRun listed start middle)
    (second : ShowingRun listed middle finish) :
    ShowingRun listed start finish := by
  induction second with
  | refl => exact first
  | insert _ member shows induction => exact .insert induction member shows

end ShowingRun

/-- A run in which the inserted slots show the listed occurrences one by one, in
order, as long as all slots can be counted. -/
inductive OrderedRun (start : Interner) :
    List Occurrence → Interner → Prop where
  | refl : OrderedRun start [] start
  | insert {listed : List Occurrence} {middle : Interner} {slot : Slot}
      {occurrence : Occurrence} :
      OrderedRun start listed middle →
      (middle.graph.size ≤ UInt32.size →
        slot.Shows middle.graph occurrence) →
      OrderedRun start (listed ++ [occurrence]) (middle.insert slot).2

namespace OrderedRun

variable {start middle finish : Interner} {listed listed' : List Occurrence}

theorem run (ordered : OrderedRun start listed finish) : Run start finish := by
  induction ordered with
  | refl => exact .refl
  | insert _ _ induction => exact .insert _ induction

theorem trans (first : OrderedRun start listed middle)
    (second : OrderedRun middle listed' finish) :
    OrderedRun start (listed ++ listed') finish := by
  induction second with
  | refl =>
      rw [List.append_nil]
      exact first
  | insert _ shows induction =>
      rw [← List.append_assoc]
      exact .insert induction shows

theorem showing (ordered : OrderedRun start listed finish)
    (all : listed ⊆ listed') : ShowingRun listed' start finish := by
  induction ordered with
  | refl => exact .refl
  | insert _ shows induction =>
      obtain ⟨former, last⟩ := List.append_subset.mp all
      exact .insert (induction former) (last List.mem_cons_self) shows

end OrderedRun

theorem valid_of_room {before after : Interner} (run : Run empty before)
    (later : Run before after) (room : after.graph.size ≤ UInt32.size) :
    before.Valid :=
  run.valid empty_valid (later.growth.size_le.trans room)

mutual

/-- Interning a value inserts slots that show its occurrences in post-order. -/
theorem intern_ordered {interner : Interner} (run : Run empty interner)
    (value : Value) :
    OrderedRun interner value.postorder (interner.intern value).2 := by
  match value with
  | .map entries =>
      have added := internEntries_ordered run entries
      apply added.insert
      intro room
      have valid := valid_of_room run added.run room
      have denotes := internEntries_denotes valid entries room
      exact .value (.map (Graph.denotesEntries_iff_unfolds.mp denotes))
  | .list items | .set items | .tuple items =>
      have added := internItems_ordered run items
      apply added.insert
      intro room
      have valid := valid_of_room run added.run room
      have denotes := internItems_denotes valid items room
      constructor
      constructor
      exact Graph.denotesItems_iff_forall₂.mp denotes
  | .constr kind name positional named =>
      have addedItems := internItems_ordered run positional
      have runItems := run.trans addedItems.run
      have addedFields := internFields_ordered runItems named
      have added := addedItems.trans addedFields
      apply added.insert
      intro room
      have roomItems := addedFields.run.growth.size_le.trans room
      have denotesItems := internItems_denotes
        (valid_of_room run added.run room) positional roomItems
      have denotesFields := internFields_denotes
        (valid_of_room runItems addedFields.run room) named room
      exact .value (.constr
        (Graph.denotesItems_iff_forall₂.mp
          (denotesItems.mono addedFields.run.growth))
        (Graph.denotesFields_iff_forall₂.mp denotesFields))
  | .string text =>
      exact OrderedRun.refl.insert fun _ => .value (.string text)
  | .number digits =>
      exact OrderedRun.refl.insert fun _ => .value (.number digits)
  | .boolean truth =>
      exact OrderedRun.refl.insert fun _ => .value (.boolean truth)
  | .location place =>
      exact OrderedRun.refl.insert fun _ => .value (.location place)
termination_by structural value

theorem internItems_ordered {interner : Interner} (run : Run empty interner)
    (items : List Value) :
    OrderedRun interner (Value.postorderItems items)
      (interner.internItems items).2 := by
  match items with
  | [] => exact .refl
  | value :: values =>
      have first := intern_ordered run value
      exact first.trans (internItems_ordered (run.trans first.run) values)
termination_by structural items

theorem internEntries_ordered {interner : Interner} (run : Run empty interner)
    (entries : List (Value × Value)) :
    OrderedRun interner (Value.postorderEntries entries)
      (interner.internEntries entries).2 := by
  match entries with
  | [] => exact .refl
  | entry :: entries =>
      have first := internEntry_ordered run entry
      exact first.trans (internEntries_ordered (run.trans first.run) entries)
termination_by structural entries

theorem internEntry_ordered {interner : Interner} (run : Run empty interner)
    (entry : Value × Value) :
    OrderedRun interner
      (entry.1.postorder ++ entry.2.postorder ++ [.entry entry.1 entry.2])
      (interner.internEntry entry).2 := by
  match entry with
  | (key, value) =>
      have addedKey := intern_ordered run key
      have runKey := run.trans addedKey.run
      have addedValue := intern_ordered runKey value
      have added := addedKey.trans addedValue
      apply added.insert
      intro room
      have roomKey := addedValue.run.growth.size_le.trans room
      have denotesKey := intern_denotes
        (valid_of_room run added.run room) key roomKey
      have denotesValue := intern_denotes
        (valid_of_room runKey addedValue.run room) value room
      exact .entry (denotesKey.mono addedValue.run.growth) denotesValue
termination_by structural entry

theorem internFields_ordered {interner : Interner} (run : Run empty interner)
    (fields : List (String × Value)) :
    OrderedRun interner (Value.postorderFields fields)
      (interner.internFields fields).2 := by
  match fields with
  | [] => exact .refl
  | (_, value) :: fields =>
      have first := intern_ordered run value
      exact first.trans (internFields_ordered (run.trans first.run) fields)
termination_by structural fields

end

section

variable {interner : Interner} (run : Run empty interner)

include run

/-- Interning a value adds slots that show its occurrences. -/
theorem intern_showing (value : Value) :
    ShowingRun value.listing interner (interner.intern value).2 :=
  (intern_ordered run value).showing (Value.postorder_perm value).subset

theorem internItems_showing (items : List Value) :
    ShowingRun (Value.listingItems items) interner
      (interner.internItems items).2 :=
  (internItems_ordered run items).showing
    (Value.postorderItems_perm items).subset

theorem internEntries_showing (entries : List (Value × Value)) :
    ShowingRun (Value.listingEntries entries) interner
      (interner.internEntries entries).2 :=
  (internEntries_ordered run entries).showing
    (Value.postorderEntries_perm entries).subset

theorem internEntry_showing (entry : Value × Value) :
    ShowingRun (Occurrence.entry entry.1 entry.2).listing interner
      (interner.internEntry entry).2 :=
  (internEntry_ordered run entry).showing
    (Value.postorderEntry_perm entry).subset

theorem internFields_showing (fields : List (String × Value)) :
    ShowingRun (Value.listingFields fields) interner
      (interner.internFields fields).2 :=
  (internFields_ordered run fields).showing
    (Value.postorderFields_perm fields).subset

end

end Interner

end TreeQuery
