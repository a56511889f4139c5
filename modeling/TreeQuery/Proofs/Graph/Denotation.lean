import TreeQuery.Graph
import TreeQuery.Proofs.Value.Same

/-!
# What a handle denotes

A handle of a graph denotes a value when its slot holds the value's shape and
the handles in the slot denote its children.  The slot may list named children
in another order, so a handle denotes all spellings of one value and nothing
else.
-/

namespace TreeQuery

namespace Graph

mutual

/-- The slot of the handle and those below it spell the value, up to the order
of named children. -/
def Denotes (graph : Graph) : ValueId → Value → Prop
  | id, .map entries =>
      ∃ ids, graph.value? id = some (.map ids) ∧
        DenotesEntries graph ids entries
  | id, .list items =>
      ∃ ids, graph.value? id = some (.list ids) ∧ DenotesItems graph ids items
  | id, .set items =>
      ∃ ids, graph.value? id = some (.set ids) ∧ DenotesItems graph ids items
  | id, .tuple items =>
      ∃ ids, graph.value? id = some (.tuple ids) ∧ DenotesItems graph ids items
  | id, .constr kind name positional named =>
      ∃ ids fields, graph.value? id = some (.constr kind name ids fields) ∧
        DenotesItems graph ids positional ∧
        ∃ arranged, fields.Perm arranged ∧ DenotesFields graph arranged named
  | id, .string text => graph.value? id = some (.string text)
  | id, .number digits => graph.value? id = some (.number digits)
  | id, .boolean truth => graph.value? id = some (.boolean truth)
  | id, .location place => graph.value? id = some (.location place)

/-- The handles denote the values one by one. -/
def DenotesItems (graph : Graph) : List ValueId → List Value → Prop
  | [], [] => True
  | id :: ids, value :: values =>
      Denotes graph id value ∧ DenotesItems graph ids values
  | _, _ => False

/-- The handles denote the entries one by one. -/
def DenotesEntries (graph : Graph) : List EntryId → List (Value × Value) → Prop
  | [], [] => True
  | id :: ids, entry :: entries =>
      DenotesEntry graph id entry ∧ DenotesEntries graph ids entries
  | _, _ => False

/-- The slot of the handle is an entry whose key and value are denoted. -/
def DenotesEntry (graph : Graph) : EntryId → Value × Value → Prop
  | id, (key, value) =>
      ∃ entry, graph.entry? id = some entry ∧ Denotes graph entry.key key ∧
        Denotes graph entry.value value

/-- The named handles denote the named values one by one. -/
def DenotesFields (graph : Graph) :
    List (String × ValueId) → List (String × Value) → Prop
  | [], [] => True
  | (name, id) :: fields, (name', value) :: fields' =>
      name = name' ∧ Denotes graph id value ∧
        DenotesFields graph fields fields'
  | _, _ => False

end

theorem value?_eq_some_iff {graph : Graph} {id : ValueId} {node : Node} :
    graph.value? id = some node ↔
      graph.slots[id.index.toNat]? = some (.value node) := by
  unfold value?
  split
  · next stored => simp [stored]
  · next other => simpa using other _

theorem entry?_eq_some_iff {graph : Graph} {id : EntryId} {entry : Entry} :
    graph.entry? id = some entry ↔
      graph.slots[id.index.toNat]? = some (.entry entry) := by
  unfold entry?
  split
  · next stored => simp [stored]
  · next other => simpa using other _

/-- A slot of a graph to which one was added is the added one or a former
one. -/
theorem push_cases {graph : Graph} {slot stored : Slot} {index : Nat}
    (found : (graph.push slot).slots[index]? = some stored) :
    index = graph.size ∧ stored = slot ∨
      graph.slots[index]? = some stored := by
  simp only [push, Array.getElem?_push] at found
  split at found
  · next atEnd => exact .inl ⟨atEnd, (Option.some.inj found).symm⟩
  · exact .inr found

/-- Every slot of the small graph stands at the same place of the large one. -/
def Extends (large small : Graph) : Prop :=
  ∀ (index : Nat) (slot : Slot), small.slots[index]? = some slot →
    large.slots[index]? = some slot

namespace Extends

variable {large middle small : Graph}

theorem refl (graph : Graph) : graph.Extends graph :=
  fun _ _ found => found

theorem trans (upper : large.Extends middle) (lower : middle.Extends small) :
    large.Extends small :=
  fun index slot found => upper index slot (lower index slot found)

theorem push (graph : Graph) (slot : Slot) :
    (graph.push slot).Extends graph := by
  intro index stored found
  obtain ⟨inside, rfl⟩ := Array.getElem?_eq_some_iff.mp found
  simp [Graph.push, Array.getElem?_push_lt inside]

theorem size_le (growth : large.Extends small) : small.size ≤ large.size := by
  by_cases nonempty : 0 < small.slots.size
  · have found := growth (small.slots.size - 1) _
      (Array.getElem?_eq_getElem (by omega))
    obtain ⟨inside, -⟩ := Array.getElem?_eq_some_iff.mp found
    simp only [Graph.size]
    omega
  · simp only [Graph.size]
    omega

theorem value? (growth : large.Extends small) {id : ValueId} {node : Node}
    (found : small.value? id = some node) : large.value? id = some node := by
  rw [value?_eq_some_iff] at found ⊢
  exact growth _ _ found

theorem entry? (growth : large.Extends small) {id : EntryId} {entry : Entry}
    (found : small.entry? id = some entry) : large.entry? id = some entry := by
  rw [entry?_eq_some_iff] at found ⊢
  exact growth _ _ found

end Extends

section

variable {large small : Graph}

mutual

/-- Slots that are added later do not change what a handle denotes. -/
theorem Denotes.mono (growth : large.Extends small) {id : ValueId}
    {value : Value} (denotes : small.Denotes id value) :
    large.Denotes id value := by
  match value with
  | .map entries =>
      obtain ⟨ids, found, children⟩ := denotes
      exact ⟨ids, growth.value? found, DenotesEntries.mono growth children⟩
  | .list items | .set items | .tuple items =>
      obtain ⟨ids, found, children⟩ := denotes
      exact ⟨ids, growth.value? found, DenotesItems.mono growth children⟩
  | .constr kind name positional named =>
      obtain ⟨ids, fields, found, children, arranged, order, others⟩ := denotes
      exact ⟨ids, fields, growth.value? found,
        DenotesItems.mono growth children, arranged, order,
        DenotesFields.mono growth others⟩
  | .string _ | .number _ | .boolean _ | .location _ =>
      simp only [Denotes] at denotes ⊢
      exact growth.value? denotes
termination_by structural value

theorem DenotesItems.mono (growth : large.Extends small)
    {ids : List ValueId} {values : List Value}
    (denotes : small.DenotesItems ids values) :
    large.DenotesItems ids values := by
  match ids, values with
  | [], [] => trivial
  | _ :: _, value :: values =>
      exact ⟨Denotes.mono growth denotes.1,
        DenotesItems.mono growth denotes.2⟩
  | [], _ :: _ | _ :: _, [] => exact denotes.elim
termination_by structural values

theorem DenotesEntries.mono (growth : large.Extends small)
    {ids : List EntryId} {entries : List (Value × Value)}
    (denotes : small.DenotesEntries ids entries) :
    large.DenotesEntries ids entries := by
  match ids, entries with
  | [], [] => trivial
  | _ :: _, entry :: entries =>
      exact ⟨DenotesEntry.mono growth denotes.1,
        DenotesEntries.mono growth denotes.2⟩
  | [], _ :: _ | _ :: _, [] => exact denotes.elim
termination_by structural entries

theorem DenotesEntry.mono (growth : large.Extends small) {id : EntryId}
    {entry : Value × Value} (denotes : small.DenotesEntry id entry) :
    large.DenotesEntry id entry := by
  match entry with
  | (key, value) =>
      obtain ⟨stored, found, denotesKey, denotesValue⟩ := denotes
      exact ⟨stored, growth.entry? found, Denotes.mono growth denotesKey,
        Denotes.mono growth denotesValue⟩
termination_by structural entry

theorem DenotesFields.mono (growth : large.Extends small)
    {ids : List (String × ValueId)} {fields : List (String × Value)}
    (denotes : small.DenotesFields ids fields) :
    large.DenotesFields ids fields := by
  match ids, fields with
  | [], [] => trivial
  | _ :: _, (_, value) :: fields =>
      exact ⟨denotes.1, Denotes.mono growth denotes.2.1,
        DenotesFields.mono growth denotes.2.2⟩
  | [], _ :: _ | _ :: _, [] => exact denotes.elim
termination_by structural fields

end

end

section

variable {graph : Graph}

theorem denotesItems_iff_forall₂ {ids : List ValueId} {values : List Value} :
    graph.DenotesItems ids values ↔
      List.Forall₂ graph.Denotes ids values := by
  induction ids generalizing values with
  | nil => cases values <;> simp [DenotesItems]
  | cons id ids induction => cases values <;> simp [DenotesItems, induction]

theorem denotesEntries_iff_forall₂ {ids : List EntryId}
    {entries : List (Value × Value)} :
    graph.DenotesEntries ids entries ↔
      List.Forall₂ graph.DenotesEntry ids entries := by
  induction ids generalizing entries with
  | nil => cases entries <;> simp [DenotesEntries]
  | cons id ids induction => cases entries <;> simp [DenotesEntries, induction]

theorem denotesFields_iff_forall₂ {ids : List (String × ValueId)}
    {fields : List (String × Value)} :
    graph.DenotesFields ids fields ↔
      List.Forall₂ (fun id field => id.1 = field.1 ∧
        graph.Denotes id.2 field.2) ids fields := by
  induction ids generalizing fields with
  | nil => cases fields <;> simp [DenotesFields]
  | cons id ids induction =>
      cases fields <;> simp [DenotesFields, induction, and_assoc]

section

variable {id : ValueId} {value : Value}

theorem Denotes.ofMap {ids : List EntryId} (denotes : graph.Denotes id value)
    (found : graph.value? id = some (.map ids)) :
    ∃ entries, value = .map entries ∧ graph.DenotesEntries ids entries := by
  cases value <;> simp_all [Denotes]

theorem Denotes.ofList {ids : List ValueId} (denotes : graph.Denotes id value)
    (found : graph.value? id = some (.list ids)) :
    ∃ items, value = .list items ∧ graph.DenotesItems ids items := by
  cases value <;> simp_all [Denotes]

theorem Denotes.ofSet {ids : List ValueId} (denotes : graph.Denotes id value)
    (found : graph.value? id = some (.set ids)) :
    ∃ items, value = .set items ∧ graph.DenotesItems ids items := by
  cases value <;> simp_all [Denotes]

theorem Denotes.ofTuple {ids : List ValueId} (denotes : graph.Denotes id value)
    (found : graph.value? id = some (.tuple ids)) :
    ∃ items, value = .tuple items ∧ graph.DenotesItems ids items := by
  cases value <;> simp_all [Denotes]

theorem Denotes.ofConstr {kind : ConstructorKind} {name : String}
    {ids : List ValueId} {fields : List (String × ValueId)}
    (denotes : graph.Denotes id value)
    (found : graph.value? id = some (.constr kind name ids fields)) :
    ∃ positional named, value = .constr kind name positional named ∧
      graph.DenotesItems ids positional ∧
      ∃ arranged, fields.Perm arranged ∧
        graph.DenotesFields arranged named := by
  cases value <;> simp_all [Denotes]

/-- A property of what the slot holds is a property of what the value is made
of, if the slot and the value are made alike of related things. -/
theorem exists_content_iff {α β : Type} {node : α → Node} {make : β → Value}
    {related : α → β → Prop} {property : α → Prop} {property' : β → Prop}
    (ofNode : ∀ stored, graph.value? id = some (node stored) →
      ∃ content, value = make content ∧ related stored content)
    (ofValue : ∀ content, value = make content →
      ∃ stored, graph.value? id = some (node stored) ∧ related stored content)
    (same : ∀ stored content, related stored content →
      (property stored ↔ property' content)) :
    (∃ stored, graph.value? id = some (node stored) ∧ property stored) ↔
      ∃ content, value = make content ∧ property' content := by
  constructor
  · intro holds
    obtain ⟨stored, found, holds⟩ := holds
    obtain ⟨content, made, matching⟩ := ofNode stored found
    exact ⟨content, made, (same stored content matching).mp holds⟩
  · intro holds
    obtain ⟨content, made, holds⟩ := holds
    obtain ⟨stored, found, matching⟩ := ofValue content made
    exact ⟨stored, found, (same stored content matching).mpr holds⟩

theorem Denotes.exists_map_iff {property : List EntryId → Prop}
    {property' : List (Value × Value) → Prop} (denotes : graph.Denotes id value)
    (same : ∀ ids entries, graph.DenotesEntries ids entries →
      (property ids ↔ property' entries)) :
    (∃ ids, graph.value? id = some (.map ids) ∧ property ids) ↔
      ∃ entries, value = .map entries ∧ property' entries := by
  refine exists_content_iff ?_ ?_ same
  · intro ids found
    exact denotes.ofMap found
  · intro entries made
    subst made
    exact denotes

theorem Denotes.exists_list_iff {property : List ValueId → Prop}
    {property' : List Value → Prop} (denotes : graph.Denotes id value)
    (same : ∀ ids items, graph.DenotesItems ids items →
      (property ids ↔ property' items)) :
    (∃ ids, graph.value? id = some (.list ids) ∧ property ids) ↔
      ∃ items, value = .list items ∧ property' items := by
  refine exists_content_iff ?_ ?_ same
  · intro ids found
    exact denotes.ofList found
  · intro items made
    subst made
    exact denotes

theorem Denotes.exists_set_iff {property : List ValueId → Prop}
    {property' : List Value → Prop} (denotes : graph.Denotes id value)
    (same : ∀ ids items, graph.DenotesItems ids items →
      (property ids ↔ property' items)) :
    (∃ ids, graph.value? id = some (.set ids) ∧ property ids) ↔
      ∃ items, value = .set items ∧ property' items := by
  refine exists_content_iff ?_ ?_ same
  · intro ids found
    exact denotes.ofSet found
  · intro items made
    subst made
    exact denotes

theorem Denotes.exists_tuple_iff {property : List ValueId → Prop}
    {property' : List Value → Prop} (denotes : graph.Denotes id value)
    (same : ∀ ids items, graph.DenotesItems ids items →
      (property ids ↔ property' items)) :
    (∃ ids, graph.value? id = some (.tuple ids) ∧ property ids) ↔
      ∃ items, value = .tuple items ∧ property' items := by
  refine exists_content_iff ?_ ?_ same
  · intro ids found
    exact denotes.ofTuple found
  · intro items made
    subst made
    exact denotes

theorem Denotes.exists_constr_iff
    {property : ConstructorKind → String → List ValueId →
      List (String × ValueId) → Prop}
    {property' : ConstructorKind → String → List Value →
      List (String × Value) → Prop}
    (denotes : graph.Denotes id value)
    (same : ∀ kind name ids fields positional named,
      graph.DenotesItems ids positional → ∀ arranged, fields.Perm arranged →
        graph.DenotesFields arranged named →
        (property kind name ids fields ↔
          property' kind name positional named)) :
    (∃ kind name ids fields,
      graph.value? id = some (.constr kind name ids fields) ∧
        property kind name ids fields) ↔
      ∃ kind name positional named,
        value = .constr kind name positional named ∧
          property' kind name positional named := by
  constructor
  · intro holds
    obtain ⟨kind, name, ids, fields, found, holds⟩ := holds
    obtain ⟨positional, named, rfl, children, arranged, order, others⟩ :=
      denotes.ofConstr found
    exact ⟨kind, name, positional, named, rfl,
      (same _ _ _ _ _ _ children arranged order others).mp holds⟩
  · intro holds
    obtain ⟨kind, name, positional, named, rfl, holds⟩ := holds
    obtain ⟨ids, fields, found, children, arranged, order, others⟩ := denotes
    exact ⟨kind, name, ids, fields, found,
      (same _ _ _ _ _ _ children arranged order others).mpr holds⟩

theorem Denotes.string_iff {text : Text} (denotes : graph.Denotes id value) :
    graph.value? id = some (.string text) ↔ value = .string text := by
  constructor
  · intro found
    cases value <;> simp_all [Denotes]
  · intro same
    simpa only [same, Denotes] using denotes

theorem Denotes.number_iff {digits : String}
    (denotes : graph.Denotes id value) :
    graph.value? id = some (.number digits) ↔ value = .number digits := by
  constructor
  · intro found
    cases value <;> simp_all [Denotes]
  · intro same
    simpa only [same, Denotes] using denotes

theorem Denotes.boolean_iff {truth : Bool} (denotes : graph.Denotes id value) :
    graph.value? id = some (.boolean truth) ↔ value = .boolean truth := by
  constructor
  · intro found
    cases value <;> simp_all [Denotes]
  · intro same
    simpa only [same, Denotes] using denotes

theorem Denotes.location_iff {place : Location}
    (denotes : graph.Denotes id value) :
    graph.value? id = some (.location place) ↔ value = .location place := by
  constructor
  · intro found
    cases value <;> simp_all [Denotes]
  · intro same
    simpa only [same, Denotes] using denotes

/-- What denotes a value is not an entry and not beyond the graph. -/
theorem Denotes.resolves (denotes : graph.Denotes id value) :
    ∃ node, graph.value? id = some node := by
  cases value with
  | map | list | set | tuple =>
      obtain ⟨ids, found, -⟩ := denotes
      exact ⟨_, found⟩
  | constr =>
      obtain ⟨ids, fields, found, -⟩ := denotes
      exact ⟨_, found⟩
  | _ => exact ⟨_, denotes⟩

end

/-- Handles in another order denote the fields in a matching order. -/
theorem DenotesFields.rearrange {ids ids' : List (String × ValueId)}
    {fields : List (String × Value)} (order : ids'.Perm ids)
    (denotes : graph.DenotesFields ids fields) :
    ∃ fields', graph.DenotesFields ids' fields' ∧ fields'.Perm fields := by
  rw [denotesFields_iff_forall₂] at denotes
  obtain ⟨fields', denotes', order'⟩ := List.perm_comp_forall₂ order denotes
  exact ⟨fields', denotesFields_iff_forall₂.mpr denotes', order'⟩

/-- Fields in another order are denoted by the handles in a matching order. -/
theorem DenotesFields.follow {ids : List (String × ValueId)}
    {fields fields' : List (String × Value)} (order : fields.Perm fields')
    (denotes : graph.DenotesFields ids fields) :
    ∃ ids', ids.Perm ids' ∧ graph.DenotesFields ids' fields' := by
  rw [denotesFields_iff_forall₂] at denotes
  obtain ⟨ids', denotes', order'⟩ :=
    List.perm_comp_forall₂ order.symm denotes.flip
  exact ⟨ids', order'.symm, denotesFields_iff_forall₂.mpr denotes'.flip⟩

mutual

/-- Values with one handle are the same. -/
theorem Denotes.same {id : ValueId} {value value' : Value}
    (denotes : graph.Denotes id value) (denotes' : graph.Denotes id value') :
    value.Same value' := by
  match value with
  | .map entries =>
      obtain ⟨ids, found, children⟩ := denotes
      obtain ⟨entries', rfl, children'⟩ := denotes'.ofMap found
      exact DenotesEntries.same children children'
  | .list items =>
      obtain ⟨ids, found, children⟩ := denotes
      obtain ⟨items', rfl, children'⟩ := denotes'.ofList found
      exact DenotesItems.same children children'
  | .set items =>
      obtain ⟨ids, found, children⟩ := denotes
      obtain ⟨items', rfl, children'⟩ := denotes'.ofSet found
      exact DenotesItems.same children children'
  | .tuple items =>
      obtain ⟨ids, found, children⟩ := denotes
      obtain ⟨items', rfl, children'⟩ := denotes'.ofTuple found
      exact DenotesItems.same children children'
  | .constr kind name positional named =>
      obtain ⟨ids, fields, found, children, arranged, order, others⟩ := denotes
      obtain ⟨positional', named', rfl, children', arranged', order',
        others'⟩ := denotes'.ofConstr found
      obtain ⟨spelled, matching, rearranged⟩ :=
        others'.rearrange (order.symm.trans order')
      exact ⟨rfl, rfl, DenotesItems.same children children', spelled,
        DenotesFields.same others matching, rearranged⟩
  | .string _ | .number _ | .boolean _ | .location _ =>
      rw [Denotes] at denotes
      cases value' <;> simp_all [Denotes, Value.Same]
termination_by structural value

theorem DenotesItems.same {ids : List ValueId} {values values' : List Value}
    (denotes : graph.DenotesItems ids values)
    (denotes' : graph.DenotesItems ids values') :
    Value.SameItems values values' := by
  match ids, values, values' with
  | [], [], [] => trivial
  | _ :: _, value :: values, _ :: _ =>
      exact ⟨Denotes.same denotes.1 denotes'.1,
        DenotesItems.same denotes.2 denotes'.2⟩
  | [], _ :: _, _ | _ :: _, [], _ => exact denotes.elim
  | [], _, _ :: _ | _ :: _, _, [] => exact denotes'.elim
termination_by structural values

theorem DenotesEntries.same {ids : List EntryId}
    {entries entries' : List (Value × Value)}
    (denotes : graph.DenotesEntries ids entries)
    (denotes' : graph.DenotesEntries ids entries') :
    Value.SameEntries entries entries' := by
  match ids, entries, entries' with
  | [], [], [] => trivial
  | _ :: _, entry :: entries, _ :: _ =>
      exact ⟨DenotesEntry.same denotes.1 denotes'.1,
        DenotesEntries.same denotes.2 denotes'.2⟩
  | [], _ :: _, _ | _ :: _, [], _ => exact denotes.elim
  | [], _, _ :: _ | _ :: _, _, [] => exact denotes'.elim
termination_by structural entries

theorem DenotesEntry.same {id : EntryId} {entry entry' : Value × Value}
    (denotes : graph.DenotesEntry id entry)
    (denotes' : graph.DenotesEntry id entry') :
    Value.SameEntry entry entry' := by
  match entry, entry' with
  | (key, value), (key', value') =>
      obtain ⟨stored, found, denotesKey, denotesValue⟩ := denotes
      obtain ⟨stored', found', denotesKey', denotesValue'⟩ := denotes'
      obtain rfl : stored = stored' := by simpa [found] using found'
      exact ⟨Denotes.same denotesKey denotesKey',
        Denotes.same denotesValue denotesValue'⟩
termination_by structural entry

theorem DenotesFields.same {ids : List (String × ValueId)}
    {fields fields' : List (String × Value)}
    (denotes : graph.DenotesFields ids fields)
    (denotes' : graph.DenotesFields ids fields') :
    Value.SameFields fields fields' := by
  match ids, fields, fields' with
  | [], [], [] => trivial
  | _ :: _, (_, value) :: fields, _ :: _ =>
      exact ⟨denotes.1.symm.trans denotes'.1,
        Denotes.same denotes.2.1 denotes'.2.1,
        DenotesFields.same denotes.2.2 denotes'.2.2⟩
  | [], _ :: _, _ | _ :: _, [], _ => exact denotes.elim
  | [], _, _ :: _ | _ :: _, _, [] => exact denotes'.elim
termination_by structural fields

end

mutual

/-- A handle that denotes a value denotes every value that is the same. -/
theorem Denotes.ofSame {id : ValueId} {value value' : Value}
    (denotes : graph.Denotes id value) (same : value.Same value') :
    graph.Denotes id value' := by
  match value, value' with
  | .map entries, .map _ =>
      obtain ⟨ids, found, children⟩ := denotes
      exact ⟨ids, found, DenotesEntries.ofSame children same⟩
  | .list items, .list _ | .set items, .set _ | .tuple items, .tuple _ =>
      obtain ⟨ids, found, children⟩ := denotes
      exact ⟨ids, found, DenotesItems.ofSame children same⟩
  | .constr kind name positional named, .constr _ _ _ _ =>
      obtain ⟨ids, fields, found, children, arranged, order, others⟩ := denotes
      obtain ⟨rfl, rfl, samePositional, spelled, sameNamed, order'⟩ := same
      obtain ⟨arranged', rearranged, others'⟩ :=
        (DenotesFields.ofSame others sameNamed).follow order'
      exact ⟨ids, fields, found, DenotesItems.ofSame children samePositional,
        arranged', order.trans rearranged, others'⟩
  | .string _, .string _ | .number _, .number _ | .boolean _, .boolean _
  | .location _, .location _ =>
      obtain rfl := same
      exact denotes
termination_by structural value

theorem DenotesItems.ofSame {ids : List ValueId} {values values' : List Value}
    (denotes : graph.DenotesItems ids values)
    (same : Value.SameItems values values') :
    graph.DenotesItems ids values' := by
  match ids, values, values' with
  | [], [], [] => trivial
  | _ :: _, value :: values, _ :: _ =>
      exact ⟨Denotes.ofSame denotes.1 same.1,
        DenotesItems.ofSame denotes.2 same.2⟩
  | [], _ :: _, _ | _ :: _, [], _ => exact denotes.elim
  | _, [], _ :: _ | _, _ :: _, [] => exact same.elim
termination_by structural values

theorem DenotesEntries.ofSame {ids : List EntryId}
    {entries entries' : List (Value × Value)}
    (denotes : graph.DenotesEntries ids entries)
    (same : Value.SameEntries entries entries') :
    graph.DenotesEntries ids entries' := by
  match ids, entries, entries' with
  | [], [], [] => trivial
  | _ :: _, entry :: entries, _ :: _ =>
      exact ⟨DenotesEntry.ofSame denotes.1 same.1,
        DenotesEntries.ofSame denotes.2 same.2⟩
  | [], _ :: _, _ | _ :: _, [], _ => exact denotes.elim
  | _, [], _ :: _ | _, _ :: _, [] => exact same.elim
termination_by structural entries

theorem DenotesEntry.ofSame {id : EntryId} {entry entry' : Value × Value}
    (denotes : graph.DenotesEntry id entry)
    (same : Value.SameEntry entry entry') :
    graph.DenotesEntry id entry' := by
  match entry, entry' with
  | (key, value), (_, _) =>
      obtain ⟨stored, found, denotesKey, denotesValue⟩ := denotes
      exact ⟨stored, found, Denotes.ofSame denotesKey same.1,
        Denotes.ofSame denotesValue same.2⟩
termination_by structural entry

theorem DenotesFields.ofSame {ids : List (String × ValueId)}
    {fields fields' : List (String × Value)}
    (denotes : graph.DenotesFields ids fields)
    (same : Value.SameFields fields fields') :
    graph.DenotesFields ids fields' := by
  match ids, fields, fields' with
  | [], [], [] => trivial
  | _ :: _, (_, value) :: fields, _ :: _ =>
      exact ⟨denotes.1.trans same.1, Denotes.ofSame denotes.2.1 same.2.1,
        DenotesFields.ofSame denotes.2.2 same.2.2⟩
  | [], _ :: _, _ | _ :: _, [], _ => exact denotes.elim
  | _, [], _ :: _ | _, _ :: _, [] => exact same.elim
termination_by structural fields

end

end

end Graph

end TreeQuery
