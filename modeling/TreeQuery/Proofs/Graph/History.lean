import TreeQuery.Proofs.Graph.Consistency
import TreeQuery.Proofs.Graph.RoundTrip
import TreeQuery.Proofs.Value.Arranged

/-!
# What a graph keeps of its history

Every slot spells the occurrence that was met first of those that are the same.
So the tree of a handle is the interned value, arranged as its constructors were
first met in post-order over the whole run, and no later call changes it.
-/

namespace TreeQuery

namespace Interner

variable {interner : Interner} {met : List Occurrence}

theorem Valid.insert_means (valid : interner.Valid) {slot : Slot}
    {occurrence : Occurrence} (shows : slot.Shows interner.graph occurrence)
    (room : (interner.insert slot).2.graph.size ≤ UInt32.size) :
    ∃ target, target.index = (interner.insert slot).1 ∧
      (interner.insert slot).2.graph.Means target occurrence := by
  obtain ⟨-, stored, found, same⟩ := valid.insert room
  exact Graph.exists_means_of_key found same
    (shows.mono (insert_extends interner slot))

/-- Every occurrence that was met has a handle. -/
theorem OrderedRun.means (ordered : OrderedRun empty met interner)
    (room : interner.graph.size ≤ UInt32.size) :
    ∀ occurrence ∈ met, ∃ target,
      interner.graph.Means target occurrence := by
  induction ordered with
  | refl => exact List.forall_mem_nil _
  | @insert met middle slot last former shows induction =>
      have growth := insert_extends middle slot
      have smaller := growth.size_le.trans room
      have valid := former.run.valid empty_valid smaller
      refine List.forall_mem_append.mpr ⟨?_, List.forall_mem_singleton.mpr ?_⟩
      · intro occurrence member
        obtain ⟨target, means⟩ := induction smaller occurrence member
        exact ⟨target, means.mono growth⟩
      · obtain ⟨target, -, means⟩ := valid.insert_means (shows smaller) room
        exact ⟨target, means⟩

/-- Every slot shows an occurrence that was met before all that are the same. -/
theorem OrderedRun.shows (ordered : OrderedRun empty met interner)
    (room : interner.graph.size ≤ UInt32.size) :
    ∀ slot ∈ interner.graph.slots.toList, ∃ occurrence,
      slot.Shows interner.graph occurrence ∧
        Occurrence.FirstMet met occurrence := by
  induction ordered with
  | refl =>
      intro slot member
      simp [empty, Graph.empty] at member
  | @insert met middle added last former shows induction =>
      have growth := insert_extends middle added
      have smaller := growth.size_le.trans room
      have valid := former.run.valid empty_valid smaller
      have keep : ∀ slot ∈ middle.graph.slots.toList, ∃ occurrence,
          slot.Shows (middle.insert added).2.graph occurrence ∧
            Occurrence.FirstMet (met ++ [last]) occurrence := by
        intro slot member
        obtain ⟨occurrence, shows, isFirst⟩ := induction smaller slot member
        exact ⟨occurrence, shows.mono growth, isFirst.append⟩
      rcases insert_cases middle added with ⟨_, -, result⟩ | ⟨-, result⟩
      · rw [result] at keep ⊢
        exact keep
      · have fresh : ∀ earlier ∈ met, ¬ earlier.Same last := by
          intro earlier member same
          -- The earlier one has a handle, which is not that of the new slot.
          obtain ⟨target, means⟩ := former.means smaller earlier member
          obtain ⟨target', there, means'⟩ :=
            valid.insert_means (shows smaller) room
          have sameTarget := (valid.insert room).1.indexed.means_unique
            ((means.ofSame same).mono growth) means'
          have inside := means.resolves.index_lt
          rw [sameTarget, there, result] at inside
          rw [result] at room
          rw [nextIndex_toNat room] at inside
          exact absurd inside (lt_irrefl _)
        have shown := (shows smaller).mono growth
        rw [result] at keep shown ⊢
        intro slot member
        simp only [Graph.push, Array.toList_push, List.mem_append,
          List.mem_singleton] at member
        rcases member with former | rfl
        · exact keep slot former
        · exact ⟨last, shown, .last fresh⟩

/-- Every slot spells what was met first of the occurrences that are the same. -/
structure Remembers (interner : Interner) (met : List Occurrence) : Prop where
  valid : interner.Valid
  layered : interner.graph.Layered
  shows : ∀ slot ∈ interner.graph.slots.toList, ∃ occurrence,
    slot.Shows interner.graph occurrence ∧ Occurrence.FirstMet met occurrence

theorem OrderedRun.remembers (ordered : OrderedRun empty met interner)
    (room : interner.graph.size ≤ UInt32.size) : interner.Remembers met :=
  ⟨ordered.run.valid empty_valid room,
    (ordered.showing (List.Subset.refl met)).layered, ordered.shows room⟩

end Interner

/-! ## The trees of handles -/

/-- A handle expands to what its node unfolds to. -/
theorem Graph.Layered.expands_iff_unfolds {graph : Graph}
    (layered : graph.Layered) {id : ValueId} {node : Node}
    (found : graph.value? id = some node) {tree : Value} :
    graph.ExpandsWithin graph.size id tree ↔
      graph.Unfolds (graph.ExpandsWithin graph.size) node tree := by
  have resolves : graph.Resolves (.value id) := ⟨node, found⟩
  have same : graph.expandWithin (graph.size + 1) id = graph.expand? id :=
    layered.expandWithin_eq (Nat.lt_succ_of_lt resolves.index_lt)
  have deeper : graph.ExpandsWithin graph.size id tree ↔
      graph.ExpandsWithin (graph.size + 1) id tree := by
    rw [ExpandsWithin, ExpandsWithin, same, expand?]
  rw [deeper, expandsWithin_succ_iff]
  constructor
  · intro expands
    obtain ⟨node', found', shape⟩ := expands
    obtain rfl := Option.some.inj (found.symm.trans found')
    exact shape
  · intro shape
    exact ⟨node, found, shape⟩

namespace Interner

section

variable {interner : Interner} {met : List Occurrence}

/-- The named children are stored in the order of the constructor that was met
first. -/
theorem Remembers.exists_first (remembers : interner.Remembers met)
    {id : ValueId} {kind : ConstructorKind} {name : String}
    {ids : List ValueId} {fields : List (String × ValueId)}
    (found : interner.graph.value? id = some (.constr kind name ids fields)) :
    ∃ items named, interner.graph.DenotesFields fields named ∧
      interner.graph.Denotes id (.constr kind name items named) ∧
      Occurrence.FirstMet met (.value (.constr kind name items named)) := by
  have stored := Array.mem_toList_iff.mpr
    (Array.mem_of_getElem? (Graph.value?_eq_some_iff.mp found))
  obtain ⟨occurrence, shows, isFirst⟩ := remembers.shows _ stored
  cases shows with
  | value shape =>
      have denotes := shape.denotes found
      cases shape with
      | constr items named =>
          exact ⟨_, _, Graph.denotesFields_iff_forall₂.mpr named, denotes,
            isFirst⟩

/-- Fields that expand to trees denote them. -/
theorem denotesFields_of_expands {ids : List (String × ValueId)}
    {trees : List (String × Value)}
    (expands : List.Forall₂ (Graph.UnfoldsField
      (interner.graph.ExpandsWithin interner.graph.size)) ids trees) :
    interner.graph.DenotesFields ids trees :=
  Graph.denotesFields_iff_forall₂.mpr
    (expands.imp fun _ _ unfolds => ⟨unfolds.1, unfolds.2.denotes⟩)

mutual

/-- The tree of a handle is the value that it denotes, arranged as its
constructors were first met. -/
theorem Remembers.expands_iff (remembers : interner.Remembers met)
    {id : ValueId} {value tree : Value}
    (denotes : interner.graph.Denotes id value) :
    interner.graph.ExpandsWithin interner.graph.size id tree ↔
      value.Arranged met tree := by
  match value with
  | .map entries =>
      obtain ⟨ids, found, children⟩ := denotes
      rw [remembers.layered.expands_iff_unfolds found]
      constructor
      · intro shape
        cases shape with
        | map all => exact (remembers.expandEntries_iff children).mp all
      · intro arranged
        cases tree with
        | map entries' =>
            exact .map ((remembers.expandEntries_iff children).mpr arranged)
        | _ => exact arranged.elim
  | .list items | .set items | .tuple items =>
      obtain ⟨ids, found, children⟩ := denotes
      rw [remembers.layered.expands_iff_unfolds found]
      constructor
      · intro shape
        cases shape with
        | _ all => exact (remembers.expandItems_iff children).mp all
      · intro arranged
        -- A value of another kind is not arranged from this one.
        cases tree <;> try exact arranged.elim
        constructor
        exact (remembers.expandItems_iff children).mpr arranged
  | .constr kind name positional named =>
      have whole := denotes
      obtain ⟨ids, fields, found, children, arranged, order, others⟩ := denotes
      obtain ⟨items₀, named₀, denotes₀, whole₀, isFirst⟩ :=
        remembers.exists_first found
      rw [remembers.layered.expands_iff_unfolds found]
      constructor
      · intro shape
        cases shape with
        | @constr _ _ _ _ items named' expandsItems expandsFields =>
            obtain ⟨spelled, expandsArranged, order'⟩ :=
              List.perm_comp_forall₂ order.symm expandsFields
            exact ⟨rfl, rfl, (remembers.expandItems_iff children).mp expandsItems,
              ⟨spelled,
                (remembers.expandFields_iff others).mp expandsArranged, order'⟩,
              items₀, named₀, isFirst, whole.same whole₀,
              denotes₀.same (denotesFields_of_expands expandsFields)⟩
      · intro arrangement
        cases tree with
        | constr kind' name' items named' =>
            obtain ⟨rfl, rfl, arrangedItems, ⟨spelled, arrangedFields, order'⟩,
              items₁, named₁, isFirst₁, same₁, sameFields⟩ := arrangement
            -- There is one constructor that was met first.
            have whole₁ := whole.ofSame same₁
            obtain ⟨rfl, rfl⟩ : items₁ = items₀ ∧ named₁ = named₀ := by
              simpa using isFirst₁.unique isFirst (whole₁.same whole₀)
                (whole₀.same whole₁)
            -- The stored fields denote what the arranged ones expand to.
            obtain ⟨fields', expandsFields, order₁⟩ :=
              List.perm_comp_forall₂ order'.symm
                ((remembers.expandFields_iff others).mpr arrangedFields).flip
            have sameIds : fields = fields' :=
              remembers.valid.indexed.denotesFields_unique
                (denotes₀.ofSame sameFields)
                (denotesFields_of_expands expandsFields.flip)
            rw [sameIds]
            exact .constr
              ((remembers.expandItems_iff children).mpr arrangedItems)
              expandsFields.flip
        | _ => exact arrangement.elim
  | .string _ | .number _ | .boolean _ | .location _ =>
      rw [remembers.layered.expands_iff_unfolds denotes]
      constructor
      · intro shape
        cases shape
        rfl
      · intro arranged
        cases tree <;> cases arranged
        constructor
termination_by structural value

theorem Remembers.expandItems_iff (remembers : interner.Remembers met)
    {ids : List ValueId} {values trees : List Value}
    (denotes : interner.graph.DenotesItems ids values) :
    List.Forall₂ (interner.graph.ExpandsWithin interner.graph.size) ids trees ↔
      Value.ArrangedItems met values trees := by
  match ids, values, trees with
  | [], [], [] => exact iff_of_true .nil trivial
  | [], [], _ :: _ => exact iff_of_false nofun id
  | _ :: _, _ :: _, [] => exact iff_of_false nofun id
  | _ :: _, value :: values, _ :: _ =>
      rw [List.forall₂_cons, remembers.expands_iff denotes.1,
        remembers.expandItems_iff denotes.2, Value.ArrangedItems]
  | [], _ :: _, _ | _ :: _, [], _ => exact denotes.elim
termination_by structural values

theorem Remembers.expandEntries_iff (remembers : interner.Remembers met)
    {ids : List EntryId} {entries trees : List (Value × Value)}
    (denotes : interner.graph.DenotesEntries ids entries) :
    List.Forall₂ (interner.graph.UnfoldsEntry
        (interner.graph.ExpandsWithin interner.graph.size)) ids trees ↔
      Value.ArrangedEntries met entries trees := by
  match ids, entries, trees with
  | [], [], [] => exact iff_of_true .nil trivial
  | [], [], _ :: _ => exact iff_of_false nofun id
  | _ :: _, _ :: _, [] => exact iff_of_false nofun id
  | _ :: _, entry :: entries, _ :: _ =>
      rw [List.forall₂_cons, remembers.expandEntry_iff denotes.1,
        remembers.expandEntries_iff denotes.2, Value.ArrangedEntries]
  | [], _ :: _, _ | _ :: _, [], _ => exact denotes.elim
termination_by structural entries

theorem Remembers.expandEntry_iff (remembers : interner.Remembers met)
    {id : EntryId} {entry tree : Value × Value}
    (denotes : interner.graph.DenotesEntry id entry) :
    interner.graph.UnfoldsEntry
        (interner.graph.ExpandsWithin interner.graph.size) id tree ↔
      Value.ArrangedEntry met entry tree := by
  match entry, tree with
  | (key, value), (key', value') =>
      obtain ⟨stored, found, denotesKey, denotesValue⟩ := denotes
      rw [Value.ArrangedEntry, ← remembers.expands_iff denotesKey,
        ← remembers.expands_iff denotesValue]
      simp [Graph.UnfoldsEntry, found]
termination_by structural entry

theorem Remembers.expandFields_iff (remembers : interner.Remembers met)
    {ids : List (String × ValueId)} {fields trees : List (String × Value)}
    (denotes : interner.graph.DenotesFields ids fields) :
    List.Forall₂ (Graph.UnfoldsField
        (interner.graph.ExpandsWithin interner.graph.size)) ids trees ↔
      Value.ArrangedFields met fields trees := by
  match ids, fields, trees with
  | [], [], [] => exact iff_of_true .nil trivial
  | [], [], _ :: _ => exact iff_of_false nofun id
  | _ :: _, _ :: _, [] => exact iff_of_false nofun id
  | (_, _) :: _, (_, value) :: fields, (_, _) :: _ =>
      obtain ⟨rfl, first, others⟩ := denotes
      rw [List.forall₂_cons, remembers.expandFields_iff others,
        Graph.UnfoldsField, remembers.expands_iff first, and_assoc,
        Value.ArrangedFields]
  | [], _ :: _, _ | _ :: _, [], _ => exact denotes.elim
termination_by structural fields

end

end

end Interner

/-! ## Later calls -/

namespace Graph

variable {large small : Graph}

theorem Extends.isPrefix (growth : large.Extends small) :
    small.slots.toList <+: large.slots.toList := by
  rw [List.prefix_iff_getElem?]
  intro place inside
  rw [Array.getElem?_toList]
  exact growth place _ (by rw [← Array.getElem?_toList,
    List.getElem?_eq_getElem inside])

/-- A handle of a slot keeps its tree, or goes on to have none. -/
theorem Layered.expand?_of_extends (layered : small.Layered)
    (growth : large.Extends small) {id : ValueId}
    (inside : id.index.toNat < small.size) :
    large.expand? id = small.expand? id := by
  have stored := Array.getElem?_eq_getElem inside
  cases kept : small.slots[id.index.toNat] with
  | value node =>
      rw [kept] at stored
      obtain ⟨tree, expands⟩ :=
        layered.exists_expand (value?_eq_some_iff.mpr stored)
      rw [expands]
      exact ExpandsWithin.mono growth growth.size_le expands
  | entry entry =>
      rw [kept] at stored
      have missing : small.value? id = none := by simp [value?, stored]
      have missing' : large.value? id = none := by
        simp [value?, growth _ _ stored]
      rw [expand?, expand?, expandWithin_eq_none missing,
        expandWithin_eq_none missing']

end Graph

namespace Interner

theorem internItems_append (interner : Interner) (before behind : List Value) :
    (interner.internItems (before ++ behind)).2 =
      ((interner.internItems before).2.internItems behind).2 := by
  induction before generalizing interner with
  | nil => rfl
  | cons value values induction =>
      simp only [List.cons_append, internItems, induction]

/-- A run of calls only adds slots, and no call changes the tree of an earlier
handle.  The tree of the handle that was returned for a value is the same value.
It is the value with the named children of each constructor in the order of the
constructor that is the same and was met first, in post-order over the whole
run, and no other tree; and interning it gives the handle and adds nothing. -/
theorem internItems_keeps (before behind : List Value)
    (room : (empty.internItems (before ++ behind)).2.graph.size ≤
      UInt32.size) :
    let middle := (empty.internItems before).2
    let final := (empty.internItems (before ++ behind)).2
    middle.graph.slots.toList <+: final.graph.slots.toList ∧
    (∀ id : ValueId, id.index.toNat < middle.graph.size →
      final.graph.expand? id = middle.graph.expand? id ∧
      final.graph.text? id = middle.graph.text? id) ∧
    List.Forall₂
      (fun value id =>
        (∃ tree, final.graph.expand? id = some tree ∧ value.Same tree ∧
          final.intern tree = (id, final)) ∧
        ∀ tree, final.graph.expand? id = some tree ↔
          value.Arranged (Value.postorderItems (before ++ behind)) tree)
      before (empty.internItems before).1 := by
  intro middle final
  have later : Run middle final := by
    simp only [final, internItems_append]
    exact internItems_run middle behind
  have ordered := internItems_ordered .refl (before ++ behind)
  have remembers := ordered.remembers room
  have orderedMiddle := internItems_ordered .refl before
  have remembersMiddle :=
    orderedMiddle.remembers (later.growth.size_le.trans room)
  have stable (id : ValueId) (inside : id.index.toNat < middle.graph.size) :
      final.graph.expand? id = middle.graph.expand? id :=
    remembersMiddle.layered.expand?_of_extends later.growth inside
  refine ⟨later.growth.isPrefix, ?_, ?_⟩
  · intro id inside
    exact ⟨stable id inside, by rw [Graph.text?, Graph.text?, stable id inside]⟩
  · have denotes := (internItems_denotes empty_valid before
      remembersMiddle.valid.size_le).mono later.growth
    refine (Graph.denotesItems_iff_forall₂.mp denotes).flip.imp ?_
    intro value id denotes
    refine ⟨?_, fun tree => remembers.expands_iff denotes⟩
    obtain ⟨node, found⟩ := denotes.resolves
    obtain ⟨tree, expands⟩ := remembers.layered.exists_expand found
    exact ⟨tree, expands, denotes.same (Graph.ExpandsWithin.denotes expands),
      ordered.run.indexed.intern_expanded expands⟩

/-- The order of the outer constructor comes from the second value and that of
the inner one from the first. -/
theorem internItems_keeps_swapped :
    let inner := Value.constr .identifier "g" []
      [("y", .number "2"), ("x", .number "3")]
    let inner' := Value.constr .identifier "g" []
      [("x", .number "3"), ("y", .number "2")]
    let left := Value.constr .identifier "f" []
      [("b", .number "1"), ("a", inner')]
    let right := Value.constr .identifier "f" []
      [("a", inner'), ("b", .number "1")]
    let tree := Value.constr .identifier "f" []
      [("b", .number "1"), ("a", inner)]
    let middle := (empty.internItems [inner, left, right]).2
    let final := (empty.internItems ([inner, left, right] ++ [.list [right]])).2
    final.graph.size ≤ UInt32.size ∧
      (empty.internItems [inner, left, right]).1 = [⟨2⟩, ⟨4⟩, ⟨4⟩] ∧
      middle.graph.expand? ⟨4⟩ = some tree ∧
      final.graph.expand? ⟨4⟩ = some tree ∧ right.Same tree ∧
      right.Arranged
        (Value.postorderItems ([inner, left, right] ++ [.list [right]])) tree ∧
      final.intern tree = (⟨4⟩, final) := by
  intro inner inner' left right tree middle final
  have count : final.graph.size = 6 := by
    simp only [final, left, right, inner, inner']
    cbv
  have room : final.graph.size ≤ UInt32.size := by
    rw [count]
    decide
  have returned :
      (empty.internItems [inner, left, right]).1 = [⟨2⟩, ⟨4⟩, ⟨4⟩] := by
    simp only [left, right, inner, inner']
    cbv
  have expands : middle.graph.expand? ⟨4⟩ = some tree := by
    simp only [middle, tree, left, right, inner, inner']
    cbv
  have countMiddle : middle.graph.size = 5 := by
    simp only [middle, left, right, inner, inner']
    cbv
  have inside : (4 : UInt32).toNat < middle.graph.size := by
    rw [countMiddle]
    decide
  obtain ⟨-, stable, kept⟩ :=
    internItems_keeps [inner, left, right] [.list [right]] room
  have expands' : final.graph.expand? ⟨4⟩ = some tree :=
    (stable ⟨4⟩ inside).1.trans expands
  rw [returned, List.forall₂_cons, List.forall₂_cons, List.forall₂_cons] at kept
  obtain ⟨-, -, ⟨⟨tree', expandsTree, same, again⟩, only⟩, -⟩ := kept
  have isTree : tree' = tree :=
    Option.some.inj (expandsTree.symm.trans expands')
  rw [isTree] at same again
  exact ⟨room, returned, expands, expands', same, (only tree).mp expands',
    again⟩

end Interner

end TreeQuery
