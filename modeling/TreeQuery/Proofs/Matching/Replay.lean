import TreeQuery.CommandLine.Run
import TreeQuery.Proofs.Graph.RoundTrip
import TreeQuery.Proofs.Graph.Sharing
import TreeQuery.Proofs.Matching.Search

/-!
# Reading hits again

The text printed for a hit is the written form of a part of a value that was
read, so it is read again; and the pattern matches what is read, in a graph that
holds nothing else.
-/

namespace TreeQuery

namespace Pattern

/-- A text that is read gives a value that the pattern matches in a graph of its
own.  The text of an entry is put in parentheses and gives a map of the entry
alone. -/
def Replays (pattern : Pattern) (text : String) : Target → Prop
  | .value _ =>
      ∃ value, Value.read text = .ok value ∧
        pattern.accepts value.canonical.2 value.canonical.1 = true
  | .entry _ =>
      ∃ key value, Value.read ("(" ++ text ++ ")") = .ok (.map [(key, value)]) ∧
        pattern.accepts (Value.map [(key, value)]).canonical.2
          (Value.map [(key, value)]).canonical.1 = true

theorem accepts_canonical {value : Value}
    (room : value.canonical.2.size ≤ UInt32.size) (pattern : Pattern) :
    pattern.accepts value.canonical.2 value.canonical.1 =
      pattern.acceptsTree value :=
  accepts_of_denotes (Interner.intern_denotes Interner.empty_valid value room)
    pattern

mutual

/-- What matches an entry also matches the map of the entry alone. -/
theorem acceptsTree_of_acceptsTreeEntry {pattern : Pattern} {key value : Value}
    (accepted : pattern.acceptsTreeEntry key value = true) :
    pattern.acceptsTree (.map [(key, value)]) = true := by
  match pattern with
  | .any => rfl
  | .or options => exact acceptsTreeSome_of_acceptsTreeSomeEntry accepted
  | .map [(forKey, forValue)] =>
      simpa [acceptsTree, acceptsTreePairs, acceptsTreeEntry] using accepted
  | .map [] | .map (_ :: _ :: _) | .repeated _ | .regex _ | .text _ | .list _
  | .set _ | .tuple _ | .constr _ _ _ | .string _ | .number _ | .boolean _
  | .location _ => cases accepted

theorem acceptsTreeSome_of_acceptsTreeSomeEntry {options : List Pattern}
    {key value : Value}
    (accepted : acceptsTreeSomeEntry options key value = true) :
    acceptsTreeSome options (.map [(key, value)]) = true := by
  match options with
  | [] => cases accepted
  | option :: options =>
      rw [acceptsTreeSomeEntry, Bool.or_eq_true] at accepted
      rw [acceptsTreeSome, Bool.or_eq_true]
      rcases accepted with first | later
      · exact .inl (acceptsTree_of_acceptsTreeEntry first)
      · exact .inr (acceptsTreeSome_of_acceptsTreeSomeEntry later)

end

end Pattern

/-- A number that a search returns is that of a record whose target matches. -/
theorem Flat.exists_record_of_mem_search {graph : Graph}
    {outlines : List Outline} {pattern : Pattern} {limit id : Nat}
    (hit : id ∈ (ofOutlines outlines).search graph pattern limit) :
    ∃ record, (ofOutlines outlines).get? id = some record ∧
      record.caption.target ∈ Outline.targetsAll outlines ∧
      pattern.acceptsTarget graph record.caption.target = true := by
  obtain ⟨record, found, rfl⟩ := List.mem_map.mp (List.mem_of_mem_take hit)
  obtain ⟨member, accepted⟩ := List.mem_filter.mp found
  have shown : record.shown ∈ (Outline.targetsAll outlines).zipIdx := by
    rw [← map_shown_records]
    exact List.mem_map_of_mem member
  rw [Pattern.acceptsRecord, get?_id member] at accepted
  exact ⟨record, get?_id member, List.fst_mem_of_mem_zipIdx shown, accepted⟩

/-- Only below a handle of a value a search has something to return. -/
theorem Graph.Layered.exists_expand_of_hit {graph : Graph}
    (layered : graph.Layered) {root : ValueId} {labelLimit : Nat}
    {pattern : Pattern} {limit id : Nat}
    (hit : id ∈ (graph.flatten labelLimit [root]).search graph pattern limit) :
    ∃ tree, graph.expand? root = some tree := by
  rw [flatten_eq_ofOutlines, List.filterMap_cons] at hit
  cases outlined : graph.outline? labelLimit (.value root, .root) with
  | none =>
      rw [outlined] at hit
      obtain ⟨record, -, among, -⟩ := Flat.exists_record_of_mem_search hit
      exact absurd among List.not_mem_nil
  | some outline =>
      obtain ⟨node, found⟩ := resolves_of_outlineWithin outlined
      exact layered.exists_expand found

theorem Value.text_entry (key value : Value) :
    "(" ++ (key.text ++ ": " ++ value.text) ++ ")" =
      (Value.map [(key, value)]).text := by
  apply String.toList_inj.mp
  simp [text, written, writtenEntries, separate]

namespace Interner

variable {interner : Interner}

/-- The tree of a handle is written so that it is read again. -/
theorem Legible.wellFormed_of_expand? (legible : interner.Legible)
    {id : ValueId} {tree : Value}
    (expands : interner.graph.expand? id = some tree) :
    Value.WellFormed tree := by
  obtain ⟨node, found, -⟩ := Graph.exists_unfolds_of_expand? expands
  obtain ⟨tree', wellFormed, expands'⟩ := legible.expands found
  obtain rfl : tree' = tree := Option.some.inj (expands'.symm.trans expands)
  exact wellFormed

/-- The written form of a target is read again, and what a pattern matches at
the occurrence it matches in what was read. -/
theorem Legible.replays (legible : interner.Legible)
    (layered : interner.graph.Layered) {root : ValueId} {tree : Value}
    (expands : interner.graph.expand? root = some tree)
    {target : Target} {occurrence : Occurrence}
    (shows : interner.graph.Expands target occurrence)
    (member : occurrence ∈ tree.listing) {pattern : Pattern}
    (accepted : pattern.acceptsOccurrence occurrence = true) :
    ∃ text, interner.graph.targetText? target = some text ∧
      pattern.Replays text target := by
  cases shows with
  | @value id part expandsPart =>
      have wellFormed := legible.wellFormed_of_expand? expandsPart
      have fits :=
        (intern_size_le layered expandsPart).trans id.index.toNat_lt_size
      refine ⟨part.text, ?_, part, Value.read_of_wellFormed wellFormed, ?_⟩
      · rw [Graph.targetText?, Graph.text?, expandsPart, Option.map_some]
      · exact (Pattern.accepts_canonical fits pattern).trans accepted
  | @entry id stored key part found expandsKey expandsPart =>
      have wellFormed : Value.WellFormed (.map [(key, part)]) :=
        ⟨legible.wellFormed_of_expand? expandsKey,
          legible.wellFormed_of_expand? expandsPart, trivial⟩
      have fits := (intern_entry_size_le layered expands member).trans
        root.index.toNat_lt_size
      refine ⟨key.text ++ ": " ++ part.text, ?_, key, part, ?_, ?_⟩
      · simp only [Graph.targetText?, Graph.entryText?, Graph.text?, found,
          expandsKey, expandsPart, Option.bind_some, Option.map_some]
      · rw [Value.text_entry]
        exact Value.read_of_wellFormed wellFormed
      · exact (Pattern.accepts_canonical fits pattern).trans
          (Pattern.acceptsTree_of_acceptsTreeEntry accepted)

end Interner

/-- Every hit of a search in a value that was read can be read again from its
printed text, and the pattern matches it again. -/
theorem search_replays {source : String} {value : Value}
    (result : Value.read source = .ok value) (labelLimit : Nat)
    (pattern : Pattern) (limit : Nat) :
    ∀ id ∈ (value.canonical.2.flatten labelLimit [value.canonical.1]).search
        value.canonical.2 pattern limit,
      ∃ record, (value.canonical.2.flatten labelLimit
          [value.canonical.1]).get? id = some record ∧
        pattern.Replays (CommandLine.recordText value.canonical.2 record)
          record.caption.target := by
  have reached : (Interner.empty.intern value).2.Reached := .intern value .empty
  have layered := reached.layered
  have legible := Interner.intern_legible Interner.empty_legible value
    (Value.wellFormed_of_read result)
  rw [Value.canonical]
  dsimp only
  intro id hit
  obtain ⟨tree, expands⟩ := layered.exists_expand_of_hit hit
  obtain ⟨outline, flattened, shows⟩ :=
    layered.exists_flatten labelLimit expands
  rw [flattened] at hit ⊢
  obtain ⟨record, found, among, accepted⟩ :=
    Flat.exists_record_of_mem_search hit
  obtain ⟨occurrence, member, expandsTarget⟩ :=
    exists_mem_of_forall₂ shows.flip _ among
  rw [Pattern.acceptsTarget_of_expands expandsTarget] at accepted
  obtain ⟨text, printed, replays⟩ :=
    legible.replays layered expands expandsTarget member accepted
  refine ⟨record, found, ?_⟩
  rw [CommandLine.recordText, printed, Option.getD_some]
  exact replays

theorem search_replays_entry :
    let source := "(1 : [2,])"
    let value := Value.map [(.number "1", .list [.number "2"])]
    let graph := value.canonical.2
    let flat := graph.flatten 40 [value.canonical.1]
    let pattern := Pattern.or [.number "2", .map [(.any, .list [.any])]]
    Value.read source = .ok value ∧
      flat.search graph pattern 2 = [0, 1] ∧
      ∃ record, flat.get? 1 = some record ∧
        CommandLine.recordText graph record = "1: [2]" ∧
        pattern.Replays "1: [2]" record.caption.target := by
  intro source value graph flat pattern
  have result : Value.read source = .ok value := by
    decide +kernel
  have canonical : value.canonical = (⟨4⟩,
      ⟨#[.value (.number "1"), .value (.number "2"), .value (.list [⟨1⟩]),
        .entry ⟨⟨0⟩, ⟨2⟩⟩, .value (.map [⟨3⟩])]⟩) := by
    simp only [value]
    cbv
  have hits : flat.search graph pattern 2 = [0, 1] := by
    simp only [flat, graph, canonical, pattern]
    rw [Graph.flatten_eq_ofOutlines]
    cbv
  obtain ⟨record, found, replays⟩ :=
    search_replays result 40 pattern 2 1 (by rw [hits]; simp)
  have stored : flat.get? 1 = some
      { id := 1
        parent := some 0
        caption := ⟨.entry ⟨3⟩, .entry, "entry", .index 0⟩
        children := [2, 3]
        range := 3 } := by
    simp only [flat, graph, canonical]
    decide +kernel
  have printed : CommandLine.recordText graph record = "1: [2]" := by
    rw [Option.some.inj (found.symm.trans stored)]
    simp only [graph, canonical]
    decide +kernel
  exact ⟨result, hits, record, found, printed, printed ▸ replays⟩

end TreeQuery
