import TreeQuery.Proofs.Flat.Composition
import TreeQuery.Proofs.Matching.Acceptance

/-!
# Entries and their map

A pattern that matches an entry matches every map that holds the entry.  The
converse holds of patterns that are built of single pairs by alternation: these
match a map through one of its entries.  Since the children of a map's record
are the records of its entries, the same is true of records.
-/

namespace TreeQuery

namespace Pattern

/-- The pattern is built of map patterns with one pair by alternation. -/
inductive OfPairs : Pattern → Prop where
  | pair (key value : Pattern) : OfPairs (.map [(key, value)])
  | or {options : List Pattern} :
      (∀ option ∈ options, OfPairs option) → OfPairs (.or options)

section

variable {graph : Graph} {id : ValueId} {entry : EntryId}
  {entries : List EntryId}

/-- What matches an entry matches every map that holds the entry. -/
theorem accepts_of_acceptsEntry (found : graph.value? id = some (.map entries))
    (among : entry ∈ entries) {pattern : Pattern}
    (accepted : pattern.acceptsEntry graph entry = true) :
    pattern.accepts graph id = true := by
  induction pattern using nestedInduction with
  | any => simp [accepts, found]
  | or options each =>
      obtain ⟨option, member, accepted⟩ := acceptsEntry_or_iff.mp accepted
      exact accepts_or_iff.mpr ⟨option, member, each option member accepted⟩
  | map pairs _ =>
      cases pairs with
      | nil => cases accepted
      | cons pair others =>
          cases others with
          | cons => cases accepted
          | nil =>
              obtain ⟨stored, held, acceptedPair⟩ :=
                acceptsEntry_pair_iff.mp accepted
              refine accepts_map_iff.mpr ⟨entries, found, ?_⟩
              exact List.forall_mem_singleton.mpr
                ⟨entry, among, stored, held, acceptedPair⟩
  | _ => cases accepted

/-- A pattern of single pairs matches a map through one of its entries. -/
theorem OfPairs.exists_acceptsEntry {pattern : Pattern}
    (shape : pattern.OfPairs) (found : graph.value? id = some (.map entries))
    (accepted : pattern.accepts graph id = true) :
    ∃ entry ∈ entries, pattern.acceptsEntry graph entry = true := by
  induction shape with
  | pair key value =>
      obtain ⟨entries', found', each⟩ := accepts_map_iff.mp accepted
      obtain ⟨entry, among, held⟩ := List.forall_mem_singleton.mp each
      obtain rfl : entries = entries' := by simpa [found] using found'
      exact ⟨entry, among, acceptsEntry_pair_iff.mpr held⟩
  | or _ each =>
      obtain ⟨option, member, accepted⟩ := accepts_or_iff.mp accepted
      obtain ⟨entry, among, accepted⟩ := each option member accepted
      exact ⟨entry, among, acceptsEntry_or_iff.mpr ⟨option, member, accepted⟩⟩

end

end Pattern

/-! ## Records of maps -/

namespace Graph

variable {graph : Graph} {limit : Nat} {roots : List ValueId} {place : Nat}
  {record : Record}

/-- The caption of a record describes its target. -/
theorem Layered.describe?_eq (layered : graph.Layered)
    (found : (graph.flatten limit roots).get? place = some record) :
    graph.describe? limit record.caption.target =
      some (record.caption.kind, record.caption.name) := by
  obtain ⟨children, outlined, -⟩ := layered.exists_outlined found
  obtain ⟨described, describes, shape⟩ := Option.map_eq_some_iff.mp outlined
  obtain ⟨shown, -⟩ := Outline.node.inj shape
  refine describes.trans ?_
  rw [← shown]

/-- A record of the kind of maps shows a map. -/
theorem Layered.exists_map (layered : graph.Layered)
    (found : (graph.flatten limit roots).get? place = some record)
    (isMap : record.caption.kind = .map) :
    ∃ id entries, record.caption.target = .value id ∧
      graph.value? id = some (.map entries) := by
  have described := layered.describe?_eq found
  rw [isMap] at described
  cases shown : record.caption.target with
  | entry id =>
      rw [shown, describe?] at described
      obtain ⟨stored, -, shape⟩ := Option.map_eq_some_iff.mp described
      cases shape
  | value id =>
      rw [shown, describe?] at described
      obtain ⟨node, held, shape⟩ := Option.map_eq_some_iff.mp described
      cases node with
      | map entries => exact ⟨id, entries, rfl, held⟩
      | constr kind name positional named => cases kind <;> cases shape
      | _ => cases shape

/-- The children of a record show the parts of its target, and each part is
shown by a child. -/
theorem Layered.children_show (layered : graph.Layered)
    (found : (graph.flatten limit roots).get? place = some record) :
    (∀ id ∈ record.children, ∃ child,
      (graph.flatten limit roots).get? id = some child ∧
        child.caption.target ∈
          (graph.parts record.caption.target).map Prod.fst) ∧
    ∀ target ∈ (graph.parts record.caption.target).map Prod.fst,
      ∃ id ∈ record.children, ∃ child,
        (graph.flatten limit roots).get? id = some child ∧
          child.caption.target = target := by
  have shown := layered.map_children found
  constructor
  · intro id member
    have listed := List.mem_map_of_mem (f := fun id =>
      ((graph.flatten limit roots).get? id).map fun child =>
        (child.caption.target, child.caption.role)) member
    rw [shown] at listed
    obtain ⟨part, isPart, same⟩ := List.mem_map.mp listed
    obtain ⟨child, foundChild, rfl⟩ := Option.map_eq_some_iff.mp same.symm
    exact ⟨child, foundChild, List.mem_map_of_mem isPart⟩
  · intro target member
    obtain ⟨part, isPart, rfl⟩ := List.mem_map.mp member
    have listed : some part ∈ (graph.parts record.caption.target).map some :=
      List.mem_map_of_mem isPart
    rw [← shown] at listed
    obtain ⟨id, isChild, same⟩ := List.mem_map.mp listed
    obtain ⟨child, foundChild, rfl⟩ := Option.map_eq_some_iff.mp same
    exact ⟨id, isChild, child, foundChild, rfl⟩

end Graph

namespace Pattern

/-- The children of a map's record are the records of its entries.  A pattern
that matches one of them matches the map's record, and a pattern of single pairs
matches the map's record only if it matches one of them. -/
theorem acceptsRecord_entries {interner : Interner} (reached : interner.Reached)
    (limit : Nat) (roots : List ValueId) {place : Nat} {record : Record}
    (found : (interner.graph.flatten limit roots).get? place = some record)
    (isMap : record.caption.kind = .map) :
    let graph := interner.graph
    let flat := graph.flatten limit roots
    (∀ id ∈ record.children, ∃ child, flat.get? id = some child ∧
      child.caption.kind = .entry) ∧
    ∀ pattern : Pattern,
      (∀ id ∈ record.children, pattern.acceptsRecord graph flat id = true →
        pattern.acceptsRecord graph flat place = true) ∧
      (pattern.OfPairs → pattern.acceptsRecord graph flat place = true →
        ∃ id ∈ record.children,
          pattern.acceptsRecord graph flat id = true) := by
  intro graph flat
  have layered : graph.Layered := reached.layered
  obtain ⟨mapId, entries, shown, held⟩ := layered.exists_map found isMap
  obtain ⟨showsPart, isShown⟩ := layered.children_show found
  have parts : (graph.parts record.caption.target).map Prod.fst =
      entries.map Target.entry := by
    rw [shown, Graph.parts, held]
    exact Node.map_fst_parts (.map entries)
  rw [parts] at showsPart isShown
  have here (pattern : Pattern) : pattern.acceptsRecord graph flat place =
      pattern.accepts graph mapId := by
    rw [acceptsRecord, found]
    simp only [shown, acceptsTarget]
  refine ⟨?_, ?_⟩
  · intro id member
    obtain ⟨child, foundChild, isPart⟩ := showsPart id member
    obtain ⟨entry, -, target⟩ := List.mem_map.mp isPart
    have described := layered.describe?_eq foundChild
    rw [← target] at described
    obtain ⟨stored, -, shape⟩ := Option.map_eq_some_iff.mp described
    exact ⟨child, foundChild, (congrArg Prod.fst shape).symm⟩
  · intro pattern
    constructor
    · intro id member accepted
      obtain ⟨child, foundChild, isPart⟩ := showsPart id member
      obtain ⟨entry, among, target⟩ := List.mem_map.mp isPart
      rw [acceptsRecord, foundChild] at accepted
      simp only [← target, acceptsTarget] at accepted
      rw [here]
      exact accepts_of_acceptsEntry held among accepted
    · intro shape accepted
      rw [here] at accepted
      obtain ⟨entry, among, accepted⟩ := shape.exists_acceptsEntry held accepted
      obtain ⟨id, member, child, foundChild, target⟩ :=
        isShown (.entry entry) (List.mem_map_of_mem among)
      refine ⟨id, member, ?_⟩
      rw [acceptsRecord, foundChild]
      simp only [target, acceptsTarget]
      exact accepted

/-- The second entry of the map matches by the second option. -/
theorem acceptsRecord_entries_second :
    let interner := (Interner.empty.intern (.map
      [(.number "1", .number "2"), (.number "3", .number "4")])).2
    let flat := interner.graph.flatten 40 [⟨6⟩]
    let pattern := Pattern.or [.or [], .map [(.number "3", .any)]]
    interner.Reached ∧ pattern.OfPairs ∧
      ∃ record, flat.get? 0 = some record ∧ record.caption.kind = .map ∧
        record.children = [1, 4] ∧
        pattern.acceptsRecord interner.graph flat 4 = true ∧
        pattern.acceptsRecord interner.graph flat 0 = true ∧
        ∃ id ∈ record.children,
          pattern.acceptsRecord interner.graph flat id = true := by
  intro interner flat pattern
  have reached : interner.Reached := .intern _ .empty
  have shape : pattern.OfPairs := by
    refine .or fun option member => ?_
    rcases List.mem_pair.mp member with rfl | rfl
    · exact .or (List.forall_mem_nil _)
    · exact .pair _ _
  have stored : interner.graph = ⟨#[.value (.number "1"), .value (.number "2"),
      .entry ⟨⟨0⟩, ⟨1⟩⟩, .value (.number "3"), .value (.number "4"),
      .entry ⟨⟨3⟩, ⟨4⟩⟩, .value (.map [⟨2⟩, ⟨5⟩])]⟩ := by
    simp only [interner]
    cbv
  have shown : (flat.get? 0).map (fun record =>
      (record.caption.kind, record.children)) = some (.map, [1, 4]) := by
    simp only [flat, stored]
    decide +kernel
  obtain ⟨record, found, same⟩ := Option.map_eq_some_iff.mp shown
  obtain ⟨isMap, children⟩ := Prod.mk.inj same
  obtain ⟨-, agree⟩ := acceptsRecord_entries reached 40 [⟨6⟩] found isMap
  have second : 4 ∈ record.children := by simp [children]
  have accepted : pattern.acceptsRecord interner.graph flat 4 = true := by
    simp only [pattern, flat, stored]
    decide +kernel
  have whole := (agree pattern).1 4 second accepted
  exact ⟨reached, shape, record, found, isMap, children, accepted, whole,
    (agree pattern).2 shape whole⟩

end Pattern

end TreeQuery
