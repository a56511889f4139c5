import Mathlib.Data.List.Permutation
import TreeQuery.Proofs.Flat.Forest

/-!
# Views of a forest

The ancestors of a record are what its parents lead to, so they are the records
whose ranges cover it.  The index of targets is built record by record and lists,
for each target, the records that show it.
-/

namespace TreeQuery

namespace Flat

/-- Following parents from a record on comes to an end after these records.  A
number that leads to no record is passed and ends the walk. -/
inductive Climbs (flat : Flat) : Option Nat → List Nat → Prop where
  | done : Climbs flat none []
  | step {id : Nat} {chain : List Nat} :
      Climbs flat ((flat.get? id).bind Record.parent) chain →
      Climbs flat (some id) (id :: chain)

/-- The list starts at a record and goes from each record to its parent, which
stands before it, up to a record without a parent. -/
structure Lineage (flat : Flat) (id : Nat) (chain : List Nat) : Prop where
  head?_eq : chain.head? = some id
  decreasing : chain.Pairwise (· > ·)
  parents : chain.IsChain flat.ChildOf
  exists_top : ∃ top record, chain.getLast? = some top ∧
    flat.get? top = some record ∧ record.parent = none

section

variable {outlines : List Outline} {id above : Nat} {record : Record}

theorem get?_eq_none_iff {flat : Flat} :
    flat.get? id = none ↔ flat.size ≤ id :=
  Array.getElem?_eq_none_iff

/-- To reach a record without a parent, no more steps are needed than there are
records before. -/
theorem ancestorsWithin_eq (bound bound' : Nat) (enough : id < bound)
    (enough' : id < bound') :
    (ofOutlines outlines).ancestorsWithin bound id =
      (ofOutlines outlines).ancestorsWithin bound' id := by
  induction bound generalizing id bound' with
  | zero => exact absurd enough (Nat.not_lt_zero _)
  | succ bound induction =>
      cases bound' with
      | zero => exact absurd enough' (Nat.not_lt_zero _)
      | succ bound' =>
          rw [ancestorsWithin, ancestorsWithin]
          cases found : (ofOutlines outlines).get? id with
          | none => rfl
          | some record =>
              cases named : record.parent with
              | none => simp only [named]
              | some above =>
                  obtain ⟨-, -, -, -, -, before, -⟩ :=
                    ChildOf.exists_above ⟨record, found, named⟩
                  simp only [named]
                  rw [induction bound' (by omega) (by omega)]

theorem ancestors_eq_nil (beyond : (ofOutlines outlines).size ≤ id) :
    (ofOutlines outlines).ancestors id = [] := by
  rw [ancestors]
  cases (ofOutlines outlines).size with
  | zero => rfl
  | succ bound => rw [ancestorsWithin, get?_eq_none_iff.mpr beyond]

theorem ancestors_of_root
    (found : (ofOutlines outlines).get? id = some record)
    (topmost : record.parent = none) :
    (ofOutlines outlines).ancestors id = [id] := by
  have inside := inside_of_get? found
  rw [ancestors, ancestorsWithin_eq _ (id + 1) (by omega) (by omega),
    ancestorsWithin, found]
  simp only [topmost, id_of_get? found]

theorem ancestors_of_child (child : (ofOutlines outlines).ChildOf id above) :
    (ofOutlines outlines).ancestors id =
      id :: (ofOutlines outlines).ancestors above := by
  obtain ⟨-, parent, -, foundAbove, -, before, -⟩ := child.exists_above
  have insideAbove := inside_of_get? foundAbove
  obtain ⟨record, found, named⟩ := child
  have inside := inside_of_get? found
  rw [ancestors, ancestorsWithin_eq _ (id + 1) (by omega) (by omega),
    ancestorsWithin, found]
  simp only [named, id_of_get? found]
  rw [ancestors, ancestorsWithin_eq id (ofOutlines outlines).size before
    (by omega)]

/-- Induction from the records without a parent to their children. -/
@[elab_as_elim]
theorem childInduction {motive : Nat → Prop}
    (root : ∀ id record, (ofOutlines outlines).get? id = some record →
      record.parent = none → motive id)
    (child : ∀ id above, (ofOutlines outlines).ChildOf id above →
      motive above → motive id)
    {id : Nat} {record : Record}
    (found : (ofOutlines outlines).get? id = some record) : motive id := by
  induction id using Nat.strong_induction_on generalizing record with
  | _ id induction =>
      cases named : record.parent with
      | none => exact root id record found named
      | some above =>
          have isChild : (ofOutlines outlines).ChildOf id above :=
            ⟨record, found, named⟩
          obtain ⟨-, parent, -, foundAbove, -, before, -⟩ :=
            isChild.exists_above
          exact child id above isChild
            (induction above before foundAbove)

theorem climbs_ancestors (id : Nat) :
    (ofOutlines outlines).Climbs
      (((ofOutlines outlines).get? id).map Record.id)
      ((ofOutlines outlines).ancestors id) := by
  cases found : (ofOutlines outlines).get? id with
  | none =>
      rw [ancestors_eq_nil (get?_eq_none_iff.mp found)]
      exact .done
  | some record =>
      rw [Option.map_some, id_of_get? found]
      refine childInduction ?root ?child found
      case root =>
        intro id record found topmost
        rw [ancestors_of_root found topmost]
        apply Climbs.step
        rw [found, Option.bind_some, topmost]
        exact .done
      case child =>
        intro id above child climbs
        rw [ancestors_of_child child]
        obtain ⟨record, found, named⟩ := child
        apply Climbs.step
        rw [found, Option.bind_some, named]
        exact climbs

theorem ChildOf.unique {flat : Flat} {above' : Nat}
    (child : flat.ChildOf id above) (child' : flat.ChildOf id above') :
    above = above' := by
  obtain ⟨record, found, named⟩ := child
  obtain ⟨record', found', named'⟩ := child'
  obtain rfl := Option.some.inj (found.symm.trans found')
  exact Option.some.inj (named.symm.trans named')

/-- The ancestors of a record are the record itself and what its parents lead
to. -/
theorem mem_ancestors_iff
    (found : (ofOutlines outlines).get? id = some record) :
    above ∈ (ofOutlines outlines).ancestors id ↔
      above = id ∨ (ofOutlines outlines).Descends id above := by
  refine childInduction ?root ?child found
  case root =>
    intro id record found topmost
    rw [ancestors_of_root found topmost, List.mem_singleton,
      or_iff_left_of_imp]
    intro descends
    obtain ⟨next, ⟨record', found', named⟩, -⟩ :=
      Relation.TransGen.head'_iff.mp descends
    obtain rfl := Option.some.inj (found.symm.trans found')
    rw [topmost] at named
    cases named
  case child =>
    intro id next child induction
    rw [ancestors_of_child child, List.mem_cons, induction]
    refine or_congr_right ?_
    constructor
    · intro leads
      rcases leads with rfl | descends
      · exact .single child
      · exact .head child descends
    · intro descends
      obtain ⟨next', child', leads⟩ := Relation.TransGen.head'_iff.mp descends
      obtain rfl := child.unique child'
      exact Relation.reflTransGen_iff_eq_or_transGen.mp leads

theorem Descends.lt (descends : (ofOutlines outlines).Descends id above) :
    above < id := by
  induction descends with
  | single child =>
      obtain ⟨-, -, -, -, -, before, -⟩ := child.exists_above
      exact before
  | tail _ child earlier =>
      obtain ⟨-, -, -, -, -, before, -⟩ := child.exists_above
      exact before.trans earlier

theorem lineage_ancestors
    (found : (ofOutlines outlines).get? id = some record) :
    (ofOutlines outlines).Lineage id ((ofOutlines outlines).ancestors id) := by
  refine childInduction ?root ?child found
  case root =>
    intro id record found topmost
    rw [ancestors_of_root found topmost]
    exact
      { head?_eq := rfl
        decreasing := List.pairwise_singleton _ _
        parents := .singleton _
        exists_top := ⟨id, record, rfl, found, topmost⟩ }
  case child =>
    intro id above child lineage
    obtain ⟨record, parent, found, foundAbove, -, before, -⟩ := child.exists_above
    have decreasing : ∀ other ∈ (ofOutlines outlines).ancestors above,
        id > other := by
      intro other member
      rcases (mem_ancestors_iff foundAbove).mp member with rfl | descends
      · exact before
      · exact descends.lt.trans before
    have parents : ∀ next ∈ ((ofOutlines outlines).ancestors above).head?,
        (ofOutlines outlines).ChildOf id next := by
      intro next first
      rw [lineage.head?_eq, Option.mem_some_iff] at first
      rw [← first]
      exact child
    obtain ⟨top, last, isLast, foundTop, topmost⟩ := lineage.exists_top
    rw [ancestors_of_child child]
    exact
      { head?_eq := rfl
        decreasing := .cons decreasing lineage.decreasing
        parents := List.isChain_cons.mpr ⟨parents, lineage.parents⟩
        exists_top :=
          ⟨top, last, by simp [List.getLast?_cons, isLast], foundTop,
            topmost⟩ }

theorem Descends.exists_record {flat : Flat}
    (descends : flat.Descends id above) :
    ∃ record, flat.get? id = some record := by
  obtain ⟨next, ⟨record, found, -⟩, -⟩ :=
    Relation.TransGen.head'_iff.mp descends
  exact ⟨record, found⟩

theorem Descends.exists_above
    (descends : (ofOutlines outlines).Descends id above) :
    ∃ parent, (ofOutlines outlines).get? above = some parent := by
  obtain ⟨next, -, child⟩ := Relation.TransGen.tail'_iff.mp descends
  obtain ⟨-, parent, -, found, -⟩ := child.exists_above
  exact ⟨parent, found⟩

theorem mem_ancestors_and_ne_iff (id above : Nat) :
    above ∈ (ofOutlines outlines).ancestors id ∧ above ≠ id ↔
      (ofOutlines outlines).Descends id above := by
  constructor
  · intro listed
    obtain ⟨member, other⟩ := listed
    cases found : (ofOutlines outlines).get? id with
    | none =>
        rw [ancestors_eq_nil (get?_eq_none_iff.mp found)] at member
        exact absurd member List.not_mem_nil
    | some record => exact ((mem_ancestors_iff found).mp member).resolve_left other
  · intro descends
    obtain ⟨record, found⟩ := descends.exists_record
    exact ⟨(mem_ancestors_iff found).mpr (.inr descends), descends.lt.ne⟩

/-- What parents lead from is what lies in the subtree. -/
theorem descends_iff_mem_subtree (id above : Nat) :
    (ofOutlines outlines).Descends id above ↔
      ∃ record, (ofOutlines outlines).get? id = some record ∧
        record ∈ (ofOutlines outlines).subtree above := by
  constructor
  · intro descends
    obtain ⟨record, found⟩ := descends.exists_record
    obtain ⟨parent, foundAbove⟩ := descends.exists_above
    refine ⟨record, found, (mem_subtree_iff_descends foundAbove record).mpr ?_⟩
    obtain rfl := id_of_get? found
    exact ⟨found, descends⟩
  · intro below
    obtain ⟨record, found, member⟩ := below
    cases foundAbove : (ofOutlines outlines).get? above with
    | none =>
        rw [subtree, foundAbove] at member
        exact absurd member List.not_mem_nil
    | some parent =>
        rw [← id_of_get? found]
        exact ((mem_subtree_iff_descends foundAbove record).mp member).2

theorem descends_iff_covered (id above : Nat) :
    (ofOutlines outlines).Descends id above ↔
      ∃ parent, (ofOutlines outlines).get? above = some parent ∧
        above < id ∧ id ≤ above + parent.range := by
  constructor
  · intro descends
    obtain ⟨parent, found⟩ := descends.exists_above
    exact ⟨parent, found, (descends_iff found id).mp descends⟩
  · intro covered
    obtain ⟨parent, found, bounds⟩ := covered
    exact (descends_iff found id).mpr bounds

/-! ## The index of targets -/

/-- The index lists the records of a target in the order in which they were
entered, behind what it held before. -/
theorem getD_foldl_enter (records : List Record)
    (index : Std.HashMap Target (Array Nat)) (target : Target) :
    ((records.foldl enter index).getD target #[]).toList =
      (index.getD target #[]).toList ++
        (records.filter fun record => record.caption.target == target).map
          Record.id := by
  induction records generalizing index with
  | nil => simp
  | cons record records induction =>
      rw [List.foldl_cons, induction, enter, Std.HashMap.getD_insert]
      by_cases same : record.caption.target = target
      · simp [same]
      · simp [same]

theorem recordsFor_eq (flat : Flat) (target : Target) :
    flat.recordsFor target =
      (flat.records.toList.filter fun record =>
        record.caption.target == target).map Record.id := by
  rw [recordsFor, byTarget, ← Array.foldl_toList, getD_foldl_enter,
    Std.HashMap.getD_empty, List.nil_append]

theorem map_id_records (outlines : List Outline) :
    (ofOutlines outlines).records.toList.map Record.id =
      List.range (ofOutlines outlines).size := by
  have shown : ((ofOutlines outlines).records.toList.map Record.shown).map
      Prod.snd = _ := congrArg (List.map Prod.snd) map_shown_records
  rw [List.map_map, List.zipIdx_map_snd, Outline.length_targetsAll,
    ← List.range_eq_range', ← size_ofOutlines] at shown
  exact shown

theorem mem_recordsFor_iff (id : Nat) (target : Target) :
    id ∈ (ofOutlines outlines).recordsFor target ↔
      ∃ record, (ofOutlines outlines).get? id = some record ∧
        record.caption.target = target := by
  rw [recordsFor_eq, List.mem_map]
  constructor
  · intro listed
    obtain ⟨record, member, rfl⟩ := listed
    obtain ⟨member, shows⟩ := List.mem_filter.mp member
    exact ⟨record, get?_id member, beq_iff_eq.mp shows⟩
  · intro shown
    obtain ⟨record, found, shows⟩ := shown
    exact ⟨record,
      List.mem_filter.mpr ⟨mem_of_get? found, beq_iff_eq.mpr shows⟩,
      id_of_get? found⟩

theorem recordsFor_increasing (target : Target) :
    ((ofOutlines outlines).recordsFor target).Pairwise (· < ·) := by
  have numbered := map_id_records outlines
  rw [recordsFor_eq]
  refine List.Pairwise.sublist (List.filter_sublist.map Record.id) ?_
  rw [numbered]
  exact List.pairwise_lt_range

end

end Flat

/-- The ancestors, the subtrees and the index of targets are views of one
forest.  Following parents ends, the ancestors are the records whose subtrees
hold the record, which are those whose ranges cover it, and the index lists each
record under its target and nowhere else. -/
theorem Graph.flatten_views (graph : Graph) (limit : Nat)
    (roots : List ValueId) :
    let flat := graph.flatten limit roots
    (∀ id, flat.Climbs ((flat.get? id).map Record.id) (flat.ancestors id)) ∧
    (∀ id, id < flat.size → flat.Lineage id (flat.ancestors id)) ∧
    (∀ id above,
      (above ∈ flat.ancestors id ∧ above ≠ id ↔
        ∃ record, flat.get? id = some record ∧ record ∈ flat.subtree above) ∧
      (above ∈ flat.ancestors id ∧ above ≠ id ↔
        ∃ parent, flat.get? above = some parent ∧ above < id ∧
          id ≤ above + parent.range)) ∧
    (∀ target,
      (flat.recordsFor target).Pairwise (· < ·) ∧
      ∀ id, id ∈ flat.recordsFor target ↔
        ∃ record, flat.get? id = some record ∧
          record.caption.target = target) ∧
    (∀ id, id < flat.size ↔ ∃! target, id ∈ flat.recordsFor target) ∧
    ∀ id, flat.size ≤ id → flat.subtree id = [] ∧ flat.ancestors id = [] := by
  rw [flatten_eq_ofOutlines]
  intro flat
  refine ⟨Flat.climbs_ancestors, ?_, ?_, ?_, ?_, ?_⟩
  · intro id inside
    exact Flat.lineage_ancestors (Array.getElem?_eq_getElem inside)
  · intro id above
    have descends : above ∈ flat.ancestors id ∧ above ≠ id ↔
        flat.Descends id above := Flat.mem_ancestors_and_ne_iff id above
    exact ⟨descends.trans (Flat.descends_iff_mem_subtree id above),
      descends.trans (Flat.descends_iff_covered id above)⟩
  · intro target
    exact ⟨Flat.recordsFor_increasing target,
      fun id => Flat.mem_recordsFor_iff id target⟩
  · intro id
    constructor
    · intro inside
      have found : flat.get? id = some _ := Array.getElem?_eq_getElem inside
      refine ⟨_, (Flat.mem_recordsFor_iff id _).mpr ⟨_, found, rfl⟩, ?_⟩
      intro target listed
      obtain ⟨record, found', shows⟩ :=
        (Flat.mem_recordsFor_iff id target).mp listed
      obtain rfl := Option.some.inj (found.symm.trans found')
      exact shows.symm
    · intro shown
      obtain ⟨target, listed, -⟩ := shown
      obtain ⟨record, found, -⟩ := (Flat.mem_recordsFor_iff id target).mp listed
      exact (Array.getElem?_eq_some_iff.mp found).1
  · intro id beyond
    have missing : flat.get? id = none := Flat.get?_eq_none_iff.mpr beyond
    exact ⟨by rw [Flat.subtree, missing], Flat.ancestors_eq_nil beyond⟩

/-- The list is shown twice, and each place has its own ancestors. -/
theorem Graph.flatten_views_twice :
    let item := Value.list [.number "1"]
    let graph := (Interner.empty.intern (.tuple [item, item])).2.graph
    let flat := graph.flatten 40 [⟨2⟩]
    flat.size = 5 ∧ flat.ancestors 4 = [4, 3, 0] ∧
      flat.Lineage 4 [4, 3, 0] ∧
      (∃ record, flat.get? 4 = some record ∧ record ∈ flat.subtree 3) ∧
      flat.recordsFor (.value ⟨1⟩) = [1, 3] ∧
      (∃! target, 3 ∈ flat.recordsFor target) ∧ flat.subtree 5 = [] := by
  intro item graph flat
  have shared : graph = ⟨#[.value (.number "1"), .value (.list [⟨0⟩]),
      .value (.tuple [⟨1⟩, ⟨1⟩])]⟩ := by
    simp only [graph, item]
    cbv
  have count : flat.size = 5 := by
    simp only [flat, shared]
    decide +kernel
  have chain : flat.ancestors 4 = [4, 3, 0] := by
    simp only [flat, shared]
    decide +kernel
  have listed : flat.recordsFor (.value ⟨1⟩) = [1, 3] := by
    rw [Flat.recordsFor_eq]
    simp only [flat, shared]
    decide +kernel
  obtain ⟨-, lineage, below, -, shown, beyond⟩ := graph.flatten_views 40 [⟨2⟩]
  have among : 3 ∈ flat.ancestors 4 ∧ 3 ≠ 4 := by
    rw [chain]
    decide
  refine ⟨count, chain, ?_, (below 4 3).1.mp among, listed,
    (shown 3).mp (by rw [count]; decide), (beyond 5 count.le).1⟩
  rw [← chain]
  exact lineage 4 (by rw [count]; decide)

end TreeQuery
