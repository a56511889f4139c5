import Mathlib.Data.List.Permutation
import TreeQuery.Graph.Interner
import TreeQuery.Proofs.Flat.Forest

/-!
# Composing flat records

The records of an outline do not depend on what stands before them, but for the
numbers.  In a graph that was built by interning values, neither do the records
below a target depend on where it was met, so they are those of the target when
it is flattened alone.
-/

namespace TreeQuery

namespace Record

/-- The record in an array that has `offset` more records at the front. -/
def shift (offset : Nat) (record : Record) : Record :=
  { record with
    id := record.id + offset
    parent := record.parent.map (· + offset)
    children := record.children.map (· + offset) }

/-- The record of the same target at the top. -/
def detach (record : Record) : Record :=
  { record with
    parent := none
    caption := { record.caption with role := .root } }

theorem shift_shift (record : Record) (offset offset' : Nat) :
    (record.shift offset).shift offset' = record.shift (offset + offset') := by
  simp [shift, Nat.add_assoc, Function.comp_def]

end Record

/-! ## Outlines further on -/

namespace Outline

theorem positions_add (start offset : Nat) (outlines : List Outline) :
    positions (start + offset) outlines =
      (positions start outlines).map (· + offset) := by
  induction outlines generalizing start with
  | nil => rfl
  | cons outline outlines induction =>
      rw [positions, positions, List.map_cons, Nat.add_right_comm, induction]

mutual

theorem records_shift (parent : Option Nat) (start offset : Nat)
    (outline : Outline) :
    outline.records (parent.map (· + offset)) (start + offset) =
      (outline.records parent start).map (Record.shift offset) := by
  match outline with
  | node caption children =>
      have below := recordsAll_shift (some start) (start + 1) offset children
      rw [Option.map_some, Nat.add_right_comm] at below
      rw [records, records, List.map_cons, below, Nat.add_right_comm,
        positions_add, Record.shift]
termination_by structural outline

theorem recordsAll_shift (parent : Option Nat) (start offset : Nat)
    (outlines : List Outline) :
    recordsAll (parent.map (· + offset)) (start + offset) outlines =
      (recordsAll parent start outlines).map (Record.shift offset) := by
  match outlines with
  | [] => rfl
  | outline :: outlines =>
      rw [recordsAll, recordsAll, List.map_append,
        records_shift parent start offset outline, Nat.add_right_comm,
        recordsAll_shift parent (start + outline.size) offset outlines]
termination_by structural outlines

end

theorem recordsAll_append (parent : Option Nat) (start : Nat)
    (outlines others : List Outline) :
    recordsAll parent start (outlines ++ others) =
      recordsAll parent start outlines ++
        recordsAll parent (start + sizeAll outlines) others := by
  induction outlines generalizing start with
  | nil => rfl
  | cons outline outlines induction =>
      rw [List.cons_append, recordsAll, recordsAll, induction, sizeAll,
        List.append_assoc, Nat.add_assoc]

end Outline

namespace Flat

/-- The records of several lists of outlines, one after the other. -/
theorem records_append (outlines others : List Outline) :
    (ofOutlines (outlines ++ others)).records.toList =
      (ofOutlines outlines).records.toList ++
        (ofOutlines others).records.toList.map
          (Record.shift (ofOutlines outlines).size) := by
  have later := Outline.recordsAll_shift none 0 (Outline.sizeAll outlines) others
  rw [size_ofOutlines]
  simp only [ofOutlines, Outline.recordsAll_append, ← later, Option.map_none]

theorem Heads.detach_eq {flat : Flat} {record : Record}
    {children : List Outline} (heads : flat.Heads record children) :
    record.detach =
      ((Outline.node { record.caption with role := .root } children).first
        none 0).shift record.id := by
  have further := Outline.positions_add 1 record.id children
  rw [Nat.add_comm 1, ← heads.children_eq] at further
  rw [Outline.first, Record.shift, Record.detach, heads.range_eq, Nat.zero_add,
    Nat.zero_add, ← further, Option.map_none]

end Flat

theorem Graph.records_flatten_append (graph : Graph) (limit : Nat)
    (roots others : List ValueId) :
    (graph.flatten limit (roots ++ others)).records.toList =
      (graph.flatten limit roots).records.toList ++
        (graph.flatten limit others).records.toList.map
          (Record.shift (graph.flatten limit roots).size) := by
  simp only [flatten_eq_ofOutlines, List.filterMap_append]
  exact Flat.records_append _ _

/-! ## Targets met in several places -/

namespace Graph

variable {graph : Graph} {limit depth depth' : Nat}

/-- In a layered graph, an outline is not cut off below the slots up to that of
its target. -/
theorem Layered.outlineWithin_eq (layered : graph.Layered)
    {part : Target × Role} (below : part.1.index.toNat < depth)
    (below' : part.1.index.toNat < depth') :
    graph.outlineWithin limit depth part =
      graph.outlineWithin limit depth' part := by
  induction depth generalizing depth' part with
  | zero => exact absurd below (Nat.not_lt_zero _)
  | succ depth induction =>
      obtain ⟨depth', rfl⟩ := Nat.exists_eq_succ_of_ne_zero
        (Nat.ne_zero_of_lt below')
      -- The parts lie before their target, so both depths are left for them.
      have children :
          (graph.parts part.1).filterMap (graph.outlineWithin limit depth) =
            (graph.parts part.1).filterMap (graph.outlineWithin limit depth') := by
        refine List.filterMap_congr fun child member => ?_
        have earlier := layered.parts part.1 child member
        exact induction (by omega) (by omega)
      rw [outlineWithin, outlineWithin, children]

/-- What resolves is outlined by its own caption. -/
theorem map_caption_outlineWithin {part : Target × Role}
    (resolves : graph.Resolves part.1) (positive : 0 < depth) :
    (graph.outlineWithin limit depth part).map (fun outline =>
        (outline.caption.target, outline.caption.role)) = some part := by
  obtain ⟨target, role⟩ := part
  obtain ⟨depth, rfl⟩ := Nat.exists_eq_succ_of_ne_zero positive.ne_zero
  cases target with
  | value id =>
      obtain ⟨node, found⟩ := resolves
      simp [outlineWithin, describe?, found, Outline.caption]
  | entry id =>
      obtain ⟨stored, found⟩ := resolves
      simp [outlineWithin, describe?, found, Outline.caption]

/-- The outline is that of its own target. -/
def Outlines (graph : Graph) (limit : Nat) (outline : Outline) : Prop :=
  graph.outlineWithin limit (outline.caption.target.index.toNat + 1)
    (outline.caption.target, outline.caption.role) = some outline

theorem Layered.outlines (layered : graph.Layered) {part : Target × Role}
    {outline : Outline} (below : part.1.index.toNat < depth)
    (outlined : graph.outlineWithin limit depth part = some outline) :
    graph.Outlines limit outline := by
  rw [layered.outlineWithin_eq below (Nat.lt_succ_self _)] at outlined
  obtain ⟨described, -, rfl⟩ := Option.map_eq_some_iff.mp outlined
  exact outlined

theorem Layered.outlines_children (layered : graph.Layered)
    (caption : Caption) (children : List Outline)
    (outlined : graph.Outlines limit (.node caption children)) :
    ∀ child ∈ children, graph.Outlines limit child := by
  intro child member
  obtain ⟨described, -, shape⟩ := Option.map_eq_some_iff.mp outlined
  obtain ⟨-, below⟩ := Outline.node.inj shape
  rw [← below] at member
  obtain ⟨part, isPart, outlined⟩ := List.mem_filterMap.mp member
  exact layered.outlines (layered.parts _ part isPart) outlined

/-- The children of an outline are those of the parts of its target, and none is
left out. -/
theorem Layered.outlines_parts (layered : graph.Layered)
    {caption : Caption} {children : List Outline}
    (outlined : graph.Outlines limit (.node caption children)) :
    children.map (fun child => (child.caption.target, child.caption.role)) =
      graph.parts caption.target := by
  obtain ⟨described, -, shape⟩ := Option.map_eq_some_iff.mp outlined
  obtain ⟨-, below⟩ := Outline.node.inj shape
  rw [← below, List.map_filterMap]
  have each : ∀ part ∈ graph.parts caption.target,
      (graph.outlineWithin limit caption.target.index.toNat part).map
        (fun child => (child.caption.target, child.caption.role)) =
          some part := by
    intro part member
    obtain ⟨before, resolves⟩ := layered.parts_resolve _ part member
    exact map_caption_outlineWithin resolves (Nat.zero_lt_of_lt before)
  exact (List.filterMap_congr each).trans List.filterMap_some

/-- The role is only shown by the first caption. -/
theorem Outlines.detach {caption : Caption} {children : List Outline}
    (outlined : graph.Outlines limit (.node caption children)) :
    graph.Outlines limit (.node { caption with role := .root } children) := by
  obtain ⟨described, describes, shape⟩ := Option.map_eq_some_iff.mp outlined
  obtain ⟨shown, below⟩ := Outline.node.inj shape
  refine Option.map_eq_some_iff.mpr ⟨described, describes, ?_⟩
  rw [← shown, ← below]
  rfl

theorem Layered.exists_outlined (layered : graph.Layered)
    {roots : List ValueId} {place : Nat} {record : Record}
    (found : (graph.flatten limit roots).get? place = some record) :
    ∃ children, graph.Outlines limit (.node record.caption children) ∧
      (graph.flatten limit roots).Heads record children := by
  have outlined : ∀ outline ∈ roots.filterMap fun root =>
      graph.outline? limit (.value root, .root), graph.Outlines limit outline := by
    intro outline member
    obtain ⟨root, -, outlined⟩ := List.mem_filterMap.mp member
    have resolves := resolves_of_outlineWithin outlined
    exact layered.outlines resolves.index_lt outlined
  rw [flatten_eq_ofOutlines] at found ⊢
  exact Flat.exists_good_heads (graph.Outlines limit) layered.outlines_children
    outlined found

/-- The children of a record show the parts of its target, in order. -/
theorem Layered.map_children (layered : graph.Layered) {roots : List ValueId}
    {place : Nat} {record : Record}
    (found : (graph.flatten limit roots).get? place = some record) :
    record.children.map (fun id =>
        ((graph.flatten limit roots).get? id).map fun child =>
          (child.caption.target, child.caption.role)) =
      (graph.parts record.caption.target).map some := by
  obtain ⟨children, outlined, heads⟩ := layered.exists_outlined found
  have shown := heads.shows.map_positions fun caption =>
    (caption.target, caption.role)
  rw [heads.children_eq, shown, ← layered.outlines_parts outlined, List.map_map]
  rfl

/-- The records of a target and all below it are those of the outline of the
target, further on. -/
theorem Layered.exists_alone (layered : graph.Layered) {roots : List ValueId}
    {place : Nat} {record : Record}
    (found : (graph.flatten limit roots).get? place = some record) :
    ∃ outline,
      graph.outlineWithin limit (record.caption.target.index.toNat + 1)
        (record.caption.target, .root) = some outline ∧
      record.detach :: (graph.flatten limit roots).subtree place =
        (outline.records none 0).map (Record.shift place) := by
  obtain ⟨children, outlined, heads⟩ := layered.exists_outlined found
  rw [flatten_eq_ofOutlines] at found heads ⊢
  obtain rfl := Flat.id_of_get? found
  refine ⟨_, outlined.detach, ?_⟩
  have below := Outline.recordsAll_shift (some 0) 1 record.id children
  rw [Option.map_some, Nat.zero_add, Nat.add_comm 1] at below
  rw [heads.subtree_eq found, heads.detach_eq, below, Outline.first,
    Outline.records, List.map_cons]

end Graph

namespace Interner

/-- The records of several lists of handles are those of each list, one after
the other.  The records of a handle and all below it are those of the handle
when it is flattened alone, and targets that are the same have the same records
wherever they are met.  The children of a record are the parts of its target. -/
theorem Reached.flatten_composes {interner : Interner}
    (reached : Reached interner) (limit : Nat) :
    let graph := interner.graph
    (∀ roots others,
      (graph.flatten limit (roots ++ others)).records.toList =
        (graph.flatten limit roots).records.toList ++
          (graph.flatten limit others).records.toList.map
            (Record.shift (graph.flatten limit roots).size)) ∧
    (∀ roots place record id,
      (graph.flatten limit roots).get? place = some record →
      record.caption.target = .value id →
      record.detach :: (graph.flatten limit roots).subtree place =
        (graph.flatten limit [id]).records.toList.map (Record.shift place)) ∧
    (∀ roots place record roots' place' record',
      (graph.flatten limit roots).get? place = some record →
      (graph.flatten limit roots').get? place' = some record' →
      record.caption.target = record'.caption.target →
      (record.detach :: (graph.flatten limit roots).subtree place).map
          (Record.shift place') =
        (record'.detach :: (graph.flatten limit roots').subtree place').map
          (Record.shift place)) ∧
    (∀ roots place record,
      (graph.flatten limit roots).get? place = some record →
      record.children.map (fun id =>
          ((graph.flatten limit roots).get? id).map fun child =>
            (child.caption.target, child.caption.role)) =
        (graph.parts record.caption.target).map some) := by
  intro graph
  have layered := reached.layered
  refine ⟨graph.records_flatten_append limit, ?_, ?_,
    fun _ _ _ => layered.map_children⟩
  · intro roots place record id found target
    obtain ⟨outline, outlined, alone⟩ := layered.exists_alone found
    rw [target] at outlined
    have resolves := Graph.resolves_of_outlineWithin outlined
    rw [layered.outlineWithin_eq (Nat.lt_succ_self _) resolves.index_lt]
      at outlined
    rw [alone, Graph.flatten_singleton outlined, Flat.ofOutlines,
      List.toList_toArray, Outline.recordsAll, Outline.recordsAll,
      List.append_nil]
  · intro roots place record roots' place' record' found found' same
    obtain ⟨outline, outlined, alone⟩ := layered.exists_alone found
    obtain ⟨outline', outlined', alone'⟩ := layered.exists_alone found'
    rw [← same] at outlined'
    obtain rfl := Option.some.inj (outlined.symm.trans outlined')
    rw [alone, alone', List.map_map, List.map_map]
    refine List.map_congr_left fun record _ => ?_
    simp only [Function.comp_def, Record.shift_shift, Nat.add_comm]

/-- The list is stored once and met twice. -/
theorem Reached.flatten_composes_twice :
    let item := Value.list [.number "1"]
    let interner := (Interner.empty.intern (.tuple [item, item])).2
    let flat := interner.graph.flatten 40 [⟨2⟩]
    let alone := interner.graph.flatten 40 [⟨1⟩]
    Reached interner ∧
    (interner.graph.flatten 40 [⟨2⟩, ⟨1⟩]).records.toList =
      flat.records.toList ++ alone.records.toList.map (Record.shift flat.size) ∧
    ∃ record record',
      flat.get? 1 = some record ∧ flat.get? 3 = some record' ∧
      record.caption.target = .value ⟨1⟩ ∧
      record'.caption.target = .value ⟨1⟩ ∧
      record.detach :: flat.subtree 1 =
        alone.records.toList.map (Record.shift 1) ∧
      (record.detach :: flat.subtree 1).map (Record.shift 3) =
        (record'.detach :: flat.subtree 3).map (Record.shift 1) ∧
      record.children.map (fun id => (flat.get? id).map fun child =>
          (child.caption.target, child.caption.role)) =
        [some (.value ⟨0⟩, .index 0)] := by
  intro item interner flat alone
  have reached : Reached interner := .intern _ .empty
  obtain ⟨append, whole, same, parts⟩ := reached.flatten_composes 40
  have shared : interner.graph = ⟨#[.value (.number "1"), .value (.list [⟨0⟩]),
      .value (.tuple [⟨1⟩, ⟨1⟩])]⟩ := by
    simp only [interner, item]
    cbv
  have first : (flat.get? 1).map (fun record => record.caption.target) =
      some (.value ⟨1⟩) := by
    simp only [flat, shared]
    decide +kernel
  have second : (flat.get? 3).map (fun record => record.caption.target) =
      some (.value ⟨1⟩) := by
    simp only [flat, shared]
    decide +kernel
  obtain ⟨record, found, target⟩ := Option.map_eq_some_iff.mp first
  obtain ⟨record', found', target'⟩ := Option.map_eq_some_iff.mp second
  have below := parts [⟨2⟩] 1 record found
  have part : interner.graph.parts (.value ⟨1⟩) =
      [(.value ⟨0⟩, .index 0)] := by
    rw [shared]
    rfl
  rw [target, part] at below
  exact ⟨reached, append [⟨2⟩] [⟨1⟩], record, record', found, found', target,
    target', whole [⟨2⟩] 1 record ⟨1⟩ found target,
    same [⟨2⟩] 1 record [⟨2⟩] 3 record' found found' (target.trans target'.symm),
    below⟩

end Interner

end TreeQuery
