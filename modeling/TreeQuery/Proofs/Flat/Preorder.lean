import Mathlib.Data.List.Forall2
import TreeQuery.Proofs.Flat.Visit
import TreeQuery.Proofs.Graph.Layers

/-!
# Records in pre-order

The records of outlines show their targets in the order of reading, and the
number of a record is its place.  Below a handle of a layered graph, the records
show one occurrence each of the tree that the handle expands to.
-/

namespace TreeQuery

namespace Outline

mutual

/-- What the occurrences of an outline stand for, in the order of reading. -/
def targets : Outline → List Target
  | node caption children => caption.target :: targetsAll children

def targetsAll : List Outline → List Target
  | [] => []
  | outline :: outlines => outline.targets ++ targetsAll outlines

end

mutual

theorem length_targets (outline : Outline) :
    outline.targets.length = outline.size := by
  match outline with
  | node caption children =>
      rw [targets, List.length_cons, length_targetsAll children, size]
termination_by structural outline

theorem length_targetsAll (outlines : List Outline) :
    (targetsAll outlines).length = sizeAll outlines := by
  match outlines with
  | [] => rfl
  | outline :: outlines =>
      rw [targetsAll, List.length_append, length_targets outline,
        length_targetsAll outlines, sizeAll]
termination_by structural outlines

end

end Outline

/-- What a record stands for, and its number. -/
def Record.shown (record : Record) : Target × Nat :=
  (record.caption.target, record.id)

namespace Outline

mutual

/-- The records show the targets with their places from `start` on. -/
theorem map_shown_records (parent : Option Nat) (start : Nat)
    (outline : Outline) :
    (outline.records parent start).map Record.shown =
      outline.targets.zipIdx start := by
  match outline with
  | node caption children =>
      rw [records, targets, List.map_cons, List.zipIdx_cons,
        map_shown_recordsAll (some start) (start + 1) children, Record.shown]
termination_by structural outline

theorem map_shown_recordsAll (parent : Option Nat) (start : Nat)
    (outlines : List Outline) :
    (recordsAll parent start outlines).map Record.shown =
      (targetsAll outlines).zipIdx start := by
  match outlines with
  | [] => rfl
  | outline :: outlines =>
      rw [recordsAll, targetsAll, List.map_append, List.zipIdx_append,
        map_shown_records parent start outline, length_targets,
        map_shown_recordsAll parent (start + outline.size) outlines]
termination_by structural outlines

end

end Outline

namespace Flat

variable {outlines : List Outline}

theorem map_shown_records :
    (ofOutlines outlines).records.toList.map Record.shown =
      (Outline.targetsAll outlines).zipIdx :=
  Outline.map_shown_recordsAll none 0 outlines

theorem get?_eq_getElem? (flat : Flat) (place : Nat) :
    flat.get? place = flat.records.toList[place]? := by
  rw [get?, Array.getElem?_toList]

/-- The number of a record is its place. -/
theorem id_of_get? {place : Nat} {record : Record}
    (found : (ofOutlines outlines).get? place = some record) :
    record.id = place := by
  rw [get?_eq_getElem?] at found
  have there :
      ((ofOutlines outlines).records.toList.map Record.shown)[place]? =
        some record.shown := by
    rw [List.getElem?_map, found, Option.map_some]
  rw [map_shown_records, List.getElem?_zipIdx] at there
  obtain ⟨target, -, shown⟩ := Option.map_eq_some_iff.mp there
  have numbered := congrArg Prod.snd shown
  simp only [Record.shown, Nat.zero_add] at numbered
  exact numbered.symm

/-- A record is found under its own number. -/
theorem get?_id {record : Record}
    (member : record ∈ (ofOutlines outlines).records.toList) :
    (ofOutlines outlines).get? record.id = some record := by
  obtain ⟨place, found⟩ := List.mem_iff_getElem?.mp member
  rw [← get?_eq_getElem?] at found
  rw [id_of_get? found]
  exact found

end Flat

namespace Graph

section

variable {graph : Graph} {target : Target} {occurrence : Occurrence}

theorem Expands.exists_describe? (expands : graph.Expands target occurrence)
    (limit : Nat) :
    ∃ described, graph.describe? limit target = some described := by
  cases expands with
  | value expanded =>
      obtain ⟨node, found, -⟩ := exists_unfolds_of_expand? expanded
      exact ⟨_, by rw [describe?, found, Option.map_some]⟩
  | entry found _ _ => exact ⟨_, by rw [describe?, found, Option.map_some]⟩

/-- Outlines that show the listings of some occurrences show the listings one
after the other. -/
theorem forall₂_targetsAll {parts : List (Target × Role)}
    {occurrences : List Occurrence}
    {outlineOf : Target × Role → Option Outline}
    (each : List.Forall₂
      (fun part occurrence => ∃ outline, outlineOf part = some outline ∧
        List.Forall₂ graph.Expands outline.targets occurrence.listing)
      parts occurrences) :
    List.Forall₂ graph.Expands
      (Outline.targetsAll (parts.filterMap outlineOf))
      (occurrences.flatMap Occurrence.listing) := by
  induction each with
  | nil => exact .nil
  | cons first _ induction =>
      obtain ⟨outline, outlined, shows⟩ := first
      rw [List.filterMap_cons_some outlined, Outline.targetsAll,
        List.flatMap_cons]
      exact List.rel_append shows induction

/-- The outline of a target shows the listing of the occurrence that the target
expands to. -/
theorem Layered.exists_outlineWithin (layered : graph.Layered)
    (limit depth : Nat) (role : Role)
    (expands : graph.Expands target occurrence)
    (below : target.index.toNat < depth) :
    ∃ outline, graph.outlineWithin limit depth (target, role) = some outline ∧
      List.Forall₂ graph.Expands outline.targets occurrence.listing := by
  induction depth generalizing target role occurrence with
  | zero => exact absurd below (Nat.not_lt_zero _)
  | succ depth induction =>
      obtain ⟨described, describes⟩ := expands.exists_describe? limit
      have parts := (List.forall₂_and_left _ _).mpr
        ⟨layered.parts target, List.forall₂_map_left_iff.mp expands.parts⟩
      have each := parts.imp fun part occurrence inside =>
        induction part.2 inside.2
          (inside.1.trans_le (Nat.le_of_lt_succ below))
      refine ⟨_, by rw [outlineWithin, describes, Option.map_some], ?_⟩
      rw [Outline.targets, Occurrence.listing_eq]
      exact .cons expands (forall₂_targetsAll each)

/-- What has an outline is in the graph. -/
theorem resolves_of_outlineWithin {limit depth : Nat} {part : Target × Role}
    {outline : Outline}
    (outlined : graph.outlineWithin limit depth part = some outline) :
    graph.Resolves part.1 := by
  obtain ⟨target, role⟩ := part
  cases depth with
  | zero => cases outlined
  | succ depth =>
      obtain ⟨described, describes, -⟩ := Option.map_eq_some_iff.mp outlined
      cases target with
      | value id =>
          obtain ⟨node, found, -⟩ := Option.map_eq_some_iff.mp describes
          exact ⟨node, found⟩
      | entry id =>
          obtain ⟨stored, found, -⟩ := Option.map_eq_some_iff.mp describes
          exact ⟨stored, found⟩

theorem flatten_singleton {limit : Nat} {root : ValueId} {outline : Outline}
    (outlined : graph.outline? limit (.value root, .root) = some outline) :
    graph.flatten limit [root] = .ofOutlines [outline] := by
  simp only [flatten_eq_ofOutlines, List.filterMap_cons, outlined,
    List.filterMap_nil]

/-- The records of a handle that expands to a tree show the listing of the
tree. -/
theorem Layered.exists_flatten (layered : graph.Layered) (limit : Nat)
    {root : ValueId} {tree : Value} (expands : graph.expand? root = some tree) :
    ∃ outline, graph.flatten limit [root] = .ofOutlines [outline] ∧
      List.Forall₂ graph.Expands (Outline.targetsAll [outline])
        tree.listing := by
  have shown : graph.Expands (.value root) (.value tree) := .value expands
  obtain ⟨outline, outlined, shows⟩ :=
    layered.exists_outlineWithin limit graph.size .root shown shown.index_lt
  refine ⟨outline, flatten_singleton outlined, ?_⟩
  rw [Outline.targetsAll, Outline.targetsAll, List.append_nil]
  exact shows

end

end Graph

end TreeQuery
