import Mathlib.Data.List.Basic
import TreeQuery.Flat.Visit

/-!
# Records left by visits

A visit appends the records of the outline of its target and changes nothing
before them.  So the array that is filled target by target is the array of the
records of their outlines.
-/

namespace TreeQuery

private theorem run_bind_of_run {σ α β : Type} {first : StateM σ α}
    {next : α → StateM σ β} {state state' : σ} {found : α}
    (ran : first.run state = (found, state')) :
    (first >>= next).run state = (next found).run state' := by
  rw [StateT.run_bind, ran]
  rfl

namespace Outline

mutual

theorem length_records (parent : Option Nat) (start : Nat)
    (outline : Outline) :
    (outline.records parent start).length = outline.size := by
  match outline with
  | node caption children =>
      rw [records, List.length_cons,
        length_recordsAll (some start) (start + 1) children, size]
termination_by structural outline

theorem length_recordsAll (parent : Option Nat) (start : Nat)
    (outlines : List Outline) :
    (recordsAll parent start outlines).length = sizeAll outlines := by
  match outlines with
  | [] => rfl
  | outline :: outlines =>
      rw [recordsAll, List.length_append, length_records parent start outline,
        length_recordsAll parent (start + outline.size) outlines, sizeAll]
termination_by structural outlines

end

theorem size_append_records (records : Array Record) (parent : Option Nat)
    (start : Nat) (outline : Outline) :
    (records ++ (outline.records parent start).toArray).size =
      records.size + outline.size := by
  rw [Array.size_append, ← length_records parent start outline]
  rfl

end Outline

namespace Graph

/-- A visit leaves the records of an outline behind those that were there, and
tells the number of the first one.  Without an outline it changes nothing. -/
def Leaves (visit : StateM (Array Record) (Option Nat)) (parent : Option Nat) :
    Option Outline → Prop
  | none => ∀ records : Array Record, visit.run records = (none, records)
  | some outline => ∀ records : Array Record, visit.run records =
      (some records.size,
        records ++ (outline.records parent records.size).toArray)

variable {graph : Graph} {limit : Nat} {parent : Option Nat}

/-- Visits that each leave an outline leave all the outlines, one after the
other. -/
theorem filterMapM_leaves
    {visit : Target × Role → StateM (Array Record) (Option Nat)}
    {outlineOf : Target × Role → Option Outline}
    (leaves : ∀ part, Leaves (visit part) parent (outlineOf part))
    (parts : List (Target × Role)) (records : Array Record) :
    (parts.filterMapM visit).run records =
      (Outline.positions records.size (parts.filterMap outlineOf),
        records ++ (Outline.recordsAll parent records.size
          (parts.filterMap outlineOf)).toArray) := by
  induction parts generalizing records with
  | nil =>
      rw [List.filterMapM_nil, List.filterMap_nil, Outline.positions,
        Outline.recordsAll, Array.append_empty]
      rfl
  | cons part parts induction =>
      have first := leaves part
      rw [List.filterMapM_cons]
      cases outlined : outlineOf part with
      | none =>
          rw [outlined] at first
          rw [run_bind_of_run (first records), List.filterMap_cons_none outlined]
          exact induction records
      | some outline =>
          rw [outlined] at first
          have others :=
            induction (records ++ (outline.records parent records.size).toArray)
          rw [outline.size_append_records] at others
          rw [run_bind_of_run (first records), run_bind_of_run others,
            List.filterMap_cons_some outlined, Outline.positions,
            Outline.recordsAll, ← List.append_toArray, ← Array.append_assoc]
          rfl

/-- What is pushed before all that is appended is still found, and changed, at
its place. -/
private theorem modify_push_append (records : Array Record) (record : Record)
    (below : List Record) (change : Record → Record) :
    (records.push record ++ below.toArray).modify records.size change =
      records ++ (change record :: below).toArray := by
  apply Array.toList_inj.mp
  rw [Array.toList_modify, List.modify_eq_take_drop]
  simp

/-- A visit leaves the outline of its target. -/
theorem visit_leaves (depth : Nat) (parent : Option Nat) (part : Target × Role) :
    Leaves (graph.visit limit depth parent part) parent
      (graph.outlineWithin limit depth part) := by
  induction depth generalizing parent part with
  | zero =>
      intro records
      rfl
  | succ depth induction =>
      obtain ⟨target, role⟩ := part
      rw [visit, outlineWithin]
      cases described : graph.describe? limit target with
      | none =>
          intro records
          rfl
      | some found =>
          obtain ⟨kind, name⟩ := found
          intro records
          let first : Record :=
            { id := records.size
              parent
              caption := { target, kind, name, role }
              children := []
              range := 0 }
          let children :=
            (graph.parts target).filterMap (graph.outlineWithin limit depth)
          have got : (get : StateM (Array Record) (Array Record)).run records =
              (records, records) := rfl
          have pushed : (modify fun records => records.push first :
              StateM (Array Record) PUnit).run records =
                (⟨⟩, records.push first) := rfl
          have below := filterMapM_leaves (induction (some records.size))
            (graph.parts target) (records.push first)
          rw [Array.size_push] at below
          have range : (records.push first ++ (Outline.recordsAll
              (some records.size) (records.size + 1) children).toArray).size -
                records.size - 1 = Outline.sizeAll children := by
            simp only [Array.size_append, Array.size_push, List.size_toArray,
              Outline.length_recordsAll]
            omega
          rw [run_bind_of_run got, run_bind_of_run pushed, run_bind_of_run below]
          show (some records.size, Array.modify _ records.size _) = _
          rw [modify_push_append, range, Outline.records]

/-- The records of several values are those of their outlines. -/
theorem flatten_eq_ofOutlines (graph : Graph) (limit : Nat)
    (roots : List ValueId) :
    graph.flatten limit roots = .ofOutlines (roots.filterMap fun root =>
      graph.outline? limit (.value root, .root)) := by
  have left := filterMapM_leaves (@visit_leaves graph limit graph.size none)
    (roots.map fun root => (.value root, .root)) #[]
  rw [List.filterMap_map] at left
  rw [flatten, left, Array.empty_append]
  rfl

end Graph

end TreeQuery
