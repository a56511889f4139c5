import TreeQuery.Flat

/-!
# Visiting targets

The array of records is filled while targets are visited.  A visit appends the
record of its target before it goes on to the parts, so the record learns which
children it has, and how many records lie below it, when all parts are done.
-/

namespace TreeQuery

namespace Graph

/-- Append the record of a target and, behind it, those of all that lies in it,
at most `depth` levels down.  The result is the number of the record; what is not
in the graph has none. -/
def visit (graph : Graph) (limit : Nat) :
    (depth : Nat) → (parent : Option Nat) → Target × Role →
      StateM (Array Record) (Option Nat)
  | 0, _, _ => return none
  | depth + 1, parent, (target, role) => do
      match graph.describe? limit target with
      | none => return none
      | some (kind, name) =>
          let id := (← get).size
          modify fun records => records.push
            { id
              parent
              caption := { target, kind, name, role }
              children := []
              range := 0 }
          let children ←
            (graph.parts target).filterMapM (graph.visit limit depth (some id))
          modify fun records => records.modify id fun record =>
            { record with children, range := records.size - id - 1 }
          return some id

/-- Flatten several values one after the other.  Labels are cut to `limit`
characters, and handles without a value are left out. -/
def flatten (graph : Graph) (limit : Nat) (roots : List ValueId) : Flat :=
  let visits := (roots.map fun root => (Target.value root, Role.root)).filterMapM
    (graph.visit limit graph.size none)
  ⟨(visits.run #[]).2⟩

end Graph

end TreeQuery
