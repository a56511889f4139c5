import TreeQuery.Flat.Drawing
import TreeQuery.Proofs.Flat.Views

/-!
# Indentation of a drawing

A drawing follows the children that records name, and it has the records in
their order.  What stands before the line of one depends on the records that it
lies in alone: each of them that has a parent gives a bar, unless it is the last
of its siblings, and the record itself a connector.
-/

namespace TreeQuery

namespace Flat

/-- The record is the last child of its parent. -/
def isLastChild (flat : Flat) (id : Nat) : Bool :=
  match (flat.get? id).bind Record.parent with
  | some above =>
      ((flat.get? above).bind fun parent => parent.children.getLast?) == some id
  | none => false

/-- What a record leaves before everything that lies below it. -/
def stem (flat : Flat) (id : Nat) : List Char :=
  if flat.isLastChild id then [' ', ' '] else ['│', ' ']

/-- What connects a record to the one that it lies in. -/
def branch (flat : Flat) (id : Nat) : List Char :=
  if flat.isLastChild id then ['└', '─', ' '] else ['├', '─', ' ']

/-- What stands before the line of a record.  The ancestors are listed from the
record itself to the one at the top level, and those between the two count, from
the top down. -/
def indent (flat : Flat) (record : Record) : List Char :=
  match record.parent with
  | none => []
  | some _ =>
      (flat.ancestors record.id).tail.dropLast.reverse.flatMap flat.stem ++
        flat.branch record.id

/-- What stands before the connectors of all that lies in a record. -/
def inner (flat : Flat) (id : Nat) : List Char :=
  (flat.ancestors id).dropLast.reverse.flatMap flat.stem

/-- The line that shows a record, without the line break behind it. -/
def drawnLine (flat : Flat) (showRoles : Bool) (record : Record) : List Char :=
  flat.indent record ++ record.caption.line showRoles

/-- The lines that show some records. -/
def drawnLines (flat : Flat) (showRoles : Bool) (records : List Record) :
    List Char :=
  records.flatMap fun record => flat.drawnLine showRoles record ++ ['\n']

theorem drawnLines_cons (flat : Flat) (showRoles : Bool) (record : Record)
    (records : List Record) :
    flat.drawnLines showRoles (record :: records) =
      flat.drawnLine showRoles record ++ ['\n'] ++
        flat.drawnLines showRoles records :=
  List.flatMap_cons

theorem drawnLines_append (flat : Flat) (showRoles : Bool)
    (records others : List Record) :
    flat.drawnLines showRoles (records ++ others) =
      flat.drawnLines showRoles records ++ flat.drawnLines showRoles others :=
  List.flatMap_append

section

variable {roots : List Outline} {id above : Nat} {record : Record}

theorem inner_of_root (found : (ofOutlines roots).get? id = some record)
    (topmost : record.parent = none) : (ofOutlines roots).inner id = [] := by
  rw [inner, ancestors_of_root found topmost]
  rfl

theorem indent_of_root (flat : Flat) (topmost : record.parent = none) :
    flat.indent record = [] := by
  rw [indent, topmost]

theorem ancestors_ne_nil (found : (ofOutlines roots).get? id = some record) :
    (ofOutlines roots).ancestors id ≠ [] := by
  intro empty
  have first := (lineage_ancestors found).head?_eq
  rw [empty] at first
  cases first

theorem inner_of_child (child : (ofOutlines roots).ChildOf id above) :
    (ofOutlines roots).inner id =
      (ofOutlines roots).inner above ++ (ofOutlines roots).stem id := by
  obtain ⟨-, parent, -, found, -⟩ := child.exists_above
  rw [inner, ancestors_of_child child,
    List.dropLast_cons_of_ne_nil (ancestors_ne_nil found), List.reverse_cons,
    List.flatMap_append, List.flatMap_singleton, inner]

theorem indent_of_child (found : (ofOutlines roots).get? id = some record)
    (named : record.parent = some above) :
    (ofOutlines roots).indent record =
      (ofOutlines roots).inner above ++ (ofOutlines roots).branch id := by
  rw [indent, named, id_of_get? found,
    ancestors_of_child ⟨record, found, named⟩]
  rfl

/-- Of some siblings that stand at the end of the children, the first is the
last child if it is alone. -/
theorem isLastChild_eq {start : Nat} {parent : Record} {outline : Outline}
    {outlines : List Outline}
    (shows : (ofOutlines roots).Shows (some above) start (outline :: outlines))
    (found : (ofOutlines roots).get? above = some parent)
    (listed : Outline.positions start (outline :: outlines) <:+
      parent.children) :
    (ofOutlines roots).isLastChild start = outlines.isEmpty := by
  obtain ⟨before, split⟩ := listed
  have last : parent.children.getLast? =
      (Outline.positions start (outline :: outlines)).getLast? := by
    rw [← split, Outline.positions, List.getLast?_append_cons]
  rw [isLastChild, shows.get?, Option.bind_some, Outline.first_parent]
  dsimp only
  rw [found, Option.bind_some, last, Outline.positions]
  cases outlines with
  | nil => simp [Outline.positions]
  | cons second others =>
      refine beq_eq_false_iff_ne.mpr fun same => ?_
      rw [Outline.positions, List.getLast?_cons_cons] at same
      have among : start ∈
          Outline.positions (start + outline.size) (second :: others) :=
        List.mem_of_getLast? same
      have further := Outline.le_of_mem_positions among
      have positive := outline.size_pos
      omega

end

section

variable {roots : List Outline} {showRoles : Bool}

mutual

/-- Below a record, connectors and bars are drawn as its ancestors have it.  The
bound is not met, since every level down is at least one place further on. -/
theorem drawWithin_eq (bound above start : Nat) (outline : Outline)
    (outlines : List Outline)
    (shows : (ofOutlines roots).Shows (some above) start (outline :: outlines))
    (enough : (ofOutlines roots).size ≤ start + bound) :
    (ofOutlines roots).drawWithin showRoles bound
        ((ofOutlines roots).inner above) ((ofOutlines roots).isLastChild start)
        (outline.first (some above) start) =
      (ofOutlines roots).drawnLines showRoles
        (outline.records (some above) start) := by
  match outline with
  | .node caption children =>
      have inside : start < (ofOutlines roots).size :=
        (Array.getElem?_eq_some_iff.mp shows.get?).1
      obtain ⟨bound, rfl⟩ : ∃ less, bound = less + 1 :=
        Nat.exists_eq_add_one.mpr (by omega)
      have child : (ofOutlines roots).ChildOf start above :=
        ⟨_, shows.get?, rfl⟩
      have below := drawEach_eq bound start (start + 1) children _ shows.children
        shows.get? (List.suffix_refl _) (by omega)
      have own := indent_of_child shows.get? rfl
      rw [inner_of_child child] at below
      rw [Outline.first] at own ⊢
      rw [drawWithin, Outline.records, drawnLines_cons, ← below, drawnLine, own]
      rfl
termination_by structural outline

theorem drawEach_eq (bound above start : Nat) (outlines : List Outline)
    (parent : Record)
    (shows : (ofOutlines roots).Shows (some above) start outlines)
    (found : (ofOutlines roots).get? above = some parent)
    (listed : Outline.positions start outlines <:+ parent.children)
    (enough : (ofOutlines roots).size ≤ start + bound) :
    (ofOutlines roots).drawEach ((ofOutlines roots).drawWithin showRoles bound
        ((ofOutlines roots).inner above)) (Outline.positions start outlines) =
      (ofOutlines roots).drawnLines showRoles
        (Outline.recordsAll (some above) start outlines) := by
  match outlines with
  | [] => rfl
  | outline :: outlines =>
      have first := drawWithin_eq bound above start outline outlines shows enough
      have later := drawEach_eq bound above (start + outline.size) outlines parent
        shows.tail found ((List.suffix_cons _ _).trans listed) (by omega)
      have last : (Outline.positions (start + outline.size) outlines).isEmpty =
          (ofOutlines roots).isLastChild start := by
        rw [isLastChild_eq shows found listed]
        cases outlines <;> rfl
      rw [Outline.positions, drawEach, shows.get?, last]
      rw [Outline.recordsAll, drawnLines_append, ← first, ← later]
termination_by structural outlines

end

theorem drawRoot_eq (start : Nat) (outline : Outline) (outlines : List Outline)
    (shows : (ofOutlines roots).Shows none start (outline :: outlines)) :
    (ofOutlines roots).drawRoot showRoles (outline.first none start) =
      (ofOutlines roots).drawnLines showRoles (outline.records none start) := by
  cases outline with
  | node caption children =>
      have below := @drawEach_eq _ showRoles (ofOutlines roots).size start
        (start + 1) children _ shows.children shows.get? (List.suffix_refl _)
        (by omega)
      have own := (ofOutlines roots).indent_of_root
        (Outline.first_parent none start (.node caption children))
      rw [inner_of_root shows.get? rfl] at below
      rw [Outline.first] at own ⊢
      rw [drawRoot, Outline.records, drawnLines_cons, ← below, drawnLine, own]
      rfl

theorem flatMap_drawRoot (start : Nat) (outlines : List Outline)
    (shows : (ofOutlines roots).Shows none start outlines) :
    (Outline.heads none start outlines).flatMap
        ((ofOutlines roots).drawRoot showRoles) =
      (ofOutlines roots).drawnLines showRoles
        (Outline.recordsAll none start outlines) := by
  induction outlines generalizing start with
  | nil => rfl
  | cons outline outlines induction =>
      rw [Outline.heads, List.flatMap_cons, Outline.recordsAll,
        drawnLines_append, drawRoot_eq start outline outlines shows,
        induction _ shows.tail]

end

/-- A walk over the children of the records at the top level draws every record,
in the order of their numbers. -/
theorem drawing_ofOutlines (showRoles : Bool) (outlines : List Outline) :
    ((ofOutlines outlines).drawing showRoles).toList =
      (ofOutlines outlines).drawnLines showRoles
        (ofOutlines outlines).records.toList := by
  rw [drawing, String.toList_ofList, roots_ofOutlines]
  exact flatMap_drawRoot 0 outlines (shows_ofOutlines outlines)

end Flat

/-- The drawing has the line of each record once, in the order of their numbers,
and the ancestors of the record tell what stands before it. -/
theorem Graph.drawing_flatten (graph : Graph) (limit : Nat)
    (roots : List ValueId) (showRoles : Bool) :
    let flat := graph.flatten limit roots
    flat.records.toList.map Record.id = List.range flat.size ∧
      (flat.drawing showRoles).toList =
        flat.records.toList.flatMap fun record =>
          flat.indent record ++ record.caption.line showRoles ++ ['\n'] := by
  rw [flatten_eq_ofOutlines]
  exact ⟨Flat.map_id_records _, Flat.drawing_ofOutlines showRoles _⟩

end TreeQuery
