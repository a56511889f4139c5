import Mathlib.Algebra.Order.BigOperators.Group.List
import TreeQuery.Proofs.Flat.Indentation
import TreeQuery.Proofs.Graph.RoundTrip

/-!
# Lines of a drawing

A drawing is made of one piece for each record: connectors, the caption of the
record and a line break.  The connectors and the roles hold no line break, and
of the labels only those of strings and nodes may hold some.  So the lines of a
drawing are the records exactly when no label holds a line break.
-/

namespace TreeQuery

/-! ## Where line breaks can be -/

/-- The characters that connectors are made of. -/
def isConnector (char : Char) : Bool :=
  char == '│' || char == '├' || char == '└' || char == '─' || char == ' '

namespace Flat

theorem stem_isConnector (flat : Flat) (id : Nat) :
    ∀ char ∈ flat.stem id, isConnector char = true := by
  rw [stem]
  split <;> simp [isConnector]

theorem branch_isConnector (flat : Flat) (id : Nat) :
    ∀ char ∈ flat.branch id, isConnector char = true := by
  rw [branch]
  split <;> simp [isConnector]

theorem indent_isConnector (flat : Flat) (record : Record) :
    ∀ char ∈ flat.indent record, isConnector char = true := by
  rw [indent]
  cases record.parent with
  | none => exact List.forall_mem_nil _
  | some above =>
      refine List.forall_mem_append.mpr ⟨?_, flat.branch_isConnector _⟩
      exact List.forall_mem_flatMap.mpr fun id _ => flat.stem_isConnector id

end Flat

private theorem not_mem_of_class {property : Char → Bool} {chars : List Char}
    {char : Char} (all : ∀ char ∈ chars, property char = true)
    (outside : property char = false) : char ∉ chars := by
  intro member
  rw [all char member] at outside
  cases outside

namespace Token

theorem IsIdentifier.unbroken {chars : List Char}
    (isIdentifier : IsIdentifier chars) : '\n' ∉ chars := by
  obtain ⟨⟨first, others, rfl, isStart, isRest⟩, -⟩ := isIdentifier
  refine not_mem_of_class (List.forall_mem_cons.mpr ⟨?_, isRest⟩) (by decide)
  exact isNameRest_of_isNameStart isStart

theorem IsDigits.unbroken {chars : List Char} (isDigits : IsDigits chars) :
    '\n' ∉ chars :=
  not_mem_of_class isDigits.2 (by decide)

theorem IsSign.unbroken {chars : List Char} (isSign : IsSign chars) :
    '\n' ∉ chars := by
  rcases isSign with rfl | rfl <;> decide

theorem IsExponent.unbroken {chars : List Char} (isExponent : IsExponent chars) :
    '\n' ∉ chars := by
  obtain ⟨mark, sign, digits, rfl, isMark, isSign, isDigits⟩ := isExponent
  simp only [List.mem_cons, List.mem_append, not_or]
  refine ⟨?_, isSign.unbroken, isDigits.unbroken⟩
  rcases isMark with rfl | rfl <;> decide

theorem IsNumber.unbroken {chars : List Char} (isNumber : IsNumber chars) :
    '\n' ∉ chars := by
  obtain ⟨sign, _, rfl, isSign, whole, fraction, rfl, isWhole, ends⟩ := isNumber
  simp only [List.mem_append, not_or]
  refine ⟨isSign.unbroken, isWhole.unbroken, ?_⟩
  rcases ends with rfl | ⟨digits, exponent, rfl, isDigits, ends⟩
  · exact List.not_mem_nil
  · simp only [List.mem_cons, List.mem_append, not_or]
    refine ⟨by decide, isDigits.unbroken, ?_⟩
    rcases ends with rfl | isExponent
    · exact List.not_mem_nil
    · exact isExponent.unbroken

theorem IsUri.unbroken {chars : List Char} (isUri : IsUri chars) :
    '\n' ∉ chars :=
  not_mem_of_class isUri.2 (by decide)

end Token

private theorem toDigits_unbroken (n : Nat) : '\n' ∉ Nat.toDigits 10 n :=
  (writtenNat_isDigits n).unbroken

theorem Location.WellFormed.unbroken {place : Location}
    (wellFormed : place.WellFormed) : '\n' ∉ place.written := by
  have uri := wellFormed.uri.unbroken
  rw [written]
  cases place.span with
  | none => simp [uri]
  | some span => simp [uri, SourceSpan.written, writtenNat, toDigits_unbroken]

private theorem not_mem_shorten {text : String} {char : Char} (limit : Nat)
    (absent : char ∉ text.toList) (notDot : char ≠ '.') :
    char ∉ (shorten text limit).toList := by
  rw [shorten]
  split
  · have cut : char ∉ text.toList.take limit := fun member =>
      absent (List.mem_of_mem_take member)
    simp [cut, notDot]
  · exact absent

/-- The role shows no line break, and the label shows one only if it is that of a
string or of a node. -/
structure Caption.Tidy (caption : Caption) : Prop where
  role : '\n' ∉ caption.role.lead.toList
  name : '\n' ∈ caption.name.toList →
    caption.kind = .string ∨ caption.kind = .node

private theorem countLabel_unbroken {word : String} (unbroken : '\n' ∉ word.toList)
    (count : Nat) : '\n' ∉ (countLabel word count).toList := by
  simp [countLabel, unbroken, toDigits_unbroken]

namespace Node

variable {graph : Graph} {unfolds : ValueId → Value → Prop} {node : Node}
  {value : Value}

theorem describe_unbroken (shape : graph.Unfolds unfolds node value)
    (wellFormed : value.WellFormed) (limit : Nat) :
    '\n' ∈ (node.describe limit).2.toList →
      (node.describe limit).1 = .string ∨ (node.describe limit).1 = .node := by
  intro broken
  cases shape with
  | map | list | set | tuple =>
      simp only [describe] at broken
      exact absurd broken (countLabel_unbroken (by decide) _)
  | @constr kind name =>
      cases kind with
      | identifier =>
          have isIdentifier : Token.IsIdentifier name.toList := wellFormed.1 rfl
          simp only [describe] at broken
          exact absurd broken
            (not_mem_shorten limit isIdentifier.unbroken (by decide))
      | node => exact .inr rfl
  | string => exact .inl rfl
  | number digits =>
      have isNumber : Token.IsNumber digits.toList := wellFormed
      simp only [describe] at broken
      exact absurd broken (not_mem_shorten limit isNumber.unbroken (by decide))
  | boolean truth => cases truth <;> simp [describe] at broken
  | location place =>
      have fits : place.WellFormed := wellFormed
      have written : '\n' ∉ place.text.toList := by
        rw [Location.text, String.toList_ofList]
        exact fits.unbroken
      simp only [describe] at broken
      exact absurd broken (not_mem_shorten limit written (by decide))

theorem index_unbroken (position : Nat) :
    '\n' ∉ (Role.index position).lead.toList := by
  simp [Role.lead, toDigits_unbroken]

theorem mapIdx_unbroken {α : Type} (target : α → Target) (items : List α) :
    ∀ part ∈ items.mapIdx fun position item => (target item, Role.index position),
      '\n' ∉ part.2.lead.toList := by
  intro part member
  obtain ⟨position, _, rfl⟩ := List.mem_mapIdx.mp member
  exact index_unbroken position

theorem fields_unbroken {ids : List (String × ValueId)}
    {fields : List (String × Value)}
    (all : List.Forall₂ (Graph.UnfoldsField unfolds) ids fields)
    (wellFormed : Value.WellFormedFields fields) :
    ∀ part ∈ ids.map fun (name, id) => (Target.value id, Role.field name),
      '\n' ∉ part.2.lead.toList := by
  induction all with
  | nil => exact List.forall_mem_nil _
  | @cons id field _ _ first _ induction =>
      obtain ⟨name, child⟩ := field
      obtain ⟨isIdentifier, -, others⟩ := wellFormed
      refine List.forall_mem_cons.mpr ⟨?_, induction others⟩
      have sameName : id.1 = name := first.1
      simp [Role.lead, sameName, isIdentifier.unbroken]

theorem parts_unbroken (shape : graph.Unfolds unfolds node value)
    (wellFormed : value.WellFormed) :
    ∀ part ∈ node.parts, '\n' ∉ part.2.lead.toList := by
  cases shape with
  | map | list | set | tuple => exact mapIdx_unbroken _ _
  | constr _ fields =>
      exact List.forall_mem_append.mpr
        ⟨mapIdx_unbroken _ _, fields_unbroken fields wellFormed.2.2⟩
  | string | number | boolean | location => exact List.forall_mem_nil _

end Node

namespace Interner

variable {interner : Interner} (legible : interner.Legible)

include legible

theorem Legible.exists_wellFormed {id : ValueId} {node : Node}
    (found : interner.graph.value? id = some node) :
    ∃ value, Value.WellFormed value ∧
      interner.graph.Unfolds
        (interner.graph.ExpandsWithin id.index.toNat) node value :=
  legible.slot id.index _ (Graph.value?_eq_some_iff.mp found)

theorem Legible.describe_unbroken {limit : Nat} {target : Target}
    {kind : NodeKind} {name : String}
    (described : interner.graph.describe? limit target = some (kind, name)) :
    '\n' ∈ name.toList → kind = .string ∨ kind = .node := by
  cases target with
  | value id =>
      obtain ⟨node, found, same⟩ := Option.map_eq_some_iff.mp described
      obtain ⟨value, wellFormed, shape⟩ := legible.exists_wellFormed found
      have unbroken := Node.describe_unbroken shape wellFormed limit
      rwa [same] at unbroken
  | entry id =>
      obtain ⟨stored, -, same⟩ := Option.map_eq_some_iff.mp described
      cases same
      decide

theorem Legible.parts_unbroken (target : Target) :
    ∀ part ∈ interner.graph.parts target, '\n' ∉ part.2.lead.toList := by
  cases target with
  | value id =>
      rw [Graph.parts]
      cases found : interner.graph.value? id with
      | none => exact List.forall_mem_nil _
      | some node =>
          obtain ⟨value, wellFormed, shape⟩ := legible.exists_wellFormed found
          exact Node.parts_unbroken shape wellFormed
  | entry id =>
      rw [Graph.parts]
      cases interner.graph.entry? id with
      | none => exact List.forall_mem_nil _
      | some stored => simp [Role.lead]

theorem Legible.records_tidy {limit depth : Nat} {part : Target × Role}
    {outline : Outline}
    (outlined : interner.graph.outlineWithin limit depth part = some outline)
    (unbroken : '\n' ∉ part.2.lead.toList) (parent : Option Nat)
    (start : Nat) :
    ∀ record ∈ outline.records parent start, record.caption.Tidy := by
  induction depth generalizing part outline parent start with
  | zero => cases outlined
  | succ depth induction =>
      obtain ⟨target, role⟩ := part
      obtain ⟨⟨kind, name⟩, described, rfl⟩ := Option.map_eq_some_iff.mp outlined
      rw [Outline.records]
      refine List.forall_mem_cons.mpr
        ⟨⟨unbroken, legible.describe_unbroken described⟩, ?_⟩
      intro record member
      obtain ⟨child, among, place, inside⟩ :=
        Outline.exists_of_mem_recordsAll member
      obtain ⟨part, named, outlined⟩ := List.mem_filterMap.mp among
      exact induction outlined (legible.parts_unbroken target part named)
        (some start) place record inside

/-- The records of handles show tidy captions when every slot is legible. -/
theorem Legible.tidy_flatten (limit : Nat) (roots : List ValueId) :
    ∀ record ∈ (interner.graph.flatten limit roots).records.toList,
      record.caption.Tidy := by
  rw [Graph.flatten_eq_ofOutlines]
  intro record member
  obtain ⟨outline, listed, place, inside⟩ :=
    Outline.exists_of_mem_recordsAll member
  obtain ⟨root, -, outlined⟩ := List.mem_filterMap.mp listed
  have unbroken : '\n' ∉ Role.root.lead.toList := by decide
  exact legible.records_tidy outlined unbroken none place record inside

end Interner

/-! ## Lines of records -/

/-- Behind each line there is one line break, besides those that it holds. -/
private theorem count_flatMap_lines {α : Type} (lineOf : α → List Char)
    (items : List α) :
    (items.flatMap fun item => lineOf item ++ ['\n']).count '\n' =
      items.length + (items.map fun item => (lineOf item).count '\n').sum := by
  induction items with
  | nil => rfl
  | cons item items induction =>
      simp only [List.flatMap_cons, List.count_append, induction,
        List.count_singleton_self, List.length_cons, List.map_cons,
        List.sum_cons]
      omega

/-- Lines that each end with a line break and hold no other are found again. -/
private theorem splitOn_lines {α : Type} {lineOf : α → List Char} {items : List α}
    (unbroken : ∀ item ∈ items, '\n' ∉ lineOf item) :
    (items.flatMap fun item => lineOf item ++ ['\n']).splitOn '\n' =
      items.map lineOf ++ [[]] := by
  have joined : (items.flatMap fun item => lineOf item ++ ['\n']) =
      ['\n'].intercalate (items.map lineOf ++ [[]]) := by
    clear unbroken
    induction items with
    | nil => rfl
    | cons item items induction =>
        rw [List.flatMap_cons, induction, List.map_cons, List.cons_append,
          List.intercalate_cons_of_ne_nil (by simp)]
  rw [joined]
  refine List.splitOn_intercalate '\n' ?_ (by simp)
  intro line member
  rcases List.mem_append.mp member with among | last
  · obtain ⟨item, inside, rfl⟩ := List.mem_map.mp among
    exact unbroken item inside
  · obtain rfl := List.mem_singleton.mp last
    exact List.not_mem_nil

namespace Flat

variable {flat : Flat} {showRoles : Bool}

/-- A line holds as many line breaks as its label does. -/
theorem count_drawnLine {record : Record} (tidy : record.caption.Tidy) :
    (flat.drawnLine showRoles record).count '\n' =
      record.caption.name.toList.count '\n' := by
  have lead : (flat.indent record).count '\n' = 0 :=
    List.count_eq_zero.mpr
      (not_mem_of_class (flat.indent_isConnector record) (by decide))
  have role : record.caption.role.lead.toList.count '\n' = 0 :=
    List.count_eq_zero.mpr tidy.role
  have icon : record.caption.kind.icon.toList.count '\n' = 0 := by
    cases record.caption.kind <;> decide
  cases showRoles <;>
    simp [drawnLine, Caption.line, lead, role, icon]

variable {records : List Record}

/-- The line breaks are as many as the records exactly when no label holds
one. -/
theorem count_drawnLines_iff (tidy : ∀ record ∈ records, record.caption.Tidy) :
    (flat.drawnLines showRoles records).count '\n' = records.length ↔
      ∀ record ∈ records, '\n' ∉ record.caption.name.toList := by
  rw [drawnLines, count_flatMap_lines, Nat.add_eq_left, List.sum_eq_zero_iff,
    List.forall_mem_map]
  refine forall₂_congr fun record member => ?_
  rw [count_drawnLine (tidy record member), List.count_eq_zero]

theorem splitOn_drawnLines (tidy : ∀ record ∈ records, record.caption.Tidy)
    (unbroken : ∀ record ∈ records, '\n' ∉ record.caption.name.toList) :
    (flat.drawnLines showRoles records).splitOn '\n' =
      records.map (flat.drawnLine showRoles) ++ [[]] := by
  apply splitOn_lines
  intro record member
  rw [← List.count_eq_zero, count_drawnLine (tidy record member)]
  exact List.count_eq_zero.mpr (unbroken record member)

end Flat

/-- The drawing of a value that was read has one piece for each record, made of
connectors and the caption of the record, and a line break behind each.  These
line breaks are the only ones, and the pieces are the lines, exactly when no
label holds one; only the labels of strings and nodes may. -/
theorem drawing_lines {source : String} {value : Value}
    (result : Value.read source = .ok value) (limit : Nat) (showRoles : Bool) :
    let flat := value.canonical.2.flatten limit [value.canonical.1]
    let text := (flat.drawing showRoles).toList
    let lines := flat.records.toList.map (flat.drawnLine showRoles)
    (∀ record ∈ flat.records.toList, ∀ char ∈ flat.indent record,
      isConnector char = true) ∧
    (text = lines.flatMap (· ++ ['\n']) ∧
      (value.canonical.2.size ≤ UInt32.size → text.getLast? = some '\n')) ∧
    (text.count '\n' = flat.size ↔
      ∀ record ∈ flat.records.toList, '\n' ∉ record.caption.name.toList) ∧
    ((∀ record ∈ flat.records.toList, '\n' ∉ record.caption.name.toList) →
      text.splitOn '\n' = lines ++ [[]]) ∧
    ∀ record ∈ flat.records.toList, '\n' ∈ record.caption.name.toList →
      record.caption.kind = .string ∨ record.caption.kind = .node := by
  intro flat text lines
  have legible := Interner.intern_legible Interner.empty_legible value
    (Value.wellFormed_of_read result)
  have tidy : ∀ record ∈ flat.records.toList, record.caption.Tidy :=
    legible.tidy_flatten limit _
  have drawn : text = flat.drawnLines showRoles flat.records.toList := by
    simp only [text, flat, Graph.flatten_eq_ofOutlines]
    exact Flat.drawing_ofOutlines showRoles _
  have ends (room : value.canonical.2.size ≤ UInt32.size) :
      text.getLast? = some '\n' := by
    have layered := (Interner.Reached.intern value .empty).layered
    have denotes := Interner.intern_denotes Interner.empty_valid value room
    obtain ⟨node, found⟩ := denotes.resolves
    obtain ⟨tree, expands⟩ := layered.exists_expand found
    obtain ⟨⟨caption, children⟩, flattened, -⟩ :=
      layered.exists_flatten limit expands
    have same : flat = .ofOutlines [.node caption children] := flattened
    have proper : flat.records.toList ≠ [] := by
      rw [same]
      exact List.cons_ne_nil _ _
    rcases List.eq_nil_or_concat flat.records.toList with
      none | ⟨first, last, split⟩
    · exact absurd none proper
    · rw [drawn, split]
      simp [Flat.drawnLines]
  refine ⟨fun record _ => flat.indent_isConnector record, ⟨?_, ends⟩, ?_, ?_,
    fun record member => (tidy record member).name⟩
  · rw [drawn, List.flatMap_map]
    rfl
  · rw [drawn, Flat.size, ← Array.length_toList]
    exact Flat.count_drawnLines_iff tidy
  · rw [drawn]
    exact Flat.splitOn_drawnLines tidy

theorem drawing_lines_nested :
    let value := Value.constr .identifier "f"
      [.number "1", .list [.boolean true]] []
    let flat := value.canonical.2.flatten 40 [value.canonical.1]
    Value.read "f(1,[true])" = .ok value ∧ flat.size = 4 ∧
      (∀ record ∈ flat.records.toList,
        '\n' ∉ record.caption.name.toList) ∧
      (flat.drawing false).toList.getLast? = some '\n' ∧
      (flat.drawing false).toList.count '\n' = flat.size ∧
      (flat.drawing false).toList.splitOn '\n' =
        flat.records.toList.map (flat.drawnLine false) ++ [[]] := by
  intro value flat
  have result : Value.read "f(1,[true])" = .ok value := by
    decide +kernel
  have canonical : value.canonical = (⟨3⟩,
      ⟨#[.value (.number "1"), .value (.boolean true), .value (.list [⟨1⟩]),
        .value (.constr .identifier "f" [⟨0⟩, ⟨2⟩] [])]⟩) := by
    simp only [value]
    cbv
  have room : value.canonical.2.size ≤ UInt32.size := by
    rw [canonical]
    decide
  have records : flat.size = 4 := by
    simp only [flat, canonical]
    decide +kernel
  have labels : flat.records.toList.map (fun record => record.caption.name) =
      ["f", "1", "list (1)", "true"] := by
    simp only [flat, canonical]
    decide +kernel
  have unbroken : ∀ record ∈ flat.records.toList,
      '\n' ∉ record.caption.name.toList := by
    have each : ∀ label ∈ ["f", "1", "list (1)", "true"],
        '\n' ∉ label.toList := by decide
    rw [← labels] at each
    exact fun record member => each _ (List.mem_map_of_mem member)
  have lines := drawing_lines result 40 false
  obtain ⟨-, ⟨-, ends⟩, counted, split, -⟩ := lines
  exact ⟨result, records, unbroken, ends room, counted.mpr unbroken,
    split unbroken⟩

/-- A string with an escaped line break is one record drawn on two lines. -/
theorem drawing_lines_broken :
    let value := Value.string ⟨[.raw ['a'], .escaped 'n', .raw ['b']]⟩
    let flat := value.canonical.2.flatten 40 [value.canonical.1]
    Value.read "\"a\\nb\"" = .ok value ∧ flat.size = 1 ∧
      flat.drawing false = "\" \"a\nb\"\n" ∧
      (flat.drawing false).toList.count '\n' = 2 := by
  intro value flat
  have result : Value.read "\"a\\nb\"" = .ok value := by
    decide +kernel
  have canonical : value.canonical = (⟨0⟩,
      ⟨#[.value (.string ⟨[.raw ['a'], .escaped 'n', .raw ['b']]⟩)]⟩) := by
    simp only [value]
    cbv
  have records : flat.size = 1 := by
    simp only [flat, canonical]
    decide +kernel
  have drawn : flat.drawing false = "\" \"a\nb\"\n" := by
    simp only [flat, canonical]
    decide +kernel
  refine ⟨result, records, drawn, ?_⟩
  rw [drawn]
  decide

end TreeQuery
