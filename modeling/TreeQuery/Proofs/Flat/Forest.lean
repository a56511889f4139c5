import Mathlib.Data.Set.Card
import Mathlib.Logic.Relation
import Mathlib.Order.Interval.Finset.Nat
import TreeQuery.Proofs.Flat.Preorder

/-!
# Forests in pre-order

The parents that records name make a forest, and the array lists it in
pre-order.  The records below one are the next ones, as many as its range tells.
The children share these among themselves without a gap, and so do the records
without a parent with the whole array.
-/

namespace TreeQuery

namespace Flat

/-- A record names another one as its parent. -/
def ChildOf (flat : Flat) (id parent : Nat) : Prop :=
  ∃ record, flat.get? id = some record ∧ record.parent = some parent

/-- The parents lead from one record to another one. -/
def Descends (flat : Flat) : Nat → Nat → Prop :=
  Relation.TransGen flat.ChildOf

/-- The records with these numbers, each with all that its range covers, fill
the places from `start` up to `stop` one after the other. -/
inductive Tiles (flat : Flat) : Nat → List Nat → Nat → Prop where
  | nil {stop : Nat} : Tiles flat stop [] stop
  | cons {start stop : Nat} {ids : List Nat} {record : Record} :
      flat.get? start = some record →
      Tiles flat (start + record.range + 1) ids stop →
      Tiles flat start (start :: ids) stop

/-- What a record at a place tells of the records around it is right. -/
structure Fits (flat : Flat) (place : Nat) (record : Record) : Prop where
  id_eq : record.id = place
  inside : place + record.range < flat.size
  descends_iff (id : Nat) :
    flat.Descends id place ↔ place < id ∧ id ≤ place + record.range
  count : Set.ncard {id | flat.Descends id place} = record.range
  map_id_subtree :
    (flat.subtree place).map Record.id = List.range' (place + 1) record.range
  mem_subtree_iff (other : Record) :
    other ∈ flat.subtree place ↔
      flat.get? other.id = some other ∧ flat.Descends other.id place
  mem_children_iff (id : Nat) : id ∈ record.children ↔ flat.ChildOf id place
  increasing : record.children.Pairwise (· < ·)
  tiles : flat.Tiles (place + 1) record.children (place + record.range + 1)

/-- The array lists a forest in pre-order. -/
structure IsForest (flat : Flat) : Prop where
  fits (place : Nat) (record : Record) :
    flat.get? place = some record → flat.Fits place record
  tiles : flat.Tiles 0 (flat.roots.map Record.id) flat.size

end Flat

/-! ## Links between the records of outlines -/

/-- The parent of a record is the given one, or it is one of the records and
covers the record. -/
def Record.Linked (records : List Record) (parent : Option Nat)
    (ids : List Nat) (record : Record) : Prop :=
  record.parent = parent ∧ record.id ∈ ids ∨
    ∃ above ∈ records, record.parent = some above.id ∧
      record.id ∈ above.children ∧ above.id < record.id ∧
      record.id + record.range ≤ above.id + above.range

theorem Record.Linked.mono {records records' : List Record}
    {parent : Option Nat} {ids ids' : List Nat} {record : Record}
    (linked : record.Linked records parent ids) (grown : records ⊆ records')
    (more : ids ⊆ ids') : record.Linked records' parent ids' := by
  rcases linked with ⟨outside, listed⟩ | ⟨above, member, link⟩
  · exact .inl ⟨outside, more listed⟩
  · exact .inr ⟨above, grown member, link⟩

namespace Outline

def caption : Outline → Caption
  | node caption _ => caption

/-- The first of the records of an outline. -/
def first (parent : Option Nat) (start : Nat) : Outline → Record
  | node caption children =>
      { id := start
        parent
        caption
        children := positions (start + 1) children
        range := sizeAll children }

@[simp] theorem first_id (parent : Option Nat) (start : Nat)
    (outline : Outline) : (outline.first parent start).id = start := by
  cases outline
  rfl

@[simp] theorem first_parent (parent : Option Nat) (start : Nat)
    (outline : Outline) : (outline.first parent start).parent = parent := by
  cases outline
  rfl

@[simp] theorem first_caption (parent : Option Nat) (start : Nat)
    (outline : Outline) :
    (outline.first parent start).caption = outline.caption := by
  cases outline
  rfl

theorem size_pos (outline : Outline) : 0 < outline.size := by
  cases outline with
  | node caption children => exact Nat.succ_pos _

mutual

/-- The records of an outline are numbered from `start` on, and all but the
first have their parents among them. -/
theorem records_linked (parent : Option Nat) (start : Nat)
    (outline : Outline) :
    ∀ record ∈ outline.records parent start,
      (start ≤ record.id ∧ record.id + record.range < start + outline.size) ∧
        record.Linked (outline.records parent start) parent [start] := by
  match outline with
  | node caption children =>
      intro record member
      rw [records, List.mem_cons] at member
      rcases member with rfl | member
      · refine ⟨⟨le_rfl, ?_⟩, .inl ⟨rfl, List.mem_singleton.mpr rfl⟩⟩
        exact Nat.add_lt_add_left (Nat.lt_succ_self _) start
      · obtain ⟨⟨lower, upper⟩, linked⟩ :=
          recordsAll_linked (some start) (start + 1) children record member
        rw [size, records]
        refine ⟨by omega, .inr ?_⟩
        rcases linked with ⟨named, listed⟩ | ⟨above, inside, link⟩
        · -- The parent is the first record, whose range covers all others.
          refine ⟨_, List.mem_cons_self, named, listed, lower, ?_⟩
          change record.id + record.range ≤ start + sizeAll children
          omega
        · exact ⟨above, List.mem_cons_of_mem _ inside, link⟩
termination_by structural outline

theorem recordsAll_linked (parent : Option Nat) (start : Nat)
    (outlines : List Outline) :
    ∀ record ∈ recordsAll parent start outlines,
      (start ≤ record.id ∧
        record.id + record.range < start + sizeAll outlines) ∧
        record.Linked (recordsAll parent start outlines) parent
          (positions start outlines) := by
  match outlines with
  | [] => exact List.forall_mem_nil _
  | outline :: outlines =>
      rw [recordsAll, positions, sizeAll]
      refine List.forall_mem_append.mpr ⟨?_, ?_⟩
      · intro record member
        obtain ⟨bounds, linked⟩ := records_linked parent start outline record
          member
        refine ⟨by omega, linked.mono (List.subset_append_left _ _) ?_⟩
        exact List.cons_subset_cons _ (List.nil_subset _)
      · intro record member
        obtain ⟨bounds, linked⟩ := recordsAll_linked parent
          (start + outline.size) outlines record member
        exact ⟨by omega, linked.mono (List.subset_append_right _ _)
          (List.subset_cons_self _ _)⟩
termination_by structural outlines

end

theorem le_of_mem_positions {start id : Nat} {outlines : List Outline}
    (member : id ∈ positions start outlines) : start ≤ id := by
  induction outlines generalizing start with
  | nil => exact absurd member List.not_mem_nil
  | cons outline outlines induction =>
      rw [positions, List.mem_cons] at member
      rcases member with rfl | later
      · exact le_rfl
      · exact (Nat.le_add_right _ _).trans (induction later)

theorem positions_increasing (start : Nat) (outlines : List Outline) :
    (positions start outlines).Pairwise (· < ·) := by
  induction outlines generalizing start with
  | nil => exact .nil
  | cons outline outlines induction =>
      refine .cons ?_ (induction _)
      intro id member
      have later := le_of_mem_positions member
      have positive := outline.size_pos
      omega

end Outline

/-! ## Outlines at their places -/

namespace Flat

/-- The records of the outlines stand in the array from `start` on. -/
def Shows (flat : Flat) (parent : Option Nat) (start : Nat)
    (outlines : List Outline) : Prop :=
  Outline.recordsAll parent start outlines <+: flat.records.toList.drop start

/-- The record is that of an outline with these children, which follow it. -/
structure Heads (flat : Flat) (record : Record) (children : List Outline) :
    Prop where
  children_eq : record.children = Outline.positions (record.id + 1) children
  range_eq : record.range = Outline.sizeAll children
  shows : flat.Shows (some record.id) (record.id + 1) children

section

variable {flat : Flat} {parent : Option Nat} {start : Nat}
  {outline : Outline} {outlines : List Outline}

theorem Shows.tail (shows : flat.Shows parent start (outline :: outlines)) :
    flat.Shows parent (start + outline.size) outlines := by
  obtain ⟨behind, split⟩ := shows
  refine ⟨behind, ?_⟩
  rw [← List.drop_drop, ← split, Outline.recordsAll, List.append_assoc,
    ← Outline.length_records parent start outline, List.drop_left]

theorem Shows.get? (shows : flat.Shows parent start (outline :: outlines)) :
    flat.get? start = some (outline.first parent start) := by
  obtain ⟨behind, split⟩ := shows
  have first := congrArg List.head? split
  rw [List.head?_drop] at first
  rw [get?_eq_getElem?, ← first]
  cases outline with
  | node caption children => rfl

theorem Shows.children {caption : Caption} {children : List Outline}
    (shows : flat.Shows parent start (.node caption children :: outlines)) :
    flat.Shows (some start) (start + 1) children := by
  obtain ⟨behind, split⟩ := shows
  refine ⟨Outline.recordsAll parent
    (start + (Outline.node caption children).size) outlines ++ behind, ?_⟩
  rw [← List.drop_drop, ← split, Outline.recordsAll, Outline.records]
  simp

/-- The positions of the outlines are the numbers of records that tile the
places of all their records. -/
theorem Shows.tiles (shows : flat.Shows parent start outlines) :
    flat.Tiles start (Outline.positions start outlines)
      (start + Outline.sizeAll outlines) := by
  induction outlines generalizing start with
  | nil => exact .nil
  | cons outline outlines induction =>
      cases outline with
      | node caption children =>
          have rest := induction shows.tail
          rw [Outline.size, ← Nat.add_assoc] at rest
          rw [Outline.positions, Outline.sizeAll, Outline.size,
            ← Nat.add_assoc, ← Nat.add_assoc]
          exact .cons shows.get? rest

/-- At the positions of the outlines stand records with their captions. -/
theorem Shows.map_positions {α : Type} (read : Caption → α)
    (shows : flat.Shows parent start outlines) :
    (Outline.positions start outlines).map (fun id =>
        (flat.get? id).map fun record => read record.caption) =
      outlines.map fun outline => some (read outline.caption) := by
  induction outlines generalizing start with
  | nil => rfl
  | cons outline outlines induction =>
      rw [Outline.positions, List.map_cons, List.map_cons, shows.get?,
        Option.map_some, Outline.first_caption, induction shows.tail]

theorem Shows.childOf {above : Nat}
    (shows : flat.Shows (some above) start outlines) :
    ∀ id ∈ Outline.positions start outlines, flat.ChildOf id above := by
  induction outlines generalizing start with
  | nil => exact List.forall_mem_nil _
  | cons outline outlines induction =>
      rw [Outline.positions, List.forall_mem_cons]
      exact ⟨⟨_, shows.get?, Outline.first_parent _ _ _⟩,
        induction shows.tail⟩

end

section

variable {flat : Flat} (Good : Outline → Prop)

mutual

/-- Every record of an outline heads an outline in it.  What outlines pass on to
their children holds of that outline too. -/
theorem Shows.heads (closed : ∀ caption children,
      Good (.node caption children) → ∀ child ∈ children, Good child)
    (parent : Option Nat) (start : Nat)
    (outline : Outline) (outlines : List Outline)
    (shows : flat.Shows parent start (outline :: outlines))
    (good : Good outline) :
    ∀ record ∈ outline.records parent start, ∃ children,
      Good (.node record.caption children) ∧ flat.Heads record children := by
  match outline with
  | .node caption children =>
      rw [Outline.records, List.forall_mem_cons]
      exact ⟨⟨children, good, rfl, rfl, shows.children⟩,
        Shows.headsAll closed (some start) (start + 1) children
          shows.children (closed caption children good)⟩
termination_by structural outline

theorem Shows.headsAll (closed : ∀ caption children,
      Good (.node caption children) → ∀ child ∈ children, Good child)
    (parent : Option Nat) (start : Nat)
    (outlines : List Outline) (shows : flat.Shows parent start outlines)
    (good : ∀ outline ∈ outlines, Good outline) :
    ∀ record ∈ Outline.recordsAll parent start outlines, ∃ children,
      Good (.node record.caption children) ∧ flat.Heads record children := by
  match outlines with
  | [] => exact List.forall_mem_nil _
  | outline :: outlines =>
      obtain ⟨first, others⟩ := List.forall_mem_cons.mp good
      rw [Outline.recordsAll, List.forall_mem_append]
      exact ⟨Shows.heads closed parent start outline outlines shows first,
        Shows.headsAll closed parent (start + outline.size) outlines
          shows.tail others⟩
termination_by structural outlines

end

end

/-! ## The forest -/

theorem mem_of_get? {flat : Flat} {place : Nat} {record : Record}
    (found : flat.get? place = some record) :
    record ∈ flat.records.toList := by
  rw [get?_eq_getElem?] at found
  exact List.mem_of_getElem? found

/-- The records below a record are those behind it that its range covers. -/
theorem mem_subtree {flat : Flat} {place : Nat} {record : Record}
    (found : flat.get? place = some record) (other : Record) :
    other ∈ flat.subtree place ↔ ∃ id, flat.get? id = some other ∧
      place < id ∧ id ≤ place + record.range := by
  rw [subtree, found, List.mem_iff_getElem?]
  constructor
  · intro there
    obtain ⟨offset, there⟩ := there
    rw [List.getElem?_take] at there
    split at there
    · rw [List.getElem?_drop, ← get?_eq_getElem?] at there
      exact ⟨_, there, by omega, by omega⟩
    · cases there
  · intro there
    obtain ⟨id, there, lower, upper⟩ := there
    refine ⟨id - (place + 1), ?_⟩
    rw [List.getElem?_take_of_lt (by omega), List.getElem?_drop,
      ← get?_eq_getElem?, Nat.add_sub_cancel' lower]
    exact there

theorem Heads.subtree_eq {flat : Flat} {record : Record}
    {children : List Outline} (heads : flat.Heads record children)
    (found : flat.get? record.id = some record) :
    flat.subtree record.id =
      Outline.recordsAll (some record.id) (record.id + 1) children := by
  have whole := List.prefix_iff_eq_take.mp heads.shows
  rw [Outline.length_recordsAll, ← heads.range_eq] at whole
  rw [subtree, found, whole]

section

variable {outlines : List Outline} {place : Nat} {record : Record}

theorem shows_ofOutlines (outlines : List Outline) :
    (ofOutlines outlines).Shows none 0 outlines :=
  List.prefix_refl _

/-- The outline that a record heads, with what the outlines pass on to it. -/
theorem exists_good_heads (Good : Outline → Prop)
    (closed : ∀ caption children, Good (.node caption children) →
      ∀ child ∈ children, Good child)
    (good : ∀ outline ∈ outlines, Good outline)
    (found : (ofOutlines outlines).get? place = some record) :
    ∃ children, Good (.node record.caption children) ∧
      (ofOutlines outlines).Heads record children :=
  Shows.headsAll Good closed none 0 outlines (shows_ofOutlines outlines) good
    record (mem_of_get? found)

theorem exists_heads
    (found : (ofOutlines outlines).get? place = some record) :
    ∃ children, (ofOutlines outlines).Heads record children := by
  obtain ⟨children, -, heads⟩ := exists_good_heads (fun _ => True)
    (fun _ _ _ _ _ => trivial) (fun _ _ => trivial) found
  exact ⟨children, heads⟩

theorem size_ofOutlines (outlines : List Outline) :
    (ofOutlines outlines).size = Outline.sizeAll outlines := by
  rw [← Outline.length_recordsAll none 0 outlines]
  rfl

theorem inside_of_get?
    (found : (ofOutlines outlines).get? place = some record) :
    place + record.range < (ofOutlines outlines).size := by
  obtain ⟨⟨-, inside⟩, -⟩ := Outline.recordsAll_linked none 0 outlines record
    (mem_of_get? found)
  rw [id_of_get? found, Nat.zero_add] at inside
  rw [size_ofOutlines]
  exact inside

/-- The parent of a record stands before it, covers all that the record covers
and has it among its children. -/
theorem ChildOf.exists_above {id above : Nat}
    (child : (ofOutlines outlines).ChildOf id above) :
    ∃ record parent, (ofOutlines outlines).get? id = some record ∧
      (ofOutlines outlines).get? above = some parent ∧
      id ∈ parent.children ∧ above < id ∧
      id + record.range ≤ above + parent.range := by
  obtain ⟨record, found, named⟩ := child
  obtain ⟨-, linked⟩ := Outline.recordsAll_linked none 0 outlines record
    (mem_of_get? found)
  rcases linked with ⟨outside, -⟩ | ⟨parent, member, named', listed, link⟩
  · rw [named] at outside
    cases outside
  · obtain rfl : above = parent.id := Option.some.inj (named.symm.trans named')
    obtain rfl := id_of_get? found
    exact ⟨record, parent, found, get?_id member, listed, link⟩

/-- What parents lead from is covered by the range of what they lead to. -/
theorem Descends.bounds {id : Nat}
    (descends : (ofOutlines outlines).Descends id place)
    (found : (ofOutlines outlines).get? place = some record) :
    place < id ∧ id ≤ place + record.range := by
  induction descends generalizing record with
  | single child =>
      obtain ⟨below, above, -, found', -, before, covers⟩ :=
        ChildOf.exists_above child
      obtain rfl := Option.some.inj (found.symm.trans found')
      exact ⟨before, by omega⟩
  | tail _ child induction =>
      obtain ⟨below, above, foundBelow, found', -, before, covers⟩ :=
        ChildOf.exists_above child
      obtain rfl := Option.some.inj (found.symm.trans found')
      have bounds := induction foundBelow
      exact ⟨by omega, by omega⟩

/-- From every record that a range covers, parents lead to the record of the
range. -/
theorem descends_of_bounds
    (found : (ofOutlines outlines).get? place = some record) {id : Nat}
    (lower : place < id) (upper : id ≤ place + record.range) :
    (ofOutlines outlines).Descends id place := by
  obtain rfl := id_of_get? found
  obtain ⟨children, heads⟩ := exists_heads found
  have inside := inside_of_get? found
  induction id using Nat.strong_induction_on with
  | _ id induction =>
      have bound : id < (ofOutlines outlines).records.size :=
        upper.trans_lt inside
      have there : (ofOutlines outlines).get? id = some _ :=
        Array.getElem?_eq_getElem bound
      have below := (mem_subtree found _).mpr ⟨id, there, lower, upper⟩
      rw [heads.subtree_eq found] at below
      obtain ⟨-, linked⟩ := Outline.recordsAll_linked _ _ _ _ below
      rcases linked with ⟨named, -⟩ | ⟨above, member, named, -, before, -⟩
      · exact .single ⟨_, there, named⟩
      · -- The parent is covered as well, and it stands before the record.
        obtain ⟨⟨behind, -⟩, -⟩ := Outline.recordsAll_linked _ _ _ _ member
        rw [id_of_get? there] at before
        exact .head ⟨_, there, named⟩
          (induction above.id before behind (before.le.trans upper))

theorem descends_iff
    (found : (ofOutlines outlines).get? place = some record) (id : Nat) :
    (ofOutlines outlines).Descends id place ↔
      place < id ∧ id ≤ place + record.range :=
  ⟨fun descends => descends.bounds found,
    fun bounds => descends_of_bounds found bounds.1 bounds.2⟩

theorem ncard_descends
    (found : (ofOutlines outlines).get? place = some record) :
    Set.ncard {id | (ofOutlines outlines).Descends id place} =
      record.range := by
  have covered : {id | (ofOutlines outlines).Descends id place} =
      (Finset.Ioc place (place + record.range) : Set Nat) := by
    ext id
    simp [descends_iff found]
  rw [covered, Set.ncard_coe_finset, Nat.card_Ioc, Nat.add_sub_cancel_left]

theorem map_id_subtree
    (found : (ofOutlines outlines).get? place = some record) :
    ((ofOutlines outlines).subtree place).map Record.id =
      List.range' (place + 1) record.range := by
  obtain rfl := id_of_get? found
  obtain ⟨children, heads⟩ := exists_heads found
  have shown := congrArg (List.map Prod.snd) (Outline.map_shown_recordsAll
    (some record.id) (record.id + 1) children)
  rw [List.map_map, List.zipIdx_map_snd, Outline.length_targetsAll,
    ← heads.range_eq] at shown
  rw [heads.subtree_eq found]
  exact shown

theorem mem_subtree_iff_descends
    (found : (ofOutlines outlines).get? place = some record)
    (other : Record) :
    other ∈ (ofOutlines outlines).subtree place ↔
      (ofOutlines outlines).get? other.id = some other ∧
        (ofOutlines outlines).Descends other.id place := by
  rw [mem_subtree found]
  constructor
  · intro there
    obtain ⟨id, there, bounds⟩ := there
    obtain rfl := id_of_get? there
    exact ⟨there, (descends_iff found _).mpr bounds⟩
  · intro there
    exact ⟨other.id, there.1, (descends_iff found _).mp there.2⟩

theorem mem_children_iff
    (found : (ofOutlines outlines).get? place = some record) (id : Nat) :
    id ∈ record.children ↔ (ofOutlines outlines).ChildOf id place := by
  constructor
  · intro member
    obtain ⟨children, heads⟩ := exists_heads found
    rw [heads.children_eq] at member
    rw [← id_of_get? found]
    exact heads.shows.childOf id member
  · intro child
    obtain ⟨below, above, -, found', listed, -⟩ := child.exists_above
    obtain rfl := Option.some.inj (found.symm.trans found')
    exact listed

/-- Every record of outlines fits at its place. -/
theorem fits_of_get?
    (found : (ofOutlines outlines).get? place = some record) :
    (ofOutlines outlines).Fits place record := by
  have numbered := id_of_get? found
  obtain ⟨children, heads⟩ := exists_heads found
  have increasing : record.children.Pairwise (· < ·) := by
    rw [heads.children_eq]
    exact Outline.positions_increasing _ _
  have tiles := heads.shows.tiles
  rw [← heads.children_eq, ← heads.range_eq, numbered, Nat.add_right_comm]
    at tiles
  exact
    { id_eq := numbered
      inside := inside_of_get? found
      descends_iff := descends_iff found
      count := ncard_descends found
      map_id_subtree := map_id_subtree found
      mem_subtree_iff := mem_subtree_iff_descends found
      mem_children_iff := mem_children_iff found
      increasing
      tiles }

end

end Flat

/-! ## The records without a parent -/

namespace Outline

/-- The first records of outlines that are listed from position `start` on. -/
def heads (parent : Option Nat) (start : Nat) : List Outline → List Record
  | [] => []
  | outline :: outlines =>
      outline.first parent start ::
        heads parent (start + outline.size) outlines

theorem map_id_heads (parent : Option Nat) (start : Nat)
    (outlines : List Outline) :
    (heads parent start outlines).map Record.id = positions start outlines := by
  induction outlines generalizing start with
  | nil => rfl
  | cons outline outlines induction =>
      rw [heads, positions, List.map_cons, induction, first_id]

theorem map_caption_heads (parent : Option Nat) (start : Nat)
    (outlines : List Outline) :
    (heads parent start outlines).map Record.caption =
      outlines.map caption := by
  induction outlines generalizing start with
  | nil => rfl
  | cons outline outlines induction =>
      rw [heads, List.map_cons, List.map_cons, induction, first_caption]

/-- Below a record, every record has a parent. -/
theorem parent_ne_none (above start : Nat) (outlines : List Outline) :
    ∀ record ∈ recordsAll (some above) start outlines,
      record.parent ≠ none := by
  intro record member
  obtain ⟨-, linked⟩ := recordsAll_linked (some above) start outlines record
    member
  rcases linked with ⟨named, -⟩ | ⟨parent, -, named, -⟩
  · rw [named]
    exact Option.some_ne_none _
  · rw [named]
    exact Option.some_ne_none _

theorem filter_recordsAll (start : Nat) (outlines : List Outline) :
    (recordsAll none start outlines).filter (fun record =>
      record.parent.isNone) = heads none start outlines := by
  induction outlines generalizing start with
  | nil => rfl
  | cons outline outlines induction =>
      cases outline with
      | node caption children =>
          have nested : (recordsAll (some start) (start + 1) children).filter
              (fun record => record.parent.isNone) = [] := by
            refine List.filter_eq_nil_iff.mpr fun record member => ?_
            have named := parent_ne_none start (start + 1) children record member
            simpa using named
          rw [recordsAll, records, List.cons_append, List.filter_cons_of_pos rfl,
            List.filter_append, nested, List.nil_append, induction, heads,
            first]

end Outline

namespace Flat

theorem roots_ofOutlines (outlines : List Outline) :
    (ofOutlines outlines).roots = Outline.heads none 0 outlines :=
  Outline.filter_recordsAll 0 outlines

/-- The records of outlines make a forest. -/
theorem ofOutlines_isForest (outlines : List Outline) :
    (ofOutlines outlines).IsForest := by
  refine ⟨fun place record => fits_of_get?, ?_⟩
  have tiles := (shows_ofOutlines outlines).tiles
  rw [Nat.zero_add] at tiles
  rw [roots_ofOutlines, Outline.map_id_heads, size_ofOutlines]
  exact tiles

end Flat

/-! ## Forests of handles -/

namespace Outline

theorem exists_of_mem_recordsAll {parent : Option Nat} {start : Nat}
    {outlines : List Outline} {record : Record}
    (member : record ∈ recordsAll parent start outlines) :
    ∃ outline ∈ outlines, ∃ start', record ∈ outline.records parent start' := by
  induction outlines generalizing start with
  | nil => exact absurd member List.not_mem_nil
  | cons outline outlines induction =>
      rw [recordsAll, List.mem_append] at member
      rcases member with first | later
      · exact ⟨outline, List.mem_cons_self, start, first⟩
      · obtain ⟨other, listed, there⟩ := induction later
        exact ⟨other, List.mem_cons_of_mem _ listed, there⟩

end Outline

private theorem role_ne_root_of_mem_mapIdx {α : Type} (change : α → Target)
    (items : List α) :
    ∀ part ∈ items.mapIdx fun position item =>
      (change item, Role.index position), part.2 ≠ .root := by
  intro part member
  obtain ⟨position, bound, rfl⟩ := List.mem_mapIdx.mp member
  exact nofun

/-- No part has the role of a root. -/
theorem Node.role_ne_root (node : Node) :
    ∀ part ∈ node.parts, part.2 ≠ .root := by
  cases node with
  | map entries => exact role_ne_root_of_mem_mapIdx _ entries
  | list items | set items | tuple items =>
      exact role_ne_root_of_mem_mapIdx _ items
  | constr kind name positional named =>
      refine List.forall_mem_append.mpr
        ⟨role_ne_root_of_mem_mapIdx _ positional, ?_⟩
      exact List.forall_mem_map.mpr fun field _ => nofun
  | string | number | boolean | location => exact List.forall_mem_nil _

namespace Graph

variable {graph : Graph} {limit : Nat}

theorem role_ne_root (target : Target) :
    ∀ part ∈ graph.parts target, part.2 ≠ .root := by
  cases target with
  | value id =>
      rw [parts]
      split
      · exact Node.role_ne_root _
      · exact List.forall_mem_nil _
  | entry id =>
      rw [parts]
      split
      · simp
      · exact List.forall_mem_nil _

/-- The records without a parent are those with the role of a root. -/
theorem parent_eq_none_iff {depth : Nat} {target : Target} {role : Role}
    {outline : Outline} {parent : Option Nat}
    (outlined : graph.outlineWithin limit depth (target, role) = some outline)
    (agrees : parent = none ↔ role = .root) (start : Nat) :
    ∀ record ∈ outline.records parent start,
      record.parent = none ↔ record.caption.role = .root := by
  induction depth generalizing target role outline parent start with
  | zero => cases outlined
  | succ depth induction =>
      rw [outlineWithin] at outlined
      obtain ⟨described, -, rfl⟩ := Option.map_eq_some_iff.mp outlined
      rw [Outline.records, List.forall_mem_cons]
      refine ⟨agrees, fun record member => ?_⟩
      obtain ⟨outline, listed, start', member⟩ :=
        Outline.exists_of_mem_recordsAll member
      obtain ⟨part, isPart, outlined⟩ := List.mem_filterMap.mp listed
      exact induction outlined
        (iff_of_false (Option.some_ne_none _) (role_ne_root _ part isPart))
        start' record member

/-- A handle has an outline if it has a value. -/
theorem map_target_outline? (limit : Nat) (root : ValueId) :
    (graph.outline? limit (.value root, .root)).map
        (fun outline => outline.caption.target) =
      (graph.value? root).map fun _ => .value root := by
  rw [outline?]
  cases found : graph.value? root with
  | none =>
      cases graph.size with
      | zero => rfl
      | succ depth => simp [outlineWithin, describe?, found]
  | some node =>
      have resolves : graph.Resolves (.value root) := ⟨node, found⟩
      obtain ⟨depth, size⟩ := Nat.exists_eq_succ_of_ne_zero
        (Nat.ne_zero_of_lt resolves.index_lt)
      simp [size, outlineWithin, describe?, found, Outline.caption]

/-- The records of several handles make a forest.  The records without a parent
are those with the role of a root, and they show the handles that have a value,
in order. -/
theorem flatten_isForest (graph : Graph) (limit : Nat)
    (roots : List ValueId) :
    let flat := graph.flatten limit roots
    flat.IsForest ∧
    (∀ record ∈ flat.records.toList,
      record.parent = none ↔ record.caption.role = .root) ∧
    flat.roots.map (fun record => record.caption.target) =
      roots.filterMap fun root =>
        (graph.value? root).map fun _ => Target.value root := by
  intro flat
  have same : flat = .ofOutlines _ := graph.flatten_eq_ofOutlines limit roots
  rw [same]
  refine ⟨Flat.ofOutlines_isForest _, ?_, ?_⟩
  · intro record member
    obtain ⟨outline, listed, start, member⟩ :=
      Outline.exists_of_mem_recordsAll member
    obtain ⟨root, -, outlined⟩ := List.mem_filterMap.mp listed
    exact parent_eq_none_iff outlined (iff_of_true rfl rfl) start record member
  · have captions := congrArg (List.map Caption.target)
      (Outline.map_caption_heads none 0 (roots.filterMap fun root =>
        graph.outline? limit (.value root, .root)))
    rw [List.map_map, List.map_map, List.map_filterMap] at captions
    simp only [Function.comp_def, map_target_outline?] at captions
    rw [← captions, ← Flat.roots_ofOutlines]

end Graph

end TreeQuery
