import TreeQuery.Proofs.Matching.Sequence

/-!
# What a pattern accepts

Acceptance by a pattern is described by acceptance by the patterns inside: one
equivalence for each constructor, and an induction whose hypotheses speak of all
patterns inside at once.
-/

namespace TreeQuery

namespace Pattern

private theorem sizeOf_pair_lt {α β : Type} [SizeOf α] [SizeOf β] {first : α}
    {second : β} {pairs : List (α × β)} (member : (first, second) ∈ pairs) :
    sizeOf first < sizeOf pairs ∧ sizeOf second < sizeOf pairs := by
  have smaller := List.sizeOf_lt_of_mem member
  rw [Prod.mk.sizeOf_spec] at smaller
  constructor <;> omega

section

variable {motive : Pattern → Prop}
  (any : motive .any)
  (or : ∀ options, (∀ option ∈ options, motive option) → motive (.or options))
  (repeated : ∀ inner, motive inner → motive (.repeated inner))
  (regex : ∀ expression, motive (.regex expression))
  (text : ∀ part, motive (.text part))
  (map : ∀ pairs, (∀ pair ∈ pairs, motive pair.1 ∧ motive pair.2) →
    motive (.map pairs))
  (list : ∀ items, (∀ item ∈ items, motive item) → motive (.list items))
  (set : ∀ items, (∀ item ∈ items, motive item) → motive (.set items))
  (tuple : ∀ items, (∀ item ∈ items, motive item) → motive (.tuple items))
  (constr : ∀ name positional named, (∀ item ∈ positional, motive item) →
    (∀ field ∈ named, motive field.2) → motive (.constr name positional named))
  (string : ∀ body, motive (.string body))
  (number : ∀ digits, motive (.number digits))
  (boolean : ∀ truth, motive (.boolean truth))
  (location : ∀ place, motive (.location place))

include any or repeated regex text map list set tuple constr string number
  boolean location

/-- Induction on patterns in which the hypotheses cover every pattern of a list
inside. -/
@[elab_as_elim]
theorem nestedInduction : ∀ pattern : Pattern, motive pattern
  | .any => any
  | .or options => or options fun option _ => nestedInduction option
  | .repeated inner => repeated inner (nestedInduction inner)
  | .regex expression => regex expression
  | .text part => text part
  | .map pairs =>
      map pairs fun (key, value) member =>
        have _smaller := sizeOf_pair_lt member
        ⟨nestedInduction key, nestedInduction value⟩
  | .list items => list items fun item _ => nestedInduction item
  | .set items => set items fun item _ => nestedInduction item
  | .tuple items => tuple items fun item _ => nestedInduction item
  | .constr name positional named =>
      constr name positional named (fun item _ => nestedInduction item)
        fun (_, item) member =>
          have _smaller := sizeOf_pair_lt member
          nestedInduction item
  | .string body => string body
  | .number digits => number digits
  | .boolean truth => boolean truth
  | .location place => location place
termination_by pattern => sizeOf pattern

end

section

variable {graph : Graph} {id : ValueId}

theorem acceptsSome_iff {options : List Pattern} :
    acceptsSome graph options id = true ↔
      ∃ option ∈ options, accepts graph option id = true := by
  induction options with
  | nil => simp [acceptsSome]
  | cons option options induction => simp [acceptsSome, induction]

theorem acceptsMembers_iff {items : List Pattern} {ids : List ValueId} :
    acceptsMembers graph items ids = true ↔
      ∀ item ∈ items, ∃ id ∈ ids, accepts graph item id = true := by
  induction items with
  | nil => simp [acceptsMembers]
  | cons item items induction => simp [acceptsMembers, induction]

theorem acceptsPairs_iff {pairs : List (Pattern × Pattern)}
    {ids : List EntryId} :
    acceptsPairs graph pairs ids = true ↔
      ∀ pair ∈ pairs, ∃ id ∈ ids, ∃ entry, graph.entry? id = some entry ∧
        accepts graph pair.1 entry.key = true ∧
        accepts graph pair.2 entry.value = true := by
  induction pairs with
  | nil => simp [acceptsPairs]
  | cons pair pairs induction =>
      simp only [acceptsPairs, Bool.and_eq_true, List.any_eq_true, induction,
        List.forall_mem_cons]
      refine and_congr_left fun _ => ?_
      refine exists_congr fun id => and_congr_right fun _ => ?_
      cases graph.entry? id <;> simp

theorem acceptsFields_iff {named : List (NamePattern × Pattern)}
    {fields : List (String × ValueId)} :
    acceptsFields graph named fields = true ↔
      ∀ item ∈ named, ∃ field ∈ fields, item.1.matchesField field.1 = true ∧
        accepts graph item.2 field.2 = true := by
  induction named with
  | nil => simp [acceptsFields]
  | cons item named induction => simp [acceptsFields, induction]

theorem accepts_or_iff {options : List Pattern} :
    accepts graph (.or options) id = true ↔
      ∃ option ∈ options, accepts graph option id = true :=
  acceptsSome_iff

theorem acceptsSomeEntry_iff {options : List Pattern} {entry : EntryId} :
    acceptsSomeEntry graph options entry = true ↔
      ∃ option ∈ options, acceptsEntry graph option entry = true := by
  induction options with
  | nil => simp [acceptsSomeEntry]
  | cons option options induction => simp [acceptsSomeEntry, induction]

theorem acceptsEntry_or_iff {options : List Pattern} {entry : EntryId} :
    acceptsEntry graph (.or options) entry = true ↔
      ∃ option ∈ options, acceptsEntry graph option entry = true :=
  acceptsSomeEntry_iff

theorem acceptsEntry_pair_iff {pair : Pattern × Pattern} {entry : EntryId} :
    acceptsEntry graph (.map [pair]) entry = true ↔
      ∃ stored, graph.entry? entry = some stored ∧
        accepts graph pair.1 stored.key = true ∧
        accepts graph pair.2 stored.value = true := by
  simp [acceptsEntry, acceptsPairs_iff]

theorem accepts_list_iff {items : List Pattern} :
    accepts graph (.list items) id = true ↔
      ∃ ids, graph.value? id = some (.list ids) ∧
        Cuts (accepts graph) items ids := by
  simp only [accepts, ← sequence_succeeds_iff]
  split
  · next ids found => simp [found]
  · next other => simpa using fun ids found => (other ids found).elim

theorem accepts_tuple_iff {items : List Pattern} :
    accepts graph (.tuple items) id = true ↔
      ∃ ids, graph.value? id = some (.tuple ids) ∧
        Cuts (accepts graph) items ids := by
  simp only [accepts, ← sequence_succeeds_iff]
  split
  · next ids found => simp [found]
  · next other => simpa using fun ids found => (other ids found).elim

theorem accepts_set_iff {items : List Pattern} :
    accepts graph (.set items) id = true ↔
      ∃ ids, graph.value? id = some (.set ids) ∧
        ∀ item ∈ items, ∃ id ∈ ids, accepts graph item id = true := by
  simp only [accepts, ← acceptsMembers_iff]
  split
  · next ids found => simp [found]
  · next other => simpa using fun ids found => (other ids found).elim

theorem accepts_map_iff {pairs : List (Pattern × Pattern)} :
    accepts graph (.map pairs) id = true ↔
      ∃ ids, graph.value? id = some (.map ids) ∧
        ∀ pair ∈ pairs, ∃ id ∈ ids, ∃ entry, graph.entry? id = some entry ∧
          accepts graph pair.1 entry.key = true ∧
          accepts graph pair.2 entry.value = true := by
  simp only [accepts, ← acceptsPairs_iff]
  split
  · next ids found => simp [found]
  · next other => simpa using fun ids found => (other ids found).elim

theorem accepts_constr_iff {name : NamePattern} {positional : List Pattern}
    {named : List (NamePattern × Pattern)} :
    accepts graph (.constr name positional named) id = true ↔
      ∃ kind actual ids fields,
        graph.value? id = some (.constr kind actual ids fields) ∧
        name.matchesConstructor kind actual = true ∧
        Cuts (accepts graph) positional ids ∧
        ∀ item ∈ named, ∃ field ∈ fields, item.1.matchesField field.1 = true ∧
          accepts graph item.2 field.2 = true := by
  simp only [accepts, ← acceptsFields_iff, ← sequence_succeeds_iff]
  split
  · next kind actual ids fields found => simp [found, and_assoc]
  · next other =>
      simpa using fun kind actual ids fields found =>
        (other kind actual ids fields found).elim

theorem accepts_regex_iff {expression : RegexPattern} :
    accepts graph (.regex expression) id = true ↔
      ∃ actual, graph.value? id = some (.string actual) ∧
        expression.search actual.plain = true := by
  simp only [accepts]
  split
  · next actual found => simp [found]
  · next other => simpa using fun actual found => (other actual found).elim

theorem accepts_text_iff {part : Text} :
    accepts graph (.text part) id = true ↔
      ∃ actual, graph.value? id = some (.string actual) ∧
        part.isWithin actual.plain = true := by
  simp only [accepts]
  split
  · next actual found => simp [found]
  · next other => simpa using fun actual found => (other actual found).elim

theorem accepts_string_iff {expected : Text} :
    accepts graph (.string expected) id = true ↔
      ∃ actual, graph.value? id = some (.string actual) ∧
        expected.plain = actual.plain := by
  simp only [accepts]
  split
  · next actual found => simp [found]
  · next other => simpa using fun actual found => (other actual found).elim

theorem accepts_number_iff {expected : String} :
    accepts graph (.number expected) id = true ↔
      graph.value? id = some (.number expected) := by
  simp only [accepts]
  split
  · next actual found =>
      simp only [found, beq_iff_eq, Option.some.injEq, Node.number.injEq]
      exact eq_comm
  · next other => simpa using other expected

theorem accepts_boolean_iff {expected : Bool} :
    accepts graph (.boolean expected) id = true ↔
      graph.value? id = some (.boolean expected) := by
  simp only [accepts]
  split
  · next actual found =>
      simp only [found, beq_iff_eq, Option.some.injEq, Node.boolean.injEq]
      exact eq_comm
  · next other => simpa using other expected

theorem accepts_location_iff {expected : Location} :
    accepts graph (.location expected) id = true ↔
      graph.value? id = some (.location expected) := by
  simp only [accepts]
  split
  · next actual found =>
      simp only [found, beq_iff_eq, Option.some.injEq, Node.location.injEq]
      exact eq_comm
  · next other => simpa using other expected

end

section

variable {α β : Type} {related : α → β → Prop} {values : List α}
  {values' : List β}

theorem exists_mem_iff_of_related {property : α → Prop} {property' : β → Prop}
    (all : List.Forall₂ related values values')
    (same : ∀ {value value'}, related value value' →
      (property value ↔ property' value')) :
    (∃ value ∈ values, property value) ↔
      ∃ value' ∈ values', property' value' := by
  induction all with
  | nil => simp
  | cons first _ induction => simp [same first, induction]

private theorem split_of_related {piece rest : List α}
    (all : List.Forall₂ related (piece ++ rest) values') :
    ∃ piece' rest', values' = piece' ++ rest' ∧
      List.Forall₂ related piece piece' ∧ List.Forall₂ related rest rest' := by
  induction piece generalizing values' with
  | nil => exact ⟨[], values', rfl, .nil, all⟩
  | cons value piece induction =>
      cases all with
      | cons first others =>
          obtain ⟨piece', rest', rfl, pieces, rests⟩ := induction others
          exact ⟨_ :: piece', rest', rfl, .cons first pieces, rests⟩

/-- What one way to accept takes by a pattern is taken by another way, for related
values and for related runs in a sequence. -/
structure Carries (related : α → β → Prop) (accepted : Pattern → α → Bool)
    (accepted' : Pattern → β → Bool) (item : Pattern) : Prop where
  one : ∀ {value value'}, related value value' →
    accepted item value = true → accepted' item value' = true
  run : ∀ {values values'}, List.Forall₂ related values values' →
    Piece accepted item values → Piece accepted' item values'

namespace Carries

variable {accepted : Pattern → α → Bool} {accepted' : Pattern → β → Bool}

theorem single {item : Pattern} (takesOne : item.takesOne = true)
    (one : ∀ {value value'}, related value value' →
      accepted item value = true → accepted' item value' = true) :
    Carries related accepted accepted' item := by
  refine ⟨one, ?_⟩
  intro values values' all
  rw [piece_single_iff takesOne, piece_single_iff takesOne]
  intro lone
  obtain ⟨value, rfl, takes⟩ := lone
  obtain ⟨value', _, first, others, rfl⟩ := List.forall₂_cons_left_iff.mp all
  cases others
  exact ⟨value', rfl, one first takes⟩

theorem or {options : List Pattern}
    (some : ∀ {value value'}, related value value' →
      accepted (.or options) value = true →
        accepted' (.or options) value' = true)
    (each : ∀ option ∈ options, Carries related accepted accepted' option) :
    Carries related accepted accepted' (.or options) := by
  refine ⟨some, ?_⟩
  intro values values' all
  rw [piece_or_iff, piece_or_iff]
  intro taken
  obtain ⟨option, member, taken⟩ := taken
  exact ⟨option, member, (each option member).run all taken⟩

theorem repeated {inner : Pattern}
    (alone : ∀ {value value'}, related value value' →
      accepted (.repeated inner) value = true →
        accepted' (.repeated inner) value' = true)
    (carries : Carries related accepted accepted' inner) :
    Carries related accepted accepted' (.repeated inner) := by
  refine ⟨alone, ?_⟩
  intro values values' all
  rw [piece_repeated_iff, piece_repeated_iff]
  intro every
  induction all with
  | nil => exact List.forall_mem_nil _
  | cons first _ induction =>
      obtain ⟨takes, others⟩ := List.forall_mem_cons.mp every
      exact List.forall_mem_cons.mpr ⟨carries.one first takes, induction others⟩

/-- What is carried over for every pattern of a sequence is carried over for the
sequence. -/
theorem cuts {items : List Pattern}
    (each : ∀ item ∈ items, Carries related accepted accepted' item)
    (all : List.Forall₂ related values values')
    (cut : Cuts accepted items values) : Cuts accepted' items values' := by
  induction items generalizing values values' with
  | nil =>
      rw [cuts_nil_iff] at cut ⊢
      subst cut
      exact List.forall₂_nil_left_iff.mp all
  | cons item items induction =>
      obtain ⟨first, others⟩ := List.forall_mem_cons.mp each
      rw [cuts_cons_iff] at cut ⊢
      obtain ⟨piece, rest, rfl, taken, cut⟩ := cut
      obtain ⟨piece', rest', rfl, pieces, rests⟩ := split_of_related all
      exact ⟨piece', rest', rfl, first.run pieces taken,
        induction others rests cut⟩

end Carries

/-- Two ways to accept agree on a pattern, for related values and for related
runs in a sequence. -/
structure Agrees (related : α → β → Prop) (accepted : Pattern → α → Bool)
    (accepted' : Pattern → β → Bool) (item : Pattern) : Prop where
  one : ∀ {value value'}, related value value' →
    (accepted item value = true ↔ accepted' item value' = true)
  run : ∀ {values values'}, List.Forall₂ related values values' →
    (Piece accepted item values ↔ Piece accepted' item values')

namespace Agrees

variable {accepted : Pattern → α → Bool} {accepted' : Pattern → β → Bool}

theorem forward {item : Pattern} (agrees : Agrees related accepted accepted' item) :
    Carries related accepted accepted' item :=
  ⟨fun first => (agrees.one first).mp, fun all => (agrees.run all).mp⟩

theorem backward {item : Pattern}
    (agrees : Agrees related accepted accepted' item) :
    Carries (flip related) accepted' accepted item :=
  ⟨fun first => (agrees.one first).mpr, fun all => (agrees.run all.flip).mpr⟩

theorem of_carries {item : Pattern}
    (forward : Carries related accepted accepted' item)
    (backward : Carries (flip related) accepted' accepted item) :
    Agrees related accepted accepted' item :=
  ⟨fun first => ⟨forward.one first, backward.one first⟩,
    fun all => ⟨forward.run all, backward.run all.flip⟩⟩

theorem single {item : Pattern} (takesOne : item.takesOne = true)
    (one : ∀ {value value'}, related value value' →
      (accepted item value = true ↔ accepted' item value' = true)) :
    Agrees related accepted accepted' item :=
  of_carries (.single takesOne fun first => (one first).mp)
    (.single takesOne fun first => (one first).mpr)

theorem or {options : List Pattern}
    (some : ∀ {value value'}, related value value' →
      (accepted (.or options) value = true ↔
        accepted' (.or options) value' = true))
    (each : ∀ option ∈ options, Agrees related accepted accepted' option) :
    Agrees related accepted accepted' (.or options) :=
  of_carries
    (.or (fun first => (some first).mp) fun option member =>
      (each option member).forward)
    (.or (fun first => (some first).mpr) fun option member =>
      (each option member).backward)

theorem repeated {inner : Pattern}
    (alone : ∀ {value value'}, related value value' →
      (accepted (.repeated inner) value = true ↔
        accepted' (.repeated inner) value' = true))
    (agrees : Agrees related accepted accepted' inner) :
    Agrees related accepted accepted' (.repeated inner) :=
  of_carries (.repeated (fun first => (alone first).mp) agrees.forward)
    (.repeated (fun first => (alone first).mpr) agrees.backward)

/-- Agreement on every pattern of a sequence is agreement on the sequence. -/
theorem cuts {items : List Pattern}
    (each : ∀ item ∈ items, Agrees related accepted accepted' item)
    (all : List.Forall₂ related values values') :
    Cuts accepted items values ↔ Cuts accepted' items values' :=
  ⟨Carries.cuts (fun item member => (each item member).forward) all,
    Carries.cuts (fun item member => (each item member).backward) all.flip⟩

end Agrees

end

end Pattern

end TreeQuery
