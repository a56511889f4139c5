import TreeQuery.Proofs.Graph.Handles
import TreeQuery.Proofs.Matching.Acceptance

/-!
# Matching trees

`acceptsTree` matches a pattern with a value itself, without graph, sharing and
table of failures.  A pattern accepts a handle exactly when it accepts the value
that was interned under it, so the history of the interner and the order of
named children have no influence on matching.
-/

namespace TreeQuery

namespace Pattern

/-- Give a repetition some run of the first values and the others to `rest`. -/
def someRun (accepted : Value → Bool) (rest : List Value → Bool) :
    List Value → Bool
  | [] => rest []
  | value :: values =>
      rest (value :: values) ||
        accepted value && someRun accepted rest values

mutual

/-- Does the pattern match the value? -/
def acceptsTree : Pattern → Value → Bool
  | any, _ => true
  | or options, value => acceptsTreeSome options value
  | repeated _, _ => false
  | regex expression, .string actual => expression.search actual.plain
  | text part, .string actual => part.isWithin actual.plain
  | map pairs, .map entries => acceptsTreePairs pairs entries
  | list items, .list values => sequenceTree items values
  | set items, .set values => acceptsTreeMembers items values
  | tuple items, .tuple values => sequenceTree items values
  | constr name positional named, .constr kind actual values fields =>
      name.matchesConstructor kind actual &&
        sequenceTree positional values &&
        acceptsTreeFields named fields
  | string expected, .string actual => expected.plain == actual.plain
  | number expected, .number digits => expected == digits
  | boolean expected, .boolean truth => expected == truth
  | location expected, .location place => expected == place
  | _, _ => false
termination_by structural pattern => pattern

def acceptsTreeSome : List Pattern → Value → Bool
  | [], _ => false
  | option :: options, value =>
      acceptsTree option value || acceptsTreeSome options value
termination_by structural options => options

/-- Each pattern matches some of the values. -/
def acceptsTreeMembers : List Pattern → List Value → Bool
  | [], _ => true
  | item :: items, values =>
      values.any (acceptsTree item) && acceptsTreeMembers items values
termination_by structural items => items

/-- Each pair matches some of the entries. -/
def acceptsTreePairs : List (Pattern × Pattern) → List (Value × Value) → Bool
  | [], _ => true
  | (key, value) :: pairs, entries =>
      (entries.any fun entry =>
        acceptsTree key entry.1 && acceptsTree value entry.2) &&
        acceptsTreePairs pairs entries
termination_by structural pairs => pairs

/-- Each named pattern matches some of the named children. -/
def acceptsTreeFields :
    List (NamePattern × Pattern) → List (String × Value) → Bool
  | [], _ => true
  | (name, item) :: named, fields =>
      (fields.any fun field =>
        name.matchesField field.1 && acceptsTree item field.2) &&
        acceptsTreeFields named fields
termination_by structural named => named

/-- Match all values against all patterns, in order. -/
def sequenceTree : List Pattern → List Value → Bool
  | [], values => values.isEmpty
  | item :: items, values =>
      elementTree item (acceptsTree item) (sequenceTree items) values
termination_by structural items => items

/-- Match the first values against one pattern and the others by `rest`. -/
def elementTree :
    Pattern → (accepted : Value → Bool) → (rest : List Value → Bool) →
      List Value → Bool
  | or options, _, rest, values => someElementTree options rest values
  | repeated inner, _, rest, values => someRun (acceptsTree inner) rest values
  | _, accepted, rest, value :: values => accepted value && rest values
  | _, _, _, [] => false
termination_by structural pattern => pattern

def someElementTree :
    List Pattern → (rest : List Value → Bool) → List Value → Bool
  | [], _, _ => false
  | option :: options, rest, values =>
      elementTree option (acceptsTree option) rest values ||
        someElementTree options rest values
termination_by structural options => options

end

theorem acceptsTreeSome_iff {options : List Pattern} {value : Value} :
    acceptsTreeSome options value = true ↔
      ∃ option ∈ options, acceptsTree option value = true := by
  induction options with
  | nil => simp [acceptsTreeSome]
  | cons option options induction => simp [acceptsTreeSome, induction]

theorem acceptsTree_or_iff {options : List Pattern} {value : Value} :
    acceptsTree (.or options) value = true ↔
      ∃ option ∈ options, acceptsTree option value = true := by
  rw [acceptsTree, acceptsTreeSome_iff]

theorem someRun_iff {accepted : Value → Bool} {rest : List Value → Bool}
    {values : List Value} :
    someRun accepted rest values = true ↔
      ∃ run others, values = run ++ others ∧
        (∀ value ∈ run, accepted value = true) ∧ rest others = true := by
  induction values with
  | nil => simp [someRun]
  | cons value values induction =>
      simp only [someRun, Bool.or_eq_true, Bool.and_eq_true, induction]
      constructor
      · intro found
        rcases found with stops | ⟨takes, run, others, rfl, every, goes⟩
        · exact ⟨[], _, rfl, List.forall_mem_nil _, stops⟩
        · exact ⟨value :: run, others, rfl,
            List.forall_mem_cons.mpr ⟨takes, every⟩, goes⟩
      · intro cut
        obtain ⟨run, others, split, every, goes⟩ := cut
        cases run with
        | nil =>
            obtain rfl : value :: values = others := split
            exact .inl goes
        | cons first run =>
            obtain ⟨rfl, rfl⟩ := List.cons.inj split
            obtain ⟨takes, every⟩ := List.forall_mem_cons.mp every
            exact .inr ⟨takes, run, others, rfl, every, goes⟩

theorem someElementTree_iff {options : List Pattern}
    {rest : List Value → Bool} {values : List Value} :
    someElementTree options rest values = true ↔
      ∃ option ∈ options,
        elementTree option (acceptsTree option) rest values = true := by
  induction options with
  | nil => simp [someElementTree]
  | cons option options induction => simp [someElementTree, induction]

theorem elementTree_of_takesOne {item : Pattern} {accepted : Value → Bool}
    {rest : List Value → Bool} {values : List Value}
    (single : item.takesOne = true) :
    elementTree item accepted rest values = true ↔
      ∃ value others, values = value :: others ∧ accepted value = true ∧
        rest others = true := by
  cases values with
  | nil => cases item <;> simp_all [elementTree, takesOne]
  | cons value others => cases item <;> simp_all [elementTree, takesOne]

/-- An element takes a piece of the values and leaves the others to the rest. -/
theorem elementTree_iff {item : Pattern} {rest : List Value → Bool}
    {values : List Value} :
    elementTree item (acceptsTree item) rest values = true ↔
      ∃ piece others, values = piece ++ others ∧
        Piece acceptsTree item piece ∧ rest others = true := by
  have one (item : Pattern) (single : item.takesOne = true) :
      elementTree item (acceptsTree item) rest values = true ↔
        ∃ piece others, values = piece ++ others ∧
          Piece acceptsTree item piece ∧ rest others = true := by
    rw [elementTree_of_takesOne single]
    simp only [piece_single_iff single]
    constructor
    · intro first
      obtain ⟨value, others, rfl, takes, goes⟩ := first
      exact ⟨[value], others, rfl, ⟨value, rfl, takes⟩, goes⟩
    · intro piece
      obtain ⟨_, others, rfl, ⟨value, rfl, takes⟩, goes⟩ := piece
      exact ⟨value, others, rfl, takes, goes⟩
  induction item using nestedInduction with
  | or options each =>
      simp only [elementTree, someElementTree_iff, piece_or_iff]
      constructor
      · intro found
        obtain ⟨option, member, found⟩ := found
        obtain ⟨piece, others, split, taken, goes⟩ :=
          (each option member).mp found
        exact ⟨piece, others, split, ⟨option, member, taken⟩, goes⟩
      · intro found
        obtain ⟨piece, others, split, ⟨option, member, taken⟩, goes⟩ := found
        exact ⟨option, member,
          (each option member).mpr ⟨piece, others, split, taken, goes⟩⟩
  | repeated inner =>
      simp only [elementTree, someRun_iff, piece_repeated_iff]
  | _ => exact one _ rfl

theorem sequenceTree_iff {items : List Pattern} {values : List Value} :
    sequenceTree items values = true ↔ Cuts acceptsTree items values := by
  induction items generalizing values with
  | nil => rw [sequenceTree, cuts_nil_iff, List.isEmpty_iff]
  | cons item items induction =>
      simp only [sequenceTree, elementTree_iff, cuts_cons_iff, induction]

theorem acceptsTreeMembers_iff {items : List Pattern} {values : List Value} :
    acceptsTreeMembers items values = true ↔
      ∀ item ∈ items, ∃ value ∈ values, acceptsTree item value = true := by
  induction items with
  | nil => simp [acceptsTreeMembers]
  | cons item items induction => simp [acceptsTreeMembers, induction]

theorem acceptsTreePairs_iff {pairs : List (Pattern × Pattern)}
    {entries : List (Value × Value)} :
    acceptsTreePairs pairs entries = true ↔
      ∀ pair ∈ pairs, ∃ entry ∈ entries, acceptsTree pair.1 entry.1 = true ∧
        acceptsTree pair.2 entry.2 = true := by
  induction pairs with
  | nil => simp [acceptsTreePairs]
  | cons pair pairs induction => simp [acceptsTreePairs, induction]

theorem acceptsTreeFields_iff {named : List (NamePattern × Pattern)}
    {fields : List (String × Value)} :
    acceptsTreeFields named fields = true ↔
      ∀ item ∈ named, ∃ field ∈ fields, item.1.matchesField field.1 = true ∧
        acceptsTree item.2 field.2 = true := by
  induction named with
  | nil => simp [acceptsTreeFields]
  | cons item named induction => simp [acceptsTreeFields, induction]

section

variable {value : Value}

theorem acceptsTree_list_iff {items : List Pattern} :
    acceptsTree (.list items) value = true ↔
      ∃ values, value = .list values ∧ Cuts acceptsTree items values := by
  cases value <;> simp [acceptsTree, sequenceTree_iff]

theorem acceptsTree_tuple_iff {items : List Pattern} :
    acceptsTree (.tuple items) value = true ↔
      ∃ values, value = .tuple values ∧ Cuts acceptsTree items values := by
  cases value <;> simp [acceptsTree, sequenceTree_iff]

theorem acceptsTree_set_iff {items : List Pattern} :
    acceptsTree (.set items) value = true ↔
      ∃ values, value = .set values ∧
        ∀ item ∈ items, ∃ value ∈ values, acceptsTree item value = true := by
  cases value <;> simp [acceptsTree, acceptsTreeMembers_iff]

theorem acceptsTree_map_iff {pairs : List (Pattern × Pattern)} :
    acceptsTree (.map pairs) value = true ↔
      ∃ entries, value = .map entries ∧
        ∀ pair ∈ pairs, ∃ entry ∈ entries,
          acceptsTree pair.1 entry.1 = true ∧
          acceptsTree pair.2 entry.2 = true := by
  cases value <;> simp [acceptsTree, acceptsTreePairs_iff]

theorem acceptsTree_constr_iff {name : NamePattern} {positional : List Pattern}
    {named : List (NamePattern × Pattern)} :
    acceptsTree (.constr name positional named) value = true ↔
      ∃ kind actual values fields, value = .constr kind actual values fields ∧
        name.matchesConstructor kind actual = true ∧
        Cuts acceptsTree positional values ∧
        ∀ item ∈ named, ∃ field ∈ fields, item.1.matchesField field.1 = true ∧
          acceptsTree item.2 field.2 = true := by
  cases value <;>
    simp [acceptsTree, acceptsTreeFields_iff, sequenceTree_iff, and_assoc]

end

section

variable {graph : Graph}

/-- Matching a handle and matching the value it denotes agree on every
pattern. -/
theorem agrees (item : Pattern) :
    Agrees graph.Denotes (accepts graph) acceptsTree item := by
  induction item using nestedInduction with
  | any =>
      apply Agrees.single rfl
      intro id value denotes
      obtain ⟨node, found⟩ := denotes.resolves
      simp [accepts, acceptsTree, found]
  | or options each =>
      refine Agrees.or ?_ each
      intro id value denotes
      rw [accepts_or_iff, acceptsTree_or_iff]
      exact exists_congr fun option =>
        and_congr_right fun member => (each option member).one denotes
  | repeated inner agrees =>
      exact .repeated (fun _ => by simp [accepts, acceptsTree]) agrees
  | regex expression =>
      apply Agrees.single rfl
      intro id value denotes
      simp only [accepts_regex_iff, denotes.string_iff]
      cases value <;> simp [acceptsTree]
  | text part =>
      apply Agrees.single rfl
      intro id value denotes
      simp only [accepts_text_iff, denotes.string_iff]
      cases value <;> simp [acceptsTree]
  | string expected =>
      apply Agrees.single rfl
      intro id value denotes
      simp only [accepts_string_iff, denotes.string_iff]
      cases value <;> simp [acceptsTree]
  | number expected =>
      apply Agrees.single rfl
      intro id value denotes
      rw [accepts_number_iff, denotes.number_iff, eq_comm]
      cases value <;> simp [acceptsTree]
  | boolean expected =>
      apply Agrees.single rfl
      intro id value denotes
      rw [accepts_boolean_iff, denotes.boolean_iff, eq_comm]
      cases value <;> simp [acceptsTree]
  | location expected =>
      apply Agrees.single rfl
      intro id value denotes
      rw [accepts_location_iff, denotes.location_iff, eq_comm]
      cases value <;> simp [acceptsTree]
  | list items each =>
      apply Agrees.single rfl
      intro id value denotes
      rw [accepts_list_iff, acceptsTree_list_iff]
      apply denotes.exists_list_iff
      intro ids values children
      exact Agrees.cuts each (Graph.denotesItems_iff_forall₂.mp children)
  | tuple items each =>
      apply Agrees.single rfl
      intro id value denotes
      rw [accepts_tuple_iff, acceptsTree_tuple_iff]
      apply denotes.exists_tuple_iff
      intro ids values children
      exact Agrees.cuts each (Graph.denotesItems_iff_forall₂.mp children)
  | set items each =>
      apply Agrees.single rfl
      intro id value denotes
      rw [accepts_set_iff, acceptsTree_set_iff]
      apply denotes.exists_set_iff
      intro ids values children
      rw [Graph.denotesItems_iff_forall₂] at children
      exact forall₂_congr fun item member =>
        exists_mem_iff_of_related children (each item member).one
  | map pairs each =>
      apply Agrees.single rfl
      intro id value denotes
      rw [accepts_map_iff, acceptsTree_map_iff]
      apply denotes.exists_map_iff
      intro ids entries children
      rw [Graph.denotesEntries_iff_forall₂] at children
      refine forall₂_congr fun pair member => ?_
      apply exists_mem_iff_of_related children
      intro id entry denotesEntry
      obtain ⟨key, item⟩ := entry
      obtain ⟨stored, found, denotesKey, denotesValue⟩ := denotesEntry
      obtain ⟨agreesKey, agreesValue⟩ := each pair member
      simp [found, agreesKey.one denotesKey, agreesValue.one denotesValue]
  | constr name positional named each eachField =>
      apply Agrees.single rfl
      intro id value denotes
      rw [accepts_constr_iff, acceptsTree_constr_iff]
      apply denotes.exists_constr_iff
      intro kind actual ids stored values fields children arranged order others
      rw [Graph.denotesItems_iff_forall₂] at children
      rw [Graph.denotesFields_iff_forall₂] at others
      refine and_congr_right fun _ => and_congr (Agrees.cuts each children) ?_
      refine forall₂_congr fun item member => ?_
      simp only [order.mem_iff]
      apply exists_mem_iff_of_related others
      intro id field denotesField
      obtain ⟨sameName, denotesValue⟩ := denotesField
      rw [sameName, (eachField item member).one denotesValue]

theorem accepts_of_denotes {id : ValueId} {value : Value}
    (denotes : graph.Denotes id value) (pattern : Pattern) :
    pattern.accepts graph id = pattern.acceptsTree value :=
  Bool.eq_iff_iff.mpr ((agrees pattern).one denotes)

end

/-- In whatever run a value was interned, a pattern matches its handle exactly
when it matches the value.  So the answer is one for all values that are the
same, in any two runs. -/
theorem accepts_returned_eq_acceptsTree {interner interner' : Interner}
    (room : interner.graph.size ≤ UInt32.size)
    (room' : interner'.graph.size ≤ UInt32.size) :
    (∀ {value id}, interner.Returned value id → ∀ pattern : Pattern,
      pattern.accepts interner.graph id = pattern.acceptsTree value) ∧
    ∀ {value value' id id'}, interner.Returned value id →
      interner'.Returned value' id' → value.Same value' →
        ∀ pattern : Pattern, pattern.accepts interner.graph id =
          pattern.accepts interner'.graph id' := by
  constructor
  · intro value id returned pattern
    exact accepts_of_denotes (returned.denotes room) pattern
  · intro value value' id id' returned returned' same pattern
    have denotes := (returned.denotes room).ofSame same
    rw [accepts_of_denotes denotes,
      accepts_of_denotes (returned'.denotes room')]

theorem accepts_returned_eq_acceptsTree_swapped :
    let left := Value.constr .identifier "f" [.list [.number "1"]]
      [("a", .number "1"), ("b", .boolean true)]
    let right := Value.constr .identifier "f" [.list [.number "1"]]
      [("b", .boolean true), ("a", .number "1")]
    let pattern := Pattern.constr (.identifier "f")
      [.or [.repeated .any, .number "1"]] [(.identifier "a", .number "1")]
    let first := Interner.empty.intern left
    let early := Interner.empty.intern (.list [.boolean true])
    let second := early.2.intern right
    first.2.graph.size ≤ UInt32.size ∧ second.2.graph.size ≤ UInt32.size ∧
      first.2.Returned left first.1 ∧ second.2.Returned right second.1 ∧
      left.Same right ∧ pattern.accepts first.2.graph first.1 = true ∧
      pattern.accepts second.2.graph second.1 = true := by
  intro left right pattern first early second
  have count : first.2.graph.size = 4 := by
    simp only [first, left]
    cbv
  have count' : second.2.graph.size = 5 := by
    simp only [second, early, right]
    cbv
  have room : first.2.graph.size ≤ UInt32.size := by
    rw [count]
    decide
  have room' : second.2.graph.size ≤ UInt32.size := by
    rw [count']
    decide
  have returned : first.2.Returned left first.1 :=
    ⟨.empty, .refl, rfl, .refl⟩
  have returned' : second.2.Returned right second.1 :=
    ⟨early.2, Interner.intern_run _ _, rfl, .refl⟩
  have same : left.Same right := by
    refine ⟨rfl, rfl, ⟨⟨rfl, trivial⟩, trivial⟩,
      [("a", .number "1"), ("b", .boolean true)], ?_, .swap _ _ []⟩
    exact ⟨rfl, rfl, rfl, rfl, trivial⟩
  have exact := accepts_returned_eq_acceptsTree room room'
  have matched : pattern.acceptsTree left = true := by
    simp only [pattern, left]
    cbv
  have accepted : pattern.accepts first.2.graph first.1 = true :=
    (exact.1 returned pattern).trans matched
  have accepted' : pattern.accepts second.2.graph second.1 = true :=
    (exact.2 returned returned' same pattern).symm.trans accepted
  exact ⟨room, room', returned, returned', same, accepted, accepted'⟩

end Pattern

end TreeQuery
