import TreeQuery.Proofs.Matching.Monotone
import TreeQuery.Proofs.Pattern.Literal
import TreeQuery.Proofs.Value.Respelled
import TreeQuery.Proofs.Value.RoundTrip

/-!
# Matching a value by its own notation

The pattern that is written like a value matches the value: in sequences every
pattern takes the value at its place, and a member, an entry or a named child
serves the pattern made from it.  What was respelled holds no less, so it matches
too.
-/

namespace TreeQuery

namespace Pattern

theorem takesOne_literal (value : Value) : value.literal.takesOne = true := by
  cases value <;> rfl

/-- Patterns that each take one value cut the values one by one. -/
theorem cuts_of_forall₂ {α : Type} {accepted : Pattern → α → Bool}
    {items : List Pattern} {values : List α}
    (all : List.Forall₂ (fun item value => item.takesOne = true ∧
      accepted item value = true) items values) :
    Cuts accepted items values := by
  induction all with
  | nil => exact cuts_nil_iff.mpr rfl
  | @cons item value items values first _ induction =>
      exact cuts_cons_iff.mpr
        ⟨[value], values, rfl, .one first.1 first.2, induction⟩

theorem cuts_literal {values : List Value}
    (each : ∀ value ∈ values, value.literal.acceptsTree value = true) :
    Cuts acceptsTree (Value.literalItems values) values := by
  rw [Value.literalItems_eq_map]
  refine cuts_of_forall₂ (List.forall₂_map_left_iff.mpr ?_)
  exact List.forall₂_same.mpr fun value member =>
    ⟨takesOne_literal value, each value member⟩

mutual

/-- A value is matched by the pattern with the same parts. -/
theorem acceptsTree_literal (value : Value) :
    value.literal.acceptsTree value = true := by
  match value with
  | .map entries =>
      rw [Value.literal, acceptsTree_map_iff, Value.literalEntries_eq_map]
      refine ⟨entries, rfl, List.forall_mem_map.mpr ?_⟩
      intro entry member
      exact ⟨entry, member, acceptsTree_literalEntries entries entry member⟩
  | .list items =>
      rw [Value.literal, acceptsTree_list_iff]
      exact ⟨items, rfl, cuts_literal (acceptsTree_literalItems items)⟩
  | .set items =>
      rw [Value.literal, acceptsTree_set_iff, Value.literalItems_eq_map]
      refine ⟨items, rfl, List.forall_mem_map.mpr ?_⟩
      intro item member
      exact ⟨item, member, acceptsTree_literalItems items item member⟩
  | .tuple items =>
      rw [Value.literal, acceptsTree_tuple_iff]
      exact ⟨items, rfl, cuts_literal (acceptsTree_literalItems items)⟩
  | .constr kind name positional named =>
      rw [Value.literal, acceptsTree_constr_iff, Value.literalFields_eq_map]
      refine ⟨kind, name, positional, named, rfl, ?_,
        cuts_literal (acceptsTree_literalItems positional),
        List.forall_mem_map.mpr ?_⟩
      · cases kind <;> simp [Value.literalName, NamePattern.matchesConstructor]
      · intro field member
        exact ⟨field, member, beq_self_eq_true field.1,
          acceptsTree_literalFields named field member⟩
  | .string _ | .number _ | .boolean _ | .location _ =>
      simp [Value.literal, acceptsTree]
termination_by structural value

theorem acceptsTree_literalItems (items : List Value) :
    ∀ item ∈ items, item.literal.acceptsTree item = true := by
  match items with
  | [] => exact List.forall_mem_nil _
  | item :: items =>
      exact List.forall_mem_cons.mpr
        ⟨acceptsTree_literal item, acceptsTree_literalItems items⟩
termination_by structural items

theorem acceptsTree_literalEntries (entries : List (Value × Value)) :
    ∀ entry ∈ entries, entry.1.literal.acceptsTree entry.1 = true ∧
      entry.2.literal.acceptsTree entry.2 = true := by
  match entries with
  | [] => exact List.forall_mem_nil _
  | entry :: entries =>
      exact List.forall_mem_cons.mpr
        ⟨acceptsTree_literalEntry entry, acceptsTree_literalEntries entries⟩
termination_by structural entries

theorem acceptsTree_literalEntry (entry : Value × Value) :
    entry.1.literal.acceptsTree entry.1 = true ∧
      entry.2.literal.acceptsTree entry.2 = true := by
  match entry with
  | (key, value) => exact ⟨acceptsTree_literal key, acceptsTree_literal value⟩
termination_by structural entry

theorem acceptsTree_literalFields (fields : List (String × Value)) :
    ∀ field ∈ fields, field.2.literal.acceptsTree field.2 = true := by
  match fields with
  | [] => exact List.forall_mem_nil _
  | (name, value) :: fields =>
      exact List.forall_mem_cons.mpr
        ⟨acceptsTree_literal value, acceptsTree_literalFields fields⟩
termination_by structural fields

end

/-- What was read as a value is read as its literal pattern, whichever
expressions can be read. -/
theorem readWith_of_read {source : String} {value : Value}
    (result : Value.read source = .ok value) (readRegex : RegexReader) :
    readWith readRegex source = .ok value.literal :=
  (readWith_eq_ok_iff_literal (arePlain_of_read result)).mpr
    ⟨value, rfl, result⟩

/-- A text that is read as a value is read as a pattern too, and so is the
written form of the value.  Both patterns match the handle of the value, and the
handle of any value that is respelled from it, in whatever run these were
interned. -/
theorem accepts_own_notation {source : String} {value : Value}
    (result : Value.read source = .ok value) (readRegex : RegexReader) :
    ∃ pattern pattern', readWith readRegex source = .ok pattern ∧
      readWith readRegex value.text = .ok pattern' ∧
      ∀ {interner : Interner}, interner.graph.size ≤ UInt32.size →
        ∀ {other : Value} {id : ValueId}, interner.Returned other id →
          (other = value ∨ value.Respelled other) →
            pattern.accepts interner.graph id = true ∧
              pattern'.accepts interner.graph id = true := by
  have again : Value.read value.text = .ok value :=
    Value.read_of_wellFormed (Value.wellFormed_of_read result)
  refine ⟨value.literal, value.literal, readWith_of_read result readRegex,
    readWith_of_read again readRegex, ?_⟩
  intro interner room other id returned spelled
  have below : value.Below other := by
    rcases spelled with rfl | respelled
    · exact Value.below_refl other
    · exact respelled.below
  have accepted : value.literal.accepts interner.graph id = true := by
    rw [accepts_of_denotes (returned.denotes room)]
    exact (carries_below value.literal).one below (acceptsTree_literal value)
  exact ⟨accepted, accepted⟩

/-- One name is given to two children.  The handle is that of a value that has
them the other way round and a character escaped, behind another value. -/
theorem accepts_own_notation_swapped :
    let source := "f([\"a\",], k=1, k=true)"
    let value := Value.constr .identifier "f"
      [.list [.string ⟨[.raw ['a']]⟩]] [("k", .number "1"), ("k", .boolean true)]
    let other := Value.constr .identifier "f"
      [.list [.string ⟨[.escaped 'a']⟩]]
      [("k", .boolean true), ("k", .number "1")]
    let early := (Interner.empty.intern (.set [.boolean true])).2
    let interner := (early.intern other).2
    let id := (early.intern other).1
    Value.read source = .ok value ∧ interner.graph.size ≤ UInt32.size ∧
      interner.Returned other id ∧ value.Respelled other ∧
      ∃ pattern pattern', Pattern.read source = .ok pattern ∧
        Pattern.read value.text = .ok pattern' ∧
        pattern.accepts interner.graph id = true ∧
        pattern'.accepts interner.graph id = true := by
  intro source value other early interner id
  have result : Value.read source = .ok value := by
    decide +kernel
  have count : interner.graph.size = 6 := by
    simp only [interner, early, other]
    cbv
  have room : interner.graph.size ≤ UInt32.size := by
    rw [count]
    decide
  have returned : interner.Returned other id :=
    ⟨early, Interner.intern_run _ _, rfl, .refl⟩
  have respelled : value.Respelled other :=
    ⟨rfl, rfl, ⟨⟨rfl, trivial⟩, trivial⟩,
      [("k", .number "1"), ("k", .boolean true)],
      ⟨rfl, rfl, rfl, rfl, trivial⟩, .swap _ _ []⟩
  obtain ⟨pattern, pattern', resultOfSource, resultOfText, matching⟩ :=
    accepts_own_notation result Pattern.regexReader
  exact ⟨result, room, returned, respelled, pattern, pattern', resultOfSource,
    resultOfText, matching room returned (.inr respelled)⟩

end Pattern

end TreeQuery
