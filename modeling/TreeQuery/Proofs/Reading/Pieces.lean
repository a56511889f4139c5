import TreeQuery.Proofs.Reading.Tolerance

/-!
# What words are made of

The words of lists, entries, arguments and locations, taken apart into the pieces
that derivations are about.
-/

namespace TreeQuery.Reading

section

variable {dialect : Dialect} {first second item : Language Token}
  {word tokens : List Token}

theorem exists_separated {separator : Token.Kind}
    (member : word ∈ first * ofKinds [separator] * second) :
    ∃ left found right, word = left ++ found :: right ∧ found.kind = separator ∧
      left ∈ first ∧ right ∈ second := by
  obtain ⟨_, ⟨left, begun, _, ⟨found, rfl, known⟩, rfl⟩, right, ended, rfl⟩ :=
    member
  exact ⟨left, found, right, by simp, List.mem_singleton.mp known, begun, ended⟩

theorem exists_between {opening closing : Token.Kind}
    (member : word ∈ ofKinds [opening] * item * ofKinds [closing]) :
    ∃ start inner stop, word = start :: (inner ++ [stop]) ∧
      start.kind = opening ∧ stop.kind = closing ∧ inner ∈ item := by
  obtain ⟨_, ⟨_, ⟨start, rfl, known⟩, inner, inside, rfl⟩, _,
    ⟨stop, rfl, known'⟩, rfl⟩ := member
  exact ⟨start, inner, stop, by simp, List.mem_singleton.mp known,
    List.mem_singleton.mp known', inside⟩

theorem exists_enclosed {opening closing : Token.Kind}
    (member : word ∈ enclosed opening closing item) :
    ∃ pieces, Enclosed opening closing pieces word ∧
      ∀ piece ∈ pieces, piece ∈ item := by
  obtain ⟨start, inner, stop, rfl, opens, closes, pieces, listed, each⟩ :=
    exists_between member
  exact ⟨pieces, ⟨start, inner, stop, rfl, opens, closes, listed⟩, each⟩

/-- A list goes on behind its first piece. -/
theorem Listed.cons {pieces : List (List Token)} {comma : Token}
    (listed : Listed pieces tokens) (kind : comma.kind = .comma)
    (piece : List Token) : Listed (piece :: pieces) (piece ++ comma :: tokens) := by
  cases pieces with
  | nil =>
      cases listed
      exact .trailing piece kind
  | cons next pieces => exact .more piece kind listed

theorem Chained.subset {separator : Token.Kind} {pieces : List (List Token)}
    (chained : Chained separator pieces tokens) :
    ∀ piece ∈ pieces, piece ⊆ tokens := by
  induction chained with
  | last piece => simp
  | more piece _ _ induction =>
      refine List.forall_mem_cons.mpr ⟨List.subset_append_left _ _, ?_⟩
      intro other later
      apply List.subset_append_of_subset_right
      exact List.subset_cons_of_subset _ (induction other later)

/-- Where nothing is excused, positional arguments come first. -/
theorem Ordered.exists_pieces {before : Bool}
    (ordered : Ordered Nothing dialect item before tokens) :
    ∃ pieces fieldPieces, Listed (pieces ++ fieldPieces) tokens ∧
      (∀ piece ∈ pieces, piece ∈ item) ∧
      (∀ piece ∈ fieldPieces, piece ∈ field dialect item) ∧
      (before = true → pieces = []) := by
  induction ordered with
  | empty before =>
      exact ⟨[], [], .empty, List.forall_mem_nil _, List.forall_mem_nil _,
        fun _ => rfl⟩
  | @last before after word placed =>
      cases placed with
      | field member =>
          exact ⟨[], [word], .last word, List.forall_mem_nil _,
            List.forall_mem_singleton.mpr member, fun _ => rfl⟩
      | positional member =>
          exact ⟨[word], [], .last word, List.forall_mem_singleton.mpr member,
            List.forall_mem_nil _, nofun⟩
      | offending none => exact none.elim
  | @more before after word rest comma placed kind _ induction =>
      obtain ⟨pieces, fieldPieces, listed, items, fields, none⟩ := induction
      cases placed with
      | field member =>
          obtain rfl := none rfl
          exact ⟨[], word :: fieldPieces, listed.cons kind word, items,
            List.forall_mem_cons.mpr ⟨member, fields⟩, fun _ => rfl⟩
      | positional member =>
          exact ⟨word :: pieces, fieldPieces, listed.cons kind word,
            List.forall_mem_cons.mpr ⟨member, items⟩, fields, nofun⟩
      | offending excused => exact excused.elim

theorem exists_arguments (member : word ∈ tolerant Nothing dialect item) :
    ∃ pieces fieldPieces,
      Enclosed .openParen .closeParen (pieces ++ fieldPieces) word ∧
      (∀ piece ∈ pieces, piece ∈ item) ∧
      ∀ piece ∈ fieldPieces, piece ∈ field dialect item := by
  obtain ⟨start, inner, stop, rfl, opens, closes, ordered⟩ :=
    exists_between member
  obtain ⟨pieces, fieldPieces, listed, items, fields, -⟩ :=
    Ordered.exists_pieces ordered
  exact ⟨pieces, fieldPieces, ⟨start, inner, stop, rfl, opens, closes, listed⟩,
    items, fields⟩

/-! ## Locations -/

theorem exists_derivesLineColumn (member : word ∈ lineColumn) :
    ∃ place, DerivesLineColumn word place := by
  obtain ⟨start, _, stop, rfl, opens, closes, inside⟩ := exists_between member
  obtain ⟨_, comma, _, rfl, kind, ⟨line, rfl, row, isRow⟩,
    ⟨column, rfl, place, isPlace⟩⟩ := exists_separated inside
  exact ⟨(row, place), start, line, comma, column, stop, rfl, opens, isRow, kind,
    isPlace, closes⟩

theorem exists_derivesSpan (member : word ∈ sourceSpan) :
    ∃ span, DerivesSpan word span := by
  obtain ⟨start, _, stop, rfl, opens, closes, inside⟩ := exists_between member
  obtain ⟨_, comma'', right, rfl, isComma'', inside, place'⟩ :=
    exists_separated inside
  obtain ⟨_, comma', left, rfl, isComma', inside, place⟩ :=
    exists_separated inside
  obtain ⟨_, comma, _, rfl, isComma, ⟨from', rfl, low, isLow⟩,
    ⟨to', rfl, high, isHigh⟩⟩ := exists_separated inside
  obtain ⟨⟨startLine, startColumn⟩, isLeft⟩ := exists_derivesLineColumn place
  obtain ⟨⟨endLine, endColumn⟩, isRight⟩ := exists_derivesLineColumn place'
  exact ⟨⟨low, high, startLine, startColumn, endLine, endColumn⟩, start, from',
    comma, to', comma', left, comma'', right, stop, by simp, opens, isLow,
    isComma, isHigh, isComma', isLeft, isComma'', isRight, closes⟩

theorem exists_derivesLocation
    (member : word ∈ ofKinds [.location] * (1 + sourceSpan)) :
    ∃ place, DerivesLocation word place := by
  obtain ⟨_, ⟨token, rfl, known⟩, rest, either, rfl⟩ := member
  have kind := List.mem_singleton.mp known
  rcases either with empty | inside
  · obtain rfl : rest = [] := empty
    exact ⟨⟨token.body, none⟩, token, [], rfl, kind, rfl, rfl⟩
  · obtain ⟨span, derived⟩ := exists_derivesSpan inside
    exact ⟨⟨token.body, some span⟩, token, rest, rfl, kind, rfl, derived⟩

end

/-! ## Words that are not empty -/

section

variable {arguments : Language Token → Language Token} {dialect : Dialect}
  {inner : Language Token}

theorem nil_not_mem_branch (branch : Branch) :
    [] ∉ branch.language arguments inner := by
  cases branch with
  | call | location => exact nil_not_mem_mul nil_not_mem_single
  | leaf => exact nil_not_mem_single
  | entries | items =>
      exact nil_not_mem_mul (nil_not_mem_mul nil_not_mem_single)

theorem nil_not_mem_nested (depth : Nat) :
    [] ∉ nested arguments dialect depth := by
  have atoms (dialect : Dialect) (inner : Language Token) :
      [] ∉ atom arguments dialect inner := by
    intro either
    obtain ⟨_, given, member⟩ := mem_sum_iff.mp either
    obtain ⟨branch, -, rfl⟩ := List.mem_map.mp given
    exact nil_not_mem_branch branch member
  cases depth with
  | zero => exact nil_not_mem_single
  | succ depth =>
      cases dialect with
      | value => exact atoms .value _
      | pattern => exact nil_not_mem_chained (nil_not_mem_term (atoms .pattern _))

end

end TreeQuery.Reading
