import TreeQuery.Proofs.Reading.Lists
import TreeQuery.Reading.Scalar

/-!
# Scalars

What single tokens mean, and the tokens of locations with their spans.  A
location is read without a span only where no parenthesis follows.
-/

namespace TreeQuery.Reading

/-- One token of the kind, with its meaning. -/
def DerivesToken {α : Type} (kind : Token.Kind) (meaning : Token → α)
    (tokens : List Token) (value : α) : Prop :=
  ∃ token, tokens = [token] ∧ token.kind = kind ∧ meaning token = value

/-- A token of a truth value. -/
def DerivesBoolean (tokens : List Token) (truth : Bool) : Prop :=
  ∃ token, tokens = [token] ∧
    token.kind = if truth then .trueWord else .falseWord

/-- A number token that spells an integer of a span. -/
def DerivesInteger (token : Token) (value : Nat) : Prop :=
  token.kind = .number ∧ Numeral.word? token.lexeme = some value

def DerivesLineColumn (tokens : List Token) (place : Nat × Nat) : Prop :=
  ∃ first line comma column last,
    tokens = [first, line, comma, column, last] ∧ first.kind = .openAngle ∧
      DerivesInteger line place.1 ∧ comma.kind = .comma ∧
      DerivesInteger column place.2 ∧ last.kind = .closeAngle

def DerivesSpan (tokens : List Token) (span : SourceSpan) : Prop :=
  ∃ first start comma stop comma' left comma'' right last,
    tokens = first :: start :: comma :: stop :: comma' ::
      (left ++ comma'' :: (right ++ [last])) ∧
    first.kind = .openParen ∧ DerivesInteger start span.offsetStart ∧
    comma.kind = .comma ∧ DerivesInteger stop span.offsetEnd ∧
    comma'.kind = .comma ∧
    DerivesLineColumn left (span.startLine, span.startColumn) ∧
    comma''.kind = .comma ∧
    DerivesLineColumn right (span.endLine, span.endColumn) ∧
    last.kind = .closeParen

/-- A location token and then a span, if the location has one. -/
def DerivesLocation (tokens : List Token) (place : Location) : Prop :=
  ∃ token rest, tokens = token :: rest ∧ token.kind = .location ∧
    token.body = place.uri ∧
    match place.span with
    | some span => DerivesSpan rest span
    | none => rest = []

section

variable {cursor next : Cursor} {tokens : List Token}

theorem DerivesToken.nextKind?_eq {α : Type} {kind : Token.Kind}
    {meaning : Token → α} {value : α}
    (derived : DerivesToken kind meaning tokens value)
    (passes : cursor.Passes tokens next) : cursor.nextKind? = some kind := by
  obtain ⟨token, rfl, same, _⟩ := derived
  rw [passes.nextKind?_eq, same]

theorem DerivesToken.map {α β : Type} {kind : Token.Kind} {meaning : Token → α}
    {value : α} (derived : DerivesToken kind meaning tokens value)
    (change : α → β) :
    DerivesToken kind (fun token => change (meaning token)) tokens
      (change value) := by
  obtain ⟨token, same, fits, rfl⟩ := derived
  exact ⟨token, same, fits, rfl⟩

theorem DerivesLocation.nextKind?_eq {place : Location}
    (derived : DerivesLocation tokens place)
    (passes : cursor.Passes tokens next) :
    cursor.nextKind? = some .location := by
  obtain ⟨token, rest, rfl, same, _⟩ := derived
  rw [passes.nextKind?_eq, same]

end

namespace Rule

section

variable {α : Type} {kind : Token.Kind} {meaning : Token → α}

theorem token_sound :
    ((token kind).map meaning).Sound (DerivesToken kind meaning) := by
  intro cursor next value reads
  obtain ⟨token, read, same⟩ := reads_map_iff.mp reads
  obtain ⟨fits, passes⟩ := reads_token_iff.mp read
  exact ⟨[token], passes, token, rfl, fits, same⟩

theorem token_complete :
    ((token kind).map meaning).Complete (DerivesToken kind meaning)
      fun _ => False := by
  intro cursor next tokens value derived passes _
  obtain ⟨token, rfl, fits, same⟩ := derived
  apply reads_map_iff.mpr
  exact ⟨token, reads_token_iff.mpr ⟨fits, passes⟩, same⟩

end

section

variable {cursor next : Cursor}

theorem reads_integer_iff {value : Nat} :
    integer.Reads cursor value next ↔
      ∃ token, DerivesInteger token value ∧ cursor.Passes [token] next := by
  simp only [integer, reads_refine_iff, reads_token_iff, DerivesInteger]
  constructor
  · intro read
    obtain ⟨token, ⟨kind, passes⟩, check⟩ := read
    refine ⟨token, ⟨kind, ?_⟩, passes⟩
    split at check
    · next found => rw [found, Except.ok.inj check]
    · cases check
  · intro read
    obtain ⟨token, ⟨kind, spelled⟩, passes⟩ := read
    exact ⟨token, ⟨kind, passes⟩, by simp [spelled]⟩

theorem reads_lineColumn_iff {place : Nat × Nat} :
    lineColumn.Reads cursor place next ↔
      ∃ tokens, DerivesLineColumn tokens place ∧
        cursor.Passes tokens next := by
  simp only [lineColumn, reads_between_iff, reads_andThen_iff,
    reads_thenSkip_iff, reads_token_iff, reads_integer_iff, DerivesLineColumn]
  constructor
  · intro read
    obtain ⟨first, last, _, _, opens, closes, passesFirst,
      ⟨_, ⟨_, ⟨line, spelledLine, passesLine⟩, comma, isComma, passesComma⟩,
        column, spelledColumn, passesColumn⟩, passesLast⟩ := read
    refine ⟨_, ⟨first, line, comma, column, last, rfl, opens, spelledLine,
      isComma, spelledColumn, closes⟩, ?_⟩
    exact passesFirst.append <| passesLine.append <| passesComma.append <|
      passesColumn.append passesLast
  · intro read
    obtain ⟨_, ⟨first, line, comma, column, last, rfl, opens, spelledLine,
      isComma, spelledColumn, closes⟩, passes⟩ := read
    simp only [@Cursor.passes_cons_iff _ _ _ (_ :: _)] at passes
    obtain ⟨_, passesFirst, _, passesLine, _, passesComma, _, passesColumn,
      passesLast⟩ := passes
    exact ⟨first, last, _, _, opens, closes, passesFirst,
      ⟨_, ⟨_, ⟨line, spelledLine, passesLine⟩, comma, isComma, passesComma⟩,
        column, spelledColumn, passesColumn⟩, passesLast⟩

theorem reads_sourceSpan_iff {span : SourceSpan} :
    sourceSpan.Reads cursor span next ↔
      ∃ tokens, DerivesSpan tokens span ∧ cursor.Passes tokens next := by
  simp only [sourceSpan, reads_map_iff, reads_between_iff, reads_andThen_iff,
    reads_thenSkip_iff, reads_token_iff, reads_integer_iff,
    reads_lineColumn_iff, DerivesSpan]
  constructor
  · intro read
    obtain ⟨⟨⟨⟨_, _⟩, _, _⟩, _, _⟩, ⟨first, last, _, _, opens, closes,
      passesFirst, ⟨_, ⟨_, ⟨_, ⟨_, ⟨_, ⟨_, ⟨start, spelledStart, passesStart⟩,
        comma, isComma, passesComma⟩, stop, spelledStop, passesStop⟩,
        comma', isComma', passesComma'⟩, left, spelledLeft, passesLeft⟩,
        comma'', isComma'', passesComma''⟩, right, spelledRight, passesRight⟩,
      passesLast⟩, rfl⟩ := read
    refine ⟨_, ⟨first, start, comma, stop, comma', left, comma'', right, last,
      rfl, opens, spelledStart, isComma, spelledStop, isComma', spelledLeft,
      isComma'', spelledRight, closes⟩, ?_⟩
    exact passesFirst.append <| passesStart.append <| passesComma.append <|
      passesStop.append <| passesComma'.append <| passesLeft.append <|
      passesComma''.append <| passesRight.append passesLast
  · intro read
    obtain ⟨_, ⟨first, start, comma, stop, comma', left, comma'', right, last,
      rfl, opens, spelledStart, isComma, spelledStop, isComma', spelledLeft,
      isComma'', spelledRight, closes⟩, passes⟩ := read
    simp only [@Cursor.passes_cons_iff _ _ _ (_ :: _),
      @Cursor.passes_cons_iff _ _ _ (_ ++ _),
      Cursor.passes_append_iff] at passes
    obtain ⟨_, passesFirst, _, passesStart, _, passesComma, _, passesStop, _,
      passesComma', _, passesLeft, _, passesComma'', _, passesRight,
      passesLast⟩ := passes
    exact ⟨(((((_, _), _, _), _, _))), ⟨first, last, _, _, opens, closes,
      passesFirst, ⟨_, ⟨_, ⟨_, ⟨_, ⟨_, ⟨_, ⟨start, spelledStart, passesStart⟩,
        comma, isComma, passesComma⟩, stop, spelledStop, passesStop⟩,
        comma', isComma', passesComma'⟩, left, spelledLeft, passesLeft⟩,
        comma'', isComma'', passesComma''⟩, right, spelledRight, passesRight⟩,
      passesLast⟩, rfl⟩

theorem sourceSpan_refuses (differs : cursor.nextKind? ≠ some .openParen) :
    sourceSpan.Refuses cursor :=
  (between_refuses differs).map

theorem location_sound : location.Sound DerivesLocation := by
  intro cursor next place reads
  obtain ⟨⟨uri, span⟩, read, rfl⟩ := reads_map_iff.mp reads
  obtain ⟨middle, readUri, readSpan⟩ := reads_andThen_iff.mp read
  obtain ⟨token, readToken, rfl⟩ := reads_map_iff.mp readUri
  obtain ⟨kind, passes⟩ := reads_token_iff.mp readToken
  rcases readSpan.optional_cases with ⟨given, rfl, found⟩ | ⟨rfl, rfl⟩
  · obtain ⟨tokens, derived, passesSpan⟩ := reads_sourceSpan_iff.mp found
    exact ⟨token :: tokens, passes.append passesSpan, token, tokens, rfl, kind,
      rfl, derived⟩
  · exact ⟨[token], passes, token, [], rfl, kind, rfl, rfl⟩

theorem location_complete :
    location.Complete DerivesLocation (· = .openParen) := by
  intro cursor next tokens place derived passes fits
  obtain ⟨uri, span⟩ := place
  obtain ⟨token, rest, rfl, kind, body, derived⟩ := derived
  obtain ⟨middle, passesToken, passesRest⟩ := Cursor.passes_cons_iff.mp passes
  have readUri : ((Rule.token .location).map Token.body).Reads cursor uri
      middle :=
    reads_map_iff.mpr
      ⟨token, reads_token_iff.mpr ⟨kind, passesToken⟩, body⟩
  have readSpan : sourceSpan.optional.Reads middle span next := by
    cases span with
    | some span =>
        exact Reads.optional
          (reads_sourceSpan_iff.mpr ⟨rest, derived, passesRest⟩)
    | none =>
        obtain rfl : rest = [] := derived
        obtain rfl : next = middle := Cursor.passes_nil_iff.mp passesRest
        apply Refuses.optional
        apply sourceSpan_refuses
        intro opens
        exact fits .openParen opens rfl
  apply reads_map_iff.mpr
  exact ⟨(uri, span), reads_andThen_iff.mpr ⟨middle, readUri, readSpan⟩, rfl⟩

theorem boolean_sound : boolean.Sound DerivesBoolean := by
  intro cursor next truth reads
  rcases reads.orElse_cases with read | read
  · obtain ⟨tokens, passes, token, rfl, kind, rfl⟩ := token_sound read
    exact ⟨[token], passes, token, rfl, kind⟩
  · obtain ⟨tokens, passes, token, rfl, kind, rfl⟩ := token_sound read
    exact ⟨[token], passes, token, rfl, kind⟩

theorem boolean_complete : boolean.Complete DerivesBoolean fun _ => False := by
  intro cursor next tokens truth derived passes _
  obtain ⟨token, rfl, kind⟩ := derived
  cases truth with
  | true =>
      apply Reads.orElse_first
      exact token_complete ⟨token, rfl, kind, rfl⟩ passes fun _ _ => id
  | false =>
      apply Reads.orElse_second
      · intro other stop read
        obtain ⟨tokens, passes', found, rfl, kind', _⟩ := token_sound read
        have same := passes.nextKind?_eq.symm.trans passes'.nextKind?_eq
        simp [kind, kind'] at same
      · exact token_complete ⟨token, rfl, kind, rfl⟩ passes fun _ _ => id

theorem boolean_startsWith : boolean.StartsWith [.trueWord, .falseWord] :=
  ((token_startsWith .trueWord).map _).orElse
    ((token_startsWith .falseWord).map _)

theorem location_startsWith : location.StartsWith [.location] :=
  ((((token_startsWith .location).map _).andThen _).map _)

end

end Rule

end TreeQuery.Reading
