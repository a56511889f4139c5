import TreeQuery.Proofs.Value.Lexemes

/-!
# The token stream of a value

Reading and writing keep the tokens of a text but for the commas before closing
delimiters.  Only names of nodes and integers of spans may be spelled in another
way, and then they mean the same.
-/

namespace TreeQuery

open Reading

/-- The kinds that end a list. -/
def Token.Kind.isClosing : Kind → Bool
  | closeParen | closeBracket | closeBrace | closeAngle => true
  | _ => false

/-- The kinds whose tokens all have the same lexeme. -/
def Token.Kind.isFixed : Kind → Bool
  | identifier | number | string | text | regex | location | invalid => false
  | _ => true

/-- A closing delimiter comes next. -/
def closesNext (rest : List Token) : Bool :=
  rest.head?.any fun next => next.kind.isClosing

@[simp]
private theorem closesNext_cons (next : Token) (rest : List Token) :
    closesNext (next :: rest) = next.kind.isClosing :=
  rfl

/-- An opening parenthesis comes next. -/
def opensNext (rest : List Token) : Bool :=
  rest.head?.any fun next => next.kind == .openParen

/-- The tokens without the commas that stand right before a closing delimiter. -/
def withoutTrailing : List Token → List Token
  | [] => []
  | token :: rest =>
      if token.kind = .comma ∧ closesNext rest then withoutTrailing rest
      else token :: withoutTrailing rest

/-- What a token is part of, where that tells how it may be spelled. -/
inductive Part where
  | nodeName
  | spanInteger
  | other
  deriving DecidableEq, Repr

/-- A string right before a parenthesis names a node, and a number inside a span
is one of its integers. -/
def partOf (inside : Bool) (token : Token) (rest : List Token) : Part :=
  if token.kind = .string ∧ opensNext rest then .nodeName
  else if token.kind = .number ∧ inside then .spanInteger
  else .other

/-- A span starts with the parenthesis right behind a location and ends with the
next closing one. -/
def insideBehind (inside : Bool) (token : Token) (rest : List Token) : Bool :=
  match token.kind with
  | .location => opensNext rest
  | .closeParen => false
  | _ => inside

/-- The tokens without trailing commas, with what they are part of. -/
def parts (inside : Bool) : List Token → List (Token × Part)
  | [] => []
  | token :: rest =>
      if token.kind = .comma ∧ closesNext rest then parts inside rest
      else (token, partOf inside token rest) ::
        parts (insideBehind inside token rest) rest

/-- The written token is the given one, unless it is part of something that may
be spelled in several ways; then it means the same, and an integer has no
leading zeros. -/
def Restates (given : Token × Part) (written : Token) : Prop :=
  written.kind = given.1.kind ∧
    match given.2 with
    | .nodeName => (Text.decode written.body).plain =
        (Text.decode given.1.body).plain
    | .spanInteger => ∃ value, Numeral.word? given.1.lexeme = some value ∧
        written.lexeme = Nat.toDigits 10 value
    | .other => written.lexeme = given.1.lexeme

theorem map_fst_parts (inside : Bool) (tokens : List Token) :
    (parts inside tokens).map Prod.fst = withoutTrailing tokens := by
  induction tokens generalizing inside with
  | nil => rfl
  | cons token rest induction =>
      rw [parts, withoutTrailing]
      split
      · exact induction inside
      · rw [List.map_cons, induction]

/-! ## Lexemes of a source -/

namespace Token

/-- The token belongs to its class, and is the only one of its kind if that has
but one lexeme. -/
def Genuine (token : Token) : Prop :=
  Spells token.kind token.lexeme ∧
    (token.kind.isFixed = true → token.lexeme = token.kind.lexeme)

section

variable {kind : Kind} {rest : List Char} {word : List Char}

theorem quotedToken_not_fixed {close : Char} {holdsLines : Bool}
    (loose : kind.isFixed = false) :
    (quotedToken kind close holdsLines rest).1.isFixed = false := by
  unfold quotedToken
  split
  · exact loose
  · rfl

theorem barToken_fixed (fixed : (barToken rest).1.isFixed = true) :
    ('|' :: rest).take (barToken rest).2 = (barToken rest).1.lexeme := by
  unfold barToken at fixed ⊢
  dsimp only at fixed ⊢
  split at fixed
  · next others behind =>
    split at fixed
    · next empty =>
      rw [List.isEmpty_iff.mp empty, List.length_nil, List.drop_zero] at behind
      rw [behind, if_pos]
      · rfl
      · rfl
    · cases fixed
  · cases fixed

theorem wordKind_fixed (fixed : (wordKind word).isFixed = true) :
    word = (wordKind word).lexeme := by
  unfold wordKind at fixed ⊢
  split at fixed
  · next same => rw [if_pos same, same]; rfl
  · next notTrue =>
    split at fixed
    · next same => rw [if_neg notTrue, if_pos same, same]; rfl
    · cases fixed

/-- What the lexer takes as a delimiter or a truth value is spelled in the one
way. -/
theorem recognize_fixed (first : Char)
    (fixed : (recognize first rest).1.isFixed = true) :
    (first :: rest).take (recognize first rest).2 =
      (recognize first rest).1.lexeme := by
  unfold recognize at fixed ⊢
  split at fixed
  case h_15 => exact barToken_fixed fixed
  case h_16 | h_17 | h_18 =>
    rw [quotedToken_not_fixed rfl] at fixed
    cases fixed
  case h_19 =>
    dsimp only at fixed
    split at fixed
    · cases fixed
    · cases fixed
  case h_20 =>
    split at fixed
    · cases fixed
    · split at fixed
      · next notDigit starts =>
        rw [if_neg notDigit, if_pos starts]
        dsimp only at fixed ⊢
        rw [List.length_cons, List.take_succ_cons, take_length_takeWhile]
        exact wordKind_fixed fixed
      · cases fixed
  all_goals rfl

end

theorem scan_genuine {chars : List Char} {offset covered : Nat} :
    ∀ token ∈ scan offset covered chars, Genuine token := by
  induction chars generalizing offset covered with
  | nil => simp [scan]
  | cons char chars induction =>
      cases covered with
      | succ covered => exact induction
      | zero =>
          rw [scan]
          split
          · exact induction
          · exact List.forall_mem_cons.mpr
              ⟨⟨recognize_spells char, recognize_fixed char⟩, induction⟩

end Token

/-! ## Tokens and the written ones they become -/

section

variable {inside : Bool} {token : Token} {tokens left right rest : List Token}
  {written written' : List Token} {kind : Token.Kind}

/-- The token is neither dropped nor spelled in another way, wherever it stands
outside of spans. -/
def Token.Kind.isPlain : Kind → Bool
  | comma | string | number | location => false
  | _ => true

private theorem parts_plain (plain : token.kind.isPlain = true) :
    parts false (token :: rest) = (token, .other) :: parts false rest := by
  rw [parts, partOf, insideBehind]
  cases kind : token.kind <;> simp_all [Token.Kind.isPlain]

private theorem parts_comma (isComma : token.kind = .comma)
    (goesOn : closesNext rest = false) :
    parts inside (token :: rest) = (token, .other) :: parts inside rest := by
  simp [parts, partOf, insideBehind, isComma, goesOn]

private theorem parts_trailing (isComma : token.kind = .comma)
    (ends : closesNext rest = true) :
    parts inside (token :: rest) = parts inside rest := by
  simp [parts, isComma, ends]

private theorem restates_sample (genuine : token.Genuine) (same : token.kind = kind)
    (fixed : kind.isFixed = true) : Restates (token, .other) kind.sample := by
  subst same
  exact ⟨rfl, (genuine.2 fixed).symm⟩

/-- Where no parenthesis follows, the parts of the tokens are the written tokens,
and the parts of what follows come behind them. -/
structure Becomes (tokens written : List Token) : Prop where
  first : ∃ first others, tokens = first :: others ∧
    first.kind.isClosing = false
  parts : ∀ rest, opensNext rest = false → ∃ front,
    parts false (tokens ++ rest) = front ++ parts false rest ∧
      List.Forall₂ Restates front written

theorem Becomes.goesOn (becomes : Becomes tokens written) :
    closesNext (tokens ++ rest) = false := by
  obtain ⟨first, others, rfl, other⟩ := becomes.first
  simpa [closesNext] using other

private theorem becomes_single {found : Token} (same : found.kind = token.kind)
    (lexeme : found.lexeme = token.lexeme) (notComma : token.kind ≠ .comma)
    (opens : token.kind.isClosing = false) : Becomes [token] [found] := by
  refine ⟨⟨token, [], rfl, opens⟩, ?_⟩
  intro rest noCall
  refine ⟨[(token, .other)], ?_, .cons ⟨same, lexeme⟩ .nil⟩
  have outside : insideBehind false token rest = false := by
    rw [insideBehind]
    split
    · exact noCall
    · rfl
    · rfl
  rw [List.singleton_append, TreeQuery.parts, outside, partOf]
  simp [notComma, noCall]

private theorem becomes_sample (genuine : token.Genuine) (same : token.kind = kind)
    (fixed : kind.isFixed = true) (notComma : kind ≠ .comma)
    (opens : kind.isClosing = false) : Becomes [token] [kind.sample] := by
  subst same
  exact becomes_single rfl (genuine.2 fixed).symm notComma opens

/-- Two parts with a colon or an equals sign between them. -/
theorem Becomes.between (becomes : Becomes left written)
    (genuine : token.Genuine) (same : token.kind = kind)
    (plain : kind.isPlain = true) (fixed : kind.isFixed = true)
    (noCall : kind ≠ .openParen) (becomes' : Becomes right written') :
    Becomes (left ++ token :: right)
      (written ++ kind.sample :: written') := by
  constructor
  · obtain ⟨first, others, rfl, opens⟩ := becomes.first
    exact ⟨first, _, rfl, opens⟩
  · intro rest apart
    obtain ⟨front, split, all⟩ := becomes.parts (token :: (right ++ rest))
      (by simpa [opensNext, same] using noCall)
    obtain ⟨front', split', all'⟩ := becomes'.parts rest apart
    refine ⟨front ++ (token, .other) :: front', ?_,
      List.rel_append all (.cons (restates_sample genuine same fixed) all')⟩
    rw [List.append_assoc, List.cons_append, split,
      parts_plain (same ▸ plain), split', List.append_assoc, List.cons_append]

private theorem closesNext_listed {pieces : List (List Token)}
    (listed : Listed (left :: pieces) tokens) (becomes : Becomes left written) :
    closesNext (tokens ++ rest) = false := by
  cases listed with
  | last => exact becomes.goesOn
  | trailing =>
      rw [List.append_assoc]
      exact becomes.goesOn
  | more =>
      rw [List.append_assoc]
      exact becomes.goesOn

private theorem separatedTokens_singleton :
    separatedTokens [written] = written := by
  simp [separatedTokens, List.intercalate]

private theorem separatedTokens_cons (items : List (List Token)) :
    separatedTokens (written :: written' :: items) =
      written ++ Token.Kind.comma.sample ::
        separatedTokens (written' :: items) := by
  simp [separatedTokens, List.intercalate]

/-- The pieces of a list lose the comma behind the last. -/
private theorem parts_listed {pieces found : List (List Token)} {last : Token}
    (listed : Listed pieces tokens) (all : List.Forall₂ Becomes pieces found)
    (genuine : ∀ token ∈ tokens, token.Genuine)
    (closes : last.kind.isClosing = true) (rest : List Token) :
    ∃ front, parts false (tokens ++ last :: rest) =
        front ++ parts false (last :: rest) ∧
      List.Forall₂ Restates front (separatedTokens found) := by
  have apart : opensNext (last :: rest) = false := by
    rw [opensNext, List.head?_cons, Option.any_some]
    cases kind : last.kind <;> simp_all [Token.Kind.isClosing]
  induction listed generalizing found with
  | empty =>
      cases all
      exact ⟨[], rfl, .nil⟩
  | last piece =>
      obtain ⟨written, _, becomes, others, rfl⟩ :=
        List.forall₂_cons_left_iff.mp all
      cases others
      rw [separatedTokens_singleton]
      exact becomes.parts _ apart
  | @trailing comma piece isComma =>
      obtain ⟨written, _, becomes, others, rfl⟩ :=
        List.forall₂_cons_left_iff.mp all
      cases others
      obtain ⟨front, split, restated⟩ := becomes.parts (comma :: last :: rest)
        (by simp [opensNext, isComma])
      rw [separatedTokens_singleton]
      refine ⟨front, ?_, restated⟩
      rw [List.append_assoc, List.singleton_append, split,
        parts_trailing isComma (by simpa [closesNext] using closes)]
  | @more comma following pieces tokens piece isComma listed induction =>
      obtain ⟨written, _, becomes, others, rfl⟩ :=
        List.forall₂_cons_left_iff.mp all
      obtain ⟨_, later⟩ := List.forall_mem_append.mp genuine
      obtain ⟨genuineComma, genuineRest⟩ := List.forall_mem_cons.mp later
      obtain ⟨front', split', restated'⟩ := induction others genuineRest
      obtain ⟨next, _, becomesNext, _, rfl⟩ :=
        List.forall₂_cons_left_iff.mp others
      obtain ⟨front, split, restated⟩ :=
        becomes.parts (comma :: (tokens ++ last :: rest))
          (by simp [opensNext, isComma])
      rw [separatedTokens_cons]
      refine ⟨front ++ (comma, .other) :: front', ?_, List.rel_append restated
        (.cons (restates_sample genuineComma isComma rfl) restated')⟩
      rw [List.append_assoc, List.cons_append, split,
        parts_comma isComma (closesNext_listed listed becomesNext), split',
        List.append_assoc, List.cons_append]

/-- Lists between delimiters. -/
private theorem parts_enclosed {opening closing : Token.Kind}
    {pieces found : List (List Token)}
    (enclosed : Enclosed opening closing pieces tokens)
    (all : List.Forall₂ Becomes pieces found)
    (genuine : ∀ token ∈ tokens, token.Genuine)
    (plain : opening.isPlain = true ∧ opening.isFixed = true)
    (plain' : closing.isPlain = true ∧ closing.isFixed = true)
    (closes : closing.isClosing = true) (rest : List Token) :
    ∃ front, parts false (tokens ++ rest) =
        front ++ parts false rest ∧
      List.Forall₂ Restates front (enclosedTokens opening closing found) := by
  obtain ⟨first, inner, last, rfl, same, same', listed⟩ := enclosed
  obtain ⟨genuineFirst, later⟩ := List.forall_mem_cons.mp genuine
  obtain ⟨genuineInner, genuineLast⟩ := List.forall_mem_append.mp later
  obtain ⟨front, split, restated⟩ :=
    parts_listed listed all genuineInner (same' ▸ closes) rest
  refine ⟨(first, .other) :: (front ++ [(last, .other)]), ?_, ?_⟩
  · rw [List.cons_append, parts_plain (same ▸ plain.1), List.append_assoc,
      List.singleton_append, split, parts_plain (same' ▸ plain'.1)]
    simp
  · exact .cons (restates_sample genuineFirst same plain.2)
      (List.rel_append restated (.cons (restates_sample
        (List.forall_mem_singleton.mp genuineLast) same' plain'.2) .nil))

private theorem becomes_enclosed {opening closing : Token.Kind}
    {pieces found : List (List Token)}
    (enclosed : Enclosed opening closing pieces tokens)
    (all : List.Forall₂ Becomes pieces found)
    (genuine : ∀ token ∈ tokens, token.Genuine)
    (plain : opening.isPlain = true ∧ opening.isFixed = true)
    (plain' : closing.isPlain = true ∧ closing.isFixed = true)
    (opens : opening.isClosing = false) (closes : closing.isClosing = true) :
    Becomes tokens (enclosedTokens opening closing found) := by
  refine ⟨?_, fun rest _ =>
    parts_enclosed enclosed all genuine plain plain' closes rest⟩
  obtain ⟨first, inner, last, rfl, same, _⟩ := enclosed
  exact ⟨first, _, rfl, same ▸ opens⟩

/-! ## Locations -/

private theorem restates_integer {value : Nat}
    (derived : DerivesInteger token value) :
    Restates (token, .spanInteger) (integerToken value) :=
  ⟨derived.1.symm, value, derived.2, rfl⟩

private theorem parts_lineColumn {place : Nat × Nat}
    (derived : DerivesLineColumn tokens place)
    (genuine : ∀ token ∈ tokens, token.Genuine) (rest : List Token) :
    ∃ front, parts true (tokens ++ rest) = front ++ parts true rest ∧
      List.Forall₂ Restates front (lineColumnTokens place.1 place.2) := by
  obtain ⟨first, line, comma, column, last, rfl, opens, isLine, isComma,
    isColumn, closes⟩ := derived
  simp only [List.forall_mem_cons] at genuine
  obtain ⟨genuineFirst, -, genuineComma, -, genuineLast, -⟩ := genuine
  refine ⟨[(first, .other), (line, .spanInteger), (comma, .other),
    (column, .spanInteger), (last, .other)], ?_, ?_⟩
  · simp [parts, partOf, insideBehind, closesNext, opens, isLine.1, isComma,
      isColumn.1, closes, Token.Kind.isClosing]
  · exact .cons (restates_sample genuineFirst opens rfl) <|
      .cons (restates_integer isLine) <|
      .cons (restates_sample genuineComma isComma rfl) <|
      .cons (restates_integer isColumn) <|
      .cons (restates_sample genuineLast closes rfl) .nil

private theorem parts_span {span : SourceSpan} (derived : DerivesSpan tokens span)
    (genuine : ∀ token ∈ tokens, token.Genuine) (rest : List Token) :
    ∃ front, parts true (tokens ++ rest) = front ++ parts false rest ∧
      List.Forall₂ Restates front span.lexemes := by
  obtain ⟨first, start, comma, stop, comma', left, comma'', right, last, rfl,
    opens, isStart, isComma, isStop, isComma', isLeft, isComma'', isRight,
    closes⟩ := derived
  simp only [List.forall_mem_cons, List.forall_mem_append] at genuine
  obtain ⟨genuineFirst, -, genuineComma, -, genuineComma', genuineLeft,
    genuineComma'', genuineRight, genuineLast, -⟩ := genuine
  obtain ⟨front', split', restated'⟩ :=
    parts_lineColumn isRight genuineRight (last :: rest)
  obtain ⟨front, split, restated⟩ := parts_lineColumn isLeft genuineLeft
    (comma'' :: (right ++ last :: rest))
  have goesOn {place : Nat × Nat} {tokens rest : List Token}
      (derived : DerivesLineColumn tokens place) :
      closesNext (tokens ++ rest) = false := by
    obtain ⟨opening, _, _, _, _, rfl, isOpening, -⟩ := derived
    simp [closesNext, isOpening, Token.Kind.isClosing]
  refine ⟨[(first, .other), (start, .spanInteger), (comma, .other),
    (stop, .spanInteger), (comma', .other)] ++
      (front ++ (comma'', .other) :: (front' ++ [(last, .other)])), ?_, ?_⟩
  · have ended : parts true (last :: rest) =
        (last, .other) :: parts false rest := by
      simp [parts, partOf, insideBehind, closes]
    have begun (behind : List Token) : parts true (first :: start :: comma ::
          stop :: comma' :: (left ++ behind)) =
        [(first, .other), (start, .spanInteger), (comma, .other),
          (stop, .spanInteger), (comma', .other)] ++
            parts true (left ++ behind) := by
      rw [List.cons_append, parts]
      simp [parts, partOf, insideBehind, closesNext_cons, goesOn isLeft, opens,
        isStart.1, isComma, isStop.1, isComma', Token.Kind.isClosing]
    rw [parts_comma isComma'' (goesOn isRight), split', ended] at split
    simp only [List.cons_append, List.append_assoc, List.nil_append] at begun ⊢
    rw [begun, split]
  · refine List.rel_append ?_ (List.rel_append restated
      (.cons (restates_sample genuineComma'' isComma'' rfl)
        (List.rel_append restated'
          (.cons (restates_sample genuineLast closes rfl) .nil))))
    exact .cons (restates_sample genuineFirst opens rfl) <|
      .cons (restates_integer isStart) <|
      .cons (restates_sample genuineComma isComma rfl) <|
      .cons (restates_integer isStop) <|
      .cons (restates_sample genuineComma' isComma' rfl) .nil

private theorem becomes_location {place : Location}
    (derived : DerivesLocation tokens place)
    (genuine : ∀ token ∈ tokens, token.Genuine) :
    Becomes tokens place.lexemes := by
  obtain ⟨token, behind, rfl, kind, body, derivedSpan⟩ := derived
  obtain ⟨genuineToken, genuineSpan⟩ := List.forall_mem_cons.mp genuine
  have spells := genuineToken.1
  rw [kind] at spells
  obtain ⟨uri, lexeme, -⟩ := spells
  rw [Token.body_of_lexeme lexeme] at body
  have same : (Token.Kind.location.spelled
      ('|' :: (place.uri.toList ++ ['|']))).lexeme = token.lexeme := by
    rw [lexeme, ← body, String.toList_ofList]
    rfl
  have outer (rest : List Token) : parts false (token :: rest) =
      (token, .other) :: parts (opensNext rest) rest := by
    simp [parts, partOf, insideBehind, kind]
  refine ⟨⟨token, behind, rfl, by simp [kind, Token.Kind.isClosing]⟩, ?_⟩
  intro rest noCall
  rw [List.cons_append, outer, Location.lexemes]
  cases given : place.span with
  | none =>
      rw [given] at derivedSpan
      obtain rfl : behind = [] := derivedSpan
      rw [List.nil_append, noCall]
      exact ⟨[(token, .other)], rfl, .cons ⟨kind.symm, same⟩ .nil⟩
  | some span =>
      rw [given] at derivedSpan
      obtain ⟨front, split, restated⟩ :=
        parts_span derivedSpan genuineSpan rest
      have opens : opensNext (behind ++ rest) = true := by
        obtain ⟨first, _, _, _, _, _, _, _, _, rfl, isOpening, -⟩ := derivedSpan
        simp [opensNext, isOpening]
      rw [opens, split]
      exact ⟨(token, .other) :: front, rfl, .cons ⟨kind.symm, same⟩ restated⟩

end

/-! ## Values -/

namespace Value

section

variable {tokens : List Token}

theorem becomes_token {α : Type} {kind : Token.Kind} {meaning : Token → α}
    {value : α} {lexeme : List Char}
    (derived : DerivesToken kind meaning tokens value)
    (genuine : ∀ token ∈ tokens, token.Genuine)
    (same : ∀ token : Token, token.Genuine → token.kind = kind →
      meaning token = value → lexeme = token.lexeme)
    (notComma : kind ≠ .comma) (opens : kind.isClosing = false) :
    Becomes tokens [kind.spelled lexeme] := by
  obtain ⟨token, rfl, rfl, meant⟩ := derived
  exact becomes_single rfl
    (same token (genuine token List.mem_cons_self) rfl meant) notComma opens

theorem becomes_identifier {name : String}
    (derived : DerivesIdentifier tokens name)
    (genuine : ∀ token ∈ tokens, token.Genuine) :
    Becomes tokens [nameToken .identifier name] := by
  refine becomes_token derived genuine ?_ nofun rfl
  intro token _ _ written
  rw [← written, Token.written, String.toList_ofList]

theorem becomes_string {text : Text}
    (derived : DerivesToken .string (fun token => Text.decode token.body)
      tokens text)
    (genuine : ∀ token ∈ tokens, token.Genuine) :
    Becomes tokens [Token.Kind.string.spelled (writtenQuoted text)] := by
  refine becomes_token derived genuine ?_ nofun rfl
  intro token genuine kind decoded
  have spells := genuine.1
  rw [kind] at spells
  obtain ⟨body, lexeme, quotable⟩ := spells
  rw [Token.body_of_lexeme lexeme, Text.decode, String.toList_ofList] at decoded
  rw [← decoded, lexeme, writtenQuoted]
  have whole := Segment.written_ofBody_iff.mpr
    (Segment.not_endsUnpaired_of_quotable quotable)
  simp [whole]

/-- A name and the parenthesis behind it. -/
theorem parts_name {kind : ConstructorKind} {name : String} {rest : List Token}
    (derived : DerivesName kind tokens name) (call : opensNext rest = true) :
    ∃ front, parts false (tokens ++ rest) = front ++ parts false rest ∧
      List.Forall₂ Restates front [nameToken kind name] := by
  cases kind with
  | identifier =>
      obtain ⟨token, rfl, kind, written⟩ := derived
      refine ⟨[(token, .other)], parts_plain (by rw [kind]; rfl),
        .cons ⟨kind.symm, ?_⟩ .nil⟩
      simp [nameToken, Token.Kind.spelled, ← written, Token.written]
  | node =>
      obtain ⟨token, rfl, kind, plain⟩ := derived
      have split : parts false (token :: rest) =
          (token, .nodeName) :: parts false rest := by
        simp [parts, partOf, insideBehind, kind, call]
      refine ⟨[(token, .nodeName)], split, .cons ⟨kind.symm, ?_⟩ .nil⟩
      have body : (nameToken .node name).body =
          String.ofList ((Text.ofPlain name).segments.flatMap Segment.written) :=
        Token.body_of_lexeme rfl
      have decoded : Text.decode (nameToken .node name).body =
          Text.ofPlain name := by
        rw [body]
        exact Text.decode_written (Segment.ofPlain_formed _)
      change (Text.decode (nameToken .node name).body).plain =
        (Text.decode token.body).plain
      rw [decoded, Text.plain_ofPlain]
      exact plain.symm

theorem exists_token_of_derivesName {kind : ConstructorKind} {name : String}
    (derived : DerivesName kind tokens name) :
    ∃ token, tokens = [token] ∧ token.kind.isClosing = false := by
  cases kind with
  | identifier | node =>
      obtain ⟨token, rfl, kind, _⟩ := derived
      exact ⟨token, rfl, by rw [kind]; rfl⟩

theorem genuine_pieces {opening closing : Token.Kind}
    {pieces : List (List Token)}
    (enclosed : Enclosed opening closing pieces tokens)
    (genuine : ∀ token ∈ tokens, token.Genuine) :
    ∀ piece ∈ pieces, ∀ token ∈ piece, token.Genuine :=
  fun piece member token inside =>
    genuine token (enclosed.subset piece member inside)

end

mutual

/-- Tokens of a source become the tokens of the written value that they derive. -/
theorem Derives.becomes {tokens : List Token} {value : Value}
    (genuine : ∀ token ∈ tokens, token.Genuine)
    (derived : Derives tokens value) : Becomes tokens (lexemes value) := by
  match value with
  | .map entries =>
      obtain ⟨pieces, enclosed, all⟩ := derived
      exact becomes_enclosed enclosed
        (DerivesEntries.become (genuine_pieces enclosed genuine) all) genuine
        ⟨rfl, rfl⟩ ⟨rfl, rfl⟩ rfl rfl
  | .list items | .set items | .tuple items =>
      obtain ⟨pieces, enclosed, all⟩ := derived
      exact becomes_enclosed enclosed
        (DerivesItems.become (genuine_pieces enclosed genuine) all) genuine
        ⟨rfl, rfl⟩ ⟨rfl, rfl⟩ rfl rfl
  | .constr kind name positional named =>
      obtain ⟨head, arguments, pieces, fieldPieces, rfl, derivedName, enclosed,
        items, fields⟩ := derived
      obtain ⟨-, genuineArguments⟩ := List.forall_mem_append.mp genuine
      obtain ⟨genuineItems, genuineFields⟩ := List.forall_mem_append.mp
        (genuine_pieces enclosed genuineArguments)
      have all := List.rel_append (DerivesItems.become genuineItems items)
        (DerivesFields.become genuineFields fields)
      have opens (rest : List Token) : opensNext (arguments ++ rest) = true := by
        obtain ⟨first, inner, last, rfl, isOpening, -⟩ := enclosed
        simp [opensNext, isOpening]
      constructor
      · obtain ⟨token, rfl, isName⟩ := exists_token_of_derivesName derivedName
        exact ⟨token, _, rfl, isName⟩
      · intro rest _
        obtain ⟨front, split, restated⟩ := parts_name derivedName (opens rest)
        obtain ⟨front', split', restated'⟩ := parts_enclosed enclosed all
          genuineArguments ⟨rfl, rfl⟩ ⟨rfl, rfl⟩ rfl rest
        refine ⟨front ++ front', ?_, List.rel_append restated restated'⟩
        rw [List.append_assoc, split, split', List.append_assoc]
  | .string text => exact becomes_string derived genuine
  | .number digits =>
      refine becomes_token derived genuine ?_ nofun rfl
      intro token _ _ written
      rw [← written, Token.written, String.toList_ofList]
  | .boolean true =>
      obtain ⟨token, rfl, kind⟩ := derived
      exact becomes_sample (List.forall_mem_singleton.mp genuine) kind rfl nofun
        rfl
  | .boolean false =>
      obtain ⟨token, rfl, kind⟩ := derived
      exact becomes_sample (List.forall_mem_singleton.mp genuine) kind rfl nofun
        rfl
  | .location place => exact becomes_location derived genuine
termination_by structural value

theorem DerivesItems.become {pieces : List (List Token)} {values : List Value}
    (genuine : ∀ piece ∈ pieces, ∀ token ∈ piece, token.Genuine)
    (derived : DerivesItems pieces values) :
    List.Forall₂ Becomes pieces (itemLexemes values) := by
  match pieces, values with
  | [], [] => exact .nil
  | piece :: pieces, value :: values =>
      obtain ⟨genuineFirst, genuineRest⟩ := List.forall_mem_cons.mp genuine
      exact .cons (Derives.becomes genuineFirst derived.1)
        (DerivesItems.become genuineRest derived.2)
  | [], _ :: _ | _ :: _, [] => exact derived.elim
termination_by structural values

theorem DerivesEntries.become {pieces : List (List Token)}
    {entries : List (Value × Value)}
    (genuine : ∀ piece ∈ pieces, ∀ token ∈ piece, token.Genuine)
    (derived : DerivesEntries pieces entries) :
    List.Forall₂ Becomes pieces (entryLexemes entries) := by
  match pieces, entries with
  | [], [] => exact .nil
  | piece :: pieces, (key, value) :: entries =>
      obtain ⟨genuineFirst, genuineRest⟩ := List.forall_mem_cons.mp genuine
      obtain ⟨⟨left, colon, right, rfl, kind, derivedKey, derivedValue⟩,
        others⟩ := derived
      obtain ⟨genuineKey, later⟩ := List.forall_mem_append.mp genuineFirst
      obtain ⟨genuineColon, genuineValue⟩ := List.forall_mem_cons.mp later
      exact .cons
        ((Derives.becomes genuineKey derivedKey).between genuineColon kind rfl
          rfl nofun (Derives.becomes genuineValue derivedValue))
        (DerivesEntries.become genuineRest others)
  | [], _ :: _ | _ :: _, [] => exact derived.elim
termination_by structural entries

theorem DerivesFields.become {pieces : List (List Token)}
    {fields : List (String × Value)}
    (genuine : ∀ piece ∈ pieces, ∀ token ∈ piece, token.Genuine)
    (derived : DerivesFields pieces fields) :
    List.Forall₂ Becomes pieces (fieldLexemes fields) := by
  match pieces, fields with
  | [], [] => exact .nil
  | piece :: pieces, (name, value) :: fields =>
      obtain ⟨genuineFirst, genuineRest⟩ := List.forall_mem_cons.mp genuine
      obtain ⟨⟨left, equals, right, rfl, kind, derivedName, derivedValue⟩,
        others⟩ := derived
      obtain ⟨genuineName, later⟩ := List.forall_mem_append.mp genuineFirst
      obtain ⟨genuineEquals, genuineValue⟩ := List.forall_mem_cons.mp later
      exact .cons
        ((becomes_identifier derivedName genuineName).between genuineEquals kind
          rfl rfl nofun (Derives.becomes genuineValue derivedValue))
        (DerivesFields.become genuineRest others)
  | [], _ :: _ | _ :: _, [] => exact derived.elim
termination_by structural fields

end

theorem restates_of_alike {given : Token × Part} {written written' : Token}
    (restates : Restates given written)
    (same : written.spelling = written'.spelling) : Restates given written' := by
  obtain ⟨kind, lexeme⟩ := Prod.mk.inj same
  unfold Restates Token.body at restates ⊢
  rwa [← kind, ← lexeme]

theorem forall₂_restates_of_alike {given : List (Token × Part)}
    {written tokens : List Token} (all : List.Forall₂ Restates given written)
    (alike : Alike written tokens) : List.Forall₂ Restates given tokens := by
  induction all generalizing tokens with
  | nil =>
      rw [alike.eq_nil]
      exact .nil
  | cons first _ induction =>
      obtain ⟨token, rest, rfl, same, others⟩ := alike.cons_cases
      exact .cons (restates_of_alike first same) (induction others)

theorem kinds_of_restates {given : List (Token × Part)} {written : List Token}
    (all : List.Forall₂ Restates given written) :
    written.map Token.kind = given.map fun part => part.1.kind := by
  induction all with
  | nil => rfl
  | cons first _ induction =>
      rw [List.map_cons, List.map_cons, first.1, induction]

/-- The written form of an accepted text has the tokens of the text in their
order, without the commas before closing delimiters.  Their spelling is kept but
for names of nodes, which still stand for the same text, and integers of spans,
which lose their leading zeros. -/
theorem tokenize_text_restates (source : String) (value : Value)
    (result : read source = .ok value) :
    (parts false (tokenize source)).map Prod.fst =
        withoutTrailing (tokenize source) ∧
      (tokenize value.text).map Token.kind =
        (withoutTrailing (tokenize source)).map Token.kind ∧
      List.Forall₂ Restates (parts false (tokenize source))
        (tokenize value.text) := by
  have becomes := Derives.becomes Token.scan_genuine (read_eq_ok_iff.mp result)
  obtain ⟨front, split, restated⟩ := becomes.parts [] rfl
  rw [List.append_nil, parts, List.append_nil] at split
  have all : List.Forall₂ Restates (parts false (tokenize source))
      (tokenize value.text) := by
    rw [tokenize, split]
    exact forall₂_restates_of_alike restated
      (alike_tokenize_text (wellFormed_of_read result))
  refine ⟨map_fst_parts _ _, ?_, all⟩
  rw [kinds_of_restates all, ← map_fst_parts false, List.map_map]
  rfl

theorem tokenize_text_respelled :
    let source := "\"\\q\"({1,}, |u|(0, 012, <1,0>, <1,2>),)"
    let written := "\"q\"({1}, |u|(0,12,<1,0>,<1,2>))"
    (tokenize written).map Token.kind =
        (withoutTrailing (tokenize source)).map Token.kind ∧
      List.Forall₂ Restates (parts false (tokenize source))
        (tokenize written) := by
  intro source written
  have result : read source = .ok (constr .node "q"
      [set [number "1"], location ⟨"u", some ⟨0, 12, 1, 0, 1, 2⟩⟩] []) := by
    decide +kernel
  exact (tokenize_text_restates source _ result).2

end Value

end TreeQuery
