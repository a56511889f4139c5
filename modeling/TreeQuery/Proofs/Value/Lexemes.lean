import TreeQuery.Proofs.Reading.Respelling
import TreeQuery.Proofs.Value.RoundTrip

/-!
# The tokens of a written value

A written value scans to one token for each name, scalar and delimiter, with
commas between items only.  Names of nodes are spelled with a backslash only
where one is needed, and the integers of a span without leading zeros.
-/

namespace TreeQuery

open Reading
open Token (Apart Lexed Scans scans_delimiter scans_number)

/-- A token of the kind, wherever it stands. -/
def Token.Kind.spelled (kind : Kind) (lexeme : List Char) : Token :=
  { kind, lexeme, start := 0, stop := 0 }

def integerToken (value : Nat) : Token :=
  Token.Kind.number.spelled (writtenNat value)

def lineColumnTokens (line column : Nat) : List Token :=
  [Token.Kind.openAngle.sample, integerToken line, Token.Kind.comma.sample,
    integerToken column, Token.Kind.closeAngle.sample]

/-- The tokens of a written span. -/
def SourceSpan.lexemes (span : SourceSpan) : List Token :=
  [Token.Kind.openParen.sample, integerToken span.offsetStart,
    Token.Kind.comma.sample, integerToken span.offsetEnd,
    Token.Kind.comma.sample] ++
  (lineColumnTokens span.startLine span.startColumn ++
    Token.Kind.comma.sample ::
      (lineColumnTokens span.endLine span.endColumn ++
        [Token.Kind.closeParen.sample]))

/-- The tokens of a written location. -/
def Location.lexemes (place : Location) : List Token :=
  Token.Kind.location.spelled ('|' :: (place.uri.toList ++ ['|'])) ::
    match place.span with
    | some span => span.lexemes
    | none => []

/-- A comma between each two items. -/
def separatedTokens (items : List (List Token)) : List Token :=
  [Token.Kind.comma.sample].intercalate items

/-- The separated items between two delimiters. -/
def enclosedTokens (opening closing : Token.Kind) (items : List (List Token)) :
    List Token :=
  opening.sample :: (separatedTokens items ++ [closing.sample])

namespace Value

def nameToken (kind : ConstructorKind) (name : String) : Token :=
  match kind with
  | .identifier => Token.Kind.identifier.spelled name.toList
  | .node => Token.Kind.string.spelled (writtenQuoted (Text.ofPlain name))

mutual

/-- The tokens of a written value. -/
def lexemes : Value → List Token
  | map entries =>
      enclosedTokens .openParen .closeParen (entryLexemes entries)
  | list items =>
      enclosedTokens .openBracket .closeBracket (itemLexemes items)
  | set items => enclosedTokens .openBrace .closeBrace (itemLexemes items)
  | tuple items => enclosedTokens .openAngle .closeAngle (itemLexemes items)
  | constr kind name positional named =>
      nameToken kind name :: enclosedTokens .openParen .closeParen
        (itemLexemes positional ++ fieldLexemes named)
  | string text => [Token.Kind.string.spelled (writtenQuoted text)]
  | number digits => [Token.Kind.number.spelled digits.toList]
  | boolean true => [Token.Kind.trueWord.sample]
  | boolean false => [Token.Kind.falseWord.sample]
  | location place => place.lexemes

def itemLexemes : List Value → List (List Token)
  | [] => []
  | value :: values => lexemes value :: itemLexemes values

def entryLexemes : List (Value × Value) → List (List Token)
  | [] => []
  | (key, value) :: entries =>
      (lexemes key ++ Token.Kind.colon.sample :: lexemes value) ::
        entryLexemes entries

def fieldLexemes : List (String × Value) → List (List Token)
  | [] => []
  | (name, value) :: fields =>
      (nameToken .identifier name :: Token.Kind.equals.sample ::
        lexemes value) :: fieldLexemes fields

end

end Value

/-! ## Scanning what is written -/

section

variable {chars chars' rest : List Char} {tokens tokens' : List Token}
  {kind : Token.Kind}

private theorem alike_of_lexed (written : Token)
    (lexed : Lexed written.kind written.lexeme tokens) :
    Alike [written] tokens := by
  obtain ⟨token, rfl, kind, lexeme⟩ := lexed
  exact congrArg (fun spelling => [spelling]) (Prod.ext kind.symm lexeme.symm)

private theorem scans_spelled (scans : Scans chars rest (Lexed kind chars)) :
    Scans chars rest (Alike [kind.spelled chars]) :=
  scans.mono fun _ lexed => alike_of_lexed (kind.spelled chars) lexed

private theorem scans_mark (char : Char) (rest : List Char)
    (starts : Token.isSkipped char = false)
    (recognized : Token.recognize char rest = (kind, 1))
    (lexeme : kind.lexeme = [char]) :
    Scans [char] rest (Alike [kind.sample]) := by
  apply (scans_delimiter char rest starts recognized).mono
  intro found lexed
  rw [← lexeme] at lexed
  exact alike_of_lexed kind.sample lexed

private theorem scans_append
    (first : Scans chars (chars' ++ rest) (Alike tokens))
    (second : Scans chars' rest (Alike tokens')) :
    Scans (chars ++ chars') rest (Alike (tokens ++ tokens')) := by
  apply (first.append second).mono
  intro found parts
  obtain ⟨before, after, rfl, alike, alike'⟩ := parts
  exact alike.append alike'

/-- Before whatever stands apart the characters scan to such tokens. -/
def Writes (chars : List Char) (tokens : List Token) : Prop :=
  ∀ rest, Apart rest → Scans chars rest (Alike tokens)

private theorem integer_writes (value : Nat) :
    Writes (writtenNat value) [integerToken value] :=
  fun _ apart => scans_spelled
    (scans_number (isNumber_of_isDigits (writtenNat_isDigits value)) apart)

private theorem lineColumn_writes (line column : Nat) (rest : List Char) :
    Scans (writtenLineColumn line column) rest
      (Alike (lineColumnTokens line column)) :=
  scans_append (scans_mark '<' _ rfl rfl rfl) <|
    scans_append (integer_writes line _ (apart_cons rfl (by decide))) <|
    scans_append (scans_mark ',' _ rfl rfl rfl) <|
    scans_append (integer_writes column _ (apart_cons rfl (by decide))) <|
    scans_mark '>' rest rfl rfl rfl

private theorem span_writes (span : SourceSpan) (rest : List Char) :
    Scans span.written rest (Alike span.lexemes) := by
  rw [writtenSpan_eq]
  exact scans_append (scans_mark '(' _ rfl rfl rfl) <|
    scans_append (integer_writes _ _ (apart_cons rfl (by decide))) <|
    scans_append (scans_mark ',' _ rfl rfl rfl) <|
    scans_append (integer_writes _ _ (apart_cons rfl (by decide))) <|
    scans_append (scans_mark ',' _ rfl rfl rfl) <|
    scans_append (lineColumn_writes _ _ _) <|
    scans_append (scans_mark ',' _ rfl rfl rfl) <|
    scans_append (lineColumn_writes _ _ _) <|
    scans_mark ')' rest rfl rfl rfl

private theorem location_writes {place : Location} (wellFormed : place.WellFormed)
    (rest : List Char) : Scans place.written rest (Alike place.lexemes) := by
  obtain ⟨uri, span⟩ := place
  have isUri := wellFormed.uri
  have bars (behind : List Char) : Scans ('|' :: uri.toList ++ ['|']) behind
      (Alike [Token.Kind.location.spelled ('|' :: (uri.toList ++ ['|']))]) :=
    scans_spelled (Token.scans_location isUri)
  cases span with
  | none =>
      rw [Location.written, List.append_nil]
      exact bars rest
  | some span => exact scans_append (bars _) (span_writes span rest)

private theorem quoted_writes {text : Text}
    (decoded : Segment.Decoded text.segments) (rest : List Char) :
    Scans (writtenQuoted text) rest
      (Alike [Token.Kind.string.spelled (writtenQuoted text)]) :=
  scans_spelled (Token.scans_string (Segment.written_quotable decoded))

private theorem name_writes {kind : ConstructorKind} {name : String}
    (wellFormed : kind = .identifier → Token.IsIdentifier name.toList) :
    Writes (Value.writtenName kind name) [Value.nameToken kind name] := by
  intro rest apart
  cases kind with
  | identifier =>
      exact scans_spelled (Token.scans_identifier (wellFormed rfl) apart)
  | node => exact quoted_writes (Segment.ofPlain_decoded _) rest

private theorem separated_writes {items : List (List Char)}
    {found : List (List Token)}
    (all : List.Forall₂ Writes items found) (apart : Apart rest) :
    Scans (separate items) rest (Alike (separatedTokens found)) := by
  induction all with
  | nil => exact .empty (.refl _)
  | @cons chars tokens items found first others induction =>
      cases others with
      | nil =>
          have alone : separate [chars] = chars := by
            simp [separate, List.intercalate]
          have alone' : separatedTokens [tokens] = tokens := by
            simp [separatedTokens, List.intercalate]
          rw [alone, alone']
          exact first rest apart
      | @cons chars' tokens' items found second others =>
          have split : separate (chars :: chars' :: items) =
              chars ++ ([','] ++ ' ' :: separate (chars' :: items)) := by
            simp [separate, List.intercalate]
          have split' : separatedTokens (tokens :: tokens' :: found) =
              tokens ++ ([Token.Kind.comma.sample] ++
                separatedTokens (tokens' :: found)) := by
            simp [separatedTokens, List.intercalate]
          rw [split, split']
          exact scans_append (first _ (apart_cons rfl (by decide))) <|
            scans_append (scans_mark ',' _ rfl rfl rfl) induction.blank

end

namespace Value

/-- A separated list between two delimiters. -/
theorem enclosed_writes {rest : List Char} {items : List (List Char)}
    {found : List (List Token)} (all : List.Forall₂ Writes items found)
    {opening closing : Char} {openingKind closingKind : Token.Kind}
    (apart : Apart (closing :: rest))
    (opens : ∀ rest, Scans [opening] rest (Alike [openingKind.sample]))
    (closes : ∀ rest, Scans [closing] rest (Alike [closingKind.sample])) :
    Scans (opening :: separate items ++ [closing]) rest
      (Alike (enclosedTokens openingKind closingKind found)) :=
  scans_append (opens _)
    (scans_append (separated_writes all apart) (closes rest))

mutual

/-- A well-formed value is written with its tokens. -/
theorem written_writes {value : Value} (wellFormed : WellFormed value) :
    Writes (written value) (lexemes value) := by
  intro rest apart
  match value with
  | .map entries =>
      exact enclosed_writes (writtenEntries_write wellFormed)
        (apart_cons rfl (by decide)) (scans_mark '(' · rfl rfl rfl)
        (scans_mark ')' · rfl rfl rfl)
  | .list items =>
      exact enclosed_writes (writtenItems_write wellFormed)
        (apart_cons rfl (by decide)) (scans_mark '[' · rfl rfl rfl)
        (scans_mark ']' · rfl rfl rfl)
  | .set items =>
      exact enclosed_writes (writtenItems_write wellFormed)
        (apart_cons rfl (by decide)) (scans_mark '{' · rfl rfl rfl)
        (scans_mark '}' · rfl rfl rfl)
  | .tuple items =>
      exact enclosed_writes (writtenItems_write wellFormed)
        (apart_cons rfl (by decide)) (scans_mark '<' · rfl rfl rfl)
        (scans_mark '>' · rfl rfl rfl)
  | .constr kind name positional named =>
      obtain ⟨isName, items, fields⟩ := wellFormed
      have all := List.rel_append (writtenItems_write items)
        (writtenFields_write fields)
      have split : written (.constr kind name positional named) =
          writtenName kind name ++
            ('(' :: separate (writtenItems positional ++ writtenFields named) ++
              [')']) := by
        simp [written]
      rw [split]
      exact scans_append (name_writes isName _ (apart_cons rfl (by decide)))
        (enclosed_writes all (apart_cons rfl (by decide))
          (scans_mark '(' · rfl rfl rfl) (scans_mark ')' · rfl rfl rfl))
  | .string text => exact quoted_writes wellFormed rest
  | .number digits => exact scans_spelled (scans_number wellFormed apart)
  | .boolean true => exact scans_spelled (Token.scans_true apart)
  | .boolean false => exact scans_spelled (Token.scans_false apart)
  | .location place => exact location_writes wellFormed rest
termination_by structural value

theorem writtenItems_write {values : List Value}
    (wellFormed : WellFormedItems values) :
    List.Forall₂ Writes (writtenItems values) (itemLexemes values) := by
  match values with
  | [] => exact .nil
  | value :: values =>
      exact .cons (written_writes wellFormed.1)
        (writtenItems_write wellFormed.2)
termination_by structural values

theorem writtenEntries_write {entries : List (Value × Value)}
    (wellFormed : WellFormedEntries entries) :
    List.Forall₂ Writes (writtenEntries entries) (entryLexemes entries) := by
  match entries with
  | [] => exact .nil
  | (key, value) :: entries =>
      refine .cons ?_ (writtenEntries_write wellFormed.2.2)
      intro rest apart
      have split : written key ++ [':', ' '] ++ written value =
          written key ++ ([':'] ++ ' ' :: written value) := by
        simp
      rw [split]
      exact scans_append
        (written_writes wellFormed.1 _ (apart_cons rfl (by decide))) <|
        scans_append (scans_mark ':' _ rfl rfl rfl)
          (written_writes wellFormed.2.1 rest apart).blank
termination_by structural entries

theorem writtenFields_write {fields : List (String × Value)}
    (wellFormed : WellFormedFields fields) :
    List.Forall₂ Writes (writtenFields fields) (fieldLexemes fields) := by
  match fields with
  | [] => exact .nil
  | (name, value) :: fields =>
      refine .cons ?_ (writtenFields_write wellFormed.2.2)
      intro rest apart
      have split : name.toList ++ ['='] ++ written value =
          name.toList ++ (['='] ++ written value) := by
        simp
      rw [split]
      exact scans_append (scans_spelled
          (Token.scans_identifier wellFormed.1 (apart_cons rfl (by decide)))) <|
        scans_append (scans_mark '=' _ rfl rfl rfl)
          (written_writes wellFormed.2.1 rest apart)
termination_by structural fields

end

theorem alike_tokenize_text {value : Value} (wellFormed : WellFormed value) :
    Alike (lexemes value) (tokenize value.text) := by
  have apart : Apart [] := by
    intro char member
    cases member
  exact tokenize_of_scans (written_writes wellFormed [] apart)

end Value

end TreeQuery
