import TreeQuery.Proofs.Value.Reading
import TreeQuery.Proofs.Value.WellFormed
import TreeQuery.Value.Printer

/-!
# Writing and reading values

The written form of a well-formed value scans to tokens that derive the value.
So reading what was written gives the value back, and since what is read is well
formed, this holds for every value that was read from any source.
-/

namespace TreeQuery

open Reading
open Token (Apart IsDigits IsNumber Lexed Scans scans_delimiter scans_number)

section

variable {rest : List Char}

theorem isNumber_of_isDigits {chars : List Char} (digits : IsDigits chars) :
    IsNumber chars :=
  ⟨[], chars, rfl, .inl rfl, chars, [], (List.append_nil _).symm, digits,
    .inl rfl⟩

theorem writtenNat_isDigits (n : Nat) : IsDigits (writtenNat n) :=
  ⟨Nat.toDigits_ne_nil, fun _ member =>
    Nat.isDigit_of_mem_toDigits (by decide) (by decide) member⟩

/-- An integer of a span is read as it was written. -/
theorem word?_writtenNat {n : Nat} (bounded : n < UInt64.size) :
    Numeral.word? (writtenNat n) = some n := by
  obtain ⟨nonempty, digits⟩ := writtenNat_isDigits n
  have decimal : Numeral.decimal? (writtenNat n) = some n := by
    rw [Numeral.decimal?, if_pos ⟨nonempty, List.all_eq_true.mpr digits⟩]
    exact congrArg some Nat.ofDigitChars_ten_toDigits
  rw [Numeral.word?, decimal]
  simp [bounded]

private theorem writtenNat_scans {n : Nat} (bounded : n < UInt64.size)
    (apart : Apart rest) :
    Scans (writtenNat n) rest fun tokens =>
      ∃ token, tokens = [token] ∧ DerivesInteger token n := by
  apply (scans_number (isNumber_of_isDigits (writtenNat_isDigits n)) apart).mono
  intro tokens lexed
  obtain ⟨token, rfl, kind, lexeme⟩ := lexed
  exact ⟨token, rfl, kind, by rw [lexeme, word?_writtenNat bounded]⟩

theorem apart_cons {char : Char} (ends : Token.isNameRest char = false)
    (notPoint : char ≠ '.') : Apart (char :: rest) := by
  intro other member
  obtain rfl : char = other := by simpa using member
  exact ⟨ends, notPoint⟩

/-- A line and a column as they are written in a span. -/
def writtenLineColumn (line column : Nat) : List Char :=
  '<' :: (writtenNat line ++ ',' :: (writtenNat column ++ ['>']))

private theorem writtenLineColumn_scans {line column : Nat}
    (boundedLine : line < UInt64.size) (boundedColumn : column < UInt64.size) :
    Scans (writtenLineColumn line column) rest fun tokens =>
      DerivesLineColumn tokens (line, column) := by
  have scans :=
    (scans_delimiter '<' _ rfl rfl).append <|
    (writtenNat_scans boundedLine (apart_cons rfl (by decide))).append <|
    (scans_delimiter ',' _ rfl rfl).append <|
    (writtenNat_scans boundedColumn (apart_cons rfl (by decide))).append <|
    scans_delimiter '>' rest rfl rfl
  apply scans.mono
  intro tokens derived
  obtain ⟨_, _, rfl, ⟨first, rfl, opens, -⟩, _, _, rfl,
    ⟨lineToken, rfl, isLine⟩, _, _, rfl, ⟨comma, rfl, isComma, -⟩,
    _, _, rfl, ⟨columnToken, rfl, isColumn⟩, last, rfl, closes, -⟩ := derived
  exact ⟨first, lineToken, comma, columnToken, last, rfl, opens, isLine,
    isComma, isColumn, closes⟩

theorem writtenSpan_eq (span : SourceSpan) :
    span.written = '(' :: (writtenNat span.offsetStart ++
      ',' :: (writtenNat span.offsetEnd ++
        ',' :: (writtenLineColumn span.startLine span.startColumn ++
          ',' :: (writtenLineColumn span.endLine span.endColumn ++
            [')'])))) := by
  simp [SourceSpan.written, writtenLineColumn]

private theorem writtenSpan_scans {span : SourceSpan}
    (wellFormed : span.WellFormed) :
    Scans span.written rest fun tokens => DerivesSpan tokens span := by
  obtain ⟨boundedStart, boundedEnd, boundedLine, boundedColumn, boundedLine',
    boundedColumn'⟩ := wellFormed
  have scans :=
    (scans_delimiter '(' _ rfl rfl).append <|
    (writtenNat_scans boundedStart (apart_cons rfl (by decide))).append <|
    (scans_delimiter ',' _ rfl rfl).append <|
    (writtenNat_scans boundedEnd (apart_cons rfl (by decide))).append <|
    (scans_delimiter ',' _ rfl rfl).append <|
    (writtenLineColumn_scans boundedLine boundedColumn).append <|
    (scans_delimiter ',' _ rfl rfl).append <|
    (writtenLineColumn_scans boundedLine' boundedColumn').append <|
    scans_delimiter ')' rest rfl rfl
  rw [writtenSpan_eq]
  apply scans.mono
  intro tokens derived
  obtain ⟨_, _, rfl, ⟨first, rfl, opens, -⟩, _, _, rfl, ⟨start, rfl, isStart⟩,
    _, _, rfl, ⟨comma, rfl, isComma, -⟩, _, _, rfl, ⟨stop, rfl, isStop⟩,
    _, _, rfl, ⟨comma', rfl, isComma', -⟩, left, _, rfl, isLeft,
    _, _, rfl, ⟨comma'', rfl, isComma'', -⟩, right, _, rfl, isRight,
    last, rfl, closes, -⟩ := derived
  exact ⟨first, start, comma, stop, comma', left, comma'', right, last, rfl,
    opens, isStart, isComma, isStop, isComma', isLeft, isComma'', isRight,
    closes⟩

private theorem writtenLocation_scans {place : Location}
    (wellFormed : place.WellFormed) :
    Scans place.written rest fun tokens => DerivesLocation tokens place := by
  obtain ⟨uri, span⟩ := place
  have isUri := wellFormed.uri
  cases span with
  | none =>
      have written : (Location.mk uri none).written =
          '|' :: (uri.toList ++ ['|']) := by
        simp [Location.written]
      rw [written]
      apply (Token.scans_location isUri).mono
      intro tokens lexed
      obtain ⟨token, rfl, kind, lexeme⟩ := lexed
      refine ⟨token, [], rfl, kind, ?_, rfl⟩
      rw [Token.body_of_lexeme lexeme, String.ofList_toList]
  | some span =>
      have written : (Location.mk uri (some span)).written =
          '|' :: (uri.toList ++ ['|']) ++ span.written := by
        simp [Location.written]
      rw [written]
      apply ((Token.scans_location isUri).append
        (writtenSpan_scans (wellFormed.span span rfl))).mono
      intro tokens derived
      obtain ⟨_, after, rfl, ⟨token, rfl, kind, lexeme⟩, derivedSpan⟩ := derived
      refine ⟨token, after, rfl, kind, ?_, derivedSpan⟩
      rw [Token.body_of_lexeme lexeme, String.ofList_toList]

/-- A token that covers the written form of a text between delimiters means the
text. -/
theorem derivesToken_of_lexed {inRun behind : Char → Prop} {kind : Token.Kind}
    {close : Char} {text : Text} {tokens : List Token}
    (formed : Segment.Formed inRun behind text.segments)
    (lexed : Lexed kind
      (close :: (text.segments.flatMap Segment.written ++ [close])) tokens) :
    DerivesToken kind (fun token => Text.decode token.body) tokens text := by
  obtain ⟨token, rfl, kind, lexeme⟩ := lexed
  refine ⟨token, rfl, kind, ?_⟩
  change Text.decode token.body = text
  rw [Token.body_of_lexeme lexeme, Text.decode_written formed]

private theorem writtenQuoted_scans {text : Text}
    (decoded : Segment.Decoded text.segments) :
    Scans (writtenQuoted text) rest
      (DerivesToken .string (fun token => Text.decode token.body) · text) := by
  have formed := Segment.decoded_iff_formed.mp decoded
  apply (Token.scans_string formed.quotable).mono
  intro tokens lexed
  exact derivesToken_of_lexed formed lexed

private theorem writtenIdentifier_scans {name : String}
    (identifier : Token.IsIdentifier name.toList) (apart : Apart rest) :
    Scans name.toList rest (Value.DerivesIdentifier · name) := by
  apply (Token.scans_identifier identifier apart).mono
  intro tokens lexed
  obtain ⟨token, rfl, kind, lexeme⟩ := lexed
  refine ⟨token, rfl, kind, ?_⟩
  rw [Token.written, lexeme, String.ofList_toList]

private theorem writtenName_scans {kind : ConstructorKind} {name : String}
    (wellFormed : kind = .identifier → Token.IsIdentifier name.toList)
    (apart : Apart rest) :
    Scans (Value.writtenName kind name) rest
      (Value.DerivesName kind · name) := by
  cases kind with
  | identifier => exact writtenIdentifier_scans (wellFormed rfl) apart
  | node =>
      apply (writtenQuoted_scans (Segment.ofPlain_decoded _)).mono
      intro tokens derived
      obtain ⟨token, rfl, kind, decoded⟩ := derived
      exact ⟨token, rfl, kind,
        (congrArg Text.plain decoded).trans (Text.plain_ofPlain name)⟩

/-- Before whatever stands apart the characters scan to tokens that derive the
value. -/
def ScansTo {α : Type} (derives : List Token → α → Prop) (chars : List Char)
    (value : α) : Prop :=
  ∀ rest, Apart rest → Scans chars rest (derives · value)

/-- The pieces of a separated list scan to its items when each written item
scans to an item. -/
private theorem separate_scans {α : Type} {derives : List Token → α → Prop}
    {items : List (List Char)} {values : List α}
    (all : List.Forall₂ (ScansTo derives) items values)
    (apart : Apart rest) :
    Scans (separate items) rest fun tokens =>
      ∃ pieces, Listed pieces tokens ∧ List.Forall₂ derives pieces values := by
  induction all with
  | nil => exact .empty ⟨[], .empty, .nil⟩
  | @cons chars value items values first others induction =>
      cases others with
      | nil =>
          have alone : separate [chars] = chars := by
            simp [separate, List.intercalate]
          rw [alone]
          apply (first rest apart).mono
          intro tokens derived
          exact ⟨[tokens], .last tokens, .cons derived .nil⟩
      | @cons chars' value' items values second others =>
          have split : separate (chars :: chars' :: items) =
              chars ++ ([','] ++ ' ' :: separate (chars' :: items)) := by
            simp [separate, List.intercalate]
          rw [split]
          have scans := (first _ (apart_cons rfl (by decide))).append
            ((scans_delimiter ',' _ rfl rfl).append induction.blank)
          apply scans.mono
          intro tokens derived
          obtain ⟨piece, _, rfl, derivedFirst, _, _, rfl, ⟨comma, rfl, kind, -⟩,
            pieces, listed, derivedOthers⟩ := derived
          cases derivedOthers with
          | cons derivedSecond derivedRest =>
              exact ⟨_, .more piece kind listed,
                .cons derivedFirst (.cons derivedSecond derivedRest)⟩

/-- A separated list between two delimiters scans as a whole. -/
private theorem enclosed_scans {α : Type} {derives : List Token → α → Prop}
    {opening closing : Char} {openingKind closingKind : Token.Kind}
    {items : List (List Char)} {values : List α}
    (all : List.Forall₂ (ScansTo derives) items values)
    (apart : Apart (closing :: rest))
    (opens : ∀ rest, Scans [opening] rest (Lexed openingKind [opening]))
    (closes : ∀ rest, Scans [closing] rest (Lexed closingKind [closing])) :
    Scans (opening :: separate items ++ [closing]) rest fun tokens =>
      ∃ pieces, Enclosed openingKind closingKind pieces tokens ∧
        List.Forall₂ derives pieces values := by
  have scans :=
    (opens _).append ((separate_scans all apart).append (closes rest))
  apply scans.mono
  intro tokens derived
  obtain ⟨_, _, rfl, ⟨first, rfl, kind, -⟩, inner, _, rfl,
    ⟨pieces, listed, derivedAll⟩, last, rfl, kind', -⟩ := derived
  exact ⟨pieces, ⟨first, inner, last, rfl, kind, kind', listed⟩, derivedAll⟩

end

namespace Value

theorem items_scan {rest : List Char} {opening closing : Char}
    {openingKind closingKind : Token.Kind} {items : List Value}
    (all : List.Forall₂ (ScansTo Derives) (writtenItems items) items)
    (apart : Apart (closing :: rest))
    (opens : ∀ rest, Scans [opening] rest (Lexed openingKind [opening]))
    (closes : ∀ rest, Scans [closing] rest (Lexed closingKind [closing])) :
    Scans (opening :: separate (writtenItems items) ++ [closing]) rest
      fun tokens => ∃ pieces,
        Enclosed openingKind closingKind pieces tokens ∧
          DerivesItems pieces items := by
  apply (enclosed_scans all apart opens closes).mono
  intro tokens derived
  obtain ⟨pieces, enclosed, derivedAll⟩ := derived
  exact ⟨pieces, enclosed, derivesItems_iff_forall₂.mpr derivedAll⟩

mutual

/-- The written form of a well-formed value scans to tokens that derive it. -/
theorem written_scans {value : Value} (wellFormed : WellFormed value) :
    ScansTo Derives (written value) value := by
  intro rest apart
  match value with
  | .map entries =>
      apply (enclosed_scans (writtenEntries_scan wellFormed)
        (apart_cons rfl (by decide)) (scans_delimiter '(' · rfl rfl)
        (scans_delimiter ')' · rfl rfl)).mono
      intro tokens derived
      obtain ⟨pieces, enclosed, all⟩ := derived
      exact ⟨pieces, enclosed, derivesEntries_iff_forall₂.mpr all⟩
  | .list items =>
      exact items_scan (writtenItems_scan wellFormed)
        (apart_cons rfl (by decide)) (scans_delimiter '[' · rfl rfl)
        (scans_delimiter ']' · rfl rfl)
  | .set items =>
      exact items_scan (writtenItems_scan wellFormed)
        (apart_cons rfl (by decide)) (scans_delimiter '{' · rfl rfl)
        (scans_delimiter '}' · rfl rfl)
  | .tuple items =>
      exact items_scan (writtenItems_scan wellFormed)
        (apart_cons rfl (by decide)) (scans_delimiter '<' · rfl rfl)
        (scans_delimiter '>' · rfl rfl)
  | .constr kind name positional named =>
      obtain ⟨isName, items, fields⟩ := wellFormed
      have all : List.Forall₂
          (ScansTo (DerivesArgument DerivesIdentifier Derives))
          (writtenItems positional ++ writtenFields named)
          (inOrder positional named) := by
        apply List.rel_append
        · rw [List.forall₂_map_right_iff]
          exact writtenItems_scan items
        · rw [List.forall₂_map_right_iff]
          exact writtenFields_scan fields
      have scans :=
        (writtenName_scans isName (apart_cons rfl (by decide))).append
        (enclosed_scans all (@apart_cons rest ')' rfl (by decide))
          (scans_delimiter '(' · rfl rfl) (scans_delimiter ')' · rfl rfl))
      have split : written (.constr kind name positional named) =
          writtenName kind name ++
            ('(' :: separate (writtenItems positional ++ writtenFields named) ++
              [')']) := by
        simp [written]
      rw [split]
      apply scans.mono
      intro tokens derived
      obtain ⟨head, arguments, rfl, derivedName, pieces, enclosed,
        derivedAll⟩ := derived
      obtain ⟨left, right, enclosed', derivedItems, derivedFields⟩ :=
        Rule.derivesArguments_of_inOrder enclosed derivedAll
      exact ⟨head, arguments, left, right, rfl, derivedName, enclosed',
        derivesItems_iff_forall₂.mpr derivedItems,
        derivesFields_iff_forall₂.mpr derivedFields⟩
  | .string text => exact writtenQuoted_scans wellFormed
  | .number digits =>
      apply (scans_number wellFormed apart).mono
      intro tokens lexed
      obtain ⟨token, rfl, kind, lexeme⟩ := lexed
      refine ⟨token, rfl, kind, ?_⟩
      rw [Token.written, lexeme, String.ofList_toList]
  | .boolean true =>
      apply (Token.scans_true apart).mono
      intro tokens lexed
      obtain ⟨token, rfl, kind, -⟩ := lexed
      exact ⟨token, rfl, kind⟩
  | .boolean false =>
      apply (Token.scans_false apart).mono
      intro tokens lexed
      obtain ⟨token, rfl, kind, -⟩ := lexed
      exact ⟨token, rfl, kind⟩
  | .location place => exact writtenLocation_scans wellFormed
termination_by structural value

theorem writtenItems_scan {values : List Value}
    (wellFormed : WellFormedItems values) :
    List.Forall₂ (ScansTo Derives) (writtenItems values) values := by
  match values with
  | [] => exact .nil
  | value :: values =>
      exact .cons (written_scans wellFormed.1) (writtenItems_scan wellFormed.2)
termination_by structural values

theorem writtenEntries_scan {entries : List (Value × Value)}
    (wellFormed : WellFormedEntries entries) :
    List.Forall₂ (ScansTo (DerivesEntry Derives)) (writtenEntries entries)
      entries := by
  match entries with
  | [] => exact .nil
  | (key, value) :: entries =>
      refine .cons ?_ (writtenEntries_scan wellFormed.2.2)
      intro rest apart
      have scans :=
        (written_scans wellFormed.1 _ (apart_cons rfl (by decide))).append <|
          (scans_delimiter ':' _ rfl rfl).append
            (written_scans wellFormed.2.1 rest apart).blank
      have split : written key ++ [':', ' '] ++ written value =
          written key ++ ([':'] ++ ' ' :: written value) := by
        simp
      rw [split]
      apply scans.mono
      intro tokens derived
      obtain ⟨left, _, rfl, derivedKey, _, right, rfl, ⟨colon, rfl, kind, -⟩,
        derivedValue⟩ := derived
      exact ⟨left, colon, right, rfl, kind, derivedKey, derivedValue⟩
termination_by structural entries

theorem writtenFields_scan {fields : List (String × Value)}
    (wellFormed : WellFormedFields fields) :
    List.Forall₂ (ScansTo (DerivesField DerivesIdentifier Derives))
      (writtenFields fields) fields := by
  match fields with
  | [] => exact .nil
  | (name, value) :: fields =>
      refine .cons ?_ (writtenFields_scan wellFormed.2.2)
      intro rest apart
      have scans :=
        (writtenIdentifier_scans wellFormed.1
          (apart_cons rfl (by decide))).append <|
          (scans_delimiter '=' _ rfl rfl).append
            (written_scans wellFormed.2.1 rest apart)
      have split : name.toList ++ ['='] ++ written value =
          name.toList ++ (['='] ++ written value) := by
        simp
      rw [split]
      apply scans.mono
      intro tokens derived
      obtain ⟨left, _, rfl, derivedName, _, right, rfl, ⟨equals, rfl, kind, -⟩,
        derivedValue⟩ := derived
      exact ⟨left, equals, right, rfl, kind, derivedName, derivedValue⟩
termination_by structural fields

end

theorem derives_text {value : Value} (wellFormed : WellFormed value) :
    Derives (tokenize value.text) value := by
  have apart : Apart [] := by
    intro char member
    cases member
  exact tokenize_of_scans (written_scans wellFormed [] apart)

theorem wellFormed_of_read {source : String} {value : Value}
    (result : read source = .ok value) : WellFormed value :=
  Derives.wellFormed tokenize_spells (read_eq_ok_iff.mp result)

theorem read_of_wellFormed {value : Value} (wellFormed : WellFormed value) :
    read value.text = .ok value :=
  read_eq_ok_iff.mpr (derives_text wellFormed)

/-- Reading the written form of a well-formed value gives the value back.  Every
value that is read from a source is well formed, so it can be written and read
again. -/
theorem read_text :
    (∀ value, WellFormed value → read value.text = .ok value) ∧
      ∀ source value, read source = .ok value →
        WellFormed value ∧ read value.text = .ok value := by
  refine ⟨fun value wellFormed => read_of_wellFormed wellFormed, ?_⟩
  intro source value result
  have wellFormed := wellFormed_of_read result
  exact ⟨wellFormed, read_of_wellFormed wellFormed⟩

theorem read_text_respelled :
    let span : SourceSpan := ⟨0, 12, 1, 0, 1, 12⟩
    let value := Value.constr .node "a\"b"
      [.number "-1.5e3", .location ⟨"file:///a", some span⟩]
      [("k", .list [.string ⟨[.raw ['x'], .escaped 'n']⟩])]
    let source :=
      "\"a\\\"b\" (-1.5e3,|file:///a| (0, 012, <1,0>, <1,12>),k = [\"x\\n\",],)"
    read source = .ok value ∧ WellFormed value ∧
      read value.text = .ok value := by
  intro span value source
  have result : read source = .ok value := by
    decide +kernel
  have again := read_text.2 source value result
  exact ⟨result, again.1, read_text.1 value again.1⟩

end Value

end TreeQuery
