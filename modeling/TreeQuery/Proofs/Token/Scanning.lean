import TreeQuery.Proofs.Token.Lexemes

/-!
# Scanning

A piece of a source scans to some tokens when the lexer gives these tokens and
goes on behind the piece, at whatever offset the piece starts.  Pieces that scan
one after the other scan as a whole.
-/

namespace TreeQuery

namespace Token

/-- Before `rest`, the characters are cut into tokens with the property. -/
def Scans (chars rest : List Char) (property : List Token → Prop) : Prop :=
  ∀ offset, ∃ tokens,
    scan offset 0 (chars ++ rest) =
      tokens ++ scan (offset + byteLength chars) 0 rest ∧
    property tokens

/-- One token of the kind that covers the characters. -/
def Lexed (kind : Kind) (lexeme : List Char) (tokens : List Token) : Prop :=
  ∃ token, tokens = [token] ∧ token.kind = kind ∧ token.lexeme = lexeme

section

variable {chars chars' rest : List Char}
  {property property' : List Token → Prop}

theorem byteLength_append :
    byteLength (chars ++ chars') = byteLength chars + byteLength chars' := by
  induction chars with
  | nil => simp [byteLength]
  | cons char chars induction =>
      rw [List.cons_append, byteLength, byteLength, induction, Nat.add_assoc]

/-- The characters of a token that is listed already are passed over. -/
theorem scan_covered (offset : Nat) :
    scan offset chars.length (chars ++ rest) =
      scan (offset + byteLength chars) 0 rest := by
  induction chars generalizing offset with
  | nil => rfl
  | cons char chars induction =>
      rw [List.length_cons, List.cons_append, scan, induction, byteLength,
        Nat.add_assoc]

theorem Scans.mono (scans : Scans chars rest property)
    (implied : ∀ ⦃tokens⦄, property tokens → property' tokens) :
    Scans chars rest property' := by
  intro offset
  obtain ⟨tokens, scanned, holds⟩ := scans offset
  exact ⟨tokens, scanned, implied holds⟩

theorem Scans.empty (holds : property []) : Scans [] rest property :=
  fun _ => ⟨[], rfl, holds⟩

theorem Scans.append (first : Scans chars (chars' ++ rest) property)
    (second : Scans chars' rest property') :
    Scans (chars ++ chars') rest fun tokens =>
      ∃ before after, tokens = before ++ after ∧ property before ∧
        property' after := by
  intro offset
  obtain ⟨before, scanned, holds⟩ := first offset
  obtain ⟨after, scanned', holds'⟩ := second (offset + byteLength chars)
  refine ⟨before ++ after, ?_, before, after, rfl, holds, holds'⟩
  rw [List.append_assoc, scanned, scanned', byteLength_append,
    List.append_assoc, Nat.add_assoc]

theorem Scans.blank (scans : Scans chars rest property) :
    Scans (' ' :: chars) rest property := by
  intro offset
  obtain ⟨tokens, scanned, holds⟩ := scans (offset + ' '.utf8Size)
  refine ⟨tokens, ?_, holds⟩
  have skipped : scan offset 0 (' ' :: (chars ++ rest)) =
      scan (offset + ' '.utf8Size) 0 (chars ++ rest) := rfl
  rw [List.cons_append, skipped, scanned, byteLength, Nat.add_assoc]

/-- A lexeme scans to one token when it is recognized at its full length. -/
theorem scans_lexeme {kind : Kind} {first : Char} {others : List Char}
    (starts : isSkipped first = false)
    (recognized : recognize first (others ++ rest) =
      (kind, (first :: others).length)) :
    Scans (first :: others) rest (Lexed kind (first :: others)) := by
  intro offset
  have taken : (first :: (others ++ rest)).take (first :: others).length =
      first :: others := List.take_left
  have covered : scan (offset + first.utf8Size) others.length (others ++ rest) =
      scan (offset + byteLength (first :: others)) 0 rest := by
    rw [scan_covered, byteLength, Nat.add_assoc]
  refine ⟨[⟨kind, first :: others, offset,
    offset + byteLength (first :: others)⟩], ?_, _, rfl, rfl, rfl⟩
  rw [List.cons_append, scan, starts]
  simp only [Bool.false_eq_true, if_false, recognized, taken]
  exact congrArg _ covered

theorem scans_delimiter {kind : Kind} (char : Char) (rest : List Char)
    (starts : isSkipped char = false)
    (recognized : recognize char rest = (kind, 1)) :
    Scans [char] rest (Lexed kind [char]) :=
  scans_lexeme starts recognized

theorem not_isSkipped {char : Char} (goesOn : isNameRest char = true) :
    isSkipped char = false := by
  rw [Bool.eq_false_iff]
  intro skipped
  simp only [isSkipped, Bool.or_eq_true, beq_iff_eq] at skipped
  rcases skipped with (((rfl | rfl) | rfl) | rfl) | rfl
  all_goals exact absurd goesOn (by decide)

theorem isNameRest_of_isNameStart {char : Char}
    (starts : isNameStart char = true) : isNameRest char = true := by
  rw [isNameStart] at starts
  simp [isNameRest, Char.isAlphanum, starts]

theorem isNameRest_of_isDigit {char : Char} (isDigit : char.isDigit = true) :
    isNameRest char = true := by
  simp [isNameRest, Char.isAlphanum, isDigit]

theorem scans_identifier (identifier : IsIdentifier chars)
    (apart : Apart rest) : Scans chars rest (Lexed .identifier chars) := by
  obtain ⟨first, others, rfl, starts, -⟩ := identifier.1
  exact scans_lexeme (not_isSkipped (isNameRest_of_isNameStart starts))
    (recognize_identifier identifier apart)

theorem scans_number (number : IsNumber chars) (apart : Apart rest) :
    Scans chars rest (Lexed .number chars) := by
  have starts : ∃ first others, chars = first :: others ∧
      isSkipped first = false := by
    obtain ⟨sign, unsigned, rfl, isSign, whole, fraction, rfl, isDigits, -⟩ :=
      number
    rcases isSign with rfl | rfl
    · obtain ⟨digit, digits, rfl, isDigit⟩ := isDigits.head_ne
      exact ⟨digit, _, rfl, not_isSkipped (isNameRest_of_isDigit isDigit)⟩
    · exact ⟨'-', _, rfl, rfl⟩
  obtain ⟨first, others, rfl, notSkipped⟩ := starts
  exact scans_lexeme notSkipped (recognize_number number apart)

/-- A body between its delimiters scans to one token. -/
theorem scans_quoted {kind : Kind} {close : Char} {holdsLines : Bool}
    {body : List Char} (notBackslash : close ≠ '\\')
    (starts : isSkipped close = false)
    (recognized : ∀ behind,
      recognize close behind = quotedToken kind close holdsLines behind)
    (quotable : Quotable close holdsLines body) :
    Scans (close :: (body ++ [close])) rest
      (Lexed kind (close :: (body ++ [close]))) := by
  apply scans_lexeme starts
  rw [List.append_assoc, List.singleton_append, recognized,
    quotedToken_append notBackslash quotable]
  simp

theorem scans_string {body : List Char} (quotable : Quotable '"' true body) :
    Scans ('"' :: (body ++ ['"'])) rest
      (Lexed .string ('"' :: (body ++ ['"']))) :=
  scans_quoted (by decide) rfl (fun _ => rfl) quotable

theorem scans_text {body : List Char} (quotable : Quotable '\'' true body) :
    Scans ('\'' :: (body ++ ['\''])) rest
      (Lexed .text ('\'' :: (body ++ ['\'']))) :=
  scans_quoted (by decide) rfl (fun _ => rfl) quotable

theorem scans_location {uri : List Char} (isUri : IsUri uri) :
    Scans ('|' :: (uri ++ ['|'])) rest
      (Lexed .location ('|' :: (uri ++ ['|']))) := by
  apply scans_lexeme rfl
  rw [List.append_assoc, List.singleton_append, recognize_location isUri]
  simp

theorem scans_true (apart : Apart rest) :
    Scans ['t', 'r', 'u', 'e'] rest
      (Lexed .trueWord ['t', 'r', 'u', 'e']) :=
  scans_lexeme rfl (recognize_word rfl (List.all_eq_true.mp rfl) apart)

theorem scans_false (apart : Apart rest) :
    Scans ['f', 'a', 'l', 's', 'e'] rest
      (Lexed .falseWord ['f', 'a', 'l', 's', 'e']) :=
  scans_lexeme rfl (recognize_word rfl (List.all_eq_true.mp rfl) apart)

/-- Every token of a source belongs to the class of its kind. -/
theorem scan_spells {offset covered : Nat} :
    ∀ token ∈ scan offset covered chars, Spells token.kind token.lexeme := by
  induction chars generalizing offset covered with
  | nil => simp [scan]
  | cons char chars induction =>
      cases covered with
      | succ covered => exact induction
      | zero =>
          rw [scan]
          split
          · exact induction
          · exact List.forall_mem_cons.mpr ⟨recognize_spells char, induction⟩

end

end Token

theorem tokenize_spells {source : String} :
    ∀ token ∈ tokenize source, Token.Spells token.kind token.lexeme :=
  Token.scan_spells

/-- A source that scans as a whole is cut into tokens with the property. -/
theorem tokenize_of_scans {chars : List Char} {property : List Token → Prop}
    (scans : Token.Scans chars [] property) :
    property (tokenize (String.ofList chars)) := by
  obtain ⟨tokens, scanned, holds⟩ := scans 0
  rw [tokenize, String.toList_ofList]
  rw [List.append_nil, Token.scan, List.append_nil] at scanned
  rwa [scanned]

end TreeQuery
