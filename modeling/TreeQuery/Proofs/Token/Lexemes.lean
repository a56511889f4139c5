import TreeQuery.Proofs.Text.Spelling
import TreeQuery.Token.Lexer

/-!
# Lexemes

The classes of lexemes that carry text, and how they are recognized: the lexer
takes a whole lexeme when the next character cannot continue it, and whatever it
takes belongs to the class of its kind.
-/

namespace TreeQuery

namespace Token

/-- One or more decimal digits. -/
def IsDigits (chars : List Char) : Prop :=
  chars ≠ [] ∧ ∀ char ∈ chars, char.isDigit = true

def IsSign (chars : List Char) : Prop :=
  chars = [] ∨ chars = ['-']

def IsExponent (chars : List Char) : Prop :=
  ∃ mark sign digits, chars = mark :: (sign ++ digits) ∧
    (mark = 'e' ∨ mark = 'E') ∧ IsSign sign ∧ IsDigits digits

/-- A point and digits, and then maybe an exponent. -/
def IsFraction (chars : List Char) : Prop :=
  ∃ digits exponent, chars = '.' :: (digits ++ exponent) ∧ IsDigits digits ∧
    (exponent = [] ∨ IsExponent exponent)

def IsUnsigned (chars : List Char) : Prop :=
  ∃ whole fraction, chars = whole ++ fraction ∧ IsDigits whole ∧
    (fraction = [] ∨ IsFraction fraction)

def IsNumber (chars : List Char) : Prop :=
  ∃ sign unsigned, chars = sign ++ unsigned ∧ IsSign sign ∧
    IsUnsigned unsigned

/-- A letter and then letters, digits and underscores, but no truth value. -/
def IsIdentifier (chars : List Char) : Prop :=
  (∃ first others, chars = first :: others ∧ isNameStart first = true ∧
    ∀ char ∈ others, isNameRest char = true) ∧
    chars ≠ ['t', 'r', 'u', 'e'] ∧ chars ≠ ['f', 'a', 'l', 's', 'e']

def IsUri (chars : List Char) : Prop :=
  chars ≠ [] ∧ ∀ char ∈ chars, isUriChar char = true

/-- No word and no number goes on with these characters. -/
def Apart (rest : List Char) : Prop :=
  ∀ char ∈ rest.head?, isNameRest char = false ∧ char ≠ '.'

theorem takeWhile_word {property : Char → Bool} {word rest : List Char}
    (all : ∀ char ∈ word, property char = true)
    (stops : ∀ char ∈ rest.head?, property char = false) :
    (word ++ rest).takeWhile property = word := by
  rw [List.takeWhile_append_of_pos all]
  cases rest with
  | nil => simp
  | cons char rest => simp [stops char rfl]

theorem take_length_takeWhile (property : Char → Bool) (chars : List Char) :
    chars.take (chars.takeWhile property).length = chars.takeWhile property :=
  (List.prefix_iff_eq_take.mp (List.takeWhile_prefix property)).symm

section

variable {chars rest : List Char}

theorem Apart.notDigit (apart : Apart rest) :
    ∀ char ∈ rest.head?, char.isDigit = false := by
  intro char member
  have outside := (apart char member).1
  simp only [isNameRest, Char.isAlphanum, Bool.or_eq_false_iff] at outside
  exact outside.1.2

theorem digitCount_append (digits : IsDigits chars)
    (stops : ∀ char ∈ rest.head?, char.isDigit = false) :
    digitCount (chars ++ rest) = chars.length := by
  rw [digitCount, takeWhile_word digits.2 stops]

theorem exponentLength_of_apart (apart : Apart rest) :
    exponentLength rest = 0 := by
  cases rest with
  | nil => rfl
  | cons mark rest =>
      have outside := (apart mark rfl).1
      have noMark : ¬(mark = 'e' || mark = 'E') = true := by
        intro isMark
        rw [Bool.or_eq_true, decide_eq_true_iff, decide_eq_true_iff] at isMark
        rcases isMark with rfl | rfl
        · exact absurd outside (by decide)
        · exact absurd outside (by decide)
      exact if_neg noMark

theorem IsDigits.head_ne {digits : List Char} (isDigits : IsDigits digits) :
    ∃ first others, digits = first :: others ∧ first.isDigit = true := by
  obtain ⟨nonempty, all⟩ := isDigits
  cases digits with
  | nil => exact absurd rfl nonempty
  | cons first others =>
      exact ⟨first, others, rfl, all first List.mem_cons_self⟩

theorem exponentLength_append (exponent : IsExponent chars)
    (stops : ∀ char ∈ rest.head?, char.isDigit = false) :
    exponentLength (chars ++ rest) = chars.length := by
  obtain ⟨mark, sign, digits, rfl, isMark, isSign, isDigits⟩ := exponent
  have count := digitCount_append isDigits stops
  have positive : digits.length ≠ 0 := by
    simpa using isDigits.1
  have marked : (mark = 'e' || mark = 'E') = true := by simpa using isMark
  rcases isSign with rfl | rfl
  · obtain ⟨first, others, rfl, isDigit⟩ := isDigits.head_ne
    have noMinus : ∀ digits, first :: (others ++ rest) ≠ '-' :: digits := by
      intro digits same
      obtain ⟨rfl, -⟩ := List.cons.inj same
      exact absurd isDigit (by decide)
    have length : exponentLength (mark :: (first :: others ++ rest)) =
        digitCount (first :: others ++ rest) + 1 := by
      rw [exponentLength]
      · rw [if_pos marked, count, if_neg positive]
      · exact noMinus
    exact length.trans (congrArg (· + 1) count)
  · have length : exponentLength (mark :: '-' :: (digits ++ rest)) =
        digitCount (digits ++ rest) + 2 := by
      rw [exponentLength, if_pos marked, count, if_neg positive]
    exact length.trans (congrArg (· + 2) count)

theorem IsExponent.head_not_digit (exponent : IsExponent chars) :
    ∀ char ∈ (chars ++ rest).head?, char.isDigit = false := by
  obtain ⟨mark, sign, digits, rfl, isMark, -⟩ := exponent
  intro char member
  obtain rfl : mark = char := by simpa using member
  rcases isMark with rfl | rfl
  · decide
  · decide

theorem fractionLength_of_apart (apart : Apart rest) :
    fractionLength rest = 0 := by
  unfold fractionLength
  split
  · next digits => exact absurd rfl (apart '.' rfl).2
  · rfl

theorem fractionLength_append (fraction : IsFraction chars)
    (apart : Apart rest) : fractionLength (chars ++ rest) = chars.length := by
  obtain ⟨digits, exponent, rfl, isDigits, exponent_or⟩ := fraction
  have stops : ∀ char ∈ (exponent ++ rest).head?, char.isDigit = false := by
    rcases exponent_or with rfl | isExponent
    · exact apart.notDigit
    · exact isExponent.head_not_digit
  have exponents : exponentLength (exponent ++ rest) = exponent.length := by
    rcases exponent_or with rfl | isExponent
    · exact exponentLength_of_apart apart
    · exact exponentLength_append isExponent apart.notDigit
  have count := digitCount_append isDigits stops
  have positive : digits.length ≠ 0 := by
    simpa using isDigits.1
  rw [List.cons_append, List.append_assoc, fractionLength, count,
    if_neg positive, List.drop_left, exponents, List.length_cons,
    List.length_append]
  omega

/-- The lexer takes a whole unsigned number. -/
theorem unsignedLength_append (unsigned : IsUnsigned chars)
    (apart : Apart rest) : unsignedLength (chars ++ rest) = chars.length := by
  obtain ⟨whole, fraction, rfl, isDigits, fraction_or⟩ := unsigned
  have stops : ∀ char ∈ (fraction ++ rest).head?, char.isDigit = false := by
    rcases fraction_or with rfl | ⟨digits, exponent, rfl, -⟩
    · exact apart.notDigit
    · intro char member
      obtain rfl : '.' = char := by simpa using member
      decide
  have fractions : fractionLength (fraction ++ rest) = fraction.length := by
    rcases fraction_or with rfl | isFraction
    · exact fractionLength_of_apart apart
    · exact fractionLength_append isFraction apart
  have count := digitCount_append isDigits stops
  have positive : whole.length ≠ 0 := by
    simpa using isDigits.1
  rw [List.append_assoc, unsignedLength, count, if_neg positive,
    List.drop_left, fractions, List.length_append]

/-- The digits that the lexer counts. -/
theorem take_digitCount (positive : digitCount chars ≠ 0) :
    IsDigits (chars.take (digitCount chars)) := by
  rw [digitCount, take_length_takeWhile]
  constructor
  · intro empty
    rw [digitCount, empty] at positive
    exact positive rfl
  · intro char member
    exact List.all_eq_true.mp List.all_takeWhile char member

theorem take_exponentLength (positive : exponentLength chars ≠ 0) :
    IsExponent (chars.take (exponentLength chars)) := by
  unfold exponentLength at positive ⊢
  split at positive
  · next mark rest =>
    split at positive
    · next marked =>
      have isMark : mark = 'e' ∨ mark = 'E' := by simpa using marked
      split at positive
      · next digits =>
        by_cases none : digitCount digits = 0
        · simp [none] at positive
        · simp only [marked, none, if_true, if_false]
          exact ⟨mark, ['-'], _, rfl, isMark, .inr rfl, take_digitCount none⟩
      · next other =>
        by_cases none : digitCount rest = 0
        · simp [none] at positive
        · simp only [marked, none, if_true, if_false]
          exact ⟨mark, [], _, rfl, isMark, .inl rfl, take_digitCount none⟩
    · exact absurd rfl positive
  · exact absurd rfl positive

theorem take_fractionLength (positive : fractionLength chars ≠ 0) :
    IsFraction (chars.take (fractionLength chars)) := by
  unfold fractionLength at positive ⊢
  split at positive
  · next rest =>
    by_cases none : digitCount rest = 0
    · simp [none] at positive
    · simp only [none, if_false]
      refine ⟨rest.take (digitCount rest),
        (rest.drop (digitCount rest)).take
          (exponentLength (rest.drop (digitCount rest))), ?_,
        take_digitCount none, ?_⟩
      · rw [← List.take_add, Nat.add_right_comm, List.take_succ_cons]
      · by_cases noExponent :
            exponentLength (rest.drop (digitCount rest)) = 0
        · left
          rw [noExponent, List.take_zero]
        · exact .inr (take_exponentLength noExponent)
  · exact absurd rfl positive

/-- What the lexer takes as an unsigned number is one. -/
theorem take_unsignedLength (positive : unsignedLength chars ≠ 0) :
    IsUnsigned (chars.take (unsignedLength chars)) := by
  unfold unsignedLength at positive ⊢
  by_cases none : digitCount chars = 0
  · simp [none] at positive
  · simp only [none, if_false]
    refine ⟨chars.take (digitCount chars),
      (chars.drop (digitCount chars)).take
        (fractionLength (chars.drop (digitCount chars))), List.take_add,
      take_digitCount none, ?_⟩
    by_cases noFraction : fractionLength (chars.drop (digitCount chars)) = 0
    · left
      rw [noFraction, List.take_zero]
    · exact .inr (take_fractionLength noFraction)

/-- A digit starts a number. -/
theorem unsignedLength_ne_zero {first : Char}
    (isDigit : first.isDigit = true) : unsignedLength (first :: rest) ≠ 0 := by
  have counted : digitCount (first :: rest) ≠ 0 := by
    simp [digitCount, isDigit]
  rw [unsignedLength, if_neg counted]
  omega

/-- The lexer follows a whole body to its closing delimiter. -/
theorem quotedRest_append {close : Char} {holdsLines : Bool}
    {body : List Char} (notBackslash : close ≠ '\\')
    (quotable : Quotable close holdsLines body) :
    quotedRest close holdsLines (body ++ close :: rest) =
      (.closed, body.length + 1) := by
  induction quotable with
  | empty =>
      rw [List.nil_append]
      unfold quotedRest
      split
      all_goals simp_all
  | escaped notLine _ induction => simp [quotedRest, notLine, induction]
  | plain plain notClose line _ induction =>
      rw [List.cons_append, quotedRest]
      all_goals simp_all

/-- What the lexer follows to a closing delimiter is a body. -/
theorem quotedRest_closed {close : Char} {holdsLines : Bool} {length : Nat}
    (closed : quotedRest close holdsLines chars = (.closed, length)) :
    ∃ body rest, chars = body ++ close :: rest ∧ length = body.length + 1 ∧
      Quotable close holdsLines body := by
  fun_induction quotedRest close holdsLines chars generalizing length
  case case1 | case2 | case3 | case6 => cases closed
  case case4 code others notLine ending count found induction =>
    obtain ⟨rfl, rfl⟩ := Prod.mk.inj closed
    obtain ⟨body, rest, rfl, rfl, quotable⟩ := induction found
    exact ⟨'\\' :: code :: body, rest, rfl, rfl, .escaped notLine quotable⟩
  case case5 others notAlone notEscape =>
    obtain ⟨-, rfl⟩ := Prod.mk.inj closed
    exact ⟨[], others, rfl, rfl, .empty⟩
  case case7 char others notAlone notEscape notClose notLine ending count found
      induction =>
    obtain ⟨rfl, rfl⟩ := Prod.mk.inj closed
    obtain ⟨body, rest, rfl, rfl, quotable⟩ := induction found
    have notBackslash : char ≠ '\\' := by
      intro same
      cases behind : body ++ close :: rest with
      | nil => simp at behind
      | cons code others => exact notEscape code others same behind
    refine ⟨char :: body, rest, rfl, rfl,
      .plain notBackslash notClose ?_ quotable⟩
    intro line
    simpa [line] using notLine

theorem isAlpha_not_isDigit {char : Char} (alpha : char.isAlpha = true) :
    char.isDigit = false := by
  have letter : 65 ≤ char.toNat := by
    rcases Bool.or_eq_true_iff.mp alpha with upper | lower
    · have bounds := of_decide_eq_true upper
      exact UInt32.le_iff_toNat_le.mp bounds.1
    · have bounds := Bool.and_eq_true_iff.mp lower
      have above := UInt32.le_iff_toNat_le.mp (of_decide_eq_true bounds.1)
      exact Nat.le_trans (by decide) above
  apply Bool.eq_false_iff.mpr
  intro isDigit
  have bounds := Char.isDigit_iff_toNat.mp isDigit
  have nine : '9'.toNat = 57 := rfl
  omega

theorem recognize_of_isNameStart {first : Char}
    (starts : isNameStart first = true) :
    recognize first rest =
      (wordKind (first :: rest.takeWhile isNameRest),
        (first :: rest.takeWhile isNameRest).length) := by
  have notDigit : ¬first.isDigit = true := by
    rw [isAlpha_not_isDigit starts]
    exact Bool.false_ne_true
  unfold recognize
  split
  case h_20 => rw [if_neg notDigit, if_pos starts]
  all_goals exact absurd starts (by decide)

theorem recognize_of_isDigit {first : Char} (isDigit : first.isDigit = true) :
    recognize first rest = (.number, unsignedLength (first :: rest)) := by
  unfold recognize
  split
  case h_20 => rw [if_pos isDigit]
  all_goals exact absurd isDigit (by decide)

/-- The lexer takes a whole word. -/
theorem recognize_word {first : Char} {others : List Char}
    (starts : isNameStart first = true)
    (goesOn : ∀ char ∈ others, isNameRest char = true) (apart : Apart rest) :
    recognize first (others ++ rest) =
      (wordKind (first :: others), (first :: others).length) := by
  rw [recognize_of_isNameStart starts,
    takeWhile_word goesOn fun char member => (apart char member).1]

theorem recognize_identifier {first : Char} {others : List Char}
    (identifier : IsIdentifier (first :: others)) (apart : Apart rest) :
    recognize first (others ++ rest) =
      (.identifier, (first :: others).length) := by
  obtain ⟨⟨_, _, same, starts, goesOn⟩, notTrue, notFalse⟩ := identifier
  obtain ⟨rfl, rfl⟩ := List.cons.inj same
  rw [recognize_word starts goesOn apart, wordKind, if_neg notTrue,
    if_neg notFalse]

theorem recognize_number {first : Char} {others : List Char}
    (number : IsNumber (first :: others)) (apart : Apart rest) :
    recognize first (others ++ rest) = (.number, (first :: others).length) := by
  obtain ⟨sign, unsigned, same, isSign, isUnsigned⟩ := number
  have length := unsignedLength_append isUnsigned apart
  have nonempty : unsigned ≠ [] := by
    obtain ⟨whole, fraction, rfl, isDigits, _⟩ := isUnsigned
    simp [isDigits.1]
  rcases isSign with rfl | rfl
  · obtain ⟨whole, fraction, rfl, isDigits, -⟩ := isUnsigned
    obtain ⟨digit, digits, rfl, isDigit⟩ := isDigits.head_ne
    obtain ⟨rfl, rfl⟩ := List.cons.inj same
    rw [recognize_of_isDigit isDigit]
    exact congrArg _ length
  · obtain ⟨rfl, rfl⟩ := List.cons.inj same
    have positive : others.length ≠ 0 := by
      simpa using nonempty
    have recognized : recognize '-' (others ++ rest) =
        if unsignedLength (others ++ rest) = 0 then (.invalid, 1)
        else (.number, unsignedLength (others ++ rest) + 1) := rfl
    rw [recognized, length, if_neg positive]
    rfl

theorem quotedToken_append {kind : Kind} {close : Char} {holdsLines : Bool}
    {body : List Char} (notBackslash : close ≠ '\\')
    (quotable : Quotable close holdsLines body) :
    quotedToken kind close holdsLines (body ++ close :: rest) =
      (kind, body.length + 2) := by
  rw [quotedToken, quotedRest_append notBackslash quotable]

theorem recognize_location {uri : List Char} (isUri : IsUri uri) :
    recognize '|' (uri ++ '|' :: rest) = (.location, uri.length + 2) := by
  have ends : (uri ++ '|' :: rest).takeWhile isUriChar = uri := by
    apply takeWhile_word isUri.2
    intro char member
    obtain rfl : '|' = char := by simpa using member
    rfl
  have nonempty : uri.isEmpty = false := by
    simpa using isUri.1
  have recognized : recognize '|' (uri ++ '|' :: rest) =
      barToken (uri ++ '|' :: rest) := rfl
  rw [recognized, barToken]
  simp only [ends, List.drop_left, nonempty]
  rfl

end

/-- The lexeme belongs to the class of its kind. -/
def Spells (kind : Kind) (lexeme : List Char) : Prop :=
  match kind with
  | .identifier => IsIdentifier lexeme
  | .number => IsNumber lexeme
  | .string => ∃ body, lexeme = '"' :: (body ++ ['"']) ∧
      Quotable '"' true body
  | .location => ∃ uri, lexeme = '|' :: (uri ++ ['|']) ∧ IsUri uri
  | _ => True

section

variable {rest : List Char}

theorem quotedToken_spells {kind : Kind} {close : Char} {holdsLines : Bool}
    (closes : ∀ body, Quotable close holdsLines body →
      Spells kind (close :: (body ++ [close]))) :
    Spells (quotedToken kind close holdsLines rest).1
      ((close :: rest).take (quotedToken kind close holdsLines rest).2) := by
  unfold quotedToken
  split
  · next length closed =>
    obtain ⟨body, others, rfl, rfl, quotable⟩ := quotedRest_closed closed
    have taken : (close :: (body ++ close :: others)).take
        (body.length + 1 + 1) = close :: (body ++ [close]) := by
      rw [List.take_succ_cons, List.take_length_add_append]
      rfl
    rw [taken]
    exact closes body quotable
  · exact trivial

theorem barToken_spells :
    Spells (barToken rest).1 (('|' :: rest).take (barToken rest).2) := by
  have taken := take_length_takeWhile isUriChar rest
  unfold barToken
  dsimp only
  split
  · next others behind =>
    split
    · exact trivial
    · next nonempty =>
      refine ⟨rest.takeWhile isUriChar, ?_, ?_, ?_⟩
      · rw [List.take_succ_cons, List.take_add, taken, behind]
        rfl
      · simpa using nonempty
      · exact fun char member =>
          List.all_eq_true.mp List.all_takeWhile char member
  · exact trivial

theorem unsigned_isNumber {sign : List Char} (isSign : IsSign sign)
    (positive : unsignedLength rest ≠ 0) :
    IsNumber (sign ++ rest.take (unsignedLength rest)) :=
  ⟨sign, _, rfl, isSign, take_unsignedLength positive⟩

theorem word_spells {first : Char} (starts : isNameStart first = true) :
    Spells (wordKind (first :: rest.takeWhile isNameRest))
      (first :: rest.takeWhile isNameRest) := by
  unfold wordKind
  split
  · exact trivial
  · next notTrue =>
    split
    · exact trivial
    · next notFalse =>
      refine ⟨⟨first, _, rfl, starts, ?_⟩, notTrue, notFalse⟩
      exact fun char member =>
        List.all_eq_true.mp List.all_takeWhile char member

/-- Whatever the lexer takes belongs to the class of its kind. -/
theorem recognize_spells (first : Char) :
    Spells (recognize first rest).1
      ((first :: rest).take (recognize first rest).2) := by
  unfold recognize
  split
  case h_15 => exact barToken_spells
  case h_16 =>
    exact quotedToken_spells fun body quotable => ⟨body, rfl, quotable⟩
  case h_17 | h_18 => exact quotedToken_spells fun _ _ => trivial
  case h_19 =>
    dsimp only
    split
    · exact trivial
    · next positive =>
      rw [List.take_succ_cons]
      exact unsigned_isNumber (.inr rfl) positive
  case h_20 =>
    split
    · next isDigit =>
      exact unsigned_isNumber (.inl rfl) (unsignedLength_ne_zero isDigit)
    · split
      · next starts =>
        have taken : (first :: rest).take
            (first :: rest.takeWhile isNameRest).length =
            first :: rest.takeWhile isNameRest := by
          rw [List.length_cons, List.take_succ_cons, take_length_takeWhile]
        dsimp only
        rw [taken]
        exact word_spells starts
      · exact trivial
  all_goals exact trivial

end

end Token

end TreeQuery
