import Mathlib.Computability.Language
import TreeQuery.Proofs.Reading.Language
import TreeQuery.Proofs.Token.Places

/-!
# Classes of tokens

Each kind of token has its class of lexemes, a regular language.  The tokens of a
source belong to their classes, and what stands between them is skipped, so that
nothing of the source is lost.
-/

namespace TreeQuery

open scoped Computability

namespace Token

/-! ## Regular classes -/

/-- The words of one character with the property. -/
def oneOf (allowed : Char → Prop) : Language Char :=
  {word | ∃ char, word = [char] ∧ allowed char}

def oneOrMore (language : Language Char) : Language Char :=
  language * language∗

def digits : Language Char :=
  oneOrMore (oneOf fun char => char.isDigit = true)

def sign : Language Char :=
  1 + {['-']}

def exponent : Language Char :=
  oneOf (fun char => char = 'e' ∨ char = 'E') * (sign * digits)

def fraction : Language Char :=
  {['.']} * (digits * (1 + exponent))

/-- Between two delimiters stand characters other than the delimiter and the
backslash, and backslashes each with another character. -/
def quoted (close : Char) (holdsLines : Bool) : Language Char :=
  {[close]} *
    (((oneOf fun char => char ≠ '\\' ∧ char ≠ close ∧
        (char = '\n' → holdsLines = true)) +
      {['\\']} * oneOf fun char => char ≠ '\n')∗ *
  {[close]})

/-- The class of a kind.  Input that starts no token has none. -/
def Kind.lexemes : Kind → Language Char
  | .identifier =>
      oneOf (fun char => isNameStart char = true) *
        (oneOf fun char => isNameRest char = true)∗
  | .number => sign * (digits * (1 + fraction))
  | .string => quoted '"' true
  | .text => quoted '\'' true
  | .regex => quoted '/' false
  | .location =>
      {['|']} * (oneOrMore (oneOf fun char => isUriChar char = true) * {['|']})
  | .invalid => 0
  | kind => {kind.lexeme}

/-- What stands at both ends of the lexemes of a kind that has a body. -/
def Kind.delimiter? : Kind → Option Char
  | .string => some '"'
  | .text => some '\''
  | .regex => some '/'
  | .location => some '|'
  | _ => none

section

variable {language language' : Language Char} {allowed : Char → Prop}
  {char : Char} {piece word chars : List Char}

theorem cons_mem_mul (first : [char] ∈ language)
    (others : word ∈ language') : char :: word ∈ language * language' :=
  Language.append_mem_mul first others

theorem append_mem_star (first : piece ∈ language) (others : word ∈ language∗) :
    piece ++ word ∈ language∗ := by
  rw [← Language.one_add_self_mul_kstar_eq_kstar]
  exact .inr (Language.append_mem_mul first others)

theorem mem_star_oneOf (all : ∀ char ∈ chars, allowed char) :
    chars ∈ (oneOf allowed)∗ := by
  induction chars with
  | nil => exact Language.nil_mem_kstar _
  | cons char chars induction =>
      obtain ⟨first, others⟩ := List.forall_mem_cons.mp all
      have single : [char] ∈ oneOf allowed := ⟨char, rfl, first⟩
      exact append_mem_star single (induction others)

theorem mem_oneOrMore_oneOf (nonempty : chars ≠ [])
    (all : ∀ char ∈ chars, allowed char) :
    chars ∈ oneOrMore (oneOf allowed) := by
  cases chars with
  | nil => exact absurd rfl nonempty
  | cons char chars =>
      obtain ⟨first, others⟩ := List.forall_mem_cons.mp all
      exact cons_mem_mul ⟨char, rfl, first⟩ (mem_star_oneOf others)

theorem mem_one_add (optional : word = [] ∨ word ∈ language) :
    word ∈ 1 + language :=
  optional

theorem IsDigits.mem_digits (isDigits : IsDigits chars) : chars ∈ digits :=
  mem_oneOrMore_oneOf isDigits.1 isDigits.2

theorem IsExponent.mem_exponent (isExponent : IsExponent chars) :
    chars ∈ exponent := by
  obtain ⟨mark, minus, count, rfl, isMark, isSign, isDigits⟩ := isExponent
  have unmarked : minus ++ count ∈ sign * digits :=
    Language.append_mem_mul (mem_one_add isSign) isDigits.mem_digits
  exact cons_mem_mul ⟨mark, rfl, isMark⟩ unmarked

theorem IsFraction.mem_fraction (isFraction : IsFraction chars) :
    chars ∈ fraction := by
  obtain ⟨count, behind, rfl, isDigits, optional⟩ := isFraction
  have scaled : behind ∈ 1 + exponent :=
    mem_one_add (optional.imp_right IsExponent.mem_exponent)
  exact cons_mem_mul rfl (Language.append_mem_mul isDigits.mem_digits scaled)

theorem IsNumber.mem_lexemes (isNumber : IsNumber chars) :
    chars ∈ Kind.number.lexemes := by
  obtain ⟨minus, unsigned, rfl, isSign, whole, behind, rfl, isDigits,
    optional⟩ := isNumber
  have fractional : behind ∈ 1 + fraction :=
    mem_one_add (optional.imp_right IsFraction.mem_fraction)
  exact Language.append_mem_mul (mem_one_add isSign)
    (Language.append_mem_mul isDigits.mem_digits fractional)

theorem mem_word {first : Char} (starts : isNameStart first = true)
    (goesOn : ∀ char ∈ chars, isNameRest char = true) :
    first :: chars ∈ Kind.identifier.lexemes :=
  cons_mem_mul ⟨first, rfl, starts⟩ (mem_star_oneOf goesOn)

theorem IsUri.mem_lexemes (isUri : IsUri chars) :
    '|' :: (chars ++ ['|']) ∈ Kind.location.lexemes := by
  have uri := mem_oneOrMore_oneOf isUri.1 isUri.2
  exact cons_mem_mul rfl (Language.append_mem_mul uri rfl)

theorem mem_quoted {close : Char} {holdsLines : Bool}
    (quotable : Quotable close holdsLines chars) :
    close :: (chars ++ [close]) ∈ quoted close holdsLines := by
  refine cons_mem_mul rfl (Language.append_mem_mul ?_ rfl)
  induction quotable with
  | empty => exact Language.nil_mem_kstar _
  | @escaped char _ notLine _ induction =>
      have pair : ['\\', char] ∈ {['\\']} * oneOf fun char => char ≠ '\n' :=
        cons_mem_mul rfl ⟨char, rfl, notLine⟩
      exact append_mem_star (.inr pair) induction
  | @plain char _ notBackslash notClose line _ induction =>
      have single : [char] ∈ oneOf fun char => char ≠ '\\' ∧ char ≠ close ∧
          (char = '\n' → holdsLines = true) :=
        ⟨char, rfl, notBackslash, notClose, line⟩
      exact append_mem_star (.inl single) induction

end

/-! ## What the lexer takes -/

section

variable {chars rest : List Char}

theorem quotedToken_mem_lexemes {kind : Kind} {close : Char}
    {holdsLines : Bool} (same : kind.lexemes = quoted close holdsLines)
    (valid : (quotedToken kind close holdsLines rest).1 ≠ .invalid) :
    (close :: rest).take (quotedToken kind close holdsLines rest).2 ∈
      (quotedToken kind close holdsLines rest).1.lexemes := by
  unfold quotedToken at valid ⊢
  split at valid
  · next length closed =>
    obtain ⟨body, others, rfl, rfl, quotable⟩ := quotedRest_closed closed
    have taken : (close :: (body ++ close :: others)).take
        (body.length + 1 + 1) = close :: (body ++ [close]) := by
      rw [List.take_succ_cons, List.take_length_add_append]
      rfl
    rw [taken, same]
    exact mem_quoted quotable
  · exact absurd rfl valid

theorem barToken_mem_lexemes (valid : (barToken rest).1 ≠ .invalid) :
    ('|' :: rest).take (barToken rest).2 ∈ (barToken rest).1.lexemes := by
  have taken := take_length_takeWhile isUriChar rest
  unfold barToken at valid ⊢
  dsimp only at valid ⊢
  split at valid
  · next others behind =>
    split
    · next empty =>
      rw [List.isEmpty_iff.mp empty, List.length_nil, List.drop_zero] at behind
      rw [behind]
      rfl
    · next nonempty =>
      have isUri : IsUri (rest.takeWhile isUriChar) := by
        refine ⟨by simpa using nonempty, ?_⟩
        exact fun char member =>
          List.all_eq_true.mp List.all_takeWhile char member
      rw [List.take_succ_cons, List.take_add, taken, behind]
      exact isUri.mem_lexemes
  · exact absurd rfl valid

theorem word_mem_lexemes {first : Char} (starts : isNameStart first = true) :
    first :: rest.takeWhile isNameRest ∈
      (wordKind (first :: rest.takeWhile isNameRest)).lexemes := by
  unfold wordKind
  split
  · assumption
  · split
    · assumption
    · exact mem_word starts fun char member =>
        List.all_eq_true.mp List.all_takeWhile char member

/-- Whatever valid token the lexer takes belongs to the class of its kind. -/
theorem recognize_mem_lexemes (first : Char)
    (valid : (recognize first rest).1 ≠ .invalid) :
    (first :: rest).take (recognize first rest).2 ∈
      (recognize first rest).1.lexemes := by
  unfold recognize at valid ⊢
  split at valid
  case h_15 => exact barToken_mem_lexemes valid
  case h_16 | h_17 | h_18 => exact quotedToken_mem_lexemes rfl valid
  case h_19 =>
    dsimp only at valid ⊢
    split at valid
    · exact absurd rfl valid
    · next positive =>
      rw [if_neg positive, List.take_succ_cons]
      exact (unsigned_isNumber (.inr rfl) positive).mem_lexemes
  case h_20 =>
    split at valid
    · next isDigit =>
      rw [if_pos isDigit]
      exact (unsigned_isNumber (.inl rfl)
        (unsignedLength_ne_zero isDigit)).mem_lexemes
    · next notDigit =>
      rw [if_neg notDigit]
      split at valid
      · next starts =>
        rw [if_pos starts]
        dsimp only
        rw [List.length_cons, List.take_succ_cons, take_length_takeWhile]
        exact word_mem_lexemes starts
      · exact absurd rfl valid
  all_goals rfl

theorem scan_mem_lexemes {offset covered : Nat} :
    ∀ token ∈ scan offset covered chars, token.kind ≠ .invalid →
      token.lexeme ∈ token.kind.lexemes := by
  induction chars generalizing offset covered with
  | nil => simp [scan]
  | cons char chars induction =>
      cases covered with
      | succ covered => exact induction
      | zero =>
          by_cases skipped : isSkipped char = true
          · rw [scan_of_isSkipped skipped]
            exact induction
          · rw [scan_of_not_isSkipped skipped]
            exact List.forall_mem_cons.mpr
              ⟨recognize_mem_lexemes char, induction⟩

/-- A lexeme with a body stands between two delimiters. -/
theorem Kind.delimited {kind : Kind} {delimiter : Char}
    (delimits : delimiter ∈ kind.delimiter?) (member : chars ∈ kind.lexemes) :
    ∃ body, chars = delimiter :: (body ++ [delimiter]) := by
  cases kind
  case string | text | regex | location =>
    obtain rfl := Option.mem_some_iff.mp delimits
    obtain ⟨_, rfl, inner, ⟨body, -, _, rfl, rfl⟩, rfl⟩ :=
      Language.mem_mul.mp member
    exact ⟨body, rfl⟩
  all_goals cases delimits

/-! ## The cover of a source -/

/-- A character that no token covers is skipped. -/
theorem scan_between {offset covered : Nat} {front back : List Char}
    {char : Char} (split : chars = front ++ char :: back)
    (behind : covered ≤ front.length)
    (outside : ∀ token ∈ scan offset covered chars,
      ¬(token.start ≤ offset + byteLength front ∧
        offset + byteLength front < token.stop)) :
    isSkipped char = true := by
  induction front generalizing offset covered chars with
  | nil =>
      subst split
      obtain rfl : covered = 0 := Nat.le_zero.mp behind
      by_contra starts
      rw [List.nil_append, scan_of_not_isSkipped starts] at outside
      have nonempty : (char :: back).take (recognize char back).2 ≠ [] :=
        take_ne_nil _ (recognize_pos char)
      refine outside _ List.mem_cons_self ⟨Nat.le_add_right _ _, ?_⟩
      exact Nat.add_lt_add_left (byteLength_pos nonempty) offset
  | cons first front induction =>
      subst split
      rw [byteLength, ← Nat.add_assoc] at outside
      cases covered with
      | succ covered =>
          exact induction rfl (Nat.le_of_succ_le_succ behind) outside
      | zero =>
          by_cases skipped : isSkipped first = true
          · rw [List.cons_append, scan_of_isSkipped skipped] at outside
            exact induction rfl (Nat.zero_le _) outside
          · rw [List.cons_append, scan_of_not_isSkipped skipped] at outside
            obtain ⟨here, later⟩ := List.forall_mem_cons.mp outside
            refine induction rfl ?_ later
            dsimp only at here
            have start : first :: front <+: first :: (front ++ char :: back) :=
              ⟨char :: back, rfl⟩
            have short := length_le_of_byteLength_le
              (List.take_prefix (recognize first (front ++ char :: back)).2 _)
              start (by rw [byteLength]; omega)
            rw [List.length_take, List.length_cons, List.length_cons,
              List.length_append, List.length_cons] at short
            omega

end

end Token

section

variable {source : String} {start stop : Nat} {chars chars' : List Char}
  {token : Token}

open Token

/-- The characters stand in the source from the one byte offset to the other. -/
def IsSlice (source : String) (start stop : Nat) (chars : List Char) : Prop :=
  ∃ front back, source.toList = front ++ (chars ++ back) ∧
    start = byteLength front ∧ stop = start + byteLength chars

theorem IsSlice.left (slice : IsSlice source start stop (chars ++ chars')) :
    IsSlice source start (start + byteLength chars) chars := by
  obtain ⟨front, back, split, begins, -⟩ := slice
  exact ⟨front, chars' ++ back, by rw [split, List.append_assoc], begins, rfl⟩

theorem IsSlice.right (slice : IsSlice source start stop (chars ++ chars')) :
    IsSlice source (start + byteLength chars) stop chars' := by
  obtain ⟨front, back, split, begins, ends⟩ := slice
  refine ⟨front ++ chars, back, ?_, ?_, ?_⟩
  · rw [split, List.append_assoc, List.append_assoc]
  · rw [byteLength_append, begins]
  · rw [ends, byteLength_append, Nat.add_assoc]

private theorem tokenize_slice (among : token ∈ tokenize source) :
    IsSlice source token.start token.stop token.lexeme := by
  obtain ⟨front, back, split, -, -, start, stop⟩ := tokenize_lies among
  exact ⟨front, back, split, start.trans (Nat.zero_add _), stop⟩

/-- The tokens are slices of the source of their classes, in order and apart, and
all that they leave out are characters that may stand between tokens. -/
structure Cover (source : String) (tokens : List Token) : Prop where
  nonempty : ∀ token ∈ tokens, token.start < token.stop
  boundaries : ∀ token ∈ tokens,
    Boundary source token.start ∧ Boundary source token.stop
  inside : ∀ token ∈ tokens, token.stop ≤ source.utf8ByteSize
  ordered : tokens.Pairwise fun token token' =>
    token.start < token'.start ∧ token.stop ≤ token'.start
  between : ∀ front char back, source.toList = front ++ char :: back →
    (∀ token ∈ tokens, ¬(token.start ≤ byteLength front ∧
      byteLength front < token.stop)) → isSkipped char = true
  slices : ∀ token ∈ tokens,
    IsSlice source token.start token.stop token.lexeme
  classes : ∀ token ∈ tokens, token.kind ≠ .invalid →
    token.lexeme ∈ token.kind.lexemes
  /-- Delimiters take a byte each, and what stands between them is the body. -/
  delimited : ∀ token ∈ tokens, ∀ delimiter ∈ token.kind.delimiter?,
    delimiter.utf8Size = 1 ∧ token.start + 2 ≤ token.stop ∧
      IsSlice source token.start (token.start + 1) [delimiter] ∧
      IsSlice source (token.start + 1) (token.stop - 1) token.body.toList ∧
      IsSlice source (token.stop - 1) token.stop [delimiter]

theorem Token.Kind.utf8Size_delimiter {kind : Kind} {delimiter : Char}
    (delimits : delimiter ∈ kind.delimiter?) : delimiter.utf8Size = 1 := by
  cases kind <;> cases delimits <;> rfl

private theorem tokenize_delimited {delimiter : Char}
    (among : token ∈ tokenize source)
    (delimits : delimiter ∈ token.kind.delimiter?) :
    token.start + 2 ≤ token.stop ∧
      IsSlice source token.start (token.start + 1) [delimiter] ∧
      IsSlice source (token.start + 1) (token.stop - 1) token.body.toList ∧
      IsSlice source (token.stop - 1) token.stop [delimiter] := by
  have valid : token.kind ≠ .invalid := by
    intro isInvalid
    rw [isInvalid] at delimits
    cases delimits
  obtain ⟨body, spelled⟩ :=
    Kind.delimited delimits (scan_mem_lexemes token among valid)
  have between : token.body.toList = body := by
    rw [Token.body, spelled, String.toList_ofList]
    simp
  have oneByte : byteLength [delimiter] = 1 :=
    Kind.utf8Size_delimiter delimits
  have slice := tokenize_slice among
  have stop : token.stop = token.start + (1 + (byteLength body + 1)) := by
    obtain ⟨-, -, -, -, stop⟩ := slice
    rw [stop, spelled, ← oneByte, ← byteLength_append, ← byteLength_append]
    rfl
  rw [spelled, ← List.singleton_append] at slice
  have inner := slice.right
  have last := inner.right
  have first := slice.left
  have middle := inner.left
  rw [oneByte] at first inner middle last
  have before : token.stop - 1 = token.start + 1 + byteLength body := by omega
  rw [between, before]
  exact ⟨by omega, first, middle, last⟩

/-- Cutting a source into tokens loses nothing of it. -/
theorem tokenize_cover (source : String) : Cover source (tokenize source) where
  nonempty _ among := (tokenize_lies among).start_lt_stop
  boundaries _ among := ⟨boundary_start among, boundary_stop among⟩
  inside _ among := (boundary_stop among).le_utf8ByteSize
  ordered := by
    refine (tokenize_pairwise source).imp_of_mem ?_
    intro token token' among _ apart
    exact ⟨Nat.lt_of_lt_of_le (tokenize_lies among).start_lt_stop apart, apart⟩
  between front char back split outside := by
    have skipped := @scan_between source.toList 0 0 front back char split
      (Nat.zero_le _)
    rw [Nat.zero_add] at skipped
    exact skipped outside
  slices _ := tokenize_slice
  classes := scan_mem_lexemes
  delimited _ among _ delimits :=
    ⟨Kind.utf8Size_delimiter delimits, tokenize_delimited among delimits⟩

end

end TreeQuery
