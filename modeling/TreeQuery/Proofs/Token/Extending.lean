import TreeQuery.Proofs.Token.Places
import TreeQuery.Proofs.Token.Rereading

/-!
# Text in front of a source and behind it

The tokens of a source stay as they are when more text follows that continues
no word and no number, if all of them are valid.  A delimiter in front of a
source is one more token, and the others move.
-/

namespace TreeQuery

namespace Token

/-- No word and no number goes on with these characters, nor does an exponent
that lacks its digits. -/
def Severed (more : List Char) : Prop :=
  Apart more ∧ more.head? ≠ some '-'

section

variable {chars more rest : List Char}

theorem takeWhile_severed {property : Char → Bool}
    (stops : ∀ char ∈ more.head?, property char = false) (chars : List Char) :
    (chars ++ more).takeWhile property = chars.takeWhile property := by
  have none : more.takeWhile property = [] := by
    simpa using takeWhile_word (List.forall_mem_nil _) stops
  rw [List.takeWhile_append, none, List.append_nil]
  split
  · next whole => exact (List.takeWhile_prefix _).eq_of_length whole |>.symm
  · rfl

section

variable (severed : Severed more)

include severed

theorem digitCount_severed (chars : List Char) :
    digitCount (chars ++ more) = digitCount chars := by
  rw [digitCount, takeWhile_severed severed.1.notDigit, digitCount]

theorem exponentLength_severed (chars : List Char) :
    exponentLength (chars ++ more) = exponentLength chars := by
  cases chars with
  | nil => exact exponentLength_of_apart severed.1
  | cons mark rest =>
      have counts := digitCount_severed severed
      cases rest with
      | cons sign digits =>
          by_cases minus : sign = '-'
          · subst minus
            simp only [List.cons_append, exponentLength, counts]
          · have unsigned {others : List Char} :
                ∀ digits, sign :: others ≠ '-' :: digits :=
              fun _ same => minus (List.cons.inj same).1
            rw [List.cons_append, exponentLength, exponentLength, counts]
            · exact unsigned
            · exact unsigned
      | nil =>
          have unsigned : ∀ digits, more ≠ '-' :: digits := by
            intro digits same
            exact severed.2 (by rw [same]; rfl)
          have none : digitCount more = 0 := counts []
          rw [List.singleton_append, exponentLength, none]
          · simp [exponentLength, digitCount]
          · exact unsigned

theorem fractionLength_severed (chars : List Char) :
    fractionLength (chars ++ more) = fractionLength chars := by
  cases chars with
  | nil => exact fractionLength_of_apart severed.1
  | cons point rest =>
      by_cases isPoint : point = '.'
      · subst isPoint
        have within : digitCount rest ≤ rest.length :=
          (List.takeWhile_prefix _).length_le
        rw [List.cons_append, fractionLength, fractionLength,
          digitCount_severed severed, List.drop_append_of_le_length within,
          exponentLength_severed severed]
      · have other {others : List Char} :
            ∀ digits, point :: others ≠ '.' :: digits :=
          fun _ same => isPoint (List.cons.inj same).1
        rw [List.cons_append, fractionLength, fractionLength]
        · exact other
        · exact other

theorem unsignedLength_severed (chars : List Char) :
    unsignedLength (chars ++ more) = unsignedLength chars := by
  have within : digitCount chars ≤ chars.length :=
    (List.takeWhile_prefix _).length_le
  rw [unsignedLength, unsignedLength, digitCount_severed severed,
    List.drop_append_of_le_length within, fractionLength_severed severed]

end

theorem quotedToken_extend {kind : Kind} {close : Char} {holdsLines : Bool}
    (notBackslash : close ≠ '\\')
    (valid : (quotedToken kind close holdsLines rest).1 ≠ .invalid) :
    quotedToken kind close holdsLines (rest ++ more) =
      quotedToken kind close holdsLines rest := by
  unfold quotedToken at valid ⊢
  split at valid
  · next length closed =>
    obtain ⟨body, behind, rfl, rfl, quotable⟩ := quotedRest_closed closed
    rw [List.append_assoc, List.cons_append,
      quotedRest_append notBackslash quotable]
  · exact absurd rfl valid

theorem barToken_extend (valid : (barToken rest).1 ≠ .invalid) :
    barToken (rest ++ more) = barToken rest := by
  have within : (rest.takeWhile isUriChar).length ≤ rest.length :=
    (List.takeWhile_prefix _).length_le
  unfold barToken at valid ⊢
  dsimp only at valid ⊢
  split at valid
  · next behind found =>
    have dropped : (rest ++ more).drop (rest.takeWhile isUriChar).length =
        '|' :: (behind ++ more) := by
      rw [List.drop_append_of_le_length within, found, List.cons_append]
    have taken : (rest ++ more).take (rest.takeWhile isUriChar).length =
        rest.takeWhile isUriChar := by
      rw [List.take_append_of_le_length within, take_length_takeWhile]
    have whole := List.take_append_drop (rest.takeWhile isUriChar).length
      (rest ++ more)
    rw [taken, dropped] at whole
    have same : (rest ++ more).takeWhile isUriChar =
        rest.takeWhile isUriChar := by
      rw [← whole]
      apply takeWhile_word
      · exact fun char member =>
          List.all_eq_true.mp List.all_takeWhile char member
      · intro char member
        obtain rfl : '|' = char := by simpa using member
        rfl
    rw [same, dropped]
    rfl
  · exact absurd rfl valid

theorem recognize_extend {first : Char} (severed : Severed more)
    (valid : (recognize first rest).1 ≠ .invalid) :
    recognize first (rest ++ more) = recognize first rest := by
  have words : ∀ char ∈ more.head?, isNameRest char = false :=
    fun char member => (severed.1 char member).1
  unfold recognize at valid ⊢
  split
  case h_15 => exact barToken_extend valid
  case h_16 | h_17 | h_18 => exact quotedToken_extend (by decide) valid
  case h_19 => rw [unsignedLength_severed severed]
  case h_20 =>
    rw [← List.cons_append, unsignedLength_severed severed,
      takeWhile_severed words]
  all_goals rfl

/-- A valid token ends where the characters end, or before. -/
theorem recognize_le {first : Char}
    (valid : (recognize first rest).1 ≠ .invalid) :
    (recognize first rest).2 ≤ rest.length + 1 := by
  refine Nat.le_of_not_lt fun longer => ?_
  have again : ∃ others,
      (first :: rest).take (recognize first rest).2 = first :: others ∧
        recognize first (others ++ []) =
          ((recognize first rest).1, others.length + 1) :=
    recognize_again rfl valid nofun
  obtain ⟨others, taken, recognized⟩ := again
  rw [List.take_of_length_le (Nat.le_of_lt longer)] at taken
  obtain rfl : rest = others := (List.cons.inj taken).2
  rw [List.append_nil] at recognized
  rw [recognized] at longer
  exact Nat.lt_irrefl _ longer

theorem scan_extend (severed : Severed more) {offset covered : Nat}
    (valid : ∀ token ∈ scan offset covered chars, token.kind ≠ .invalid)
    (within : covered ≤ chars.length) :
    scan offset covered (chars ++ more) =
      scan offset covered chars ++ scan (offset + byteLength chars) 0 more := by
  induction chars generalizing offset covered with
  | nil =>
      obtain rfl : covered = 0 := Nat.le_zero.mp within
      rfl
  | cons char chars induction =>
      rw [byteLength, ← Nat.add_assoc]
      cases covered with
      | succ covered =>
          exact induction valid (Nat.le_of_succ_le_succ within)
      | zero =>
          by_cases skipped : isSkipped char = true
          · rw [scan_of_isSkipped skipped] at valid ⊢
            rw [List.cons_append, scan_of_isSkipped skipped]
            exact induction valid (Nat.zero_le _)
          · rw [scan_of_not_isSkipped skipped] at valid ⊢
            obtain ⟨first, others⟩ := List.forall_mem_cons.mp valid
            have inside := recognize_le first
            have later := induction others (by omega)
            rw [List.cons_append, scan_of_not_isSkipped skipped,
              recognize_extend severed first, ← List.cons_append,
              List.take_append_of_le_length inside, later, List.cons_append]

/-- The token so many bytes further on. -/
def moved (bytes : Nat) (token : Token) : Token :=
  { token with start := bytes + token.start, stop := bytes + token.stop }

@[simp]
theorem moved_kind (bytes : Nat) (token : Token) :
    (token.moved bytes).kind = token.kind :=
  rfl

@[simp]
theorem moved_lexeme (bytes : Nat) (token : Token) :
    (token.moved bytes).lexeme = token.lexeme :=
  rfl

/-- Where the characters start does not matter for how they are cut. -/
theorem scan_moved (bytes offset covered : Nat) (chars : List Char) :
    scan (bytes + offset) covered chars =
      (scan offset covered chars).map (moved bytes) := by
  induction chars generalizing offset covered with
  | nil => rfl
  | cons char chars induction =>
      cases covered with
      | succ covered =>
          rw [scan, scan, Nat.add_assoc, induction]
      | zero =>
          by_cases skipped : isSkipped char = true
          · rw [scan_of_isSkipped skipped, scan_of_isSkipped skipped,
              Nat.add_assoc, induction]
          · rw [scan_of_not_isSkipped skipped, scan_of_not_isSkipped skipped,
              Nat.add_assoc, Nat.add_assoc, induction]
            rfl

end

end Token

section

variable {source : String}

/-- A star behind valid tokens is one more token. -/
theorem tokenize_append_star
    (valid : ∀ token ∈ tokenize source, token.kind ≠ .invalid) :
    ∃ star, star.kind = .star ∧
      tokenize (source ++ "*") = tokenize source ++ [star] := by
  have severed : Token.Severed ['*'] := by
    refine ⟨?_, by decide⟩
    intro char member
    obtain rfl : '*' = char := by simpa using member
    decide
  have cut : tokenize (source ++ "*") = tokenize source ++
      Token.scan (0 + Token.byteLength source.toList) 0 ['*'] := by
    rw [tokenize, String.toList_append]
    exact Token.scan_extend severed valid (Nat.zero_le _)
  exact ⟨⟨.star, ['*'], _, _⟩, rfl, cut⟩

/-- A star in front is one more token, and the others move. -/
theorem tokenize_star_append (source : String) :
    ∃ star, star.kind = .star ∧ tokenize ("*" ++ source) =
      star :: (tokenize source).map (Token.moved 1) := by
  have cut : tokenize ("*" ++ source) =
      ⟨.star, ['*'], 0, 1⟩ :: Token.scan (1 + 0) 0 source.toList := by
    rw [tokenize, String.toList_append]
    rfl
  rw [Token.scan_moved] at cut
  exact ⟨_, rfl, cut⟩

end

end TreeQuery
