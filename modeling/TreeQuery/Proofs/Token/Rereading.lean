import TreeQuery.Proofs.Token.Scanning

/-!
# Reading tokens again

A valid token is read again from its lexeme wherever it stands, unless a word or
a number goes on behind it.  With blanks between them, any valid tokens make a
text.
-/

namespace TreeQuery

namespace Token

section

variable {kind : Kind} {length : Nat} {rest rest' : List Char}

theorem quotedToken_again {close : Char} {holdsLines : Bool} {quoted : Kind}
    (notBackslash : close ≠ '\\')
    (recognized : quotedToken quoted close holdsLines rest = (kind, length))
    (valid : kind ≠ .invalid) :
    ∃ others, (close :: rest).take length = close :: others ∧
      quotedToken quoted close holdsLines (others ++ rest') =
        (kind, others.length + 1) := by
  unfold quotedToken at recognized
  split at recognized
  · next count closed =>
    obtain ⟨rfl, rfl⟩ := Prod.mk.inj recognized
    obtain ⟨body, behind, rfl, rfl, quotable⟩ := quotedRest_closed closed
    refine ⟨body ++ [close], ?_, ?_⟩
    · rw [List.take_succ_cons, List.take_length_add_append]
      rfl
    · rw [List.append_assoc, List.singleton_append,
        quotedToken_append notBackslash quotable, List.length_append]
      rfl
  · obtain ⟨rfl, -⟩ := Prod.mk.inj recognized
    exact absurd rfl valid

theorem barToken_again (recognized : barToken rest = (kind, length))
    (valid : kind ≠ .invalid) :
    ∃ others, ('|' :: rest).take length = '|' :: others ∧
      barToken (others ++ rest') = (kind, others.length + 1) := by
  have taken := take_length_takeWhile isUriChar rest
  unfold barToken at recognized
  dsimp only at recognized
  split at recognized
  · next behind split =>
    split at recognized
    · next empty =>
      obtain ⟨rfl, rfl⟩ := Prod.mk.inj recognized
      rw [List.isEmpty_iff.mp empty] at split
      refine ⟨['|'], ?_, rfl⟩
      simpa using congrArg (List.take 1) split
    · next nonempty =>
      obtain ⟨rfl, rfl⟩ := Prod.mk.inj recognized
      have isUri : IsUri (rest.takeWhile isUriChar) := by
        refine ⟨by simpa using nonempty, ?_⟩
        exact fun char member =>
          List.all_eq_true.mp List.all_takeWhile char member
      refine ⟨rest.takeWhile isUriChar ++ ['|'], ?_, ?_⟩
      · rw [List.take_succ_cons, List.take_add, taken, split]
        rfl
      · rw [List.append_assoc, List.singleton_append, List.length_append]
        exact recognize_location isUri
  · obtain ⟨rfl, -⟩ := Prod.mk.inj recognized
    exact absurd rfl valid

/-- What the lexer takes it takes again. -/
theorem recognize_again {first : Char}
    (recognized : recognize first rest = (kind, length))
    (valid : kind ≠ .invalid) (apart : Apart rest') :
    ∃ others, (first :: rest).take length = first :: others ∧
      recognize first (others ++ rest') = (kind, others.length + 1) := by
  unfold recognize at recognized
  split at recognized
  case h_15 => exact barToken_again recognized valid
  case h_16 | h_17 | h_18 =>
    exact quotedToken_again (by decide) recognized valid
  case h_19 =>
    dsimp only at recognized
    split at recognized
    · obtain ⟨rfl, -⟩ := Prod.mk.inj recognized
      exact absurd rfl valid
    · next positive =>
      obtain ⟨rfl, rfl⟩ := Prod.mk.inj recognized
      have number := take_unsignedLength positive
      exact ⟨_, List.take_succ_cons,
        recognize_number ⟨['-'], _, rfl, .inr rfl, number⟩ apart⟩
  case h_20 =>
    split at recognized
    · next isDigit =>
      obtain ⟨rfl, rfl⟩ := Prod.mk.inj recognized
      have positive := @unsignedLength_ne_zero rest first isDigit
      obtain ⟨count, same⟩ := Nat.exists_eq_succ_of_ne_zero positive
      have number := take_unsignedLength positive
      rw [same, List.take_succ_cons] at number ⊢
      exact ⟨_, rfl, recognize_number ⟨[], _, rfl, .inl rfl, number⟩ apart⟩
    · split at recognized
      · next starts =>
        obtain ⟨rfl, rfl⟩ := Prod.mk.inj recognized
        refine ⟨rest.takeWhile isNameRest, ?_, recognize_word starts ?_ apart⟩
        · rw [List.length_cons, List.take_succ_cons, take_length_takeWhile]
        · exact fun char member =>
            List.all_eq_true.mp List.all_takeWhile char member
      · obtain ⟨rfl, -⟩ := Prod.mk.inj recognized
        exact absurd rfl valid
  all_goals
    obtain ⟨rfl, rfl⟩ := Prod.mk.inj recognized
    exact ⟨[], rfl, rfl⟩

end

end Token

end TreeQuery
