import TreeQuery.Proofs.Token.Extending

/-!
# Cutting a source between tokens

What the lexer takes depends on no character behind it but through what it does
not take.  So a source that is cut in two at a place inside of no token has the
tokens of its halves.
-/

namespace TreeQuery

namespace Token

/-- What is counted inside the front is counted without what follows it. -/
def Local (count : List Char → Nat) : Prop :=
  ∀ front rest, count (front ++ rest) ≤ front.length →
    count front = count (front ++ rest)

section

variable {front rest : List Char}

theorem takeWhile_within {property : Char → Bool}
    (inside : ((front ++ rest).takeWhile property).length ≤ front.length) :
    front.takeWhile property = (front ++ rest).takeWhile property := by
  rw [List.takeWhile_append] at inside ⊢
  split at inside
  · next whole =>
    rw [List.length_append] at inside
    have none : rest.takeWhile property = [] :=
      List.eq_nil_of_length_eq_zero (by omega)
    rw [if_pos whole, none, List.append_nil]
    exact (List.takeWhile_prefix _).eq_of_length whole
  · next part => rw [if_neg part]

theorem digitCount_local : Local digitCount := fun _ _ inside =>
  congrArg List.length (takeWhile_within inside)

/-- What stands behind a mark only if there is some of it is counted with the
mark. -/
theorem Local.marked {count : List Char → Nat} {mark : Nat}
    (isLocal : Local count)
    (inside : (if count (front ++ rest) = 0 then 0
      else count (front ++ rest) + mark) ≤ front.length + mark) :
    count front = count (front ++ rest) := by
  apply isLocal
  split at inside
  · omega
  · omega

theorem exponentLength_ne_one (mark : Char) : exponentLength (mark :: rest) ≠ 1 := by
  unfold exponentLength
  split
  · split
    · split
      all_goals
        dsimp only
        split <;> omega
    · exact Nat.zero_ne_one
  · exact Nat.zero_ne_one

theorem exponentLength_local : Local exponentLength := by
  intro front rest inside
  cases front with
  | nil => exact (Nat.le_zero.mp inside).symm
  | cons mark front =>
      by_cases marked : (mark = 'e' || mark = 'E') = true
      · cases front with
        | nil =>
            have other := @exponentLength_ne_one rest mark
            have short : exponentLength (mark :: rest) ≤ 1 := inside
            have none : exponentLength (mark :: rest) = 0 := by omega
            have alone : exponentLength [mark] = 0 := by
              simp [exponentLength, digitCount]
            exact alone.trans none.symm
        | cons sign digits =>
            by_cases minus : sign = '-'
            · subst minus
              simp only [List.cons_append, exponentLength, marked, if_true]
                at inside ⊢
              rw [digitCount_local.marked inside]
            · have unsigned {others : List Char} :
                  ∀ digits, sign :: others ≠ '-' :: digits :=
                fun _ same => minus (List.cons.inj same).1
              rw [List.cons_append, List.cons_append, exponentLength, if_pos marked]
                at inside
              · rw [List.cons_append, List.cons_append, exponentLength,
                  exponentLength, if_pos marked, if_pos marked,
                  digitCount_local.marked inside]
                · rfl
                · exact unsigned
                · exact unsigned
              · exact unsigned
      · simp only [List.cons_append, exponentLength, marked]
        rfl

/-- Some digits and what follows them are counted with what stands before. -/
theorem Local.behindDigits {count : List Char → Nat} {before : Nat}
    (isLocal : Local count)
    (inside : (if digitCount (front ++ rest) = 0 then 0
      else digitCount (front ++ rest) + before +
        count ((front ++ rest).drop (digitCount (front ++ rest)))) ≤
      front.length + before) :
    (if digitCount front = 0 then 0
      else digitCount front + before + count (front.drop (digitCount front))) =
    if digitCount (front ++ rest) = 0 then 0
      else digitCount (front ++ rest) + before +
        count ((front ++ rest).drop (digitCount (front ++ rest))) := by
  have short : digitCount (front ++ rest) ≤ front.length := by
    split at inside
    · omega
    · omega
  rw [digitCount_local front rest short]
  split at inside
  · next none => rw [if_pos none, if_pos none]
  · next some =>
    rw [List.drop_append_of_le_length short] at inside ⊢
    rw [isLocal _ rest]
    rw [List.length_drop]
    omega

theorem fractionLength_local : Local fractionLength := by
  intro front rest inside
  cases front with
  | nil => exact (Nat.le_zero.mp inside).symm
  | cons point front =>
      by_cases isPoint : point = '.'
      · subst isPoint
        exact exponentLength_local.behindDigits inside
      · have other {others : List Char} :
            ∀ digits, point :: others ≠ '.' :: digits :=
          fun _ same => isPoint (List.cons.inj same).1
        rw [List.cons_append, fractionLength, fractionLength]
        · exact other
        · exact other

theorem unsignedLength_local : Local unsignedLength := fun front rest inside =>
  @Local.behindDigits front rest _ 0 fractionLength_local inside

theorem quotedToken_within {kind : Kind} {close : Char} {holdsLines : Bool}
    (notBackslash : close ≠ '\\')
    (valid : (quotedToken kind close holdsLines (front ++ rest)).1 ≠ .invalid)
    (inside : (quotedToken kind close holdsLines (front ++ rest)).2 ≤
      front.length + 1) :
    quotedToken kind close holdsLines front =
      quotedToken kind close holdsLines (front ++ rest) := by
  unfold quotedToken at valid inside ⊢
  split at valid
  · next length closed =>
    obtain ⟨body, behind, split, rfl, quotable⟩ := quotedRest_closed closed
    rw [closed] at inside
    have start : body ++ [close] <+: front ++ rest :=
      ⟨behind, by rw [split, List.append_assoc]; rfl⟩
    have shorter : (body ++ [close]).length ≤ front.length := by
      rw [List.length_append]
      exact Nat.le_of_succ_le_succ inside
    obtain ⟨others, rfl⟩ := List.prefix_of_prefix_length_le start
      (List.prefix_append _ _) shorter
    rw [List.append_assoc, List.singleton_append,
      quotedRest_append notBackslash quotable]
  · exact absurd rfl valid

theorem barToken_within (valid : (barToken (front ++ rest)).1 ≠ .invalid)
    (inside : (barToken (front ++ rest)).2 ≤ front.length + 1) :
    barToken front = barToken (front ++ rest) := by
  unfold barToken at valid inside ⊢
  dsimp only at valid inside ⊢
  split at valid
  · next behind found =>
    rw [found] at inside
    have longer : ((front ++ rest).takeWhile isUriChar).length < front.length := by
      by_cases empty : ((front ++ rest).takeWhile isUriChar).isEmpty = true
      · rw [if_pos empty] at inside
        rw [List.isEmpty_iff.mp empty]
        exact Nat.le_of_succ_le_succ inside
      · rw [if_neg empty] at inside
        exact Nat.le_of_succ_le_succ inside
    have within := takeWhile_within (Nat.le_of_lt longer)
    rw [List.drop_append_of_le_length (Nat.le_of_lt longer)] at found
    rw [within]
    cases there : front.drop ((front ++ rest).takeWhile isUriChar).length with
    | nil => exact absurd longer (Nat.not_lt.mpr (List.drop_eq_nil_iff.mp there))
    | cons char others =>
        rw [there] at found
        obtain ⟨rfl, -⟩ := List.cons.inj found
        rfl
  · exact absurd rfl valid

/-- A valid token is taken without what follows the front that it lies in. -/
theorem recognize_within {first : Char}
    (valid : (recognize first (front ++ rest)).1 ≠ .invalid)
    (inside : (recognize first (front ++ rest)).2 ≤ front.length + 1) :
    recognize first front = recognize first (front ++ rest) := by
  by_cases isDigit : first.isDigit = true
  · rw [recognize_of_isDigit isDigit] at inside
    rw [recognize_of_isDigit isDigit, recognize_of_isDigit isDigit,
      unsignedLength_local (first :: front) rest inside]
    rfl
  by_cases starts : isNameStart first = true
  · rw [recognize_of_isNameStart starts] at inside
    rw [recognize_of_isNameStart starts, recognize_of_isNameStart starts,
      takeWhile_within (Nat.le_of_succ_le_succ inside)]
  unfold recognize at valid inside ⊢
  split at valid
  case h_15 => exact barToken_within valid inside
  case h_16 | h_17 | h_18 => exact quotedToken_within (by decide) valid inside
  case h_19 =>
    dsimp only at valid inside ⊢
    split at valid
    · exact absurd rfl valid
    · next positive =>
      rw [if_neg positive] at inside
      rw [unsignedLength_local front rest (Nat.le_of_succ_le_succ inside)]
  case h_20 =>
    rw [if_neg isDigit, if_neg starts] at valid
    exact absurd rfl valid
  all_goals rfl

/-! ## Tokens of the halves -/

/-- No token of a source that is cut at a place inside of none gets lost. -/
theorem scan_within {offset covered : Nat}
    (valid : ∀ token ∈ scan offset covered (front ++ rest),
      token.kind ≠ .invalid)
    (apart : ∀ token ∈ scan offset covered (front ++ rest),
      token.stop ≤ offset + byteLength front ∨
        offset + byteLength front ≤ token.start)
    (within : covered ≤ front.length) :
    scan offset covered (front ++ rest) =
      scan offset covered front ++ scan (offset + byteLength front) 0 rest := by
  induction front generalizing offset covered with
  | nil =>
      obtain rfl : covered = 0 := Nat.le_zero.mp within
      rfl
  | cons char front induction =>
      rw [byteLength, ← Nat.add_assoc] at apart ⊢
      cases covered with
      | succ covered =>
          exact induction valid apart (Nat.le_of_succ_le_succ within)
      | zero =>
          rw [List.cons_append] at valid apart ⊢
          by_cases skipped : isSkipped char = true
          · rw [scan_of_isSkipped skipped] at valid apart ⊢
            rw [scan_of_isSkipped skipped]
            exact induction valid apart (Nat.zero_le _)
          · rw [scan_of_not_isSkipped skipped] at valid apart ⊢
            obtain ⟨isValid, othersValid⟩ := List.forall_mem_cons.mp valid
            obtain ⟨isApart, othersApart⟩ := List.forall_mem_cons.mp apart
            dsimp only at isValid isApart
            have inside : (recognize char (front ++ rest)).2 ≤
                front.length + 1 := by
              have whole := recognize_le isValid
              have positive := char.utf8Size_pos
              have start : char :: front <+: char :: (front ++ rest) :=
                ⟨rest, rfl⟩
              have short := length_le_of_byteLength_le
                (List.take_prefix (recognize char (front ++ rest)).2 _) start
                (by rw [byteLength]; omega)
              rw [List.length_take, List.length_cons, List.length_cons] at short
              omega
            have later := induction othersValid othersApart (by omega)
            rw [scan_of_not_isSkipped skipped, recognize_within isValid inside,
              ← List.cons_append, List.take_append_of_le_length inside, later,
              List.cons_append]

end

end Token

end TreeQuery
