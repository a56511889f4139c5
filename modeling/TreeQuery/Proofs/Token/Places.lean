import TreeQuery.Proofs.Token.Scanning

/-!
# Places of tokens

The tokens of a source stand in order, one behind the other.  Counting characters
keeps the order of the places where they start and stop.
-/

namespace TreeQuery

namespace Token

section

variable {chars front front' back rest : List Char} {token : Token}

/-- What the lexer takes is not empty. -/
theorem recognize_pos (first : Char) : 0 < (recognize first rest).2 := by
  unfold recognize
  split
  case h_15 =>
    unfold barToken
    dsimp only
    split
    · split
      · exact Nat.zero_lt_succ _
      · exact Nat.zero_lt_succ _
    · exact Nat.zero_lt_succ _
  case h_16 | h_17 | h_18 =>
    unfold quotedToken
    split
    · exact Nat.zero_lt_succ _
    · exact Nat.zero_lt_succ _
  case h_19 =>
    dsimp only
    split
    · exact Nat.zero_lt_one
    · exact Nat.zero_lt_succ _
  case h_20 =>
    split
    · next isDigit =>
      exact Nat.pos_of_ne_zero (unsignedLength_ne_zero isDigit)
    · split
      · exact Nat.zero_lt_succ _
      · exact Nat.zero_lt_one
  all_goals exact Nat.zero_lt_one

theorem byteLength_pos (nonempty : chars ≠ []) : 0 < byteLength chars := by
  cases chars with
  | nil => exact absurd rfl nonempty
  | cons char chars =>
      rw [byteLength]
      exact Nat.add_pos_left char.utf8Size_pos _

theorem byteLength_le_of_isPrefix (start : front <+: chars) :
    byteLength front ≤ byteLength chars := by
  obtain ⟨rest, rfl⟩ := start
  rw [byteLength_append]
  exact Nat.le_add_right _ _

/-- Of two starts of a text, the one with no more bytes has no more characters. -/
theorem length_le_of_byteLength_le (start : front <+: chars)
    (start' : front' <+: chars)
    (less : byteLength front ≤ byteLength front') :
    front.length ≤ front'.length := by
  refine Nat.le_of_not_lt fun longer => ?_
  obtain ⟨more, rfl⟩ :=
    List.prefix_of_prefix_length_le start' start (Nat.le_of_lt longer)
  have nonempty : more ≠ [] := by
    rintro rfl
    simp at longer
  have positive := byteLength_pos nonempty
  rw [byteLength_append] at less
  omega

theorem utf8ByteSize_ofList : (String.ofList chars).utf8ByteSize =
    byteLength chars := by
  induction chars with
  | nil => rfl
  | cons char chars induction =>
      rw [String.ofList_cons, String.utf8ByteSize_append,
        String.utf8ByteSize_singleton, induction, byteLength]

/-! ## Tokens one behind the other -/

theorem scan_of_isSkipped {offset : Nat} {first : Char}
    (skipped : isSkipped first = true) :
    scan offset 0 (first :: rest) = scan (offset + first.utf8Size) 0 rest := by
  rw [scan, if_pos skipped]

theorem scan_of_not_isSkipped {offset : Nat} {first : Char}
    (starts : ¬isSkipped first = true) :
    scan offset 0 (first :: rest) =
      ⟨(recognize first rest).1, (first :: rest).take (recognize first rest).2,
        offset, offset +
          byteLength ((first :: rest).take (recognize first rest).2)⟩ ::
        scan (offset + first.utf8Size) ((recognize first rest).2 - 1) rest := by
  rw [scan, if_neg starts]

/-- The token covers its lexeme in the characters, which start at byte `offset`,
and at least so many of them lie before it. -/
def Lies (offset covered : Nat) (chars : List Char) (token : Token) : Prop :=
  ∃ front back, chars = front ++ (token.lexeme ++ back) ∧
    covered ≤ front.length ∧ token.lexeme ≠ [] ∧
    token.start = offset + byteLength front ∧
    token.stop = token.start + byteLength token.lexeme

theorem Lies.cons {offset covered : Nat} {char : Char}
    (lies : Lies (offset + char.utf8Size) covered chars token) :
    Lies offset (covered + 1) (char :: chars) token := by
  obtain ⟨front, back, rfl, before, nonempty, start, stop⟩ := lies
  refine ⟨char :: front, back, rfl, Nat.succ_le_succ before, nonempty, ?_, stop⟩
  rw [start, byteLength, Nat.add_assoc]

theorem Lies.less {offset covered covered' : Nat}
    (lies : Lies offset covered chars token) (less : covered' ≤ covered) :
    Lies offset covered' chars token := by
  obtain ⟨front, back, split, before, rest⟩ := lies
  exact ⟨front, back, split, Nat.le_trans less before, rest⟩

theorem take_ne_nil {first : Char} (count : Nat) (positive : 0 < count) :
    (first :: rest).take count ≠ [] := by
  simp
  omega

theorem scan_lies {offset covered : Nat} :
    ∀ token ∈ scan offset covered chars, Lies offset covered chars token := by
  induction chars generalizing offset covered with
  | nil => simp [scan]
  | cons char chars induction =>
      cases covered with
      | succ covered => exact fun token among => (induction token among).cons
      | zero =>
          have later (count : Nat) : ∀ token ∈
              scan (offset + char.utf8Size) count chars,
              Lies offset 0 (char :: chars) token :=
            fun token among => (induction token among).cons.less (Nat.zero_le _)
          by_cases skipped : isSkipped char = true
          · rw [scan_of_isSkipped skipped]
            exact later 0
          · rw [scan_of_not_isSkipped skipped]
            refine List.forall_mem_cons.mpr ⟨?_, later _⟩
            refine ⟨[], _, (List.take_append_drop _ _).symm, Nat.zero_le _,
              take_ne_nil _ (recognize_pos char), rfl, rfl⟩

theorem Lies.start_lt_stop {offset covered : Nat}
    (lies : Lies offset covered chars token) : token.start < token.stop := by
  obtain ⟨front, back, -, -, nonempty, -, stop⟩ := lies
  rw [stop]
  exact Nat.lt_add_of_pos_right (byteLength_pos nonempty)

/-- What lies behind so many characters starts where they stop, or further on. -/
theorem Lies.le_start {offset covered : Nat}
    (lies : Lies offset covered chars token) :
    offset + byteLength (chars.take covered) ≤ token.start := by
  obtain ⟨front, back, rfl, before, -, start, -⟩ := lies
  rw [start, List.take_append_of_le_length before]
  exact Nat.add_le_add_left
    (byteLength_le_of_isPrefix (List.take_prefix _ _)) offset

/-- A token stops before those behind it start. -/
theorem scan_pairwise {offset covered : Nat} :
    (scan offset covered chars).Pairwise fun token token' =>
      token.stop ≤ token'.start := by
  induction chars generalizing offset covered with
  | nil => exact .nil
  | cons char chars induction =>
      cases covered with
      | succ covered => exact induction
      | zero =>
          by_cases skipped : isSkipped char = true
          · rw [scan_of_isSkipped skipped]
            exact induction
          · rw [scan_of_not_isSkipped skipped]
            refine .cons ?_ induction
            intro token among
            have further := (scan_lies token among).cons.le_start
            rwa [Nat.sub_add_cancel (recognize_pos char)] at further

end

end Token

/-! ## Counting characters -/

section

variable {source : String} {front back : List Char} {offset offset' : Nat}
  {token token' : Token} {before rest : List Token}

open Token

private theorem charsBefore_byteLength :
    charsBefore (front ++ back) (byteLength front) = some front.length := by
  induction front with
  | nil => cases back <;> rfl
  | cons char front induction =>
      have positive := char.utf8Size_pos
      rw [List.cons_append, byteLength, charsBefore,
        if_pos (Nat.le_add_right _ _), Nat.add_sub_cancel_left, induction]
      · rfl
      · omega

/-- At the byte offset a character starts or the source ends. -/
def Boundary (source : String) (offset : Nat) : Prop :=
  ∃ front, front <+: source.toList ∧ offset = byteLength front

theorem charOffset_byteLength (start : front <+: source.toList) :
    charOffset source (byteLength front) = front.length := by
  obtain ⟨back, split⟩ := start
  rw [charOffset, ← split, charsBefore_byteLength]
  rfl

/-- Characters are counted in the order of their bytes. -/
theorem charOffset_le_iff (boundary : Boundary source offset)
    (boundary' : Boundary source offset') :
    charOffset source offset ≤ charOffset source offset' ↔
      offset ≤ offset' := by
  obtain ⟨front, start, rfl⟩ := boundary
  obtain ⟨front', start', rfl⟩ := boundary'
  rw [charOffset_byteLength start, charOffset_byteLength start']
  constructor
  · intro shorter
    exact byteLength_le_of_isPrefix
      (List.prefix_of_prefix_length_le start start' shorter)
  · exact length_le_of_byteLength_le start start'

theorem boundary_utf8ByteSize : Boundary source source.utf8ByteSize :=
  ⟨source.toList, List.prefix_refl _, by
    rw [← utf8ByteSize_ofList, String.ofList_toList]⟩

theorem Boundary.le_utf8ByteSize (boundary : Boundary source offset) :
    offset ≤ source.utf8ByteSize := by
  obtain ⟨front, start, rfl⟩ := boundary
  rw [← String.ofList_toList (s := source), utf8ByteSize_ofList]
  exact byteLength_le_of_isPrefix start

theorem tokenize_lies (among : token ∈ tokenize source) :
    Lies 0 0 source.toList token :=
  scan_lies token among

theorem boundary_start (among : token ∈ tokenize source) :
    Boundary source token.start := by
  obtain ⟨front, back, split, -, -, start, -⟩ := tokenize_lies among
  exact ⟨front, ⟨_, split.symm⟩, start.trans (Nat.zero_add _)⟩

theorem boundary_stop (among : token ∈ tokenize source) :
    Boundary source token.stop := by
  obtain ⟨front, back, split, -, -, start, stop⟩ := tokenize_lies among
  refine ⟨front ++ token.lexeme, ⟨back, by rw [split, List.append_assoc]⟩, ?_⟩
  rw [stop, start, byteLength_append, Nat.zero_add]

theorem tokenize_pairwise (source : String) : (tokenize source).Pairwise fun token token' =>
    token.stop ≤ token'.start :=
  scan_pairwise

end

end TreeQuery
