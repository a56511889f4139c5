import TreeQuery.Text

/-!
# Spelling of texts

A text is decoded when its segments are what some quoted body is cut into.
Writing a decoded text and reading the body again gives the same segments, and
every plain text has a decoded spelling.  A body that is cut into segments is
their written form, but for a backslash at its end that takes no character.
-/

namespace TreeQuery

/-- A body that can stand between two delimiters: none of its characters closes
it, and every backslash takes another character with it. -/
inductive Quotable (close : Char) (holdsLines : Bool) : List Char → Prop where
  | empty : Quotable close holdsLines []
  | escaped {char : Char} {rest : List Char} :
      char ≠ '\n' → Quotable close holdsLines rest →
      Quotable close holdsLines ('\\' :: char :: rest)
  | plain {char : Char} {rest : List Char} :
      char ≠ '\\' → char ≠ close → (char = '\n' → holdsLines = true) →
      Quotable close holdsLines rest →
      Quotable close holdsLines (char :: rest)

namespace Segment

/-- The segments start with a run of characters that stand for themselves. -/
def startsRaw : List Segment → Bool
  | raw _ :: _ => true
  | _ => false

/-- Runs are not empty, do not meet, and need no backslash; behind a backslash
stands no line feed. -/
def Decoded : List Segment → Prop
  | [] => True
  | raw run :: rest =>
      run ≠ [] ∧ (∀ char ∈ run, char ≠ '"' ∧ char ≠ '\\') ∧
        startsRaw rest = false ∧ Decoded rest
  | escaped char :: rest => char ≠ '\n' ∧ Decoded rest

/-- Runs are not empty, do not meet and need no backslash; `inRun` holds of their
characters, and `behind` of the characters behind backslashes. -/
def Formed (inRun behind : Char → Prop) : List Segment → Prop
  | [] => True
  | raw run :: rest =>
      run ≠ [] ∧ (∀ char ∈ run, inRun char ∧ char ≠ '\\') ∧
        startsRaw rest = false ∧ Formed inRun behind rest
  | escaped char :: rest => behind char ∧ Formed inRun behind rest

section

variable {inRun inRun' behind behind' : Char → Prop} {segments : List Segment}

theorem decoded_iff_formed :
    Decoded segments ↔ Formed (· ≠ '"') (· ≠ '\n') segments := by
  induction segments with
  | nil => exact Iff.rfl
  | cons segment rest induction =>
      cases segment <;> simp [Decoded, Formed, induction]

theorem Formed.mono (formed : Formed inRun behind segments)
    (inRuns : ∀ char, inRun char → inRun' char)
    (behinds : ∀ char, behind char → behind' char) :
    Formed inRun' behind' segments := by
  induction segments with
  | nil => trivial
  | cons segment rest induction =>
      cases segment with
      | raw run =>
          obtain ⟨nonempty, plain, apart, formedRest⟩ := formed
          refine ⟨nonempty, ?_, apart, induction formedRest⟩
          exact fun char member =>
            (plain char member).imp_left (inRuns char)
      | escaped char => exact ⟨behinds char formed.1, induction formed.2⟩

/-- No run is empty. -/
theorem Formed.nil_not_mem (formed : Formed inRun behind segments) :
    raw [] ∉ segments := by
  induction segments with
  | nil => exact List.not_mem_nil
  | cons segment rest induction =>
      cases segment with
      | raw run =>
          obtain ⟨nonempty, -, -, formedRest⟩ := formed
          simp [nonempty.symm, induction formedRest]
      | escaped char => simp [induction formed.2]

/-- No two runs meet. -/
theorem Formed.apart (formed : Formed inRun behind segments)
    (left right : List Char) : ¬[raw left, raw right] <:+: segments := by
  induction segments with
  | nil => simp
  | cons segment rest induction =>
      rw [List.infix_cons_iff]
      cases segment with
      | raw run =>
          obtain ⟨-, -, apart, formedRest⟩ := formed
          refine not_or_intro ?_ (induction formedRest)
          intro start
          obtain ⟨-, next⟩ := List.cons_prefix_cons.mp start
          obtain ⟨behind, rfl⟩ := next
          cases apart
      | escaped char =>
          refine not_or_intro ?_ (induction formed.2)
          intro start
          cases (List.cons_prefix_cons.mp start).1

theorem consRaw_of_not_startsRaw {char : Char}
    (apart : startsRaw segments = false) :
    consRaw char segments = raw [char] :: segments := by
  cases segments with
  | nil => rfl
  | cons segment rest =>
      cases segment with
      | raw run => cases apart
      | escaped code => rfl

theorem consRaw_formed {char : Char} (allowed : inRun char)
    (notBackslash : char ≠ '\\') (formed : Formed inRun behind segments) :
    Formed inRun behind (consRaw char segments) := by
  cases apart : startsRaw segments with
  | false =>
      rw [consRaw_of_not_startsRaw apart]
      refine ⟨List.cons_ne_nil _ _, ?_, apart, formed⟩
      exact List.forall_mem_singleton.mpr ⟨allowed, notBackslash⟩
  | true =>
      cases segments with
      | nil => cases apart
      | cons segment rest =>
          cases segment with
          | escaped code => cases apart
          | raw run =>
              obtain ⟨_, plain, apart', formedRest⟩ := formed
              refine ⟨List.cons_ne_nil _ _, ?_, apart', formedRest⟩
              exact List.forall_mem_cons.mpr ⟨⟨allowed, notBackslash⟩, plain⟩

/-- A function that leaves runs as they are sees the character put in front. -/
theorem flatMap_consRaw {spell : Segment → List Char}
    (runs : ∀ run, spell (raw run) = run) (char : Char)
    (segments : List Segment) :
    (consRaw char segments).flatMap spell = char :: segments.flatMap spell := by
  cases segments with
  | nil => simp [consRaw, runs]
  | cons segment rest => cases segment <;> simp [consRaw, runs]

end

/-! ## Cutting a body -/

theorem ofBody_cons {char : Char} {rest : List Char}
    (notBackslash : char ≠ '\\') :
    ofBody (char :: rest) = consRaw char (ofBody rest) := by
  rw [ofBody]
  · intro _ _ same
    exact absurd same notBackslash
  · intro same
    exact absurd same notBackslash

/-- Induction along a body, where a backslash takes the next character. -/
@[elab_as_elim]
theorem bodyInduction {motive : List Char → Prop} (empty : motive [])
    (lone : motive ['\\'])
    (pair : ∀ char rest, motive rest → motive ('\\' :: char :: rest))
    (plain : ∀ char rest, char ≠ '\\' → motive rest → motive (char :: rest))
    (body : List Char) : motive body := by
  fun_induction ofBody body with
  | case1 => exact empty
  | case2 char rest induction => exact pair char rest induction
  | case3 => exact lone
  | case4 char rest notPair notLone induction =>
      -- The body starts with no pair and is no lone backslash.
      refine plain char rest ?_ induction
      intro same
      cases rest with
      | nil => exact notLone same rfl
      | cons second rest => exact notPair second rest same rfl

/-- Every body is cut into runs that are not empty and do not meet. -/
theorem ofBody_formed (body : List Char) :
    Formed (fun _ => True) (fun _ => True) (ofBody body) := by
  induction body using bodyInduction with
  | empty | lone => trivial
  | pair char rest induction => exact ⟨trivial, induction⟩
  | plain char rest notBackslash induction =>
      rw [ofBody_cons notBackslash]
      exact consRaw_formed trivial notBackslash induction

/-- Whatever stands between double quotes is cut into decoded segments. -/
theorem ofBody_decoded {body : List Char} (quotable : Quotable '"' true body) :
    Decoded (ofBody body) := by
  rw [decoded_iff_formed]
  induction quotable with
  | empty => trivial
  | escaped notLine _ induction => exact ⟨notLine, induction⟩
  | plain notBackslash notQuote _ _ induction =>
      rw [ofBody_cons notBackslash]
      exact consRaw_formed notQuote notBackslash induction

/-- A run is read as one segment where no other run follows. -/
theorem ofBody_run {run tail : List Char} (nonempty : run ≠ [])
    (plain : ∀ char ∈ run, char ≠ '\\')
    (apart : startsRaw (ofBody tail) = false) :
    ofBody (run ++ tail) = raw run :: ofBody tail := by
  induction run with
  | nil => exact absurd rfl nonempty
  | cons char run induction =>
      obtain ⟨notBackslash, plainRun⟩ := List.forall_mem_cons.mp plain
      rw [List.cons_append, ofBody_cons notBackslash]
      cases run with
      | nil => exact consRaw_of_not_startsRaw apart
      | cons second run =>
          rw [induction (List.cons_ne_nil _ _) plainRun]
          rfl

/-- The written form of the segments is cut into the same segments. -/
theorem ofBody_written {inRun behind : Char → Prop} {segments : List Segment}
    (formed : Formed inRun behind segments) :
    ofBody (segments.flatMap written) = segments := by
  induction segments with
  | nil => rfl
  | cons segment rest induction =>
      rw [List.flatMap_cons]
      cases segment with
      | raw run =>
          obtain ⟨nonempty, plain, apart, formedRest⟩ := formed
          have same := induction formedRest
          have noBackslash : ∀ char ∈ run, char ≠ '\\' :=
            fun char member => (plain char member).2
          have apart' : startsRaw (ofBody (rest.flatMap written)) = false := by
            rwa [same]
          rw [written, ofBody_run nonempty noBackslash apart', same]
      | escaped char =>
          have same := induction formed.2
          exact congrArg (escaped char :: ·) same

/-- The backslashes at the end of the body do not pair up, so that the last of
them takes no character with it. -/
def EndsUnpaired (body : List Char) : Prop :=
  (body.reverse.takeWhile (· == '\\')).length % 2 = 1

instance (body : List Char) : Decidable (EndsUnpaired body) :=
  inferInstanceAs (Decidable (_ = _))

theorem endsUnpaired_cons {char : Char} {rest : List Char}
    (notBackslash : char ≠ '\\') :
    EndsUnpaired (char :: rest) ↔ EndsUnpaired rest := by
  unfold EndsUnpaired
  rw [List.reverse_cons, List.takeWhile_append]
  split
  · next all => simp [all, notBackslash]
  · exact Iff.rfl

theorem endsUnpaired_pair (char : Char) (rest : List Char) :
    EndsUnpaired ('\\' :: char :: rest) ↔ EndsUnpaired rest := by
  unfold EndsUnpaired
  rw [List.reverse_cons, List.reverse_cons, List.append_assoc,
    List.takeWhile_append]
  split
  · next all =>
    -- Only where all of the rest are backslashes does the pair count, by two.
    by_cases isBackslash : char = '\\' <;> simp [all, isBackslash]
  · exact Iff.rfl

/-- The segments of a body are written as the body, without a backslash at its
end that takes no character. -/
private theorem written_ofBody_append (body : List Char) :
    (ofBody body).flatMap written ++
      (if EndsUnpaired body then ['\\'] else []) = body := by
  induction body using bodyInduction with
  | empty | lone => rfl
  | pair char rest induction =>
      simp only [endsUnpaired_pair]
      exact congrArg ('\\' :: char :: ·) induction
  | plain char rest notBackslash induction =>
      simp only [endsUnpaired_cons notBackslash]
      rw [ofBody_cons notBackslash, flatMap_consRaw (fun _ => rfl),
        List.cons_append, induction]

theorem written_ofBody_iff {body : List Char} :
    (ofBody body).flatMap written = body ↔ ¬EndsUnpaired body := by
  have whole := written_ofBody_append body
  split at whole
  · next unpaired =>
    refine iff_of_false ?_ (not_not_intro unpaired)
    intro same
    rw [same] at whole
    simp at whole
  · next paired =>
    rw [List.append_nil] at whole
    exact iff_of_true whole paired

/-! ## Bodies between delimiters -/

private theorem run_quotable {close : Char} {run rest : List Char}
    (plain : ∀ char ∈ run, char ≠ close ∧ char ≠ '\\')
    (quotable : Quotable close true rest) :
    Quotable close true (run ++ rest) := by
  induction run with
  | nil => exact quotable
  | cons char run induction =>
      obtain ⟨⟨notClose, notBackslash⟩, plainRun⟩ :=
        List.forall_mem_cons.mp plain
      exact .plain notBackslash notClose (fun _ => rfl) (induction plainRun)

theorem Formed.quotable {close : Char} {segments : List Segment}
    (formed : Formed (· ≠ close) (· ≠ '\n') segments) :
    Quotable close true (segments.flatMap written) := by
  induction segments with
  | nil => exact .empty
  | cons segment rest induction =>
      cases segment with
      | raw run => exact run_quotable formed.2.1 (induction formed.2.2.2)
      | escaped char => exact .escaped formed.1 (induction formed.2)

theorem written_quotable {segments : List Segment}
    (decoded : Decoded segments) :
    Quotable '"' true (segments.flatMap written) :=
  (decoded_iff_formed.mp decoded).quotable

theorem not_endsUnpaired_of_quotable {close : Char} {holdsLines : Bool}
    {body : List Char} (quotable : Quotable close holdsLines body) :
    ¬EndsUnpaired body := by
  induction quotable with
  | empty => decide
  | escaped _ _ induction => rwa [endsUnpaired_pair]
  | plain notBackslash _ _ _ induction => rwa [endsUnpaired_cons notBackslash]

/-! ## Spelling a plain text -/

private theorem escapeCode_eq_some {char code : Char}
    (escapes : escapeCode char = some code) :
    code ≠ '\n' ∧ unescape code = char := by
  unfold escapeCode at escapes
  split at escapes <;> cases escapes <;> decide

private theorem escapeCode_eq_none {char : Char} (plain : escapeCode char = none) :
    (char ≠ '"' ∧ char ≠ '\'') ∧ char ≠ '\\' := by
  refine ⟨⟨?_, ?_⟩, ?_⟩
  all_goals
    intro same
    subst same
    cases plain

/-- A plain text is spelled without quotes of either kind in its runs. -/
theorem ofPlain_formed (chars : List Char) :
    Formed (fun char => char ≠ '"' ∧ char ≠ '\'') (· ≠ '\n')
      (ofPlain chars) := by
  induction chars with
  | nil => trivial
  | cons char rest induction =>
      rw [ofPlain]
      split
      · next code escapes => exact ⟨(escapeCode_eq_some escapes).1, induction⟩
      · next unescaped =>
          obtain ⟨noQuotes, notBackslash⟩ := escapeCode_eq_none unescaped
          exact consRaw_formed noQuotes notBackslash induction

theorem ofPlain_decoded (chars : List Char) : Decoded (ofPlain chars) :=
  decoded_iff_formed.mpr <|
    (ofPlain_formed chars).mono (fun _ noQuotes => noQuotes.1) fun _ => id

theorem plain_ofPlain (chars : List Char) :
    (ofPlain chars).flatMap plain = chars := by
  induction chars with
  | nil => rfl
  | cons char rest induction =>
      rw [ofPlain]
      split
      · next code escapes =>
          rw [List.flatMap_cons, induction, plain,
            (escapeCode_eq_some escapes).2]
          rfl
      · rw [flatMap_consRaw (fun _ => rfl), induction]

end Segment

namespace Text

theorem decode_written {inRun behind : Char → Prop} {text : Text}
    (formed : Segment.Formed inRun behind text.segments) :
    decode (String.ofList (text.segments.flatMap Segment.written)) = text := by
  rw [decode, String.toList_ofList, Segment.ofBody_written formed]

theorem plain_ofPlain (plain : String) : (ofPlain plain).plain = plain := by
  rw [Text.plain, ofPlain, Segment.plain_ofPlain, String.ofList_toList]

end Text

end TreeQuery
