import TreeQuery.Proofs.Reading.Lists

/-!
# Chains

`Chained` describes the tokens of at least one piece with separators between the
pieces only.  A rule for chains reads exactly these tokens when the rule for
items reads exactly the tokens of an item.
-/

namespace TreeQuery.Reading

/-- At least one piece, with separators between them. -/
inductive Chained (separator : Token.Kind) :
    List (List Token) → List Token → Prop where
  | last (piece : List Token) : Chained separator [piece] piece
  | more {found : Token} {pieces : List (List Token)} {tokens : List Token}
      (piece : List Token) :
      found.kind = separator → Chained separator pieces tokens →
      Chained separator (piece :: pieces) (piece ++ found :: tokens)

section

variable {separator : Token.Kind} {pieces : List (List Token)}
  {tokens : List Token}

theorem Chained.length_le (chained : Chained separator pieces tokens) :
    ∀ piece ∈ pieces, piece.length ≤ tokens.length := by
  induction chained with
  | last piece => simp
  | more piece _ _ induction =>
      intro other member
      rw [List.length_append, List.length_cons]
      rcases List.mem_cons.mp member with same | later
      · subst same
        omega
      · have bound := induction other later
        omega

theorem Chained.length_le_length (chained : Chained separator pieces tokens) :
    pieces.length ≤ tokens.length + 1 := by
  induction chained with
  | last piece => simp
  | more piece _ _ induction =>
      simp only [List.length_cons, List.length_append]
      omega

end

namespace Rule

variable {α : Type} {item : Rule α} {separator : Token.Kind}
  {derives : List Token → α → Prop} {prevents : Token.Kind → Prop}
  {cursor next after : Cursor}

/-- A chain that was read has a first item and further ones. -/
theorem Reads.separatedChain_cases {values : List α}
    (reads : (item.separatedChain (token separator)).Reads cursor values next) :
    ∃ value others after, values = value :: others ∧
      item.Reads cursor value after ∧
      ReadsMore item separator after others next := by
  obtain ⟨passed, result⟩ := reads
  unfold separatedChain items at result
  rcases outcome : item cursor with ⟨emitted, fault | ⟨value, after, passed'⟩⟩
  · simp [outcome] at result
  · simp only [outcome, List.isEmpty_cons, Bool.false_eq_true, if_false,
      Outcome.mk.injEq, Except.ok.injEq, Progress.mk.injEq,
      List.append_eq_nil_iff] at result
    obtain ⟨⟨rfl, clean⟩, rfl, rfl, -⟩ := result
    exact ⟨value, _, after, rfl, ⟨passed', outcome⟩, readsMore_moreItems clean⟩

theorem ReadsMore.chained (sound : item.Sound derives) {others : List α}
    (more : ReadsMore item separator after others next) {value : α}
    {piece : List Token} (passes : cursor.Passes piece after)
    (derived : derives piece value) :
    ∃ pieces tokens, cursor.Passes tokens next ∧
      Chained separator pieces tokens ∧
      List.Forall₂ derives pieces (value :: others) := by
  induction more generalizing cursor value piece with
  | stop last => exact ⟨[piece], piece, passes, .last piece, .cons derived .nil⟩
  | more kind passesSeparator reads later induction =>
      obtain ⟨piece', passes', derived'⟩ := sound reads
      obtain ⟨pieces, tokens, passesRest, chained, all⟩ :=
        induction passes' derived'
      exact ⟨_, _, passes.append (passesSeparator.append passesRest),
        .more piece kind chained, .cons derived all⟩

theorem Sound.separatedChain (sound : item.Sound derives) :
    (item.separatedChain (token separator)).Sound fun tokens values =>
      ∃ pieces, Chained separator pieces tokens ∧
        List.Forall₂ derives pieces values := by
  intro cursor next values reads
  obtain ⟨value, others, after, rfl, read, more⟩ := reads.separatedChain_cases
  obtain ⟨piece, passes, derived⟩ := sound read
  obtain ⟨pieces, tokens, passesAll, chained, all⟩ :=
    more.chained sound passes derived
  exact ⟨tokens, passesAll, pieces, chained, all⟩

theorem Complete.chainedMore (complete : item.Complete derives prevents)
    (allowed : ¬prevents separator) {pieces : List (List Token)}
    {tokens : List Token} (chained : Chained separator pieces tokens)
    (passes : cursor.Passes tokens next)
    (fits : ∀ kind ∈ next.nextKind?, ¬prevents kind) {values : List α}
    (all : List.Forall₂ derives pieces values) :
    ∃ value others after, values = value :: others ∧
      item.Reads cursor value after ∧
      ReadsMore item separator after others next := by
  induction chained generalizing cursor values with
  | last piece =>
      obtain ⟨value, _, derived, rest, rfl⟩ := List.forall₂_cons_left_iff.mp all
      cases rest
      exact ⟨value, [], next, rfl, complete derived passes fits, .stop next⟩
  | more piece kind later induction =>
      obtain ⟨value, _, derived, rest, rfl⟩ := List.forall₂_cons_left_iff.mp all
      obtain ⟨middle, passesPiece, passesRest⟩ :=
        Cursor.passes_append_iff.mp passes
      obtain ⟨behind, passesSeparator, passesLater⟩ :=
        Cursor.passes_cons_iff.mp passesRest
      obtain ⟨second, others, after, rfl, reads, more⟩ :=
        induction passesLater rest
      have atSeparator : ∀ kind ∈ middle.nextKind?, ¬prevents kind :=
        passesRest.forall_nextKind? (by rwa [kind])
      exact ⟨value, _, middle, rfl, complete derived passesPiece atSeparator,
        .more kind passesSeparator reads more⟩

theorem Reads.separatedChain {value : α} {others : List α}
    (reads : item.Reads cursor value after)
    (more : ReadsMore item separator after others next)
    (enough : others.length ≤ cursor.ahead.length)
    (ends : next.nextKind? ≠ some separator) :
    (item.separatedChain (token separator)).Reads cursor (value :: others)
      next := by
  obtain ⟨passed, outcome⟩ := reads
  obtain ⟨last, fault, run⟩ :=
    more.moreItems_eq (stops_of_nextKind? ends) enough passed
  exact ⟨_, by
    simp only [Rule.separatedChain, items, outcome, run, List.isEmpty_cons,
      Bool.false_eq_true, if_false, List.append_nil]
    rfl⟩

/-- A chain is read to its end where neither another separator nor what prevents
an item follows. -/
theorem Complete.separatedChain (complete : item.Complete derives prevents)
    (allowed : ¬prevents separator) :
    (item.separatedChain (token separator)).Complete
      (fun tokens values => ∃ pieces, Chained separator pieces tokens ∧
        List.Forall₂ derives pieces values)
      fun kind => prevents kind ∨ kind = separator := by
  intro cursor next tokens values derived passes fits
  obtain ⟨pieces, chained, all⟩ := derived
  have fitsItem : ∀ kind ∈ next.nextKind?, ¬prevents kind :=
    fun kind member prevented => fits kind member (.inl prevented)
  have ends : next.nextKind? ≠ some separator :=
    fun same => fits separator same (.inr rfl)
  obtain ⟨value, others, after, rfl, reads, more⟩ :=
    complete.chainedMore allowed chained passes fitsItem all
  have enough : others.length ≤ cursor.ahead.length := by
    have sameLength := all.length_eq
    have bound := chained.length_le_length
    rw [passes.ahead, List.length_append]
    rw [List.length_cons] at sameLength
    omega
  exact reads.separatedChain more enough ends

theorem Refuses.separatedChain (refuses : item.Refuses cursor) :
    (item.separatedChain (token separator)).Refuses cursor := by
  obtain ⟨fault, refused⟩ := refuses
  exact ⟨fault, by simp [Rule.separatedChain, items, refused]⟩

end Rule

end TreeQuery.Reading
