import Mathlib.Data.List.Forall2
import TreeQuery.Proofs.Reading.Reads
import TreeQuery.Reading.Arguments

/-!
# Lists between delimiters

`Listed` and `Enclosed` describe the tokens of a separated list by the tokens of
its items.  A rule for lists reads exactly these tokens when the rule for items
reads exactly the tokens of an item.
-/

namespace TreeQuery.Reading

/-- The pieces with commas between them and maybe one behind the last. -/
inductive Listed : List (List Token) → List Token → Prop where
  | empty : Listed [] []
  | last (piece : List Token) : Listed [piece] piece
  | trailing {comma : Token} (piece : List Token) :
      comma.kind = .comma → Listed [piece] (piece ++ [comma])
  | more {comma : Token} {following : List Token}
      {pieces : List (List Token)} {tokens : List Token}
      (piece : List Token) :
      comma.kind = .comma → Listed (following :: pieces) tokens →
      Listed (piece :: following :: pieces) (piece ++ comma :: tokens)

/-- A list of pieces between two delimiters. -/
def Enclosed (opening closing : Token.Kind) (pieces : List (List Token))
    (tokens : List Token) : Prop :=
  ∃ first inner last, tokens = first :: (inner ++ [last]) ∧
    first.kind = opening ∧ last.kind = closing ∧ Listed pieces inner

theorem Listed.length_le {pieces : List (List Token)} {tokens : List Token}
    (listed : Listed pieces tokens) :
    ∀ piece ∈ pieces, piece.length ≤ tokens.length := by
  induction listed with
  | empty => simp
  | last piece => simp
  | trailing piece => simp
  | more piece _ _ induction =>
      intro other member
      rw [List.length_append, List.length_cons]
      rcases List.mem_cons.mp member with same | later
      · subst same
        omega
      · have bound := induction other later
        omega

theorem Listed.subset {pieces : List (List Token)} {tokens : List Token}
    (listed : Listed pieces tokens) : ∀ piece ∈ pieces, piece ⊆ tokens := by
  induction listed with
  | empty => simp
  | last piece => simp
  | trailing piece => simp
  | more piece _ _ induction =>
      intro other member
      rcases List.mem_cons.mp member with same | later
      · subst same
        exact List.subset_append_left _ _
      · apply List.subset_append_of_subset_right
        exact List.subset_cons_of_subset _ (induction other later)

theorem Listed.length_le_length {pieces : List (List Token)}
    {tokens : List Token} (listed : Listed pieces tokens) :
    pieces.length ≤ tokens.length + 1 := by
  induction listed with
  | empty => simp
  | last piece => simp
  | trailing piece => simp
  | more piece _ _ induction => simp_all; omega

theorem Enclosed.length_lt {opening closing : Token.Kind}
    {pieces : List (List Token)} {tokens : List Token}
    (enclosed : Enclosed opening closing pieces tokens) :
    ∀ piece ∈ pieces, piece.length + 1 < tokens.length := by
  obtain ⟨first, inner, last, rfl, -, -, listed⟩ := enclosed
  intro piece member
  have bound := listed.length_le piece member
  simp only [List.length_cons, List.length_append, List.length_nil]
  omega

theorem Enclosed.subset {opening closing : Token.Kind}
    {pieces : List (List Token)} {tokens : List Token}
    (enclosed : Enclosed opening closing pieces tokens) :
    ∀ piece ∈ pieces, piece ⊆ tokens := by
  obtain ⟨first, inner, last, rfl, -, -, listed⟩ := enclosed
  intro piece member
  apply List.subset_cons_of_subset
  exact List.subset_append_of_subset_left _ (listed.subset piece member)

theorem Enclosed.forall_length_le {opening closing : Token.Kind}
    {pieces : List (List Token)} {tokens : List Token} {bound : Nat}
    (enclosed : Enclosed opening closing pieces tokens)
    (short : tokens.length ≤ bound + 1) :
    ∀ piece ∈ pieces, piece.length ≤ bound := by
  intro piece member
  have shorter := enclosed.length_lt piece member
  omega

theorem Enclosed.nextKind?_eq {opening closing : Token.Kind}
    {pieces : List (List Token)} {tokens : List Token} {cursor next : Cursor}
    (enclosed : Enclosed opening closing pieces tokens)
    (passes : cursor.Passes tokens next) : cursor.nextKind? = some opening := by
  obtain ⟨first, inner, last, rfl, opens, -⟩ := enclosed
  rw [passes.nextKind?_eq, opens]

/-- A key, a colon and a value. -/
def DerivesEntry {τ : Type} (derives : List Token → τ → Prop)
    (tokens : List Token) (entry : τ × τ) : Prop :=
  ∃ left colon right, tokens = left ++ colon :: right ∧
    colon.kind = .colon ∧ derives left entry.1 ∧ derives right entry.2

/-- The tokens derive the value and are at most so many. -/
def Within {α : Type} (bound : Nat) (derives : List Token → α → Prop)
    (tokens : List Token) (value : α) : Prop :=
  tokens.length ≤ bound ∧ derives tokens value

section

variable {α : Type} {bound : Nat} {derives : List Token → α → Prop}

theorem forall₂_within {pieces : List (List Token)}
    (short : ∀ piece ∈ pieces, piece.length ≤ bound) {values : List α}
    (all : List.Forall₂ derives pieces values) :
    List.Forall₂ (Within bound derives) pieces values :=
  (List.forall₂_and_left _ _).mpr ⟨short, all⟩

theorem DerivesEntry.within {tokens : List Token} {entry : α × α}
    (short : Within bound (DerivesEntry derives) tokens entry) :
    DerivesEntry (Within bound derives) tokens entry := by
  obtain ⟨fits, left, colon, right, rfl, kind, key, value⟩ := short
  rw [List.length_append, List.length_cons] at fits
  refine ⟨left, colon, right, rfl, kind, ⟨?_, key⟩, ⟨?_, value⟩⟩
  · omega
  · omega

end

namespace Rule

variable {α β : Type}

/-- Whatever the rule reads, its tokens derive. -/
def Sound (rule : Rule α) (derives : List Token → α → Prop) : Prop :=
  ∀ ⦃cursor next : Cursor⦄ ⦃value : α⦄, rule.Reads cursor value next →
    ∃ tokens, cursor.Passes tokens next ∧ derives tokens value

/-- Whatever tokens derive, the rule reads, if the next token does not prevent
it. -/
def Complete (rule : Rule α) (derives : List Token → α → Prop)
    (prevents : Token.Kind → Prop) : Prop :=
  ∀ ⦃cursor next : Cursor⦄ ⦃tokens : List Token⦄ ⦃value : α⦄,
    derives tokens value → cursor.Passes tokens next →
    (∀ kind ∈ next.nextKind?, ¬prevents kind) →
    rule.Reads cursor value next

theorem Sound.map {rule : Rule α} {change : α → β}
    {derives : List Token → α → Prop} {derives' : List Token → β → Prop}
    (sound : rule.Sound derives)
    (implied : ∀ ⦃tokens value⦄, derives tokens value →
      derives' tokens (change value)) :
    (rule.map change).Sound derives' := by
  intro cursor next value reads
  obtain ⟨before, read, rfl⟩ := reads_map_iff.mp reads
  obtain ⟨tokens, passes, derived⟩ := sound read
  exact ⟨tokens, passes, implied derived⟩

theorem Complete.map {rule : Rule α} {derives : List Token → α → Prop}
    {prevents : Token.Kind → Prop} (complete : rule.Complete derives prevents)
    (change : α → β) :
    (rule.map change).Complete
      (fun tokens value => ∃ before, derives tokens before ∧
        change before = value) prevents := by
  intro cursor next tokens value derived passes fits
  obtain ⟨before, derivedBefore, same⟩ := derived
  apply reads_map_iff.mpr
  exact ⟨before, complete derivedBefore passes fits, same⟩

theorem Sound.firstOf {rule : Rule α} {others : List (Rule α)}
    {derives : List Token → α → Prop}
    (sound : ∀ other ∈ rule :: others, other.Sound derives) :
    (firstOf rule others).Sound derives := by
  intro cursor next value reads
  obtain ⟨branch, member, read⟩ := reads.firstOf_cases
  exact sound branch member read

/-- Further items, each behind a separator. -/
inductive ReadsMore (item : Rule α) (separator : Token.Kind) :
    Cursor → List α → Cursor → Prop where
  | stop (cursor : Cursor) : ReadsMore item separator cursor [] cursor
  | more {cursor before after next : Cursor} {found : Token} {value : α}
      {values : List α} :
      found.kind = separator → cursor.Passes [found] before →
      item.Reads before value after →
      ReadsMore item separator after values next →
      ReadsMore item separator cursor (value :: values) next

section

variable {item : Rule α} {separator : Token.Kind} {cursor next stop : Cursor}

theorem readsMore_moreItems {bound : Nat} {passed : Option Fault}
    (clean :
      (moreItems item (token separator) bound passed cursor).emitted = []) :
    ReadsMore item separator cursor
      (moreItems item (token separator) bound passed cursor).items
      (moreItems item (token separator) bound passed cursor).next := by
  induction bound generalizing passed cursor with
  | zero => exact .stop cursor
  | succ bound induction =>
      unfold moreItems at clean ⊢
      rcases separation : token separator cursor with
        ⟨emitted, fault | ⟨found, before, passed'⟩⟩
      · exact .stop cursor
      · rcases outcome : item before with
          ⟨emitted', fault | ⟨value, after, passed''⟩⟩
        · simp only [outcome]
          exact .stop cursor
        · simp only [separation, outcome, List.append_eq_nil_iff] at clean ⊢
          obtain ⟨⟨rfl, rfl⟩, cleanRun⟩ := clean
          obtain ⟨kind, passes⟩ := reads_token_iff.mp ⟨passed', separation⟩
          exact .more kind passes ⟨passed'', outcome⟩ (induction cleanRun)

/-- A list that was read is empty, or has a first item, further ones, and maybe
a separator at its end. -/
theorem Reads.separatedList_cases {values : List α}
    (reads : (item.separatedList (token separator)).Reads cursor values next) :
    values = [] ∧ next = cursor ∨
      ∃ value others after stop, values = value :: others ∧
        item.Reads cursor value after ∧
        ReadsMore item separator after others stop ∧
        (next = stop ∨
          ∃ found, found.kind = separator ∧ stop.Passes [found] next) := by
  obtain ⟨passed, result⟩ := reads
  unfold separatedList items at result
  rcases outcome : item cursor with ⟨emitted, fault | ⟨value, after, passed'⟩⟩
  · left
    simp only [outcome, List.isEmpty_nil, if_true, Outcome.mk.injEq,
      Except.ok.injEq, Progress.mk.injEq] at result
    exact ⟨result.2.1.symm, result.2.2.1.symm⟩
  · right
    simp only [outcome, List.isEmpty_cons, Bool.false_eq_true, if_false,
      Outcome.mk.injEq, Except.ok.injEq, Progress.mk.injEq,
      List.append_eq_nil_iff] at result
    obtain ⟨⟨rfl, clean⟩, rfl, same, -⟩ := result
    refine ⟨value, _, after, _, rfl, ⟨passed', outcome⟩,
      readsMore_moreItems clean, ?_⟩
    rw [← same]
    split
    · next progress trailing =>
        exact .inr ⟨progress.value, reads_token_iff.mp
          (reads_of_result token_emitted trailing)⟩
    · exact .inl rfl

end

section

variable {item : Rule α} {derives : List Token → α → Prop}
  {prevents : Token.Kind → Prop} {cursor next after stop : Cursor}

theorem ReadsMore.listed (sound : item.Sound derives) {others : List α}
    (more : ReadsMore item .comma after others stop)
    (ends : next = stop ∨
      ∃ found, found.kind = .comma ∧ stop.Passes [found] next)
    {value : α} {piece : List Token} (passes : cursor.Passes piece after)
    (derived : derives piece value) :
    ∃ pieces tokens, cursor.Passes tokens next ∧ Listed pieces tokens ∧
      List.Forall₂ derives pieces (value :: others) := by
  induction more generalizing cursor value piece with
  | stop last =>
      rcases ends with same | ⟨comma, kind, passesComma⟩
      · subst same
        exact ⟨[piece], piece, passes, .last piece, .cons derived .nil⟩
      · exact ⟨[piece], piece ++ [comma], passes.append passesComma,
          .trailing piece kind, .cons derived .nil⟩
  | more kind passesComma reads later induction =>
      obtain ⟨piece', passes', derived'⟩ := sound reads
      obtain ⟨pieces, tokens, passesRest, listed, all⟩ :=
        induction ends passes' derived'
      obtain ⟨following, pieces', first, others', rfl⟩ :=
        List.forall₂_cons_right_iff.mp all
      exact ⟨_, _, passes.append (passesComma.append passesRest),
        .more piece kind listed, .cons derived all⟩

theorem Sound.separatedList (sound : item.Sound derives) :
    (item.separatedList (token .comma)).Sound fun tokens values =>
      ∃ pieces, Listed pieces tokens ∧ List.Forall₂ derives pieces values := by
  intro cursor next values reads
  rcases reads.separatedList_cases with
    ⟨rfl, rfl⟩ | ⟨value, others, after, stop, rfl, read, more, ends⟩
  · exact ⟨[], Cursor.passes_nil_iff.mpr rfl, [], .empty, .nil⟩
  · obtain ⟨piece, passes, derived⟩ := sound read
    obtain ⟨pieces, tokens, passesAll, listed, all⟩ :=
      more.listed sound ends passes derived
    exact ⟨tokens, passesAll, pieces, listed, all⟩

theorem Sound.delimitedList (sound : item.Sound derives)
    {opening closing : Token.Kind} :
    (delimitedList opening closing item).Sound fun tokens values =>
      ∃ pieces, Enclosed opening closing pieces tokens ∧
        List.Forall₂ derives pieces values := by
  intro cursor next values reads
  obtain ⟨first, last, before, after, opens, closes, passesFirst, read,
    passesLast⟩ := reads_between_iff.mp reads
  obtain ⟨inner, passes, pieces, listed, all⟩ := sound.separatedList read
  exact ⟨first :: (inner ++ [last]),
    passesFirst.append (passes.append passesLast), pieces,
    ⟨first, inner, last, rfl, opens, closes, listed⟩, all⟩

/-- No further item follows this place, however many are looked for. -/
def Stops (item : Rule α) (separator : Token.Kind) (cursor : Cursor) : Prop :=
  ∀ bound passed, ∃ passed' fault,
    moreItems item (token separator) bound passed cursor =
      ⟨[], [], cursor, passed', fault⟩

variable {separator : Token.Kind}

theorem stops_of_nextKind? (other : cursor.nextKind? ≠ some separator) :
    Stops item separator cursor := by
  intro bound passed
  obtain ⟨fault, refused⟩ := token_refuses other
  cases bound with
  | zero => exact ⟨passed, _, rfl⟩
  | succ bound => exact ⟨passed, fault, by simp [moreItems, refused]⟩

theorem stops_of_trailing {found : Token} (kind : found.kind = separator)
    (passes : cursor.Passes [found] next) (refuses : item.Refuses next) :
    Stops item separator cursor := by
  intro bound passed
  obtain ⟨passed', separation⟩ := reads_token_iff.mpr ⟨kind, passes⟩
  obtain ⟨fault, refused⟩ := refuses
  cases bound with
  | zero => exact ⟨passed, _, rfl⟩
  | succ bound =>
      exact ⟨_, fault, by simp only [moreItems, separation, refused]; rfl⟩

theorem ReadsMore.moreItems_eq {others : List α}
    (more : ReadsMore item separator after others stop)
    (stops : Stops item separator stop) {bound : Nat}
    (enough : others.length ≤ bound) (passed : Option Fault) :
    ∃ passed' fault, moreItems item (token separator) bound passed after =
      ⟨others, [], stop, passed', fault⟩ := by
  induction more generalizing bound passed with
  | stop last => exact stops bound passed
  | more kind passes reads later induction =>
      cases bound with
      | zero => exact absurd enough (by simp)
      | succ bound =>
          obtain ⟨passed', separation⟩ := reads_token_iff.mpr ⟨kind, passes⟩
          obtain ⟨passed'', outcome⟩ := reads
          obtain ⟨last, fault, run⟩ := induction stops
            (Nat.le_of_succ_le_succ enough)
            (Fault.note (Fault.note passed passed') passed'')
          exact ⟨last, fault, by
            simp only [moreItems, separation, outcome, run, List.append_nil]⟩

theorem Reads.separatedList {value : α} {others : List α}
    (reads : item.Reads cursor value after)
    (more : ReadsMore item separator after others stop)
    (enough : others.length ≤ cursor.ahead.length)
    (ends : next = stop ∧ next.nextKind? ≠ some separator ∨
      (∃ found, found.kind = separator ∧ stop.Passes [found] next) ∧
        item.Refuses next) :
    (item.separatedList (token separator)).Reads cursor (value :: others)
      next := by
  have stops : Stops item separator stop := by
    rcases ends with ⟨same, other⟩ | ⟨⟨found, kind, passes⟩, refuses⟩
    · subst same
      exact stops_of_nextKind? other
    · exact stops_of_trailing kind passes refuses
  obtain ⟨passed, outcome⟩ := reads
  obtain ⟨last, fault, run⟩ := more.moreItems_eq stops enough passed
  rcases ends with ⟨same, other⟩ | ⟨⟨found, kind, passes⟩, refuses⟩
  · subst same
    obtain ⟨missing, refused⟩ := token_refuses other
    exact ⟨_, by
      simp only [Rule.separatedList, items, outcome, run, List.isEmpty_cons,
        Bool.false_eq_true, if_false, refused, List.append_nil]
      rfl⟩
  · obtain ⟨passed', separation⟩ := reads_token_iff.mpr ⟨kind, passes⟩
    exact ⟨_, by
      simp only [Rule.separatedList, items, outcome, run, List.isEmpty_cons,
        Bool.false_eq_true, if_false, separation, List.append_nil]
      rfl⟩

theorem Refuses.separatedList (refuses : item.Refuses cursor) :
    (item.separatedList (token separator)).Reads cursor [] cursor := by
  obtain ⟨fault, refused⟩ := refuses
  exact ⟨_, by
    simp only [Rule.separatedList, items, refused, List.isEmpty_nil, if_true]
    rfl⟩

theorem Complete.readsMore (complete : item.Complete derives prevents)
    (notComma : ¬prevents .comma) {pieces : List (List Token)}
    {tokens : List Token} (listed : Listed pieces tokens)
    (passes : cursor.Passes tokens next)
    (fits : ∀ kind ∈ next.nextKind?, ¬prevents kind) {value : α}
    {others : List α} (all : List.Forall₂ derives pieces (value :: others)) :
    ∃ after stop, item.Reads cursor value after ∧
      ReadsMore item .comma after others stop ∧
      (next = stop ∨
        ∃ found, found.kind = .comma ∧ stop.Passes [found] next) := by
  have atComma {before behind : Cursor} {comma : Token} {tokens : List Token}
      (kind : comma.kind = .comma)
      (passesComma : before.Passes (comma :: tokens) behind) :
      ∀ kind ∈ before.nextKind?, ¬prevents kind :=
    passesComma.forall_nextKind? (by rwa [kind])
  induction listed generalizing cursor value others with
  | empty => cases all
  | last piece =>
      obtain ⟨derived, rest⟩ := List.forall₂_cons.mp all
      cases rest
      exact ⟨next, next, complete derived passes fits, .stop next, .inl rfl⟩
  | trailing piece kind =>
      obtain ⟨derived, rest⟩ := List.forall₂_cons.mp all
      cases rest
      obtain ⟨middle, passesPiece, passesComma⟩ :=
        Cursor.passes_append_iff.mp passes
      exact ⟨middle, middle,
        complete derived passesPiece (atComma kind passesComma),
        .stop middle, .inr ⟨_, kind, passesComma⟩⟩
  | more piece kind later induction =>
      obtain ⟨derived, rest⟩ := List.forall₂_cons.mp all
      obtain ⟨middle, passesPiece, passesRest⟩ :=
        Cursor.passes_append_iff.mp passes
      obtain ⟨behind, passesComma, passesLater⟩ :=
        Cursor.passes_cons_iff.mp passesRest
      cases rest with
      | cons first rest =>
          obtain ⟨after, stop, reads, more, ends⟩ :=
            induction passesLater (.cons first rest)
          exact ⟨middle, stop,
            complete derived passesPiece (atComma kind passesRest),
            .more kind passesComma reads more, ends⟩

theorem Complete.delimitedList (complete : item.Complete derives prevents)
    {opening closing : Token.Kind} (notComma : ¬prevents .comma)
    (notClosing : ¬prevents closing) (differ : closing ≠ .comma)
    (refuses : ∀ cursor : Cursor, cursor.nextKind? = some closing →
      item.Refuses cursor) :
    (delimitedList opening closing item).Complete
      (fun tokens values => ∃ pieces, Enclosed opening closing pieces tokens ∧
        List.Forall₂ derives pieces values)
      fun _ => False := by
  intro cursor next tokens values derived passes _
  obtain ⟨pieces, ⟨first, inner, last, rfl, opens, closes, listed⟩, all⟩ :=
    derived
  obtain ⟨before, passesFirst, passesRest⟩ := Cursor.passes_cons_iff.mp passes
  obtain ⟨behind, passesInner, passesLast⟩ :=
    Cursor.passes_append_iff.mp passesRest
  have atClosing : behind.nextKind? = some closing := by
    rw [passesLast.nextKind?_eq, closes]
  have fits : ∀ kind ∈ behind.nextKind?, ¬prevents kind :=
    passesLast.forall_nextKind? (by rwa [closes])
  have stops : behind.nextKind? ≠ some .comma := by simp [atClosing, differ]
  apply reads_between_iff.mpr
  refine ⟨first, last, before, behind, opens, closes, passesFirst, ?_,
    passesLast⟩
  cases values with
  | nil =>
      cases all
      cases listed
      obtain rfl : behind = before := Cursor.passes_nil_iff.mp passesInner
      exact (refuses behind atClosing).separatedList
  | cons value others =>
      obtain ⟨after, stop, reads, more, ends⟩ :=
        complete.readsMore notComma listed passesInner fits all
      have enough : others.length ≤ before.ahead.length := by
        have sameLength := all.length_eq
        have bound := listed.length_le_length
        rw [passesInner.ahead, List.length_append]
        rw [List.length_cons] at sameLength
        omega
      refine reads.separatedList more enough ?_
      rcases ends with same | trailing
      · exact .inl ⟨same, stops⟩
      · exact .inr ⟨trailing, refuses behind atClosing⟩

end

section

variable {first : Rule α} {second : Rule β} {separator : Token.Kind}
  {derives : List Token → α → Prop} {derives' : List Token → β → Prop}
  {prevents prevents' : Token.Kind → Prop}

theorem Sound.separated (sound : first.Sound derives)
    (sound' : second.Sound derives') :
    ((first.thenSkip (token separator)).andThen second).Sound fun tokens pair =>
      ∃ left found right, tokens = left ++ found :: right ∧
        found.kind = separator ∧ derives left pair.1 ∧
        derives' right pair.2 := by
  intro cursor next pair reads
  obtain ⟨middle, readLeft, readRight⟩ := reads_andThen_iff.mp reads
  obtain ⟨before, readFirst, found, readFound⟩ :=
    reads_thenSkip_iff.mp readLeft
  obtain ⟨kind, passesFound⟩ := reads_token_iff.mp readFound
  obtain ⟨left, passesLeft, derived⟩ := sound readFirst
  obtain ⟨right, passesRight, derived'⟩ := sound' readRight
  exact ⟨left ++ found :: right,
    passesLeft.append (passesFound.append passesRight), left, found, right,
    rfl, kind, derived, derived'⟩

theorem Complete.separated (complete : first.Complete derives prevents)
    (complete' : second.Complete derives' prevents')
    (allowed : ¬prevents separator) :
    ((first.thenSkip (token separator)).andThen second).Complete
      (fun tokens pair =>
        ∃ left found right, tokens = left ++ found :: right ∧
          found.kind = separator ∧ derives left pair.1 ∧ derives' right pair.2)
      prevents' := by
  intro cursor next tokens pair derived passes fits
  obtain ⟨left, found, right, rfl, kind, derived, derived'⟩ := derived
  obtain ⟨before, passesLeft, passesRest⟩ := Cursor.passes_append_iff.mp passes
  obtain ⟨middle, passesFound, passesRight⟩ :=
    Cursor.passes_cons_iff.mp passesRest
  have atSeparator : ∀ kind ∈ before.nextKind?, ¬prevents kind :=
    passesRest.forall_nextKind? (by rwa [kind])
  apply reads_andThen_iff.mpr
  refine ⟨middle, ?_, complete' derived' passesRight fits⟩
  apply reads_thenSkip_iff.mpr
  exact ⟨before, complete derived passesLeft atSeparator, found,
    reads_token_iff.mpr ⟨kind, passesFound⟩⟩

theorem Sound.entry (sound : first.Sound derives) :
    (entry first).Sound (DerivesEntry derives) :=
  sound.separated sound

theorem Complete.entry (complete : first.Complete derives prevents)
    (notColon : ¬prevents .colon) :
    (entry first).Complete (DerivesEntry derives) prevents :=
  complete.separated complete notColon

end

end Rule

/-- A source is read exactly when its tokens derive the value, by a rule that
reads what at most as many tokens derive. -/
theorem readAll_eq_ok_iff_derives {α : Type} {forValues : Bool}
    {rule : List Token → Rule α} {derives : List Token → α → Prop}
    {prevents : Token.Kind → Prop}
    (sound : ∀ tokens, (rule tokens).Sound derives)
    (complete : ∀ tokens,
      (rule tokens).Complete (Within (tokens.length + 1) derives) prevents)
    {source : String} {value : α} :
    readAll forValues rule source = .ok value ↔
      derives (tokenize source) value := by
  rw [readAll_eq_ok_iff]
  constructor
  · intro read
    obtain ⟨next, reads, ends⟩ := read
    obtain ⟨tokens, passes, derived⟩ := sound _ reads
    have all : tokenize source = tokens := by
      simpa [startOf, ends] using passes.ahead
    rwa [all]
  · intro derived
    have passes : (startOf source (tokenize source)).Passes (tokenize source)
        ⟨[], (tokenize source).length, source.utf8ByteSize⟩ :=
      ⟨(List.append_nil _).symm, (Nat.zero_add _).symm, rfl⟩
    refine ⟨_, complete _ ⟨Nat.le_succ _, derived⟩ passes ?_, rfl⟩
    simp [Cursor.nextKind?]

end TreeQuery.Reading
