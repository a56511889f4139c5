import TreeQuery.Proofs.Reading.Admission
import TreeQuery.Proofs.Reading.Unequivocal

/-!
# Rules that emit where their tokens offend

A rule that succeeds has emitted the faults of the tokens it read, and no others:
what is given up on the way is forgotten with its faults.  Items are the one
exception, since a list keeps what the item behind its last comma emitted; but
where the closing delimiter stands, that item emits nothing.
-/

namespace TreeQuery.Reading.Rule

variable {α β : Type}

/-- Whatever the rule reads, it judges the tokens, and the faults that it emits
start where they offend. -/
def Judges (rule : Rule α)
    (judges : List Token → List Token → α → Prop) : Prop :=
  ∀ ⦃cursor : Cursor⦄ ⦃progress : Progress α⦄,
    (rule cursor).result = .ok progress →
    ∃ tokens offences, cursor.Passes tokens progress.next ∧
      (rule cursor).emitted.map Fault.start = offences.map Token.start ∧
      judges tokens offences progress.value

/-- A rule that emits nothing. -/
def Silent (rule : Rule α) : Prop :=
  ∀ cursor, (rule cursor).emitted = []

/-- Where a token of the kind is ahead, the rule emits nothing if it fails. -/
def QuietBefore (rule : Rule α) (kind : Token.Kind) : Prop :=
  ∀ cursor fault, cursor.nextKind? = some kind →
    (rule cursor).result = .error fault → (rule cursor).emitted = []

section

variable {rule : Rule α} {second : Rule β} {cursor : Cursor}
  {judges : List Token → List Token → α → Prop}
  {judges' : List Token → List Token → β → Prop}

theorem Quiet.before (quiet : rule.Quiet) (kind : Token.Kind) :
    rule.QuietBefore kind :=
  fun cursor fault _ => quiet cursor fault

theorem andThen_emitted {progress : Progress α}
    (result : (rule cursor).result = .ok progress) :
    ((rule.andThen second) cursor).emitted =
      (rule cursor).emitted ++ (second progress.next).emitted := by
  simp only [andThen, result]

theorem optional_emitted_subset :
    (rule.optional cursor).emitted ⊆ (rule cursor).emitted := by
  cases result : (rule cursor).result with
  | ok progress =>
      simp only [Rule.optional, result]
      exact List.Subset.refl _
  | error fault =>
      simp only [Rule.optional, result]
      exact List.nil_subset _

theorem Silent.andThen (silent : rule.Silent) (silent' : second.Silent) :
    (rule.andThen second).Silent := by
  intro cursor
  cases result : (rule cursor).result with
  | error fault =>
      rw [andThen_of_error result]
      exact silent cursor
  | ok progress =>
      rw [andThen_emitted result, silent, silent', List.append_nil]

theorem Silent.optional (silent : rule.Silent) : rule.optional.Silent := by
  intro cursor
  apply List.eq_nil_of_subset_nil
  rw [← silent cursor]
  exact optional_emitted_subset

theorem Silent.refine {check : α → Except Objection β} (silent : rule.Silent) :
    (rule.refine check).Silent := by
  intro cursor
  rw [← silent cursor]
  cases result : (rule cursor).result with
  | error fault => simp only [Rule.refine, result]
  | ok progress =>
      simp only [Rule.refine, result]
      split <;> rfl

theorem Silent.map (silent : rule.Silent) (change : α → β) :
    (rule.map change).Silent :=
  silent

theorem token_silent (kind : Token.Kind) : (token kind).Silent :=
  fun _ => token_emitted

theorem Silent.between (silent : rule.Silent) (opening closing : Token.Kind) :
    (rule.between opening closing).Silent :=
  ((((token_silent opening).andThen silent).map Prod.snd).andThen
    (token_silent closing)).map Prod.fst

theorem integer_silent : integer.Silent :=
  (token_silent .number).refine

theorem location_silent : location.Silent := by
  have comma := token_silent .comma
  have offsets := ((integer_silent.andThen comma).map Prod.fst).andThen
    integer_silent
  have place := offsets.between .openAngle .closeAngle
  have span := (((((offsets.andThen comma).map Prod.fst).andThen
    place).andThen comma).map Prod.fst).andThen place
  exact (((token_silent .location).map Token.body).andThen
    ((span.between .openParen .closeParen).map _).optional).map _

/-! ## Combinators -/

theorem token_judges (kind : Token.Kind) :
    (token kind).Judges fun tokens offences found =>
      tokens = [found] ∧ found.kind = kind ∧ offences = [] := by
  intro cursor progress result
  obtain ⟨passes, fits⟩ := passes_of_token result
  exact ⟨_, [], passes, by rw [token_emitted]; rfl, rfl, fits, rfl⟩

/-- A rule that emits nothing reads words in which nothing offends. -/
theorem Judges.of_silent {language : Language Token} {depth : Nat}
    (silent : rule.Silent)
    (tracks : ∀ bound, rule.Tracks depth bound language) :
    rule.Judges fun tokens offences _ =>
      Judgement.clear language tokens offences := by
  intro cursor progress result
  have admits : rule.Admits (fun _ => True) fun tokens _ => tokens ∈ language :=
    .of_tracks tracks
  obtain ⟨tokens, passes, member⟩ := admits result fun _ _ => trivial
  exact ⟨tokens, [], passes, by rw [silent]; rfl, member, rfl⟩

theorem Judges.map {change : α → β} (judged : rule.Judges judges)
    (implied : ∀ ⦃tokens offences value⦄, judges tokens offences value →
      judges' tokens offences (change value)) :
    (rule.map change).Judges judges' := by
  intro cursor progress result
  obtain ⟨before, given, rfl⟩ := map_ok result
  obtain ⟨tokens, offences, passes, same, known⟩ := judged given
  exact ⟨tokens, offences, passes, same, implied known⟩

/-- What is judged of the words alone holds whatever becomes of the value. -/
theorem Judges.mapped {judged : Judgement} {change : α → β}
    (judges : rule.Judges fun tokens offences _ => judged tokens offences) :
    (rule.map change).Judges fun tokens offences _ => judged tokens offences :=
  judges.map fun _ _ _ => id

theorem Judges.mono {weaker : List Token → List Token → α → Prop}
    (judged : rule.Judges judges)
    (implied : ∀ ⦃tokens offences value⦄, judges tokens offences value →
      weaker tokens offences value) : rule.Judges weaker := by
  intro cursor progress result
  obtain ⟨tokens, offences, passes, same, known⟩ := judged result
  exact ⟨tokens, offences, passes, same, implied known⟩

theorem Judges.andThen (judged : rule.Judges judges)
    (judged' : second.Judges judges') :
    (rule.andThen second).Judges fun tokens offences values =>
      ∃ left right before after, tokens = left ++ right ∧
        offences = before ++ after ∧ judges left before values.1 ∧
        judges' right after values.2 := by
  intro cursor progress result
  obtain ⟨first, last, given, given', rfl⟩ := andThen_ok result
  obtain ⟨left, before, passes, same, known⟩ := judged given
  obtain ⟨right, after, passes', same', known'⟩ := judged' given'
  refine ⟨_, _, passes.append passes', ?_, left, right, before, after, rfl, rfl,
    known, known'⟩
  rw [andThen_emitted given, List.map_append, same, same', List.map_append]

theorem Judges.skipToken (judged : rule.Judges judges) (kind : Token.Kind) :
    ((token kind).skipThen rule).Judges fun tokens offences value =>
      ∃ found rest, tokens = found :: rest ∧ found.kind = kind ∧
        judges rest offences value := by
  apply ((token_judges kind).andThen judged).map
  intro tokens offences values known
  obtain ⟨_, rest, _, _, rfl, rfl, ⟨rfl, fits, rfl⟩, known⟩ := known
  exact ⟨_, rest, rfl, fits, known⟩

/-- Two parts with a separator between them. -/
theorem Judges.separated (judged : rule.Judges judges)
    (judged' : second.Judges judges') (separator : Token.Kind) :
    ((rule.thenSkip (token separator)).andThen second).Judges
      fun tokens offences values => ∃ left found right before after,
        tokens = left ++ found :: right ∧ found.kind = separator ∧
        offences = before ++ after ∧ judges left before values.1 ∧
        judges' right after values.2 := by
  have key : (rule.thenSkip (token separator)).Judges
      fun tokens offences value => ∃ left found, tokens = left ++ [found] ∧
        found.kind = separator ∧ judges left offences value := by
    apply (judged.andThen (token_judges separator)).map
    intro tokens offences values known
    obtain ⟨left, _, _, _, rfl, rfl, known, rfl, fits, rfl⟩ := known
    exact ⟨left, _, rfl, fits, by rwa [List.append_nil]⟩
  apply (key.andThen judged').mono
  intro tokens offences values known
  obtain ⟨_, right, before, after, rfl, rfl, ⟨left, found, rfl, fits, known⟩,
    known'⟩ := known
  exact ⟨left, found, right, before, after, by simp, fits, rfl, known, known'⟩

theorem Judges.optional (judged : rule.Judges judges) :
    rule.optional.Judges fun tokens offences value =>
      value = none ∧ tokens = [] ∧ offences = [] ∨
        ∃ given, value = some given ∧ judges tokens offences given := by
  intro cursor progress result
  unfold Rule.optional at result ⊢
  cases outcome : (rule cursor).result with
  | error fault =>
      simp only [outcome] at result ⊢
      cases result
      exact ⟨[], [], Cursor.passes_nil_iff.mpr rfl, rfl, .inl ⟨rfl, rfl, rfl⟩⟩
  | ok before =>
      simp only [outcome, Outcome.map] at result ⊢
      cases result
      obtain ⟨tokens, offences, passes, same, known⟩ := judged outcome
      exact ⟨tokens, offences, passes, same, .inr ⟨_, rfl, known⟩⟩

theorem Judges.located (judged : rule.Judges judges) :
    rule.located.Judges fun tokens offences value =>
      judges tokens offences value.1 ∧ Starts tokens value.2 := by
  intro cursor progress result
  obtain ⟨before, given, rfl⟩ := map_ok result
  obtain ⟨tokens, offences, passes, same, known⟩ := judged given
  exact ⟨tokens, offences, passes, same, known, starts_of_passes passes⟩

/-- What is objected to afterwards offends, too. -/
theorem Judges.inspect {check : α → β × List (Nat × Objection)}
    (judged : rule.Judges judges)
    (about : ∀ ⦃tokens offences found⦄, judges tokens offences found →
      ∃ objected, (check found).2.map Prod.fst = objected.map Token.start ∧
        judges' tokens (offences ++ objected) (check found).1) :
    (rule.inspect check).Judges judges' := by
  intro cursor progress result
  cases outcome : (rule cursor).result with
  | error fault =>
      simp only [Rule.inspect, outcome] at result
      cases result
  | ok before =>
      simp only [Rule.inspect, outcome] at result ⊢
      cases result
      obtain ⟨tokens, offences, passes, same, known⟩ := judged outcome
      obtain ⟨objected, starts, known'⟩ := about known
      refine ⟨tokens, _, passes, ?_, known'⟩
      rw [List.map_append, List.map_append, same, ← starts, List.map_map]
      rfl

theorem Judges.firstOf {rules : List (Rule α)}
    (each : ∀ branch ∈ rule :: rules, branch.Judges judges) :
    (firstOf rule rules).Judges judges := by
  intro cursor progress result
  obtain ⟨branch, member, same⟩ := firstOf_cases result
  rw [same] at result ⊢
  exact each branch member result

theorem Judges.orElse {other : Rule α} (judged : rule.Judges judges)
    (judged' : other.Judges judges) : (rule.orElse other).Judges judges := by
  have each : ∀ branch ∈ [rule, other], branch.Judges judges :=
    List.forall_mem_cons.mpr ⟨judged, List.forall_mem_singleton.mpr judged'⟩
  intro cursor progress result
  obtain ⟨branch, among, before, given, value, next, faults⟩ := orElse_ok result
  rw [value, next, faults]
  exact each branch among given

/-- A choice fails only if both of its rules do. -/
theorem better_error {first second : Outcome α} {fault : Fault}
    (result : (better first second).result = .error fault) :
    (∃ failed, first.result = .error failed) ∧
      ∃ failed, second.result = .error failed := by
  cases given : first.result with
  | error failed =>
      cases given' : second.result with
      | error failed' => exact ⟨⟨_, rfl⟩, _, rfl⟩
      | ok progress =>
          simp [better, given, given', Outcome.insteadOf, Except.map] at result
  | ok progress =>
      cases given' : second.result with
      | error failed =>
          simp [better, given, given', Outcome.insteadOf, Except.map] at result
      | ok progress' =>
          simp only [better, given, given'] at result
          split_ifs at result <;>
            simp [given, given', Outcome.insteadOf, Except.map] at result

theorem Quiet.orElse {other : Rule α} (quiet : rule.Quiet)
    (quiet' : other.Quiet) : (rule.orElse other).Quiet := by
  intro cursor fault result
  rw [orElse_eq] at result ⊢
  split_ifs at result ⊢
  · exact quiet cursor fault result
  · exact quiet' cursor fault result
  · obtain ⟨⟨failed, given⟩, failed', given'⟩ := better_error result
    rw [better_of_error_error given given' (quiet _ _ given) (quiet' _ _ given')]

end

/-! ## Lists -/

section

variable {item : Rule α} {separator : Token.Kind} {cursor : Cursor}
  {judges : List Token → List Token → α → Prop} {passed : Option Fault}

/-- What is judged of the items is judged of their values, one by one. -/
abbrev JudgesItems (judges : List Token → List Token → α → Prop) :
    List (List Token × List Token) → List α → Prop :=
  List.Forall₂ fun piece value => judges piece.1 piece.2 value

/-- Behind an item a list goes on with a separator and an item each time.  The
item behind the last separator fails without emitting anything. -/
theorem Judges.moreItems (judged : item.Judges judges) {bound : Nat} {run : Run α}
    (same : moreItems item (token separator) bound passed cursor = run)
    (silent : ∀ progress fault,
      (token separator run.next).result = .ok progress →
      (item progress.next).result = .error fault →
      (item progress.next).emitted = []) :
    ∃ items tokens, Followed separator (items.map Prod.fst) tokens ∧
      cursor.Passes tokens run.next ∧ JudgesItems judges items run.items ∧
      run.emitted.map Fault.start = (items.flatMap Prod.snd).map Token.start := by
  have stopped (last : Cursor) : ∃ items tokens,
      Followed separator (items.map Prod.fst) tokens ∧ last.Passes tokens last ∧
        JudgesItems judges items [] ∧
        [] = (items.flatMap Prod.snd).map Token.start :=
    ⟨[], [], .done, Cursor.passes_nil_iff.mpr rfl, .nil, rfl⟩
  subst same
  -- What is assumed of the end of the run passes on: the rest ends there, too.
  induction bound generalizing passed cursor with
  | zero => exact stopped cursor
  | succ bound induction =>
      unfold Rule.moreItems at silent ⊢
      cases separation : (token separator cursor).result with
      | error fault =>
          simp only [separation, token_emitted]
          exact stopped cursor
      | ok separated =>
          cases outcome : (item separated.next).result with
          | error fault =>
              simp only [separation, outcome] at silent ⊢
              rw [token_emitted, silent separated fault rfl outcome]
              exact stopped cursor
          | ok progress =>
              simp only [separation, outcome, token_emitted,
                List.nil_append] at silent ⊢
              obtain ⟨passesFound, kind⟩ := passes_of_token separation
              obtain ⟨piece, offences, passes, emitted, known⟩ := judged outcome
              obtain ⟨items, tokens, followed, passes', all, later⟩ :=
                induction silent
              refine ⟨(piece, offences) :: items, _, .more piece kind followed,
                passesFound.append (passes.append passes'), .cons known all, ?_⟩
              rw [List.map_append, emitted, later, List.flatMap_cons,
                List.map_append]

theorem Judges.separatedList (judged : item.Judges judges) {closing : Token.Kind}
    (quiet : item.QuietBefore closing) {progress : Progress (List α)}
    (result : ((item.separatedList (token .comma)) cursor).result = .ok progress)
    (closes : progress.next.nextKind? = some closing) :
    ∃ items tokens, Listed (items.map Prod.fst) tokens ∧
      cursor.Passes tokens progress.next ∧
      JudgesItems judges items progress.value ∧
      ((item.separatedList (token .comma)) cursor).emitted.map Fault.start =
        (items.flatMap Prod.snd).map Token.start := by
  cases outcome : (item cursor).result with
  | error fault =>
      rw [separatedList_of_error outcome] at result ⊢
      cases result
      refine ⟨[], [], .empty, Cursor.passes_nil_iff.mpr rfl, .nil, ?_⟩
      rw [quiet cursor fault closes outcome]
      rfl
  | ok before =>
      generalize same : Rule.moreItems item (token .comma) cursor.ahead.length
        before.passed before.next = run
      rw [separatedList_of_ok outcome same] at result ⊢
      cases result
      have silent (found : Progress Token) (fault : Fault)
          (trailing : (token .comma run.next).result = .ok found)
          (failed : (item found.next).result = .error fault) :
          (item found.next).emitted = [] := by
        simp only [listEnds, trailing] at closes
        exact quiet _ fault closes failed
      obtain ⟨piece, offences, passes, emitted, known⟩ := judged outcome
      obtain ⟨items, tokens, followed, passes', all, later⟩ :=
        judged.moreItems same silent
      have whole : ((item cursor).emitted ++ run.emitted).map Fault.start =
          (((piece, offences) :: items).flatMap Prod.snd).map Token.start := by
        rw [List.map_append, emitted, later, List.flatMap_cons, List.map_append]
      unfold listEnds
      split
      · next found trailing =>
        obtain ⟨passesComma, kind⟩ := passes_of_token trailing
        exact ⟨(piece, offences) :: items, _,
          followed.listed_trailing kind piece,
          passes.append (passes'.append passesComma), .cons known all, whole⟩
      · exact ⟨(piece, offences) :: items, _, followed.listed piece,
          passes.append passes', .cons known all, whole⟩

/-- The closing delimiter tells that nothing emitted is left behind the last
item. -/
theorem Judges.delimitedList (judged : item.Judges judges) {closing : Token.Kind}
    (quiet : item.QuietBefore closing) (opening : Token.Kind) :
    (delimitedList opening closing item).Judges fun tokens offences values =>
      ∃ items : List (List Token × List Token),
        Enclosed opening closing (items.map Prod.fst) tokens ∧
        JudgesItems judges items values ∧
        offences = items.flatMap Prod.snd := by
  intro cursor progress result
  obtain ⟨closed, closes, rfl⟩ := map_ok result
  obtain ⟨begun, last, begins, ends, rfl⟩ := andThen_ok closes
  obtain ⟨both, opens, rfl⟩ := map_ok begins
  obtain ⟨first, list, starts, lists, rfl⟩ := andThen_ok opens
  obtain ⟨passesFirst, isOpening⟩ := passes_of_token starts
  obtain ⟨passesLast, isClosing⟩ := passes_of_token ends
  obtain ⟨items, inner, listed, passes, all, emitted⟩ :=
    judged.separatedList quiet lists (isClosing ▸ passesLast.nextKind?_eq)
  refine ⟨_, _, passesFirst.append (passes.append passesLast), ?_, items,
    ⟨first.value, inner, last.value, rfl, isOpening, isClosing, listed⟩, all,
    rfl⟩
  have whole : ((Rule.delimitedList opening closing item) cursor).emitted =
      ((item.separatedList (token .comma)) first.next).emitted := by
    change ((((token opening).skipThen (item.separatedList
      (token .comma))).andThen (token closing)) cursor).emitted = _
    rw [andThen_emitted begins, token_emitted, List.append_nil]
    change (((token opening).andThen (item.separatedList
      (token .comma))) cursor).emitted = _
    rw [andThen_emitted starts, token_emitted, List.nil_append]
  rw [whole, emitted]

theorem Judges.separatedChain (judged : item.Judges judges) (quiet : item.Quiet) :
    (item.separatedChain (token separator)).Judges fun tokens offences values =>
      ∃ items : List (List Token × List Token),
        Chained separator (items.map Prod.fst) tokens ∧
        JudgesItems judges items values ∧
        offences = items.flatMap Prod.snd := by
  intro cursor progress result
  cases outcome : (item cursor).result with
  | error fault =>
      rw [separatedChain_of_error outcome] at result
      cases result
  | ok before =>
      generalize same : Rule.moreItems item (token separator)
        cursor.ahead.length before.passed before.next = run
      rw [separatedChain_of_ok outcome same] at result ⊢
      cases result
      obtain ⟨piece, offences, passes, emitted, known⟩ := judged outcome
      obtain ⟨items, tokens, followed, passes', all, later⟩ :=
        judged.moreItems same fun _ fault _ => quiet _ fault
      refine ⟨_, _, passes.append passes', ?_, (piece, offences) :: items,
        followed.chained piece, .cons known all, rfl⟩
      rw [List.map_append, emitted, later, List.flatMap_cons, List.map_append]

end

/-! ## Arguments -/

section

variable {ν τ : Type} {name : Rule ν} {item : Rule τ} {asName : τ → Option ν}
  {dialect : Dialect} {judged : Judgement} {tokens offences : List Token}

/-- The tokens are judged, and the value names an argument just when they spell a
name. -/
def Judging (asName : τ → Option ν) (dialect : Dialect) (judged : Judgement)
    (tokens offences : List Token) (value : τ) : Prop :=
  judged tokens offences ∧
    ((asName value).isSome = true ↔ tokens ∈ ofKinds dialect.names)

/-- The tokens are judged as an argument, with a name or without one. -/
def JudgesArgument (dialect : Dialect) (judged : Judgement)
    (tokens offences : List Token) (argument : Argument ν τ) : Prop :=
  Judgement.argument dialect judged tokens argument.named?.isSome offences

section

variable (judgesName : name.Judges fun tokens offences _ =>
    Judgement.clear (ofKinds [.identifier]) tokens offences)
  (proper : ∀ offences, ¬judged [] offences)
  (judges : item.Judges (Judging asName dialect judged))

include judgesName judges in
theorem Judges.namedArgument :
    (namedArgument name item).Judges (JudgesArgument dialect judged) := by
  apply (judgesName.separated judges .equals).map
  intro tokens offences values known
  obtain ⟨_, equals, right, _, after, rfl, kind, rfl, ⟨⟨token, rfl, called⟩, rfl⟩,
    inner, -⟩ := known
  exact .field (List.mem_singleton.mp called) kind inner

include proper judges in
theorem Judges.itemArgument :
    (itemArgument item asName).Judges (JudgesArgument dialect judged) := by
  apply ((judges.andThen (judges.skipToken .equals).optional).located).inspect
  intro tokens offences found known
  obtain ⟨⟨left, right⟩, start⟩ := found
  obtain ⟨⟨front, rest, before, after, rfl, rfl, ⟨begun, names⟩, followed⟩,
    starts⟩ := known
  rcases followed with ⟨none, rfl, rfl⟩ | ⟨value, some, equals, back, rfl, kind,
    ended, -⟩
  · obtain rfl : right = .none := none
    refine ⟨[], rfl, ?_⟩
    rw [List.append_nil, List.append_nil, List.append_nil]
    exact .positional begun
  · obtain rfl : right = .some value := some
    cases called : asName left with
    | some given =>
        refine ⟨[], by simp only [called, List.map_nil], ?_⟩
        simp only [called, List.append_nil]
        exact .named begun kind ended (names.mp (by rw [called]; rfl))
    | none =>
        have other : front ∉ ofKinds dialect.names := by
          rw [← names, called]
          exact Bool.false_ne_true
        have nonempty : front ≠ [] := fun empty => proper _ (empty ▸ begun)
        obtain ⟨token, front, rfl⟩ := List.exists_cons_of_ne_nil nonempty
        refine ⟨[token], ?_, ?_⟩
        · have place : start = token.start := starts token rfl
          simp only [called, List.map_cons, List.map_nil, place]
        · simp only [called]
          exact .misnamed begun kind ended other

theorem argument_nonempty {isNamed : Bool}
    (proper : ∀ offences, ¬judged [] offences)
    (found : Judgement.argument dialect judged tokens isNamed offences) :
    tokens ≠ [] := by
  cases found with
  | field => exact List.cons_ne_nil _ _
  | positional inner => exact fun empty => proper _ (empty ▸ inner)
  | named | misnamed => simp

/-- What is judged of the arguments one by one is judged of them together. -/
theorem exists_parts (proper : ∀ offences, ¬judged [] offences)
    {items : List (List Token × List Token)} {found : List (Argument ν τ × Nat)}
    (all : JudgesItems (fun tokens offences argument =>
      JudgesArgument dialect judged tokens offences argument.1 ∧
        Starts tokens argument.2) items found) :
    ∃ parts : List ArgumentParts,
      parts.map ArgumentParts.tokens = items.map Prod.fst ∧
      parts.flatMap ArgumentParts.offences = items.flatMap Prod.snd ∧
      (∀ part ∈ parts,
        Judgement.argument dialect judged part.tokens part.named part.offences) ∧
      ∀ before, misplaced before found = (strays before parts).map Token.start := by
  induction all with
  | nil => exact ⟨[], rfl, rfl, List.forall_mem_nil _, fun _ => rfl⟩
  | @cons piece argument items found first _ induction =>
      obtain ⟨parts, tokens, offences, each, later⟩ := induction
      obtain ⟨judges, starts⟩ := first
      obtain ⟨argument, start⟩ := argument
      obtain ⟨token, rest, split⟩ :=
        List.exists_cons_of_ne_nil (argument_nonempty proper judges)
      have place : start = token.start := starts token (by rw [split]; rfl)
      refine ⟨⟨piece.1, argument.named?.isSome, piece.2⟩ :: parts,
        by simp [tokens], by simp [offences],
        List.forall_mem_cons.mpr ⟨judges, each⟩, ?_⟩
      intro before
      cases argument with
      | positional value =>
          cases before <;>
            simp [misplaced, strays, Argument.named?, later, split, place]
      | named name value => simp [misplaced, strays, Argument.named?, later]

include judgesName proper judges in
theorem Judges.arguments (clean : ∀ cursor, (name cursor).emitted = [])
    (quiet : item.Quiet) :
    (arguments name item asName).Judges fun tokens offences _ =>
      Judgement.arguments dialect judged tokens offences := by
  have each := ((Judges.namedArgument judgesName judges).orElse
    (Judges.itemArgument proper judges)).located
  have quiet' : ((Rule.namedArgument name item).orElse
      (Rule.itemArgument item asName)).located.Quiet :=
    ((quiet.namedArgument clean).orElse quiet.itemArgument).located
  apply (each.delimitedList (quiet'.before .closeParen) .openParen).inspect
  intro tokens offences found known
  obtain ⟨items, made, all, rfl⟩ := known
  obtain ⟨parts, pieces, offends, each, later⟩ := exists_parts proper all
  refine ⟨strays false parts, ?_, parts, pieces ▸ made, each, offends ▸ rfl⟩
  rw [List.map_map, ← later]
  exact List.map_id _

end

end

/-! ## Branches -/

section

variable {ν τ : Type} {rule : Rule α} {item : Rule τ} {asName : τ → Option ν}
  {change : α → τ} {compiles : String → Prop} {dialect : Dialect}
  {judged : Judgement} {language : Language Token}

/-- A token that is no expression does not offend. -/
theorem token_judges_single {kind : Token.Kind} {kinds : List Token.Kind}
    (known : kind ∈ kinds) (other : kind ≠ .regex) :
    (token kind).Judges fun tokens offences _ =>
      Judgement.single compiles kinds tokens offences := by
  apply (token_judges kind).mono
  intro tokens offences found derived
  obtain ⟨rfl, fits, rfl⟩ := derived
  exact .fair (fits ▸ known) fun same => absurd (fits.symm.trans same) other

theorem token_judges_clear (kind : Token.Kind) :
    (token kind).Judges fun tokens offences _ =>
      Judgement.clear (ofKinds [kind]) tokens offences := by
  apply (token_judges kind).mono
  intro tokens offences found derived
  obtain ⟨rfl, fits, rfl⟩ := derived
  exact ⟨⟨found, rfl, List.mem_singleton.mpr fits⟩, rfl⟩

theorem identifier_judges : identifier.Judges fun tokens offences _ =>
    Judgement.single compiles [.identifier] tokens offences :=
  (token_judges_single (by decide) (by decide)).mapped

theorem quoted_judges {kind : Token.Kind} (other : kind ≠ .regex) :
    (quoted kind).Judges fun tokens offences _ =>
      Judgement.single compiles [kind] tokens offences :=
  (token_judges_single (List.mem_singleton_self kind) other).mapped

theorem number_judges : number.Judges fun tokens offences _ =>
    Judgement.single compiles [.number] tokens offences :=
  (token_judges_single (by decide) (by decide)).mapped

theorem boolean_judges : boolean.Judges fun tokens offences _ =>
    Judgement.single compiles [.trueWord, .falseWord] tokens offences := by
  have word {kind : Token.Kind} (known : kind ∈ [Token.Kind.trueWord, .falseWord])
      (other : kind ≠ .regex) (truth : Bool) :
      ((token kind).map fun _ => truth).Judges fun tokens offences _ =>
        Judgement.single compiles [.trueWord, .falseWord] tokens offences :=
    (token_judges_single known other).mapped
  exact (word (by decide) (by decide) true).orElse
    (word (by decide) (by decide) false)

theorem location_judges : location.Judges fun tokens offences _ =>
    Judgement.branch compiles dialect judged .location tokens offences :=
  .of_silent location_silent location_tracks

/-- Values that name no argument, of tokens that spell no name. -/
theorem Judges.unnamed
    (judges : rule.Judges fun tokens offences _ => judged tokens offences)
    (unnamed : ∀ value, asName (change value) = none)
    (other : ∀ tokens offences, judged tokens offences →
      tokens ∉ ofKinds dialect.names) :
    (rule.map change).Judges (Judging asName dialect judged) := by
  apply judges.map
  intro tokens offences value known
  refine ⟨known, ?_⟩
  rw [unnamed]
  exact iff_of_false Bool.false_ne_true (other _ _ known)

theorem Judges.call {name : Rule α} {arguments : Rule β} {make : α × β → τ}
    {names : List Token.Kind}
    (judgesName : name.Judges fun tokens offences _ =>
      Judgement.single compiles names tokens offences)
    (judges : arguments.Judges fun tokens offences _ =>
      Judgement.arguments dialect judged tokens offences)
    (unnamed : ∀ parts, asName (make parts) = none) :
    ((name.andThen arguments).map make).Judges
      (Judging asName dialect
        (Judgement.branch compiles dialect judged (.call names))) := by
  refine Judges.unnamed ?_ unnamed ?_
  · apply (judgesName.andThen judges).mono
    intro tokens offences parts known
    exact known
  · intro tokens offences known
    obtain ⟨left, right, _, _, rfl, -, called, parts, made, -⟩ := known
    apply Judgement.not_name_of_append
    · obtain ⟨token, rfl, -⟩ := (Judgement.settles_single names).member called
      exact List.cons_ne_nil _ _
    · obtain ⟨_, _, _, rfl, -⟩ := made
      exact List.cons_ne_nil _ _

/-- The rules each judge by one of the branches. -/
def JudgeEach (compiles : String → Prop) (asName : τ → Option ν)
    (dialect : Dialect) (judged : Judgement) : List (Rule τ) → List Branch → Prop :=
  List.Forall₂ fun rule way => rule.Judges
    (Judging asName dialect (Judgement.branch compiles dialect judged way))

section

variable (shapely : Shapely dialect language)
  (settles : judged.Settles language)

include shapely settles

/-- A branch that starts with no name. -/
theorem Judges.branch {way : Branch} (among : way ∈ dialect.branches)
    (other : ∀ kind ∈ way.starts, kind ∉ dialect.names)
    (judges : rule.Judges fun tokens offences _ =>
      Judgement.branch compiles dialect judged way tokens offences)
    (unnamed : ∀ value, asName (change value) = none) :
    (rule.map change).Judges (Judging asName dialect
      (Judgement.branch compiles dialect judged way)) := by
  refine Judges.unnamed judges unnamed ?_
  intro tokens offences known
  exact Judgement.not_name_of_starts (shapely.branch_profile among).1 other
    ((settles.branch shapely among).member known)

variable (judges : item.Judges (Judging asName dialect judged))
  (quiet : item.Quiet)

include judges quiet

/-- Where a parenthesis closes the entries, no key is read. -/
theorem QuietBefore.entry : item.entry.QuietBefore .closeParen := by
  intro cursor fault ahead result
  cases given : (item cursor).result with
  | ok progress =>
      exfalso
      -- A key would start with the closing parenthesis, and no item does.
      obtain ⟨tokens, offences, passes, -, known, -⟩ := judges given
      have member := settles.member known
      cases tokens with
      | nil => exact shapely.proper member
      | cons token tokens =>
          have starts := shapely.profile.starts token (viable_of_mem member).head
          rw [passes.nextKind?_eq] at ahead
          rw [Option.some.inj ahead] at starts
          revert starts
          cases dialect <;> decide
  | error failed =>
      have key : ((item.thenSkip (token .colon)) cursor).result =
          .error failed := by
        rw [thenSkip, Rule.map, Outcome.map, andThen_of_error given]
        rfl
      change (((item.thenSkip (token .colon)).andThen item) cursor).emitted = []
      rw [andThen_of_error key]
      change ((item.andThen (token .colon)) cursor).emitted = []
      rw [andThen_of_error given]
      exact quiet cursor failed given

theorem Judges.entries :
    (Rule.delimitedList .openParen .closeParen item.entry).Judges
      fun tokens offences _ =>
        Judgement.branch compiles dialect judged .entries tokens offences := by
  apply ((judges.separated judges .colon).delimitedList
    (QuietBefore.entry shapely settles judges quiet) .openParen).mono
  intro tokens offences entries known
  obtain ⟨items, made, all, rfl⟩ := known
  refine ⟨items, made, forall_mem_of_forall₂ all ?_, rfl⟩
  intro piece value known
  obtain ⟨left, colon, right, before, after, split, kind, same, inner, inner'⟩ :=
    known
  have mark : Judgement.clear (ofKinds [.colon]) [colon] [] :=
    ⟨⟨colon, rfl, List.mem_singleton.mpr kind⟩, rfl⟩
  exact ⟨left ++ [colon], right, before, after, by simp [split], same,
    ⟨left, [colon], before, [], rfl, by simp, inner.1, mark⟩, inner'.1⟩

omit shapely settles in
theorem Judges.items (opening closing : Token.Kind) :
    (Rule.delimitedList opening closing item).Judges fun tokens offences _ =>
      Judgement.branch compiles dialect judged (.items opening closing) tokens
        offences := by
  apply (judges.delimitedList (quiet.before closing) opening).mono
  intro tokens offences values known
  obtain ⟨items, made, all, rfl⟩ := known
  exact ⟨items, made, forall_mem_of_forall₂ all fun _ _ known => known.1, rfl⟩

/-- Collections, numbers, truth values and locations judge by their branches, if
none of them names an argument. -/
theorem Judges.sharedRules {map : List (τ × τ) → τ} {set list tuple : List τ → τ}
    {number : String → τ} {boolean : Bool → τ} {location : Location → τ}
    (ofMap : ∀ pairs, asName (map pairs) = none)
    (ofSet : ∀ items, asName (set items) = none)
    (ofList : ∀ items, asName (list items) = none)
    (ofTuple : ∀ items, asName (tuple items) = none)
    (ofNumber : ∀ digits, asName (number digits) = none)
    (ofBoolean : ∀ truth, asName (boolean truth) = none)
    (ofLocation : ∀ place, asName (location place) = none) :
    JudgeEach compiles asName dialect judged
      [(Rule.delimitedList .openParen .closeParen item.entry).map map,
      (Rule.delimitedList .openBrace .closeBrace item).map set,
      (Rule.delimitedList .openBracket .closeBracket item).map list,
      (Rule.delimitedList .openAngle .closeAngle item).map tuple,
      Rule.number.map number, Rule.boolean.map boolean,
      Rule.location.map location] sharedBranches := by
  have known : ∀ way ∈ sharedBranches, way ∈ dialect.branches ∧
      ∀ kind ∈ way.starts, kind ∉ dialect.names := by cases dialect <;> decide
  have plain {σ : Type} {way : Branch} {rule : Rule σ} {change : σ → τ}
      (among : way ∈ sharedBranches)
      (judgesWay : rule.Judges fun tokens offences _ =>
        Judgement.branch compiles dialect judged way tokens offences)
      (unnamed : ∀ value, asName (change value) = none) :
      (rule.map change).Judges (Judging asName dialect
        (Judgement.branch compiles dialect judged way)) :=
    judgesWay.branch shapely settles (known way among).1 (known way among).2
      unnamed
  exact .cons (plain (by decide) (judges.entries shapely settles quiet) ofMap) <|
    .cons (plain (by decide) (judges.items quiet _ _) ofSet) <|
    .cons (plain (by decide) (judges.items quiet _ _) ofList) <|
    .cons (plain (by decide) (judges.items quiet _ _) ofTuple) <|
    .cons (plain (by decide) number_judges ofNumber) <|
    .cons (plain (by decide) boolean_judges ofBoolean) <|
    .cons (plain (by decide) location_judges ofLocation) .nil

end

theorem JudgeEach.firstOf {rules : List (Rule τ)}
    (each : JudgeEach compiles asName dialect judged (item :: rules)
      dialect.branches) :
    (firstOf item rules).Judges
      (Judging asName dialect (Judgement.atom compiles dialect judged)) := by
  apply Judges.firstOf
  intro rule member
  obtain ⟨way, among, judges⟩ := exists_mem_of_forall₂ each.flip rule member
  apply Judges.mono judges
  intro tokens offences value known
  exact ⟨⟨way, among, known.1⟩, known.2⟩

end

end TreeQuery.Reading.Rule
