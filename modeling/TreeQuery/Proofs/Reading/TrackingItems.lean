import TreeQuery.Proofs.Reading.Shape
import TreeQuery.Proofs.Reading.TrackingLists
import TreeQuery.Reading.Arguments

/-!
# Locations and arguments that look as far as the frontier

The rules that values and patterns share track the languages of these pieces.
What is objected to in arguments are pieces that have been read, so the
objections lie before the frontier.
-/

namespace TreeQuery.Reading.Rule

variable {α β : Type}

/-! ## Locations -/

/-- A rule for words that are read token by token. -/
structure Steady (rule : Rule α) (language : Language Token)
    (starts : List Token.Kind) : Prop where
  tracks : ∀ bound, rule.Tracks 0 bound language
  plain : rule.Plain
  solid : Solid language starts

section

variable {rule : Rule α} {second : Rule β} {language language' : Language Token}
  {starts starts' : List Token.Kind} {bound : Nat}

theorem Plain.andThen (plain : rule.Plain) (plain' : second.Plain) :
    (rule.andThen second).Plain := by
  intro cursor progress result
  obtain ⟨before, after, given, given', rfl⟩ := andThen_ok result
  rw [plain _ _ given, plain' _ _ given']
  rfl

theorem Steady.andThen (steady : rule.Steady language starts)
    (steady' : second.Steady language' starts') :
    (rule.andThen second).Steady (language * language') starts := by
  refine ⟨fun bound => ?_, steady.plain.andThen steady'.plain,
    steady.solid.mul steady'.solid⟩
  exact (steady.tracks bound).plain_andThen steady.plain (steady'.tracks bound)
    steady'.solid.profile.inhabited steady.solid.separated

theorem Steady.map (steady : rule.Steady language starts) (change : α → β) :
    (rule.map change).Steady language starts :=
  ⟨fun bound => (steady.tracks bound).map change, steady.plain.map change,
    steady.solid⟩

theorem token_steady (kind : Token.Kind) :
    (token kind).Steady (ofKinds [kind]) [kind] :=
  ⟨token_tracks kind 0, token_plain kind, solid_kind kind⟩

theorem Steady.thenSkip (steady : rule.Steady language starts)
    (steady' : second.Steady language' starts') :
    (rule.thenSkip second).Steady (language * language') starts :=
  (steady.andThen steady').map Prod.fst

theorem Steady.between (steady : rule.Steady language starts)
    (opening closing : Token.Kind) :
    (rule.between opening closing).Steady
      (ofKinds [opening] * language * ofKinds [closing]) [opening] :=
  (((token_steady opening).andThen steady).map Prod.snd).thenSkip
    (token_steady closing)

end

theorem integer_steady : integer.Steady Reading.integer [.number] := by
  have sample : ∃ value, DerivesInteger Token.Kind.number.sample value :=
    ⟨0, rfl, by decide⟩
  refine ⟨?_, ?_, solid_integer⟩
  · intro bound cursor _
    rcases head_cases cursor .number with ⟨found, rest, split, kind⟩ | other
    · simp only [integer, refine, token_eq_accept split kind, Outcome.accept]
      cases word : Numeral.word? found.lexeme with
      | some value =>
          exact .ok firm_none (.single_read split ⟨value, kind, word⟩)
      | none =>
          refine .gave rfl ?_ (.single_objected ⟨_, sample⟩ ?_)
          · intro met found _
            cases found
            exact Nat.lt_succ_self _
          · intro token ahead spelled
            rw [split] at ahead
            cases ahead
            obtain ⟨value, -, other⟩ := spelled
            cases word.symm.trans other
    · simp only [integer, refine, token_eq_refuse other, Outcome.refuse]
      refine .gave rfl firm_unexpected
        (.single_refused ?_ sample ?_ (by simp))
      · intro token ahead spelled
        obtain ⟨value, kind, -⟩ := spelled
        exact other token ahead kind
      · intro token spelled
        obtain ⟨value, kind, -⟩ := spelled
        exact kind
  · intro cursor progress result
    unfold integer refine at result
    cases given : (token .number cursor).result with
    | error fault => simp [given] at result
    | ok before =>
        have plain := token_plain .number cursor before given
        simp only [given] at result
        split at result
        · cases result
          exact plain
        · cases result

theorem lineColumn_steady :
    lineColumn.Steady Reading.lineColumn [.openAngle] :=
  ((integer_steady.thenSkip (token_steady .comma)).andThen
    integer_steady).between .openAngle .closeAngle

/-- What stands between the parentheses of a span. -/
theorem spanBody_steady :
    ((((((integer.thenSkip (token .comma)).andThen integer).thenSkip
      (token .comma)).andThen lineColumn).thenSkip
        (token .comma)).andThen lineColumn).Steady
      (Reading.integer * ofKinds [.comma] * Reading.integer * ofKinds [.comma] *
        Reading.lineColumn * ofKinds [.comma] * Reading.lineColumn) [.number] :=
  (((((integer_steady.thenSkip (token_steady .comma)).andThen
    integer_steady).thenSkip (token_steady .comma)).andThen
      lineColumn_steady).thenSkip (token_steady .comma)).andThen
        lineColumn_steady

theorem sourceSpan_tracks (bound : Nat) :
    sourceSpan.Tracks 1 bound Reading.sourceSpan := by
  have body := spanBody_steady
  have opens := (token_steady .openParen).andThen body
  have begun := ((token_tracks .openParen 1 (bound + 1)).token_andThen
    (token_plain .openParen) (body.tracks bound)
    body.solid.profile.inhabited).map Prod.snd
  have closed := begun.plain_andThen (opens.map Prod.snd).plain
    (token_tracks .closeParen 1 (bound + 1))
    (solid_kind .closeParen).profile.inhabited opens.solid.separated
  exact ((closed.map Prod.fst).map _).mono le_rfl (Nat.le_succ bound)

theorem location_tracks (bound : Nat) :
    location.Tracks 2 bound (ofKinds [.location] * (1 + Reading.sourceSpan)) := by
  have spans := (sourceSpan_tracks bound).optional le_rfl
  have place := (token_tracks .location 2 (bound + 1)).map Token.body
  exact ((place.token_andThen ((token_plain .location).map _) spans
    solid_sourceSpan.profile.optional.inhabited).map _).mono le_rfl
      (Nat.le_succ bound)

/-! ## Places of items -/

section

variable {item : Rule α} {piece : Language Token} {cursor : Cursor}
  {bound : Nat}

theorem located_start {progress : Progress (α × Nat)}
    (result : (item.located cursor).result = .ok progress) :
    progress.value.2 = cursor.start := by
  obtain ⟨before, -, rfl⟩ := map_ok result
  rfl

/-- Each value comes with the start of one of the next tokens, and these are
passed. -/
def Marked (cursor next : Cursor) (values : List (α × Nat)) : Prop :=
  ∃ count, next = cursor.skip count ∧ ∀ value ∈ values,
    ∃ token ∈ cursor.ahead.take count, value.2 = token.start

theorem marked_skip (cursor : Cursor) (count : Nat) :
    Marked cursor (cursor.skip count) ([] : List (α × Nat)) :=
  ⟨count, rfl, List.forall_mem_nil _⟩

theorem marked_here (cursor : Cursor) :
    Marked cursor cursor ([] : List (α × Nat)) :=
  ⟨0, (Cursor.skip_zero cursor).symm, List.forall_mem_nil _⟩

theorem Marked.trans {middle next : Cursor} {values values' : List (α × Nat)}
    (marked : Marked cursor middle values)
    (marked' : Marked middle next values') :
    Marked cursor next (values ++ values') := by
  obtain ⟨count, rfl, starts⟩ := marked
  obtain ⟨count', rfl, starts'⟩ := marked'
  refine ⟨count + count', Cursor.skip_skip _ _ _, ?_⟩
  intro value among
  rw [List.take_add]
  rcases List.mem_append.mp among with left | right
  · obtain ⟨token, member, same⟩ := starts value left
    exact ⟨token, List.mem_append_left _ member, same⟩
  · obtain ⟨token, member, same⟩ := starts' value right
    exact ⟨token, List.mem_append_right _ member, same⟩

theorem Marked.length_le {next : Cursor} {values : List (α × Nat)}
    (marked : Marked cursor next values) :
    next.ahead.length ≤ cursor.ahead.length := by
  obtain ⟨count, rfl, -⟩ := marked
  exact cursor.length_skip_le count

/-- Every item that is read comes with its start. -/
def MarksItems (item : Rule (α × Nat)) (bound : Nat) : Prop :=
  ∀ cursor progress, cursor.ahead.length < bound →
    (item cursor).result = .ok progress →
    Marked cursor progress.next [progress.value]

theorem Tracks.marksItems {depth : Nat} (tracks : item.Tracks depth bound piece)
    (proper : [] ∉ piece) : MarksItems item.located bound := by
  intro cursor progress short result
  have start := located_start result
  cases tracks.located cursor short with
  | gave failed => cases result.symm.trans failed
  | @took word _ _ took next _ sight =>
      cases result.symm.trans took
      obtain ⟨member, ⟨rest, split⟩, -⟩ := sight.longest
      have nonempty : word ≠ [] := fun empty => proper (empty ▸ member)
      obtain ⟨token, among, same⟩ := exists_start nonempty ⟨rest, split⟩
      refine ⟨word.length, next, List.forall_mem_singleton.mpr ⟨token, ?_, ?_⟩⟩
      · rwa [← split, List.take_left]
      · rw [start, same]

theorem token_marked {kind : Token.Kind} {progress : Progress Token}
    (result : (token kind cursor).result = .ok progress) :
    Marked cursor progress.next ([] : List (α × Nat)) := by
  rcases head_cases cursor kind with ⟨found, rest, split, fits⟩ | other
  · rw [token_eq_accept split fits] at result
    cases result
    exact marked_skip cursor 1
  · rw [token_eq_refuse other] at result
    cases result

theorem token_shortens {kind : Token.Kind} {progress : Progress Token}
    (result : (token kind cursor).result = .ok progress) :
    progress.next.ahead.length < cursor.ahead.length := by
  rcases head_cases cursor kind with ⟨found, rest, split, fits⟩ | other
  · rw [token_eq_accept split fits] at result
    cases result
    simp [Cursor.skip, split]
  · rw [token_eq_refuse other] at result
    cases result

section

variable {item : Rule (α × Nat)} {separator : Token.Kind}

theorem MarksItems.moreItems (marks : MarksItems item bound) {rounds : Nat}
    {passed : Option Fault} (short : cursor.ahead.length < bound) :
    Marked cursor
      (Rule.moreItems item (token separator) rounds passed cursor).next
      (Rule.moreItems item (token separator) rounds passed cursor).items := by
  induction rounds generalizing cursor passed with
  | zero => exact marked_here cursor
  | succ rounds induction =>
      unfold Rule.moreItems
      cases separated : (token separator cursor).result with
      | error fault =>
          simp only [separated]
          exact marked_here cursor
      | ok progress =>
          have short' := (token_shortens separated).trans short
          cases outcome : (item progress.next).result with
          | error fault =>
              simp only [separated, outcome]
              exact marked_here cursor
          | ok progress' =>
              have read := marks progress.next progress' short' outcome
              simp only [separated, outcome]
              exact (token_marked separated).trans
                (read.trans (induction (read.length_le.trans_lt short')))

theorem listEnds_marked (run : Run (α × Nat)) :
    Marked run.next (listEnds separator run).2 ([] : List (α × Nat)) := by
  unfold listEnds
  split
  · next progress trailing => exact token_marked trailing
  · exact marked_here _

theorem MarksItems.separatedList (marks : MarksItems item bound)
    (short : cursor.ahead.length < bound) {progress : Progress (List (α × Nat))}
    (result : ((item.separatedList (token separator)) cursor).result =
      .ok progress) :
    Marked cursor progress.next progress.value := by
  cases outcome : (item cursor).result with
  | error fault =>
      rw [separatedList_of_error outcome] at result
      cases result
      exact marked_here cursor
  | ok before =>
      have read := marks cursor before short outcome
      generalize same : Rule.moreItems item (token separator)
        cursor.ahead.length before.passed before.next = run
      rw [separatedList_of_ok outcome same] at result
      cases result
      have later : Marked before.next run.next run.items := by
        rw [← same]
        exact marks.moreItems (read.length_le.trans_lt short)
      simpa using (read.trans later).trans (listEnds_marked run)

theorem MarksItems.delimitedList (marks : MarksItems item bound)
    {opening closing : Token.Kind} (short : cursor.ahead.length < bound + 1)
    {progress : Progress (List (α × Nat))}
    (result : ((delimitedList opening closing item) cursor).result =
      .ok progress) :
    Marked cursor progress.next progress.value := by
  obtain ⟨closed, closes, rfl⟩ := map_ok result
  obtain ⟨begun, last, begins, ends, rfl⟩ := andThen_ok closes
  obtain ⟨both, opens, rfl⟩ := map_ok begins
  obtain ⟨first, list, open', lists, rfl⟩ := andThen_ok opens
  have fewer := token_shortens open'
  have listed := marks.separatedList (by omega) lists
  simpa using ((token_marked open').trans listed).trans (token_marked ends)

end

end

/-! ## Arguments -/

section

variable {ν τ : Type} {name : Rule ν} {item : Rule τ} {asName : τ → Option ν}
  {dialect : Dialect} {language : Language Token} {bound : Nat}

theorem exists_of_mem_misplaced {found : List (Argument ν τ × Nat)}
    {namedBefore : Bool} {start : Nat}
    (misplaced : start ∈ misplaced namedBefore found) :
    ∃ argument ∈ found, argument.2 = start := by
  induction found generalizing namedBefore with
  | nil => cases misplaced
  | cons first found induction =>
      have later {namedBefore : Bool}
          (behind : start ∈ Reading.misplaced namedBefore found) :
          ∃ argument ∈ first :: found, argument.2 = start := by
        obtain ⟨argument, among, same⟩ := induction behind
        exact ⟨argument, List.mem_cons_of_mem _ among, same⟩
      obtain ⟨value | ⟨name, value⟩, place⟩ := first
      · cases namedBefore with
        | false => exact later misplaced
        | true =>
            rcases List.mem_cons.mp misplaced with rfl | behind
            · exact ⟨_, List.mem_cons_self, rfl⟩
            · exact later behind
      · exact later misplaced

section

variable (shapely : Shapely dialect language)
  (tracks : item.Tracks 2 bound language)

include shapely tracks

theorem Tracks.namedArgument
    (tracksName : name.Tracks 2 bound (ofKinds [.identifier]))
    (plainName : name.Plain) :
    (namedArgument name item).Tracks 2 bound
      (ofKinds [.identifier] * ofKinds [.equals] * language) := by
  have key := (tracksName.plain_andThen plainName
    (token_tracks .equals 2 bound) (solid_kind .equals).profile.inhabited
    single_separated).map Prod.fst
  have plain := (plainName.andThen (token_plain .equals)).map Prod.fst
  exact (key.plain_andThen plain tracks shapely.profile.inhabited
    ((solid_kind .identifier).mul (solid_kind .equals)).separated).map _

theorem Tracks.itemArgument :
    (itemArgument item asName).Tracks 2 bound
      (language * (1 + ofKinds [.equals] * language)) := by
  have equated := ((token_tracks .equals 2 bound).plain_andThen
    (token_plain .equals) tracks shapely.profile.inhabited
    single_separated).map Prod.snd
  have both := tracks.andThen (equated.optional (by omega))
    shapely.equated_profile.optional.inhabited shapely.separated_equated
    (by omega)
  apply both.located.inspect
  intro cursor word progress _ result _ start member objection objected
  have place := located_start result
  have nonempty : word ≠ [] := by
    intro empty
    exact nil_not_mem_mul shapely.proper (empty ▸ member)
  obtain ⟨token, among, same⟩ := exists_start nonempty start
  refine ⟨token, among, ?_⟩
  rw [← same, ← place]
  obtain ⟨⟨⟨left, right⟩, start⟩, next, passed⟩ := progress
  cases right with
  | none => cases objected
  | some value =>
      cases called : asName left with
      | some name => simp [called] at objected
      | none => simp_all

end

theorem optional_result_ne_error {rule : Rule α} {cursor : Cursor}
    {fault : Fault} : (rule.optional cursor).result ≠ .error fault := by
  intro result
  unfold optional at result
  cases given : (rule cursor).result with
  | error failed =>
      simp only [given] at result
      cases result
  | ok progress =>
      simp only [given, Outcome.map] at result
      cases result

theorem Quiet.andThen_optional {rule : Rule α} {second : Rule β}
    (quiet : rule.Quiet) : (rule.andThen second.optional).Quiet := by
  intro cursor fault result
  cases given : (rule cursor).result with
  | error failed =>
      rw [andThen_of_error given]
      exact quiet cursor failed given
  | ok progress =>
      cases given' : (second.optional progress.next).result with
      | error failed => exact absurd given' optional_result_ne_error
      | ok progress' =>
          rw [andThen_of_ok_ok given given'] at result
          cases result

theorem Quiet.located {rule : Rule α} (quiet : rule.Quiet) :
    rule.located.Quiet := fun cursor =>
  quiet.map (fun value => (value, cursor.start)) cursor

theorem Quiet.namedArgument (clean : ∀ cursor, (name cursor).emitted = [])
    (quiet : item.Quiet) : (namedArgument name item).Quiet := by
  refine Quiet.map (Quiet.andThen ?_ quiet) _
  intro cursor
  change ((name.andThen (token .equals)) cursor).emitted = []
  cases given : (name cursor).result with
  | error fault =>
      rw [andThen_of_error given]
      exact clean cursor
  | ok progress =>
      simp only [Rule.andThen, given, clean, token_emitted, List.nil_append]

theorem Quiet.itemArgument (quiet : item.Quiet) :
    (itemArgument item asName).Quiet :=
  quiet.andThen_optional.located.inspect

theorem Tracks.arguments (shapely : Shapely dialect language)
    (tracks : item.Tracks 2 bound language)
    (tracksName : name.Tracks 2 bound (ofKinds [.identifier]))
    (plainName : name.Plain) (clean : ∀ cursor, (name cursor).emitted = [])
    (quiet : item.Quiet) :
    (arguments name item asName).Tracks 2 (bound + 1)
      (loose language) := by
  have each : ((Rule.namedArgument name item).orElse
      (Rule.itemArgument item asName)).Tracks 2 bound (argument language) :=
    (tracks.namedArgument shapely tracksName plainName).orElse
      (tracks.itemArgument shapely) (quiet.namedArgument clean)
      quiet.itemArgument shapely.fork
  have proper := shapely.nil_not_mem_argument
  refine (each.located.delimitedList shapely.argument_profile proper
    (by cases dialect <;> decide) (by cases dialect <;> decide)).inspect ?_
  intro cursor word progress short result next start _ objection objected
  obtain ⟨place, misplaced, rfl⟩ := List.mem_map.mp objected
  obtain ⟨argument, among, rfl⟩ := exists_of_mem_misplaced misplaced
  obtain ⟨count, stop, marked⟩ :=
    (each.marksItems proper).delimitedList short result
  obtain ⟨token, member, same⟩ := marked argument among
  refine ⟨token, ?_, same⟩
  have equal : cursor.position + count = cursor.position + word.length :=
    congrArg Cursor.position (stop.symm.trans next)
  rwa [Nat.add_left_cancel equal, ← List.prefix_iff_eq_take.mp start] at member

end

/-! ## Shared branches -/

section

variable {item : Rule α} {dialect : Dialect} {language : Language Token}
  {bound : Nat}

theorem Tracks.entry (tracks : item.Tracks 2 bound language)
    (shapely : Shapely dialect language) :
    item.entry.Tracks 2 bound (Reading.entry language) := by
  have colon := solid_kind .colon
  have separated : Separated language (ofKinds [.colon]) :=
    shapely.profile.separated colon.profile
      (by cases dialect <;> decide)
  have key := (tracks.andThen (token_tracks .colon 2 bound)
    colon.profile.inhabited separated (by omega)).map Prod.fst
  have profile := shapely.profile.mul colon.profile shapely.proper colon.proper
    separated
  exact key.andThen tracks shapely.profile.inhabited profile.closed_separated
    (by omega)

theorem boolean_tracks (bound : Nat) :
    boolean.Tracks 2 bound (ofKinds [.trueWord, .falseWord]) := by
  have choice := ((token_tracks .trueWord 2 bound).map fun _ => true).orElse
    ((token_tracks .falseWord 2 bound).map fun _ => false)
    ((token_quiet .trueWord).map _) ((token_quiet .falseWord).map _)
    (fork_kinds (by decide))
  rwa [← ofKinds_append] at choice

/-- Collections, numbers, truth values and locations track their branches. -/
theorem sharedRules_track (tracks : item.Tracks 2 bound language)
    (shapely : Shapely dialect language) (map : List (α × α) → α)
    (set list tuple : List α → α) (number : String → α) (boolean : Bool → α)
    (location : Location → α) :
    TrackEach (bound + 1)
      [(delimitedList .openParen .closeParen item.entry).map map,
      (delimitedList .openBrace .closeBrace item).map set,
      (delimitedList .openBracket .closeBracket item).map list,
      (delimitedList .openAngle .closeAngle item).map tuple,
      Rule.number.map number, Rule.boolean.map boolean,
      Rule.location.map location]
      (sharedBranches.map (Branch.language loose language)) := by
  have lists {opening closing : Token.Kind}
      (closes : closing ∉ .comma :: (dialect.follows ++ dialect.starts)) :
      (delimitedList opening closing item).Tracks 2 (bound + 1)
        (enclosed opening closing language) :=
    tracks.delimitedList shapely.profile shapely.proper
      (not_mem_follows (by decide)) closes
  have entries : (delimitedList .openParen .closeParen item.entry).Tracks 2
      (bound + 1) (enclosed .openParen .closeParen (Reading.entry language)) :=
    (tracks.entry shapely).delimitedList shapely.entry_profile
      shapely.nil_not_mem_entry (not_mem_follows (by decide))
      (by cases dialect <;> decide)
  exact .cons (entries.map map) <|
    .cons ((lists (by cases dialect <;> decide)).map set) <|
    .cons ((lists (by cases dialect <;> decide)).map list) <|
    .cons ((lists (by cases dialect <;> decide)).map tuple) <|
    .cons (((token_tracks .number 2 _).map _).map number) <|
    .cons ((boolean_tracks _).map boolean) <|
    .cons ((location_tracks _).map location) .nil

end

end TreeQuery.Reading.Rule
