import TreeQuery.Proofs.Reading.Report
import TreeQuery.Reading.Arguments
import TreeQuery.Reading.Scalar

/-!
# Where faults stand

Whatever a rule complains about, the complaint starts at a token or at the end
of the input, with valid tokens only in front of it, and what it says was found
is the token there.  Every combinator keeps this.
-/

namespace TreeQuery.Reading

/-- Valid tokens lead from one place to the other. -/
def Cursor.Reaches (cursor next : Cursor) : Prop :=
  ∃ tokens, cursor.Passes tokens next ∧ ∀ token ∈ tokens, token.kind ≠ .invalid

/-- At the byte a token starts, or the input ends, that valid tokens lead to. -/
def Cursor.Offers (cursor : Cursor) (start : Nat) : Prop :=
  ∃ place, cursor.Reaches place ∧ start = place.start

/-- The fault stands at a place that valid tokens lead to, and what it found, if
it tells, is found there. -/
def Fault.Stands (cursor : Cursor) (fault : Fault) : Prop :=
  ∃ place, cursor.Reaches place ∧ fault.start = place.start ∧
    (fault.found = none ∨ fault.found = place.ahead.head?)

section

variable {cursor middle next : Cursor} {fault other : Fault} {start : Nat}
  {passed passed' : Option Fault}

theorem Cursor.Reaches.refl (cursor : Cursor) : cursor.Reaches cursor :=
  ⟨[], Cursor.passes_nil_iff.mpr rfl, List.forall_mem_nil _⟩

theorem Cursor.Reaches.trans (first : cursor.Reaches middle)
    (second : middle.Reaches next) : cursor.Reaches next := by
  obtain ⟨tokens, passes, valid⟩ := first
  obtain ⟨tokens', passes', valid'⟩ := second
  exact ⟨tokens ++ tokens', passes.append passes',
    List.forall_mem_append.mpr ⟨valid, valid'⟩⟩

theorem Cursor.offers_start (cursor : Cursor) : cursor.Offers cursor.start :=
  ⟨cursor, .refl cursor, rfl⟩

theorem Cursor.Offers.of_reaches (offers : middle.Offers start)
    (reaches : cursor.Reaches middle) : cursor.Offers start := by
  obtain ⟨place, further, same⟩ := offers
  exact ⟨place, reaches.trans further, same⟩

theorem Fault.Stands.of_reaches (stands : fault.Stands middle)
    (reaches : cursor.Reaches middle) : fault.Stands cursor := by
  obtain ⟨place, further, same⟩ := stands
  exact ⟨place, reaches.trans further, same⟩

theorem Cursor.unexpected_stands (cursor : Cursor)
    (expected : List Expectation) :
    (cursor.unexpected expected).Stands cursor :=
  ⟨cursor, .refl cursor, rfl, .inr rfl⟩

theorem Cursor.Offers.object (offers : cursor.Offers start)
    (objection : Objection) : (next.object start objection).Stands cursor := by
  obtain ⟨place, reaches, same⟩ := offers
  exact ⟨place, reaches, same, .inl rfl⟩

theorem Fault.Stands.further (stands : fault.Stands cursor)
    (stands' : other.Stands cursor) : (fault.further other).Stands cursor := by
  unfold Fault.further
  split
  · exact stands'
  · split
    · exact stands
    · exact stands

theorem stands_note (stand : ∀ met ∈ passed, met.Stands cursor)
    (stand' : ∀ met ∈ passed', met.Stands cursor) :
    ∀ met ∈ Fault.note passed passed', met.Stands cursor := by
  intro met noted
  cases passed with
  | none => exact stand' met noted
  | some fault =>
      cases passed' with
      | none => exact stand met noted
      | some other =>
          cases noted
          exact (stand' _ rfl).further (stand _ rfl)

end

/-- Whatever came of a rule at the place stands in the input: its faults, where
it stopped, and the starts that its value tells of. -/
inductive Grounded {α : Type} (starts : α → List Nat) (cursor : Cursor) :
    Outcome α → Prop where
  | ok {emitted : List Fault} {value : α} {next : Cursor}
      {passed : Option Fault} :
      (∀ met ∈ emitted, met.Stands cursor) → cursor.Reaches next →
      (∀ met ∈ passed, met.Stands cursor) →
      (∀ start ∈ starts value, cursor.Offers start) →
      Grounded starts cursor ⟨emitted, .ok ⟨value, next, passed⟩⟩
  | error {emitted : List Fault} {fault : Fault} :
      (∀ met ∈ emitted, met.Stands cursor) → fault.Stands cursor →
      Grounded starts cursor ⟨emitted, .error fault⟩

/-- The value tells of no starts. -/
def untold {α : Type} : α → List Nat :=
  fun _ => []

namespace Grounded

variable {α β : Type} {starts : α → List Nat} {starts' : β → List Nat}
  {cursor : Cursor} {outcome other : Outcome α}

theorem fault (grounded : Grounded starts cursor outcome) :
    ∀ met ∈ outcome.fault?, met.Stands cursor := by
  cases grounded with
  | ok _ _ passed _ => exact passed
  | error _ stands =>
      intro met same
      cases same
      exact stands

theorem emitted (grounded : Grounded starts cursor outcome) :
    ∀ met ∈ outcome.emitted, met.Stands cursor := by
  cases grounded with
  | ok emitted => exact emitted
  | error emitted => exact emitted

theorem insteadOf (grounded : Grounded starts cursor outcome)
    (grounded' : Grounded starts cursor other) :
    Grounded starts cursor (outcome.insteadOf other) := by
  cases grounded with
  | ok emitted reaches passed told =>
      exact .ok emitted reaches (stands_note passed grounded'.fault) told
  | error emitted stands => exact .error emitted stands

theorem better (grounded : Grounded starts cursor outcome)
    (grounded' : Grounded starts cursor other) :
    Grounded starts cursor (Rule.better outcome other) := by
  have first := grounded.insteadOf grounded'
  have second := grounded'.insteadOf grounded
  cases grounded with
  | ok emitted reaches passed told =>
      cases grounded' with
      | ok =>
          simp only [Rule.better]
          split
          · exact first
          · exact second
      | error => exact first
  | error emitted stands =>
      cases grounded' with
      | ok => exact second
      | error emitted' stands' =>
          simp only [Rule.better]
          split
          · exact .error emitted stands
          · exact .error emitted' stands'
          · exact .error emitted stands
          · exact .error emitted' stands'
          · exact .error emitted stands
          · exact .error emitted' stands'
          · exact .error emitted (stands.further stands')

theorem map (grounded : Grounded starts cursor outcome) (change : α → β)
    (told : ∀ value, starts' (change value) ⊆ starts value) :
    Grounded starts' cursor (outcome.map change) := by
  cases grounded with
  | ok emitted reaches passed offers =>
      exact .ok emitted reaches passed fun start among =>
        offers start (told _ among)
  | error emitted stands => exact .error emitted stands

end Grounded

namespace Rule

/-- The rule is grounded wherever it starts. -/
def Grounded {α : Type} (rule : Rule α) (starts : α → List Nat) : Prop :=
  ∀ cursor, Reading.Grounded starts cursor (rule cursor)

section

variable {α β : Type} {rule : Rule α} {second : Rule β}
  {starts : α → List Nat} {starts' : β → List Nat} {kind : Token.Kind}

theorem token_grounded (valid : kind ≠ .invalid) :
    (token kind).Grounded untold := by
  intro cursor
  have refused (expected : List Expectation) : Reading.Grounded untold cursor
      (.refuse (cursor.unexpected expected) : Outcome Token) :=
    .error (List.forall_mem_nil _) (cursor.unexpected_stands _)
  unfold token
  split
  · next found rest ahead =>
    split
    · next same =>
      refine .ok (List.forall_mem_nil _) ⟨[found], ⟨ahead, rfl, rfl⟩, ?_⟩ nofun
        (List.forall_mem_nil _)
      exact List.forall_mem_singleton.mpr (same ▸ valid)
    · exact refused _
  · exact refused _

theorem finish_grounded : finish.Grounded untold := by
  intro cursor
  unfold finish
  split
  · exact .ok (List.forall_mem_nil _) (.refl cursor) nofun (List.forall_mem_nil _)
  · exact .error (List.forall_mem_nil _) (cursor.unexpected_stands _)

theorem Grounded.map (grounded : rule.Grounded starts) (change : α → β)
    (told : ∀ value, starts' (change value) ⊆ starts value) :
    (rule.map change).Grounded starts' :=
  fun cursor => (grounded cursor).map change told

theorem Grounded.to (grounded : rule.Grounded starts) (change : α → β) :
    (rule.map change).Grounded untold :=
  grounded.map change fun _ => List.nil_subset _

theorem Grounded.forget (grounded : rule.Grounded starts) :
    rule.Grounded untold := by
  intro cursor
  have same := grounded cursor
  generalize rule cursor = outcome at same ⊢
  cases same with
  | ok emitted reaches passed _ =>
      exact .ok emitted reaches passed (List.forall_mem_nil _)
  | error emitted stands => exact .error emitted stands

theorem Grounded.andThen (grounded : rule.Grounded starts)
    (grounded' : second.Grounded starts') :
    (rule.andThen second).Grounded fun both =>
      starts both.1 ++ starts' both.2 := by
  intro cursor
  have before := grounded cursor
  unfold Rule.andThen
  generalize rule cursor = outcome at before ⊢
  cases before with
  | error emitted stands => exact .error emitted stands
  | @ok emitted value next passed stand reaches stand' offers =>
      dsimp only
      have after := grounded' next
      generalize second next = last at after ⊢
      have all {emitted' : List Fault}
          (each : ∀ met ∈ emitted', met.Stands next) :
          ∀ met ∈ emitted ++ emitted', met.Stands cursor :=
        List.forall_mem_append.mpr
          ⟨stand, fun met among => (each met among).of_reaches reaches⟩
      cases after with
      | error each stands =>
          refine .error (all each) ?_
          cases passed with
          | none => exact stands.of_reaches reaches
          | some met =>
              exact (stands.of_reaches reaches).further (stand' met rfl)
      | ok each further passed' offers' =>
          refine .ok (all each) (reaches.trans further) ?_ ?_
          · exact stands_note stand' fun met among =>
              (passed' met among).of_reaches reaches
          · exact List.forall_mem_append.mpr ⟨offers, fun start among =>
              (offers' start among).of_reaches reaches⟩

theorem Grounded.skipThen (grounded : rule.Grounded starts)
    (grounded' : second.Grounded starts') :
    (rule.skipThen second).Grounded starts' :=
  (grounded.andThen grounded').map _ fun _ => List.subset_append_right _ _

theorem Grounded.thenSkip (grounded : rule.Grounded starts)
    (grounded' : second.Grounded starts') :
    (rule.thenSkip second).Grounded starts :=
  (grounded.andThen grounded').map _ fun _ => List.subset_append_left _ _

theorem Grounded.between {opening closing : Token.Kind}
    (grounded : rule.Grounded starts) (valid : opening ≠ .invalid)
    (valid' : closing ≠ .invalid) :
    (rule.between opening closing).Grounded starts :=
  ((token_grounded valid).skipThen grounded).thenSkip (token_grounded valid')

theorem firstAfter_grounded {rules : List (Rule α)} {failed : Fault}
    {cursor : Cursor} (each : ∀ rule ∈ rules, rule.Grounded starts)
    (stands : failed.Stands cursor) :
    Reading.Grounded starts cursor (firstAfter failed rules cursor) := by
  induction rules generalizing failed with
  | nil => exact .error (List.forall_mem_nil _) stands
  | cons rule rules induction =>
      obtain ⟨first, others⟩ := List.forall_mem_cons.mp each
      have here := first cursor
      rw [firstAfter]
      generalize rule cursor = outcome at here ⊢
      cases here with
      | ok emitted reaches passed offers =>
          exact .ok emitted reaches passed offers
      | error emitted stands' => exact induction others (stands'.further stands)

theorem Grounded.firstOf {others : List (Rule α)}
    (grounded : rule.Grounded starts)
    (each : ∀ rule ∈ others, rule.Grounded starts) :
    (Rule.firstOf rule others).Grounded starts := by
  intro cursor
  have here := grounded cursor
  unfold Rule.firstOf
  generalize rule cursor = outcome at here ⊢
  cases here with
  | ok emitted reaches passed offers => exact .ok emitted reaches passed offers
  | error emitted stands => exact firstAfter_grounded each stands

theorem Grounded.orElse {other : Rule α} (grounded : rule.Grounded starts)
    (grounded' : other.Grounded starts) :
    (rule.orElse other).Grounded starts := by
  intro cursor
  simp only [Rule.orElse]
  split
  · exact grounded cursor
  · split
    · exact grounded' cursor
    · exact (grounded cursor).better (grounded' cursor)

theorem Grounded.optional (grounded : rule.Grounded starts) :
    rule.optional.Grounded untold := by
  intro cursor
  have here := grounded cursor
  unfold Rule.optional
  generalize rule cursor = outcome at here ⊢
  cases here with
  | ok emitted reaches passed _ =>
      exact .ok emitted reaches passed (List.forall_mem_nil _)
  | error _ stands =>
      refine .ok (List.forall_mem_nil _) (.refl cursor) ?_ (List.forall_mem_nil _)
      intro met same
      cases same
      exact stands

/-- The items of a run, and what was met on the way, stand in the input. -/
structure RunGrounded (starts : α → List Nat) (cursor : Cursor) (run : Run α) :
    Prop where
  emitted : ∀ met ∈ run.emitted, met.Stands cursor
  reaches : cursor.Reaches run.next
  passed : ∀ met ∈ run.passed, met.Stands cursor
  stopped : run.stopped.Stands cursor
  offers : ∀ start ∈ run.items.flatMap starts, cursor.Offers start

section

variable {origin cursor : Cursor} {run : Run α} {item : Rule α}
  {separator : Rule β}

theorem RunGrounded.behind {emitted : List Fault} {value : α}
    (grounded : RunGrounded starts origin run)
    (emits : ∀ met ∈ emitted, met.Stands origin)
    (offers : ∀ start ∈ starts value, origin.Offers start) :
    RunGrounded starts origin
      { run with
        items := value :: run.items
        emitted := emitted ++ run.emitted } where
  emitted := List.forall_mem_append.mpr ⟨emits, grounded.emitted⟩
  reaches := grounded.reaches
  passed := grounded.passed
  stopped := grounded.stopped
  offers := by
    rw [List.flatMap_cons]
    exact List.forall_mem_append.mpr ⟨offers, grounded.offers⟩

theorem Grounded.at (grounded : rule.Grounded starts)
    (reaches : origin.Reaches cursor) :
    Reading.Grounded starts origin (rule cursor) := by
  have here := grounded cursor
  generalize rule cursor = outcome at here ⊢
  cases here with
  | ok emitted further passed offers =>
      exact .ok (fun met among => (emitted met among).of_reaches reaches)
        (reaches.trans further)
        (fun met among => (passed met among).of_reaches reaches)
        fun start among => (offers start among).of_reaches reaches
  | error emitted stands =>
      exact .error (fun met among => (emitted met among).of_reaches reaches)
        (stands.of_reaches reaches)

theorem moreItems_grounded (grounded : item.Grounded starts)
    (grounded' : separator.Grounded starts') {bound : Nat}
    {passed : Option Fault} (reaches : origin.Reaches cursor)
    (stand : ∀ met ∈ passed, met.Stands origin) :
    RunGrounded starts origin (moreItems item separator bound passed cursor) := by
  induction bound generalizing cursor passed with
  | zero =>
      exact ⟨List.forall_mem_nil _, reaches, stand,
        (cursor.unexpected_stands _).of_reaches reaches, List.forall_mem_nil _⟩
  | succ bound induction =>
      have separated := grounded'.at reaches
      rw [moreItems]
      generalize separator cursor = separation at separated ⊢
      cases separated with
      | error emitted stands =>
          exact ⟨emitted, reaches, stand, stands, List.forall_mem_nil _⟩
      | @ok _ _ next _ emitted reaches' passed' _ =>
          have noted := stands_note stand passed'
          have read := grounded.at reaches'
          dsimp only
          generalize item next = outcome at read ⊢
          cases read with
          | error emitted' stands =>
              exact ⟨List.forall_mem_append.mpr ⟨emitted, emitted'⟩, reaches,
                noted, stands, List.forall_mem_nil _⟩
          | ok emitted' further passed'' offers =>
              exact (induction further (stands_note noted passed'')).behind
                (List.forall_mem_append.mpr ⟨emitted, emitted'⟩) offers

theorem items_grounded (grounded : item.Grounded starts)
    (grounded' : separator.Grounded starts') (cursor : Cursor) :
    RunGrounded starts cursor (items item separator cursor) := by
  have read := grounded cursor
  unfold items
  generalize item cursor = outcome at read ⊢
  cases read with
  | error emitted stands =>
      exact ⟨emitted, .refl cursor, nofun, stands, List.forall_mem_nil _⟩
  | ok emitted reaches passed offers =>
      exact (moreItems_grounded grounded grounded' reaches passed).behind
        emitted offers

theorem Grounded.separatedList (grounded : item.Grounded starts)
    (grounded' : separator.Grounded starts') :
    (item.separatedList separator).Grounded (List.flatMap starts) := by
  intro cursor
  obtain ⟨emitted, reaches, passed, stopped, offers⟩ :=
    items_grounded grounded grounded' cursor
  have stand {fault : Fault} (stands : fault.Stands cursor) :
      ∀ met ∈ some fault, met.Stands cursor := by
    intro met same
    cases same
    exact stands
  unfold Rule.separatedList
  dsimp only
  split
  · exact .ok emitted reaches (stands_note passed (stand stopped)) offers
  · have separated := grounded'.at reaches
    generalize separator (items item separator cursor).next = separation at separated ⊢
    cases separated with
    | error _ stands =>
        exact .ok emitted reaches
          (stands_note (stands_note passed (stand stands)) (stand stopped)) offers
    | ok _ further passed' _ =>
        exact .ok emitted further
          (stands_note (stands_note passed passed') (stand stopped)) offers

theorem Grounded.separatedChain (grounded : item.Grounded starts)
    (grounded' : separator.Grounded starts') :
    (item.separatedChain separator).Grounded (List.flatMap starts) := by
  intro cursor
  obtain ⟨emitted, reaches, passed, stopped, offers⟩ :=
    items_grounded grounded grounded' cursor
  unfold Rule.separatedChain
  dsimp only
  split
  · exact .error emitted stopped
  · refine .ok emitted reaches (stands_note passed ?_) offers
    intro met same
    cases same
    exact stopped

end

theorem Grounded.located (grounded : rule.Grounded starts) :
    rule.located.Grounded fun found => [found.2] := by
  intro cursor
  have here := grounded cursor
  unfold Rule.located
  generalize rule cursor = outcome at here ⊢
  cases here with
  | ok emitted reaches passed _ =>
      exact .ok emitted reaches passed
        (List.forall_mem_singleton.mpr cursor.offers_start)
  | error emitted stands => exact .error emitted stands

theorem Grounded.refine (grounded : rule.Grounded starts)
    (check : α → Except Objection β) : (rule.refine check).Grounded untold := by
  intro cursor
  have here := grounded cursor
  unfold Rule.refine
  generalize rule cursor = outcome at here ⊢
  cases here with
  | error emitted stands => exact .error emitted stands
  | @ok _ value _ _ emitted reaches passed _ =>
      dsimp only
      cases check value with
      | ok value => exact .ok emitted reaches passed (List.forall_mem_nil _)
      | error objection =>
          exact .error emitted (cursor.offers_start.object objection)

/-- Objections to starts that the value tells of. -/
theorem Grounded.inspect {check : α → β × List (Nat × Objection)}
    (grounded : rule.Grounded starts)
    (told : ∀ value, (check value).2.map Prod.fst ⊆ starts value) :
    (rule.inspect check).Grounded untold := by
  intro cursor
  have here := grounded cursor
  unfold Rule.inspect
  generalize rule cursor = outcome at here ⊢
  cases here with
  | error emitted stands => exact .error emitted stands
  | @ok _ value _ _ emitted reaches passed offers =>
      refine .ok (List.forall_mem_append.mpr ⟨emitted, ?_⟩) reaches passed
        (List.forall_mem_nil _)
      intro met among
      obtain ⟨⟨start, objection⟩, objected, rfl⟩ := List.mem_map.mp among
      exact (offers start (told value
        (List.mem_map_of_mem (f := Prod.fst) objected))).object objection

end

/-! ## Rules of the two notations -/

theorem identifier_grounded : identifier.Grounded untold :=
  (token_grounded (by decide)).to _

theorem number_grounded : number.Grounded untold :=
  (token_grounded (by decide)).to _

theorem quoted_grounded {kind : Token.Kind} (valid : kind ≠ .invalid) :
    (quoted kind).Grounded untold :=
  (token_grounded valid).to _

theorem boolean_grounded : boolean.Grounded untold :=
  (((token_grounded (by decide)).to _).orElse ((token_grounded (by decide)).to _))

theorem integer_grounded : integer.Grounded untold :=
  (token_grounded (by decide)).refine _

theorem lineColumn_grounded : lineColumn.Grounded untold :=
  (((integer_grounded.thenSkip (token_grounded (by decide))).andThen
    integer_grounded).between (by decide) (by decide)).forget

theorem sourceSpan_grounded : sourceSpan.Grounded untold :=
  ((((((integer_grounded.thenSkip (token_grounded (by decide))).andThen
    integer_grounded).thenSkip (token_grounded (by decide))).andThen
      lineColumn_grounded).thenSkip (token_grounded (by decide))).andThen
        lineColumn_grounded |>.between (by decide) (by decide)).to _

theorem location_grounded : location.Grounded untold :=
  ((((token_grounded (by decide)).to Token.body).andThen
    sourceSpan_grounded.optional).to _)

section

variable {ν τ : Type} {item : Rule τ} {name : Rule ν}

theorem Grounded.delimitedList {starts : τ → List Nat}
    (grounded : item.Grounded starts) {opening closing : Token.Kind}
    (valid : opening ≠ .invalid) (valid' : closing ≠ .invalid) :
    (delimitedList opening closing item).Grounded (List.flatMap starts) :=
  (grounded.separatedList (token_grounded (by decide))).between valid valid'

theorem Grounded.entry (grounded : item.Grounded untold) :
    item.entry.Grounded untold :=
  ((grounded.thenSkip (token_grounded (by decide))).andThen grounded).forget

theorem Grounded.itemArgument (grounded : item.Grounded untold)
    (asName : τ → Option ν) : (itemArgument item asName).Grounded untold := by
  refine (grounded.andThen ((token_grounded (by decide)).skipThen
    grounded).optional).located.inspect ?_
  intro found
  obtain ⟨⟨left, right⟩, start⟩ := found
  cases right with
  | none => exact List.nil_subset _
  | some value =>
      cases called : asName left with
      | none => simp [called]
      | some name => simp [called]

theorem misplaced_subset {before : Bool} (found : List (Argument ν τ × Nat)) :
    misplaced before found ⊆ found.map Prod.snd := by
  induction found generalizing before with
  | nil => exact List.nil_subset _
  | cons first found induction =>
      obtain ⟨argument, start⟩ := first
      cases argument with
      | named name value =>
          exact List.subset_cons_of_subset _ induction
      | positional value =>
          rw [misplaced]
          split
          · exact List.cons_subset_cons _ induction
          · exact List.subset_cons_of_subset _ induction

theorem Grounded.arguments (groundedName : name.Grounded untold)
    (grounded : item.Grounded untold) (asName : τ → Option ν) :
    (arguments name item asName).Grounded untold := by
  have named : (namedArgument name item).Grounded untold :=
    ((groundedName.thenSkip (token_grounded (by decide))).andThen grounded).to _
  have either := (named.orElse (grounded.itemArgument asName)).located
  refine (either.delimitedList (by decide) (by decide)).inspect ?_
  intro found
  have objected : ((misplaced false found).map fun start =>
      (start, Objection.positionalAfterNamed)).map Prod.fst =
      misplaced false found := by
    rw [List.map_map]
    exact List.map_id _
  have offered : found.flatMap (fun argument => [argument.2]) =
      found.map Prod.snd := List.map_eq_flatMap.symm
  rw [objected, offered]
  exact misplaced_subset found

/-- Collections, numbers, truth values and locations. -/
theorem Grounded.sharedRules (grounded : item.Grounded untold)
    (map : List (τ × τ) → τ) (set list tuple : List τ → τ) (number : String → τ)
    (boolean : Bool → τ) (location : Location → τ) :
    ∀ rule ∈ [(Rule.delimitedList .openParen .closeParen item.entry).map map,
      (Rule.delimitedList .openBrace .closeBrace item).map set,
      (Rule.delimitedList .openBracket .closeBracket item).map list,
      (Rule.delimitedList .openAngle .closeAngle item).map tuple,
      Rule.number.map number, Rule.boolean.map boolean,
      Rule.location.map location], rule.Grounded untold := by
  simp only [List.forall_mem_cons]
  exact ⟨(grounded.entry.delimitedList (by decide) (by decide)).to _,
    (grounded.delimitedList (by decide) (by decide)).to _,
    (grounded.delimitedList (by decide) (by decide)).to _,
    (grounded.delimitedList (by decide) (by decide)).to _,
    number_grounded.to _, boolean_grounded.to _, location_grounded.to _,
    List.forall_mem_nil _⟩

end

end Rule

end TreeQuery.Reading
