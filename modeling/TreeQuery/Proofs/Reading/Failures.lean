import TreeQuery.Pattern.Reader
import TreeQuery.Proofs.Reading.Standing
import TreeQuery.Proofs.Token.Places
import TreeQuery.Value.Reader

/-!
# Where failures stand

A failure of either reader stands where a token of the source starts or where
the source ends, never behind a token that is invalid.
-/

namespace TreeQuery

open Reading

/-- The failure stands at a token or at the end of the source, and not behind an
invalid token.  What it tells of as found is the token there, or the end. -/
structure SyntaxFailure.Stands (source : String) (failure : SyntaxFailure) :
    Prop where
  place : failure.index = source.length ∨ ∃ token ∈ tokenize source,
    failure.index = charOffset source token.start
  valid : ∀ token ∈ tokenize source, token.kind = .invalid →
    failure.index ≤ charOffset source token.start
  found : ∀ text ∈ failure.found,
    failure.index = source.length ∧ text = "end of input" ∨
      ∃ token ∈ tokenize source,
        failure.index = charOffset source token.start ∧
          text = token.kind.description
  ends : failure.found = some "end of input" ↔ failure.index = source.length

section

variable {source : String} {fault : Fault} {forValues : Bool} {token : Token}

private theorem charOffset_utf8ByteSize (source : String) :
    charOffset source source.utf8ByteSize = source.length := by
  have size : source.utf8ByteSize = Token.byteLength source.toList := by
    rw [← Token.utf8ByteSize_ofList, String.ofList_toList]
  rw [size, charOffset_byteLength (List.prefix_refl _), String.length_toList]

/-- A token starts before the source ends. -/
private theorem charOffset_start_lt (among : token ∈ tokenize source) :
    charOffset source token.start < source.length := by
  have before := (tokenize_lies among).start_lt_stop
  have within := (boundary_stop among).le_utf8ByteSize
  rw [← charOffset_utf8ByteSize]
  refine Nat.lt_of_not_le fun less => ?_
  have order := (charOffset_le_iff boundary_utf8ByteSize
    (boundary_start among)).mp less
  omega

private theorem description_ne_end (kind : Token.Kind) :
    kind.description ≠ "end of input" := by
  cases kind <;> decide

/-- A place that valid tokens lead to is not behind an invalid token. -/
private theorem start_le_of_reaches {place : Cursor}
    (reaches : (startOf source (tokenize source)).Reaches place)
    (among : token ∈ tokenize source) (invalid : token.kind = .invalid) :
    place.start ≤ token.start := by
  obtain ⟨word, passes, valid⟩ := reaches
  have split : tokenize source = word ++ place.ahead := passes.ahead
  have behind : token ∈ place.ahead := by
    rw [split] at among
    rcases List.mem_append.mp among with inside | behind
    · exact absurd invalid (valid token inside)
    · exact behind
  have ordered := tokenize_pairwise source
  rw [split] at ordered
  rw [Cursor.start]
  cases ahead : place.ahead with
  | nil =>
      rw [ahead] at behind
      cases behind
  | cons first rest =>
      rw [ahead] at behind ordered split
      rcases List.mem_cons.mp behind with rfl | later
      · exact Nat.le_refl _
      · have pairs := (List.pairwise_append.mp ordered).2.1
        have inside : first ∈ tokenize source := by simp [split]
        have before := (List.pairwise_cons.mp pairs).1 token later
        have further := (tokenize_lies inside).start_lt_stop
        dsimp only
        omega

section

variable (least : ∀ token ∈ tokenize source, token.kind = .invalid →
  fault.start ≤ token.start)

include least

private theorem stands_at_end (start : fault.start = source.utf8ByteSize)
    (none : fault.found = none) :
    (failureOf source forValues fault).Stands source := by
  have shown : (failureOf source forValues fault).found =
      some "end of input" := by
    change foundText source fault = _
    rw [foundText, none, start]
    exact if_pos (Nat.le_refl _)
  have last : (failureOf source forValues fault).index = source.length := by
    change charOffset source fault.start = _
    rw [start, charOffset_utf8ByteSize]
  refine ⟨.inl last, ?_, ?_, iff_of_true shown last⟩
  · intro token among invalid
    -- The token would start behind the end.
    have before := (tokenize_lies among).start_lt_stop
    have within := (boundary_stop among).le_utf8ByteSize
    have less := least token among invalid
    omega
  · intro given member
    rw [shown] at member
    cases member
    exact .inl ⟨last, rfl⟩

private theorem stands_at_token (among : token ∈ tokenize source)
    (start : fault.start = token.start)
    (found : fault.found = none ∨ fault.found = some token) :
    (failureOf source forValues fault).Stands source := by
  have index : (failureOf source forValues fault).index =
      charOffset source token.start := by
    change charOffset source fault.start = _
    rw [start]
  have size : ¬source.utf8ByteSize ≤ fault.start := by
    have before := (tokenize_lies among).start_lt_stop
    have within := (boundary_stop among).le_utf8ByteSize
    omega
  have shown : ∀ text ∈ (failureOf source forValues fault).found,
      text = token.kind.description := by
    intro text member
    change text ∈ foundText source fault at member
    rw [foundText] at member
    rcases found with none | here
    · simp [none, size] at member
    · rw [here] at member
      exact (Option.some.inj member).symm
  refine ⟨.inr ⟨token, among, index⟩, ?_, ?_, ?_⟩
  · intro broken inside invalid
    rw [index]
    exact (charOffset_le_iff (boundary_start among)
      (boundary_start inside)).mpr (start ▸ least broken inside invalid)
  · intro given member
    exact .inr ⟨token, among, index, shown given member⟩
  · rw [index]
    refine iff_of_false ?_ (Nat.ne_of_lt (charOffset_start_lt among))
    intro same
    exact description_ne_end token.kind (shown _ same).symm

end

theorem Reading.Fault.Stands.failure
    (stands : fault.Stands (startOf source (tokenize source))) :
    (failureOf source forValues fault).Stands source := by
  obtain ⟨place, reaches, start, found⟩ := stands
  have least : ∀ token ∈ tokenize source, token.kind = .invalid →
      fault.start ≤ token.start :=
    fun token among invalid => start ▸ start_le_of_reaches reaches among invalid
  obtain ⟨word, passes, -⟩ := reaches
  have split : tokenize source = word ++ place.ahead := passes.ahead
  cases ahead : place.ahead with
  | nil =>
      have place : fault.start = source.utf8ByteSize := by
        rw [start, Cursor.start, ahead]
        exact passes.sourceEnd
      exact stands_at_end least place (by simpa [ahead] using found)
  | cons first rest =>
      have inside : first ∈ tokenize source := by simp [split, ahead]
      have place : fault.start = first.start := by
        rw [start, Cursor.start, ahead]
      exact stands_at_token least inside place (by simpa [ahead] using found)

variable {α : Type} {rule : List Token → Rule α} {failure : SyntaxFailure}
  (grounded : ∀ tokens, (rule tokens).Grounded untold)

include grounded

private theorem stands_of_readAll
    (failed : readAll forValues rule source = .error failure) :
    failure.Stands source := by
  have whole : Grounded untold (startOf source (tokenize source))
      (wholeReading rule source) :=
    (grounded (tokenize source)).thenSkip Rule.finish_grounded _
  rcases readAll_error_cases failed with ⟨fault, among, rfl⟩ |
    ⟨fault, result, rfl, -⟩
  · exact (whole.emitted fault among).failure
  · exact (whole.fault fault (by simp [Outcome.fault?, result])).failure

theorem valid_of_readAll {value : α}
    (read : readAll forValues rule source = .ok value) :
    ∀ token ∈ tokenize source, token.kind ≠ .invalid := by
  rw [readAll_eq_ok_iff] at read
  obtain ⟨next, ⟨passed, outcome⟩, ends⟩ := read
  have given := grounded (tokenize source) (startOf source (tokenize source))
  rw [outcome] at given
  cases given with
  | ok _ reaches _ _ =>
      obtain ⟨word, passes, valid⟩ := reaches
      have split : tokenize source = word ++ next.ahead := passes.ahead
      rwa [split, ends, List.append_nil]

end

/-! ## The two readers -/

private theorem refusal_grounded {α : Type} {starts : α → List Nat} :
    Rule.Grounded (fun cursor => .refuse (cursor.unexpected [])) starts :=
  fun cursor => .error (List.forall_mem_nil _) (cursor.unexpected_stands _)

namespace Value

theorem constrRule_grounded {kind : ConstructorKind} {name : Rule String}
    {item : Rule Value} (groundedName : name.Grounded untold)
    (grounded : item.Grounded untold) :
    (constrRule kind name item).Grounded untold :=
  (groundedName.andThen (Rule.Grounded.arguments Rule.identifier_grounded
    grounded _)).to _

theorem rule_grounded (depth : Nat) : (rule depth).Grounded untold := by
  induction depth with
  | zero => exact refusal_grounded
  | succ depth grounded =>
      have string : (Rule.quoted .string).Grounded untold :=
        Rule.quoted_grounded (by decide)
      apply Rule.Grounded.firstOf
        (constrRule_grounded Rule.identifier_grounded grounded)
      exact List.forall_mem_cons.mpr
        ⟨constrRule_grounded (string.to _) grounded, List.forall_mem_cons.mpr
          ⟨string.to _, grounded.sharedRules _ _ _ _ _ _ _⟩⟩

end Value

namespace Pattern

section

variable (readRegex : RegexReader) {item : Rule Pattern}

theorem regexRule_grounded : (regexRule readRegex).Grounded untold := by
  refine ((Rule.token_grounded (by decide)).to _).located.inspect ?_
  intro found
  obtain ⟨body, start⟩ := found
  cases outcome : readRegex body with
  | ok expression => simp [outcome]
  | error message => simp [outcome]

theorem nameRule_grounded : (nameRule readRegex).Grounded untold := by
  apply Rule.Grounded.firstOf (Rule.identifier_grounded.to _)
  simp only [List.forall_mem_cons]
  exact ⟨(Rule.quoted_grounded (by decide)).to _,
    (regexRule_grounded readRegex).to _,
    (Rule.quoted_grounded (by decide)).to _, List.forall_mem_nil _⟩

theorem atomRule_grounded (grounded : item.Grounded untold) :
    (atomRule readRegex item).Grounded untold := by
  have wild {kind : Token.Kind} (valid : kind ≠ .invalid) :
      (Rule.token kind).Grounded untold := Rule.token_grounded valid
  have name := (nameRule_grounded readRegex).andThen
    (Rule.Grounded.arguments (Rule.identifier_grounded.to NamePattern.identifier)
      grounded fieldName?)
  have plain := grounded.sharedRules map set list tuple number boolean location
  apply Rule.Grounded.firstOf (((wild (by decide)).orElse (wild (by decide))).to _)
  simp only [List.forall_mem_cons] at plain ⊢
  exact ⟨name.to _, (Rule.quoted_grounded (by decide)).to _,
    (regexRule_grounded readRegex).to _, (Rule.quoted_grounded (by decide)).to _,
    plain⟩

theorem termRule_grounded {atom : Rule Pattern}
    (grounded : atom.Grounded untold) : (termRule atom).Grounded untold := by
  have star : (Rule.token .star).Grounded untold :=
    Rule.token_grounded (by decide)
  apply Rule.Grounded.firstOf ((star.skipThen grounded).to _)
  exact List.forall_mem_singleton.mpr ((grounded.andThen star.optional).to _)

theorem rule_grounded (depth : Nat) :
    (rule readRegex depth).Grounded untold := by
  induction depth with
  | zero => exact refusal_grounded
  | succ depth grounded =>
      exact ((termRule_grounded (atomRule_grounded readRegex
        grounded)).separatedChain (Rule.token_grounded (by decide))).to _

end

end Pattern

/-- Whatever either reader refuses, the failure stands at a token or at the end of
the source.  Both refuse every source with an invalid token, and not behind the
first one. -/
theorem failures_stand (readRegex : Pattern.RegexReader) (source : String) :
    (∀ failure, Value.read source = .error failure →
        failure.Stands source) ∧
      (∀ failure, Pattern.readWith readRegex source = .error failure →
        failure.Stands source) ∧
      ((∃ token ∈ tokenize source, token.kind = .invalid) →
        (∃ failure, Value.read source = .error failure) ∧
          ∃ failure, Pattern.readWith readRegex source = .error failure) := by
  have values := fun (tokens : List Token) =>
    Value.rule_grounded (tokens.length + 1)
  have patterns := fun (tokens : List Token) =>
    Pattern.rule_grounded readRegex (tokens.length + 1)
  refine ⟨fun _ => stands_of_readAll values, fun _ => stands_of_readAll patterns,
    ?_⟩
  intro broken
  obtain ⟨token, among, invalid⟩ := broken
  constructor
  · cases read : Value.read source with
    | error failure => exact ⟨failure, rfl⟩
    | ok value => exact absurd invalid (valid_of_readAll values read token among)
  · cases read : Pattern.readWith readRegex source with
    | error failure => exact ⟨failure, rfl⟩
    | ok pattern =>
        exact absurd invalid (valid_of_readAll patterns read token among)

theorem failures_stand_behind_text :
    let source := "[\"é\" 2 $]"
    let failure : SyntaxFailure := ⟨5, ["','", "']'"], some "number", none⟩
    Value.read source = .error failure ∧ failure.Stands source := by
  intro source failure
  have refused : Value.read source = .error failure := by
    decide +kernel
  exact ⟨refused, (failures_stand Pattern.regexReader source).1 failure refused⟩

end TreeQuery
