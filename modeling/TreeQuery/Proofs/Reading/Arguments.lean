import TreeQuery.Proofs.Reading.Lists

/-!
# Arguments

The arguments of a constructor are read as one list of positional and named
arguments.  The list is accepted when no positional argument follows a named
one, and then it splits into the two kinds.
-/

namespace TreeQuery.Reading

variable {ν τ : Type}

/-- A name, an equals sign and a value. -/
def DerivesField (derivesName : List Token → ν → Prop)
    (derives : List Token → τ → Prop) (tokens : List Token) (field : ν × τ) :
    Prop :=
  ∃ left equals right, tokens = left ++ equals :: right ∧
    equals.kind = .equals ∧ derivesName left field.1 ∧ derives right field.2

/-- The tokens of an argument, positional or named. -/
def DerivesArgument (derivesName : List Token → ν → Prop)
    (derives : List Token → τ → Prop) (tokens : List Token) :
    Argument ν τ → Prop
  | .positional value => derives tokens value
  | .named name value => DerivesField derivesName derives tokens (name, value)

/-- The tokens of positional arguments and then named ones, in parentheses. -/
def DerivesArguments (derivesName : List Token → ν → Prop)
    (derives : List Token → τ → Prop) (tokens : List Token)
    (found : List τ × List (ν × τ)) : Prop :=
  ∃ pieces fieldPieces,
    Enclosed .openParen .closeParen (pieces ++ fieldPieces) tokens ∧
      List.Forall₂ derives pieces found.1 ∧
      List.Forall₂ (DerivesField derivesName derives) fieldPieces found.2

theorem DerivesField.within {derivesName : List Token → ν → Prop}
    {derives : List Token → τ → Prop} {bound : Nat} {tokens : List Token}
    {field : ν × τ}
    (short : Within bound (DerivesField derivesName derives) tokens field) :
    DerivesField derivesName (Within bound derives) tokens field := by
  obtain ⟨fits, left, equals, right, rfl, kind, name, value⟩ := short
  rw [List.length_append, List.length_cons] at fits
  refine ⟨left, equals, right, rfl, kind, name, ?_, value⟩
  omega

theorem DerivesArgument.nonempty {derivesName : List Token → ν → Prop}
    {derives : List Token → τ → Prop} {tokens : List Token}
    {argument : Argument ν τ}
    (derived : DerivesArgument derivesName derives tokens argument)
    (each : ∀ tokens value, derives tokens value → tokens ≠ []) :
    tokens ≠ [] := by
  cases argument with
  | positional value => exact each tokens value derived
  | named name value =>
      obtain ⟨left, equals, right, rfl, _⟩ := derived
      simp

/-- Positional arguments and then named ones. -/
def inOrder (positional : List τ) (named : List (ν × τ)) :
    List (Argument ν τ) :=
  positional.map .positional ++ named.map fun field => .named field.1 field.2

namespace Argument

@[simp]
theorem positional?_positional (value : τ) :
    (positional value : Argument ν τ).positional? = some value := rfl

@[simp]
theorem positional?_named (name : ν) (value : τ) :
    (named name value).positional? = none := rfl

@[simp]
theorem named?_positional (value : τ) :
    (positional value : Argument ν τ).named? = none := rfl

@[simp]
theorem named?_named (name : ν) (value : τ) :
    (named name value).named? = some (name, value) := rfl

end Argument

section

variable {found : List (Argument ν τ × Nat)}

theorem misplaced_true_iff :
    misplaced true found = [] ↔
      found.map Prod.fst = inOrder [] (found.filterMap (·.1.named?)) := by
  induction found with
  | nil => simp [misplaced, inOrder]
  | cons first rest induction =>
      obtain ⟨value | ⟨name, value⟩, start⟩ := first
      · cases named : rest.filterMap (·.1.named?) <;>
          simp [misplaced, inOrder, List.filterMap_cons, named]
      · simpa [misplaced, inOrder, List.filterMap_cons] using induction

theorem positional_of_inOrder {positional : List τ} {named : List (ν × τ)}
    (ordered : found.map Prod.fst = inOrder positional named) :
    found.filterMap (·.1.positional?) = positional := by
  have mapped : (found.map Prod.fst).filterMap Argument.positional? =
      positional := by
    simp [ordered, inOrder, List.filterMap_append, List.filterMap_map,
      Function.comp_def]
  rwa [List.filterMap_map] at mapped

theorem named_of_inOrder {positional : List τ} {named : List (ν × τ)}
    (ordered : found.map Prod.fst = inOrder positional named) :
    found.filterMap (·.1.named?) = named := by
  have mapped : (found.map Prod.fst).filterMap Argument.named? = named := by
    simp [ordered, inOrder, List.filterMap_append, List.filterMap_map,
      Function.comp_def]
  rwa [List.filterMap_map] at mapped

/-- Nothing is out of place exactly when the positional arguments come first. -/
theorem misplaced_false_iff :
    misplaced false found = [] ↔
      found.map Prod.fst = inOrder (found.filterMap (·.1.positional?))
        (found.filterMap (·.1.named?)) := by
  induction found with
  | nil => simp [misplaced, inOrder]
  | cons first rest induction =>
      obtain ⟨value | ⟨name, value⟩, start⟩ := first
      · simpa [misplaced, inOrder, List.filterMap_cons] using induction
      · simp only [misplaced, misplaced_true_iff]
        constructor
        · intro ordered
          have none := positional_of_inOrder ordered
          simpa [inOrder, List.filterMap_cons, none] using ordered
        · intro ordered
          cases positional : rest.filterMap (·.1.positional?) <;>
            simp_all [inOrder, List.filterMap_cons]

end

namespace Rule

section

variable {name : Rule ν} {item : Rule τ} {asName : τ → Option ν}
  {derivesName : List Token → ν → Prop} {derives : List Token → τ → Prop}

theorem Sound.namedArgument (soundName : name.Sound derivesName)
    (sound : item.Sound derives) :
    (namedArgument name item).Sound (DerivesArgument derivesName derives) := by
  apply (soundName.separated sound).map
  intro tokens field derived
  exact derived

theorem Sound.itemArgument (sound : item.Sound derives)
    (names : ∀ ⦃tokens value given⦄, derives tokens value →
      asName value = some given → derivesName tokens given) :
    (itemArgument item asName).Sound (DerivesArgument derivesName derives) := by
  intro cursor next argument reads
  obtain ⟨⟨⟨left, right⟩, start⟩, read, check⟩ := reads_inspect_iff.mp reads
  obtain ⟨readBoth, -⟩ := reads_located_iff.mp read
  obtain ⟨middle, readLeft, readRight⟩ := reads_andThen_iff.mp readBoth
  obtain ⟨tokens, passes, derived⟩ := sound readLeft
  rcases readRight.optional_cases with ⟨value, rfl, readValue⟩ | ⟨rfl, rfl⟩
  · obtain ⟨equals, behind, readEquals, readItem⟩ :=
      reads_skipThen_iff.mp readValue
    obtain ⟨kind, passesEquals⟩ := reads_token_iff.mp readEquals
    obtain ⟨tokens', passes', derived'⟩ := sound readItem
    cases called : asName left with
    | none => simp [called] at check
    | some given =>
        obtain rfl : .named given value = argument := by
          simpa [called] using check
        exact ⟨tokens ++ equals :: tokens',
          passes.append (passesEquals.append passes'), tokens, equals, tokens',
          rfl, kind, names derived called, derived'⟩
  · obtain rfl : .positional left = argument := by simpa using check
    exact ⟨tokens, passes, derived⟩

theorem Sound.orElse {α : Type} {first second : Rule α}
    {property : List Token → α → Prop} (sound : first.Sound property)
    (sound' : second.Sound property) :
    (first.orElse second).Sound property := by
  intro cursor next value reads
  rcases reads.orElse_cases with read | read
  · exact sound read
  · exact sound' read

theorem Sound.located {α : Type} {rule : Rule α}
    {property : List Token → α → Prop} (sound : rule.Sound property) :
    rule.located.Sound fun tokens value => property tokens value.1 := by
  intro cursor next value reads
  exact sound (reads_located_iff.mp reads).1

theorem derivesArguments_of_inOrder {pieces tokens}
    {positional : List τ} {named : List (ν × τ)}
    (enclosed : Enclosed .openParen .closeParen pieces tokens)
    (all : List.Forall₂ (DerivesArgument derivesName derives) pieces
      (inOrder positional named)) :
    DerivesArguments derivesName derives tokens (positional, named) := by
  have left := List.forall₂_take_append _ _ _ all
  have right := List.forall₂_drop_append _ _ _ all
  rw [List.forall₂_map_right_iff] at left right
  refine ⟨_, _, ?_, left, right⟩
  rw [List.take_append_drop]
  exact enclosed

theorem Sound.arguments (soundName : name.Sound derivesName)
    (sound : item.Sound derives)
    (names : ∀ ⦃tokens value given⦄, derives tokens value →
      asName value = some given → derivesName tokens given) :
    (arguments name item asName).Sound
      (DerivesArguments derivesName derives) := by
  intro cursor next ⟨positional, named⟩ reads
  obtain ⟨found, read, check⟩ := reads_inspect_iff.mp reads
  have soundArgument :=
    (soundName.namedArgument sound).orElse (sound.itemArgument names)
  obtain ⟨tokens, passes, pieces, enclosed, all⟩ :=
    soundArgument.located.delimitedList read
  refine ⟨tokens, passes, ?_⟩
  simp only [Prod.mk.injEq, List.map_eq_nil_iff] at check
  obtain ⟨⟨rfl, rfl⟩, ordered⟩ := check
  rw [misplaced_false_iff] at ordered
  apply derivesArguments_of_inOrder enclosed
  rw [← ordered, List.forall₂_map_right_iff]
  exact all

/-- A named argument is read only where a name and an equals sign come next. -/
theorem Sound.namedArgument_ahead {kind : Token.Kind}
    (soundName : name.Sound fun tokens _ =>
      ∃ token, tokens = [token] ∧ token.kind = kind)
    {cursor next : Cursor} {argument : Argument ν τ}
    (reads : (Rule.namedArgument name item).Reads cursor argument next) :
    ∃ first second rest, cursor.ahead = first :: second :: rest ∧
      first.kind = kind ∧ second.kind = .equals := by
  obtain ⟨_, readBoth, _⟩ := reads_map_iff.mp reads
  obtain ⟨middle, readName, _⟩ := reads_andThen_iff.mp readBoth
  obtain ⟨before, readToken, equals, readEquals⟩ :=
    reads_thenSkip_iff.mp readName
  obtain ⟨_, passesName, first, rfl, isName⟩ := soundName readToken
  obtain ⟨isEquals, passesEquals⟩ := reads_token_iff.mp readEquals
  exact ⟨first, equals, middle.ahead, (passesName.append passesEquals).ahead,
    isName, isEquals⟩

/-- An item on its own is no name with an equals sign behind it. -/
theorem Complete.positional {prevents : Token.Kind → Prop}
    (complete : item.Complete derives prevents)
    {cursor next : Cursor} {tokens : List Token} {value : τ}
    (derived : derives tokens value) (passes : cursor.Passes tokens next)
    (fits : ∀ kind ∈ next.nextKind?, ¬prevents kind)
    (alone : next.nextKind? ≠ some .equals) :
    (itemArgument item asName).Reads cursor (.positional value) next := by
  have unnamed :
      (((token .equals).skipThen item).optional).Reads next none next :=
    (token_refuses alone).skipThen.optional
  apply reads_inspect_iff.mpr
  refine ⟨((value, none), cursor.start), ?_, rfl⟩
  apply reads_located_iff.mpr
  refine ⟨?_, rfl⟩
  apply reads_andThen_iff.mpr
  exact ⟨next, complete derived passes fits, unnamed⟩

/-- An item that is a name, an equals sign and another item. -/
theorem Complete.namedItem {prevents : Token.Kind → Prop}
    (complete : item.Complete derives prevents) (allowed : ¬prevents .equals)
    {cursor next : Cursor} {left right : List Token} {equals : Token}
    {first value : τ} {given : ν} (derivedFirst : derives left first)
    (called : asName first = some given) (kind : equals.kind = .equals)
    (derived : derives right value)
    (passes : cursor.Passes (left ++ equals :: right) next)
    (fits : ∀ kind ∈ next.nextKind?, ¬prevents kind) :
    (itemArgument item asName).Reads cursor (.named given value) next := by
  obtain ⟨middle, passesFirst, passesRest⟩ := Cursor.passes_append_iff.mp passes
  obtain ⟨behind, passesEquals, passesValue⟩ :=
    Cursor.passes_cons_iff.mp passesRest
  have atEquals : ∀ kind ∈ middle.nextKind?, ¬prevents kind :=
    passesRest.forall_nextKind? (by rwa [kind])
  have readRest : ((token .equals).skipThen item).optional.Reads middle
      (some value) next := by
    apply Reads.optional
    apply reads_skipThen_iff.mpr
    exact ⟨equals, behind, reads_token_iff.mpr ⟨kind, passesEquals⟩,
      complete derived passesValue fits⟩
  apply reads_inspect_iff.mpr
  refine ⟨((first, some value), cursor.start), ?_, by simp [called]⟩
  apply reads_located_iff.mpr
  refine ⟨?_, rfl⟩
  apply reads_andThen_iff.mpr
  exact ⟨middle, complete derivedFirst passesFirst atEquals, readRest⟩

theorem Refuses.argument {cursor : Cursor} (refusesName : name.Refuses cursor)
    (refuses : item.Refuses cursor) :
    ((namedArgument name item).orElse (itemArgument item asName)).Refuses
      cursor :=
  refusesName.thenSkip.andThen.map.orElse refuses.andThen.located.inspect

/-- The start of a value that was read is the start of its first token. -/
theorem Complete.located {α : Type} {rule : Rule α}
    {property : List Token → α → Prop} {prevents : Token.Kind → Prop}
    (complete : rule.Complete property prevents)
    (nonempty : ∀ ⦃tokens value⦄, property tokens value → tokens ≠ []) :
    rule.located.Complete
      (fun tokens value => property tokens value.1 ∧
        ∀ token ∈ tokens.head?, value.2 = token.start)
      prevents := by
  intro cursor next tokens value derived passes fits
  obtain ⟨holds, starts⟩ := derived
  apply reads_located_iff.mpr
  refine ⟨complete holds passes fits, ?_⟩
  cases tokens with
  | nil => exact absurd rfl (nonempty holds)
  | cons token tokens =>
      rw [starts token rfl, Cursor.start, passes.ahead]
      rfl

theorem exists_located {pieces : List (List Token)}
    {arguments : List (Argument ν τ)}
    (all : List.Forall₂ (DerivesArgument derivesName derives) pieces
      arguments) :
    ∃ found : List (Argument ν τ × Nat), found.map Prod.fst = arguments ∧
      List.Forall₂ (fun tokens argument =>
        DerivesArgument derivesName derives tokens argument.1 ∧
          ∀ token ∈ tokens.head?, argument.2 = token.start) pieces found := by
  induction all with
  | nil => exact ⟨[], rfl, .nil⟩
  | @cons tokens argument _ _ derived _ induction =>
      obtain ⟨found, same, all⟩ := induction
      have starts : ∀ token ∈ tokens.head?,
          (tokens.head?.elim 0 Token.start) = token.start := by
        intro token member
        rw [member]
        rfl
      exact ⟨(argument, tokens.head?.elim 0 Token.start) :: found,
        by simp [same], .cons ⟨derived, starts⟩ all⟩

/-- A rule that is complete for single arguments makes the list of them
complete. -/
theorem Complete.arguments {prevents : Token.Kind → Prop}
    (complete : ((namedArgument name item).orElse
      (itemArgument item asName)).Complete
        (DerivesArgument derivesName derives) prevents)
    (nonempty : ∀ ⦃tokens⦄ ⦃argument : Argument ν τ⦄,
      DerivesArgument derivesName derives tokens argument → tokens ≠ [])
    (notComma : ¬prevents .comma) (notClosing : ¬prevents .closeParen)
    (refuses : ∀ cursor : Cursor, cursor.nextKind? = some .closeParen →
      ((namedArgument name item).orElse (itemArgument item asName)).Refuses
        cursor) :
    (arguments name item asName).Complete (DerivesArguments derivesName derives)
      fun _ => False := by
  intro cursor next tokens given derived passes fits
  obtain ⟨positional, named⟩ := given
  obtain ⟨pieces, fieldPieces, enclosed, allPositional, allNamed⟩ := derived
  have all : List.Forall₂ (DerivesArgument derivesName derives)
      (pieces ++ fieldPieces) (inOrder positional named) := by
    apply List.rel_append
    · rw [List.forall₂_map_right_iff]
      exact allPositional
    · rw [List.forall₂_map_right_iff]
      exact allNamed
  obtain ⟨found, ordered, allFound⟩ := exists_located all
  have refusesLocated (cursor : Cursor)
      (closing : cursor.nextKind? = some .closeParen) :=
    (refuses cursor closing).located
  apply reads_inspect_iff.mpr
  refine ⟨found, (complete.located nonempty).delimitedList notComma notClosing
    (by simp) refusesLocated ⟨_, enclosed, allFound⟩ passes fits, ?_⟩
  have samePositional := positional_of_inOrder ordered
  have sameNamed := named_of_inOrder ordered
  have fitting : misplaced false found = [] := by
    rw [misplaced_false_iff, samePositional, sameNamed]
    exact ordered
  rw [samePositional, sameNamed, fitting]
  rfl

end

end Rule

end TreeQuery.Reading
