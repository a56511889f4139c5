import TreeQuery.Proofs.Reading.Admission
import TreeQuery.Proofs.Related

/-!
# Arguments and items that are admitted

The arguments that are admitted are in order, but for those whose first tokens
are marked.  `having` carries a property of single tokens along, which the rule
for expressions needs.
-/

namespace TreeQuery.Reading

/-- The words of the language of which each token has the property. -/
def having (fine : Token → Prop) (language : Language Token) : Language Token :=
  {word | word ∈ language ∧ ∀ token ∈ word, fine token}

/-- The token starts at a marked place. -/
def StartsMarked (marked : Nat → Prop) (token : Token) : Prop :=
  marked token.start

section

variable {fine : Token → Prop} {first second item : Language Token}
  {left right tokens : List Token} {token : Token} {kinds : List Token.Kind}
  {pieces : List (List Token)}

theorem append_mem_having (member : left ∈ having fine first)
    (member' : right ∈ having fine second) :
    left ++ right ∈ having fine (first * second) :=
  ⟨Language.append_mem_mul member.1 member'.1,
    List.forall_mem_append.mpr ⟨member.2, member'.2⟩⟩

theorem having_mono (less : first ≤ second) (member : tokens ∈ having fine first) :
    tokens ∈ having fine second :=
  ⟨less member.1, member.2⟩

theorem ofKinds_mono {kinds' : List Token.Kind} (more : kinds ⊆ kinds') :
    ofKinds kinds ≤ ofKinds kinds' := by
  intro word member
  obtain ⟨token, rfl, known⟩ := member
  exact ⟨token, rfl, more known⟩

theorem le_having_mul (less : first ≤ having fine first)
    (less' : second ≤ having fine second) :
    first * second ≤ having fine (first * second) := by
  intro _ both
  obtain ⟨left, member, right, member', rfl⟩ := Language.mem_mul.mp both
  exact append_mem_having (less member) (less' member')

section

variable (plain : ∀ token : Token, token.kind ≠ .regex → fine token)

include plain

theorem fine_of_kind {kind : Token.Kind} (other : kind ≠ .regex)
    (same : token.kind = kind) : fine token :=
  plain token (same ▸ other)

theorem kind_mem_having {kind : Token.Kind} (other : kind ≠ .regex)
    (same : token.kind = kind) : [token] ∈ having fine (ofKinds [kind]) :=
  ⟨⟨token, rfl, List.mem_singleton.mpr same⟩,
    List.forall_mem_singleton.mpr (fine_of_kind plain other same)⟩

theorem le_having_kinds (other : .regex ∉ kinds) :
    ofKinds kinds ≤ having fine (ofKinds kinds) := by
  intro _ member
  obtain ⟨token, rfl, known⟩ := member
  refine ⟨⟨token, rfl, known⟩, List.forall_mem_singleton.mpr (plain token ?_)⟩
  exact fun same => other (same ▸ known)

theorem le_having_integer : integer ≤ having fine integer := by
  intro _ member
  obtain ⟨token, rfl, value, kind, word⟩ := member
  exact ⟨⟨token, rfl, value, kind, word⟩,
    List.forall_mem_singleton.mpr (fine_of_kind plain (by decide) kind)⟩

theorem le_having_lineColumn : lineColumn ≤ having fine lineColumn := by
  have number : integer ≤ having fine integer := le_having_integer plain
  exact le_having_mul (le_having_mul
    (le_having_kinds plain (by decide)) (le_having_mul (le_having_mul
      number (le_having_kinds plain (by decide))) number))
    (le_having_kinds plain (by decide))

theorem le_having_sourceSpan : sourceSpan ≤ having fine sourceSpan := by
  have number : integer ≤ having fine integer := le_having_integer plain
  have place : lineColumn ≤ having fine lineColumn := le_having_lineColumn plain
  have comma : ofKinds [.comma] ≤ having fine (ofKinds [.comma]) :=
    le_having_kinds plain (by decide)
  have offsets := le_having_mul (le_having_mul (le_having_mul
    number comma) number) comma
  exact le_having_mul (le_having_mul
    (le_having_kinds plain (by decide)) (le_having_mul (le_having_mul
      (le_having_mul offsets place) comma) place))
    (le_having_kinds plain (by decide))

/-- No token of a location is an expression. -/
theorem le_having_location :
    ofKinds [.location] * (1 + sourceSpan) ≤
      having fine (ofKinds [.location] * (1 + sourceSpan)) := by
  apply le_having_mul (le_having_kinds plain (by decide))
  intro word either
  rcases either with empty | member
  · obtain rfl : word = [] := empty
    exact ⟨.inl rfl, List.forall_mem_nil _⟩
  · exact having_mono (le_add_left le_rfl) (le_having_sourceSpan plain member)

theorem listed_mem_having (listed : Listed pieces tokens)
    (each : ∀ piece ∈ pieces, piece ∈ having fine item) :
    tokens ∈ having fine (Reading.listed item) :=
  ⟨⟨pieces, listed, fun piece among => (each piece among).1⟩,
    listed.forall_mem (fun piece among => (each piece among).2)
      fun _ => fine_of_kind plain (by decide)⟩

theorem chained_mem_having (chained : Chained .alternation pieces tokens)
    (each : ∀ piece ∈ pieces, piece ∈ having fine item) :
    tokens ∈ having fine (Reading.chained item) :=
  ⟨⟨pieces, chained, fun piece among => (each piece among).1⟩,
    chained.forall_mem (fun piece among => (each piece among).2)
      fun _ => fine_of_kind plain (by decide)⟩

theorem enclosed_mem_having {opening closing : Token.Kind}
    (other : opening ≠ .regex) (other' : closing ≠ .regex)
    (enclosed : Enclosed opening closing pieces tokens)
    (each : ∀ piece ∈ pieces, piece ∈ having fine item) :
    tokens ∈ having fine (Reading.enclosed opening closing item) := by
  obtain ⟨_, inner, _, rfl, opens, closes, listed⟩ := enclosed
  exact append_mem_having (append_mem_having (kind_mem_having plain other opens)
    (listed_mem_having plain listed each)) (kind_mem_having plain other' closes)

theorem separated_mem_having {kind : Token.Kind} (other : kind ≠ .regex)
    (same : token.kind = kind) (member : left ∈ having fine first)
    (member' : right ∈ having fine second) :
    left ++ token :: right ∈ having fine (first * ofKinds [kind] * second) := by
  have both := append_mem_having
    (append_mem_having member (kind_mem_having plain other same)) member'
  rwa [List.append_assoc] at both

end

end

namespace Rule

variable {ν τ : Type} {marked : Nat → Prop} {fine : Token → Prop}
  {dialect : Dialect} {language : Language Token} {tokens : List Token}

/-- The tokens are a word, and one token that names an argument if the value
names one. -/
def Nameable (asName : τ → Option ν) (dialect : Dialect)
    (language : Language Token) (tokens : List Token) (value : τ) : Prop :=
  tokens ∈ language ∧
    ((asName value).isSome = true → tokens ∈ ofKinds dialect.names)

/-- The tokens of an argument: a positional one that is followed by an equals
sign has a marked start. -/
def Argued (marked : Nat → Prop) (dialect : Dialect) (language : Language Token)
    (tokens : List Token) : Argument ν τ → Prop
  | .named _ _ => tokens ∈ field dialect language
  | .positional _ => tokens ∈ language ∨
      tokens ∈ equation language ∧ ∀ token ∈ tokens.head?, StartsMarked marked token

section

variable {name : Rule ν} {item : Rule τ} {asName : τ → Option ν}
  (plain : ∀ token : Token, token.kind ≠ .regex → fine token)
  (admitsName : name.Admits marked fun tokens _ => tokens ∈ ofKinds [.identifier])
  (admits : item.Admits marked
    (Nameable asName dialect (having fine language)))

include plain admitsName admits in
theorem Admits.namedArgument :
    (namedArgument name item).Admits marked fun tokens argument =>
      Argued marked dialect language tokens argument ∧
        ∀ token ∈ tokens, fine token := by
  apply (admitsName.separated admits .equals).map
  intro tokens values derived
  obtain ⟨_, equals, right, rfl, kind, ⟨token, rfl, known⟩, member, -⟩ := derived
  have identifier : token.kind = .identifier := List.mem_singleton.mp known
  have named : token.kind ∈ dialect.names := by
    rw [identifier]
    cases dialect <;> decide
  have name : [token] ∈ having fine (ofKinds dialect.names) :=
    ⟨⟨token, rfl, named⟩, List.forall_mem_singleton.mpr
      (fine_of_kind plain (by decide) identifier)⟩
  exact separated_mem_having plain (by decide) kind name member

include plain admits in
theorem Admits.itemArgument :
    (itemArgument item asName).Admits marked fun tokens argument =>
      Argued marked dialect language tokens argument ∧
        ∀ token ∈ tokens, fine token := by
  intro cursor progress result emitted
  obtain ⟨tokens, passes, ⟨⟨left, right⟩, start⟩, ⟨derived, starts⟩, same,
    objected⟩ := (admits.andThen ((token_admits .equals).skipThen
      admits).optional).located.inspect result emitted
  refine ⟨tokens, passes, ?_⟩
  obtain ⟨first, rest, rfl, ⟨member, names⟩, followed⟩ := derived
  rcases followed with ⟨none, rfl⟩ | ⟨value, some, behind⟩
  · obtain rfl : right = .none := none
    rw [same, List.append_nil]
    exact ⟨.inl member.1, member.2⟩
  · obtain ⟨_, last, equals, rfl, ⟨rfl, kind⟩, member', -⟩ := behind
    obtain rfl : right = .some value := some
    have whole := separated_mem_having plain (by decide) kind member member'
    rw [same]
    cases called : asName left with
    | some given =>
        have named := names (by rw [called]; rfl)
        simp only [called]
        exact separated_mem_having plain (by decide) kind ⟨named, member.2⟩ member'
    | none =>
        simp only [called] at objected ⊢
        refine ⟨.inr ⟨?_, ?_⟩, whole.2⟩
        · have equated := whole.1
          rw [mul_assoc] at equated
          have less : language * (ofKinds [.equals] * language) ≤
              equation language := mul_le_mul' le_rfl (le_add_left le_rfl)
          exact less equated
        · intro token head
          rw [StartsMarked, ← starts token head]
          exact objected _ List.mem_cons_self

/-- An argument that is admitted is placed behind the ones before it, and where
it leads to, nothing unmarked is out of place. -/
theorem Argued.exists_placed (proper : [] ∉ language) {before : Bool}
    {argument : Argument ν τ} {start : Nat} {found : List (Argument ν τ × Nat)}
    (argued : Argued marked dialect language tokens argument)
    (starts : Starts tokens start)
    (misplaced : ∀ place ∈ misplaced before ((argument, start) :: found),
      marked place) :
    ∃ after, Placed (StartsMarked marked) dialect language before tokens after ∧
      ∀ place ∈ Reading.misplaced after found, marked place := by
  have offending (member : tokens ∈ equation language)
      (head : ∀ token ∈ tokens.head?, StartsMarked marked token) :
      Placed (StartsMarked marked) dialect language before tokens before := by
    cases tokens with
    | nil => exact absurd member (nil_not_mem_mul proper)
    | cons token tokens => exact .offending (head token rfl) member
  cases argument with
  | named name value => exact ⟨true, .field argued, misplaced⟩
  | positional value =>
      cases before with
      | false =>
          refine ⟨false, ?_, misplaced⟩
          rcases argued with member | ⟨member, head⟩
          · exact .positional member
          · exact offending member head
      | true =>
          obtain ⟨here, later⟩ := List.forall_mem_cons.mp misplaced
          refine ⟨true, offending ?_ ?_, later⟩
          · rcases argued with member | ⟨member, -⟩
            · exact le_mul_one_add _ _ member
            · exact member
          · intro token head
            rwa [StartsMarked, ← starts token head]

theorem ordered_of_listed (proper : [] ∉ language) {pieces : List (List Token)}
    (listed : Listed pieces tokens) {found : List (Argument ν τ × Nat)}
    (all : List.Forall₂ (fun tokens argument =>
      Argued marked dialect language tokens argument.1 ∧
        Starts tokens argument.2) pieces found) {before : Bool}
    (misplaced : ∀ place ∈ misplaced before found, marked place) :
    Ordered (StartsMarked marked) dialect language before tokens := by
  induction listed generalizing found before with
  | empty => exact .empty before
  | last piece =>
      obtain ⟨_, _, ⟨argued, starts⟩, _, rfl⟩ := List.forall₂_cons_left_iff.mp all
      obtain ⟨after, placed, -⟩ := argued.exists_placed proper starts misplaced
      exact .last placed
  | trailing piece kind =>
      obtain ⟨_, _, ⟨argued, starts⟩, _, rfl⟩ := List.forall₂_cons_left_iff.mp all
      obtain ⟨after, placed, -⟩ := argued.exists_placed proper starts misplaced
      exact .more placed kind (.empty after)
  | more piece kind _ induction =>
      obtain ⟨_, _, ⟨argued, starts⟩, others, rfl⟩ :=
        List.forall₂_cons_left_iff.mp all
      obtain ⟨after, placed, later⟩ := argued.exists_placed proper starts misplaced
      exact .more placed kind (induction others later)

include plain admitsName admits in
theorem Admits.arguments (proper : [] ∉ language) :
    (arguments name item asName).Admits marked fun tokens _ =>
      tokens ∈ having fine (tolerant (StartsMarked marked) dialect language) := by
  have each := (Admits.namedArgument plain admitsName admits).orElse
    (Admits.itemArgument plain admits)
  intro cursor progress result emitted
  obtain ⟨_, passes, found, ⟨pieces, enclosed, all⟩, -, objected⟩ :=
    (each.located.delimitedList .openParen .closeParen).inspect result emitted
  refine ⟨_, passes, ?_⟩
  obtain ⟨_, inner, _, rfl, opens, closes, listed⟩ := enclosed
  have misplaced : ∀ place ∈ misplaced false found, marked place :=
    fun place among => objected _ (List.mem_map_of_mem among)
  have fine_inner : ∀ token ∈ inner, fine token :=
    listed.forall_mem (forall_mem_of_forall₂ all fun _ _ derived => derived.1.2)
      fun _ => fine_of_kind plain (by decide)
  have inside : inner ∈ having fine (ordered (StartsMarked marked) dialect language) :=
    ⟨ordered_of_listed proper listed
      (all.imp fun _ _ derived => ⟨derived.1.1, derived.2⟩) misplaced, fine_inner⟩
  exact append_mem_having
    (append_mem_having (kind_mem_having plain (by decide) opens) inside)
    (kind_mem_having plain (by decide) closes)

end

/-! ## Branches -/

section

variable {α β : Type} {rule : Rule α} {item : Rule τ} {asName : τ → Option ν}
  {change : α → τ} {larger : Language Token}

theorem Nameable.mono {value : τ}
    (nameable : Nameable asName dialect language tokens value)
    (less : language ≤ larger) : Nameable asName dialect larger tokens value :=
  ⟨less nameable.1, nameable.2⟩

/-- Values that name no argument. -/
theorem Admits.unnamed
    (admits : rule.Admits marked fun tokens _ => tokens ∈ language)
    (unnamed : ∀ value, asName (change value) = none) :
    (rule.map change).Admits marked (Nameable asName dialect language) := by
  apply admits.map
  intro tokens value member
  exact ⟨member, by simp [unnamed]⟩

/-- The rules each admit one of the branches. -/
def AdmitEach (marked : Nat → Prop) (fine : Token → Prop)
    (asName : τ → Option ν) (dialect : Dialect) (language : Language Token) :
    List (Rule τ) → List Branch → Prop :=
  List.Forall₂ fun rule branch => rule.Admits marked
    (Nameable asName dialect (having fine
      (branch.language (tolerant (StartsMarked marked) dialect) language)))

theorem AdmitEach.firstOf {rules : List (Rule τ)}
    (each : AdmitEach marked fine asName dialect language (item :: rules)
      dialect.branches) :
    (firstOf item rules).Admits marked (Nameable asName dialect (having fine
      (atom (tolerant (StartsMarked marked) dialect) dialect language))) := by
  apply Admits.firstOf
  intro branch member
  obtain ⟨index, inside, rfl⟩ := List.mem_iff_getElem.mp member
  have within : index < dialect.branches.length := each.length_eq ▸ inside
  have admits := each.get inside within
  intro cursor progress result emitted
  obtain ⟨tokens, passes, nameable⟩ := admits result emitted
  refine ⟨tokens, passes, nameable.mono ?_⟩
  intro word holds
  refine having_mono (fun word member => mem_sum_iff.mpr ⟨_, ?_, member⟩) holds
  exact List.mem_map_of_mem (List.getElem_mem within)

theorem Admits.call {name : Rule α} {arguments : Rule β} {make : α × β → τ}
    {names : List Token.Kind}
    (admitsName : name.Admits marked fun tokens _ =>
      tokens ∈ having fine (ofKinds names))
    (admits : arguments.Admits marked fun tokens _ =>
      tokens ∈ having fine (tolerant (StartsMarked marked) dialect language))
    (unnamed : ∀ parts, asName (make parts) = none) :
    ((name.andThen arguments).map make).Admits marked
      (Nameable asName dialect (having fine (Branch.language
        (tolerant (StartsMarked marked) dialect) language (.call names)))) := by
  refine Admits.unnamed ?_ unnamed
  intro cursor progress result emitted
  obtain ⟨_, passes, head, rest, rfl, member, member'⟩ :=
    admitsName.andThen admits result emitted
  exact ⟨_, passes, append_mem_having member member'⟩

variable (plain : ∀ token : Token, token.kind ≠ .regex → fine token)

include plain

theorem token_admits_having {kind : Token.Kind} (other : kind ≠ .regex) :
    (token kind).Admits marked fun tokens _ =>
      tokens ∈ having fine (ofKinds [kind]) := by
  intro cursor progress result emitted
  obtain ⟨_, passes, rfl, same⟩ := token_admits kind result emitted
  exact ⟨_, passes, kind_mem_having plain other same⟩

theorem boolean_admits : boolean.Admits marked fun tokens _ =>
    tokens ∈ having fine (ofKinds [.trueWord, .falseWord]) :=
  (Admits.of_tracks boolean_tracks).mono fun _ _ member =>
    le_having_kinds plain (by decide) member

theorem location_admits : location.Admits marked fun tokens _ =>
    tokens ∈ having fine (ofKinds [.location] * (1 + Reading.sourceSpan)) :=
  (Admits.of_tracks location_tracks).mono fun _ _ member =>
    le_having_location plain member

variable (admits : item.Admits marked
  (Nameable asName dialect (having fine language)))

include admits

theorem Admits.items {opening closing : Token.Kind} (other : opening ≠ .regex)
    (other' : closing ≠ .regex) :
    (Rule.delimitedList opening closing item).Admits marked fun tokens _ =>
      tokens ∈ having fine (enclosed opening closing language) := by
  intro cursor progress result emitted
  obtain ⟨tokens, passes, pieces, enclosed, all⟩ :=
    admits.delimitedList opening closing result emitted
  exact ⟨tokens, passes, enclosed_mem_having plain other other' enclosed
    (forall_mem_of_forall₂ all fun _ _ derived => derived.1)⟩

theorem Admits.entries :
    (Rule.delimitedList .openParen .closeParen item.entry).Admits marked
      fun tokens _ => tokens ∈ having fine
        (enclosed .openParen .closeParen (Reading.entry language)) := by
  intro cursor progress result emitted
  obtain ⟨tokens, passes, pieces, enclosed, all⟩ := (admits.separated admits
    .colon).delimitedList .openParen .closeParen result emitted
  refine ⟨tokens, passes, enclosed_mem_having plain (by decide) (by decide)
    enclosed (forall_mem_of_forall₂ all ?_)⟩
  intro tokens values derived
  obtain ⟨left, colon, right, rfl, kind, ⟨member, -⟩, member', -⟩ := derived
  exact separated_mem_having plain (by decide) kind member member'

end

end Rule

end TreeQuery.Reading
