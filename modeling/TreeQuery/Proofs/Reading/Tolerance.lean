import TreeQuery.Proofs.Reading.Congruence

/-!
# Arguments in order

An argument offends when it is positional behind a named one, or when what is
before its equals sign is no name.  `tolerant` asks of the arguments that offend
that their first tokens are excused.  Tokens that begin such a text, none of
which is excused, begin a text in which nothing offends: whatever is open there
is closed by samples.
-/

namespace TreeQuery.Reading

/-- The kinds of token that name an argument. -/
def Dialect.names : Dialect → List Token.Kind
  | value => [.identifier]
  | pattern => [.identifier, .regex, .text]

/-- A name, an equals sign and an item. -/
def field (dialect : Dialect) (item : Language Token) : Language Token :=
  ofKinds dialect.names * ofKinds [.equals] * item

/-- An item, maybe with an equals sign and another item behind it. -/
def equation (item : Language Token) : Language Token :=
  item * (1 + ofKinds [.equals] * item)

section

variable (excused : Token → Prop) (dialect : Dialect) (item : Language Token)

/-- An argument that stands behind a named one or not, and whether the next one
stands behind a named one. -/
inductive Placed : Bool → List Token → Bool → Prop where
  | field {before : Bool} {word : List Token} :
      word ∈ field dialect item → Placed before word true
  | positional {word : List Token} : word ∈ item → Placed false word false
  | offending {before : Bool} {token : Token} {word : List Token} :
      excused token → token :: word ∈ equation item →
      Placed before (token :: word) before

/-- Arguments with commas between them, behind a named one or not. -/
inductive Ordered : Bool → List Token → Prop where
  | empty (before : Bool) : Ordered before []
  | last {before after : Bool} {word : List Token} :
      Placed excused dialect item before word after → Ordered before word
  | more {before after : Bool} {word rest : List Token} {comma : Token} :
      Placed excused dialect item before word after → comma.kind = .comma →
      Ordered after rest → Ordered before (word ++ comma :: rest)

/-- Arguments of which only excused ones offend. -/
def ordered : Language Token :=
  {tokens | Ordered excused dialect item false tokens}

/-- Arguments in parentheses of which only excused ones offend. -/
def tolerant : Language Token :=
  ofKinds [.openParen] * ordered excused dialect item * ofKinds [.closeParen]

end

/-- Texts of which only excused arguments offend, nested at most so deep. -/
def toleratedWithin (excused : Token → Prop) (dialect : Dialect) (depth : Nat) :
    Language Token :=
  nested (tolerant excused dialect) dialect depth

/-- No token is excused. -/
def Nothing (_ : Token) : Prop := False

/-- Of the tokens none is excused. -/
def Free (excused : Token → Prop) (tokens : List Token) : Prop :=
  ∀ token ∈ tokens, ¬excused token

/-! ## Mending -/

/-- Words of which no token is excused are words of the second language, and
what begins a word without such a token goes on with samples to a word of the
second language. -/
structure Mends (excused : Token → Prop) (language language' : Language Token) :
    Prop where
  keeps : ∀ word ∈ language, Free excused word → word ∈ language'
  mends : ∀ tokens, Viable language tokens → Free excused tokens →
    ∃ kinds : List Token.Kind, .invalid ∉ kinds ∧
      tokens ++ kinds.map Token.Kind.sample ∈ language'

section

variable {excused : Token → Prop} {dialect : Dialect} {before after : Bool}
  {first first' second second' item item' : Language Token}
  {tokens tokens' word rest : List Token} {token : Token}

theorem free_append_iff :
    Free excused (tokens ++ tokens') ↔
      Free excused tokens ∧ Free excused tokens' :=
  List.forall_mem_append

theorem free_cons_iff :
    Free excused (token :: tokens) ↔ ¬excused token ∧ Free excused tokens :=
  List.forall_mem_cons

theorem free_nil : Free excused [] :=
  List.forall_mem_nil _

/-- The beginning of a list is the beginning of its first piece, or goes on
behind the separator. -/
theorem prefix_separated_cases (start : tokens <+: word ++ token :: rest) :
    tokens <+: word ∨ ∃ tokens', tokens = word ++ token :: tokens' ∧
      tokens' <+: rest := by
  obtain ⟨others, split⟩ := start
  rcases List.append_eq_append_iff.mp split with
    ⟨more, same, -⟩ | ⟨_ | ⟨found, more⟩, same, last⟩
  · exact .inl ⟨more, same.symm⟩
  · rw [List.append_nil] at same
    exact .inl ⟨[], by simp [same]⟩
  · obtain ⟨rfl, rest⟩ := List.cons.inj last
    exact .inr ⟨more, same, others, rest.symm⟩

/-- Any token that is allowed may be replaced by a sample of its kind. -/
theorem mends_single {allowed : Token → Prop}
    (sample : ∀ token, allowed token →
      allowed token.kind.sample ∧ token.kind ≠ .invalid) :
    Mends excused (single allowed) (single allowed) := by
  refine ⟨fun _ member _ => member, ?_⟩
  intro tokens viable _
  obtain _ | ⟨token, _ | ⟨next, tokens⟩⟩ := tokens
  · obtain ⟨_, token, rfl, fits⟩ := viable
    obtain ⟨fits', valid⟩ := sample token fits
    exact ⟨[token.kind], by simpa using valid.symm, _, rfl, fits'⟩
  · exact ⟨[], List.not_mem_nil, token, rfl, viable_single_iff.mp viable⟩
  · exact absurd viable (not_viable_single (List.cons_ne_nil _ _))

theorem mends_kinds {kinds : List Token.Kind} (valid : .invalid ∉ kinds) :
    Mends excused (ofKinds kinds) (ofKinds kinds) := by
  apply mends_single
  intro token known
  exact ⟨known, fun same => valid (same ▸ known)⟩

theorem mends_kind {kind : Token.Kind} (valid : kind ≠ .invalid) :
    Mends excused (ofKinds [kind]) (ofKinds [kind]) :=
  mends_kinds (by simpa using valid.symm)

theorem mends_integer : Mends excused integer integer := by
  apply mends_single
  intro token spelled
  obtain ⟨value, kind, -⟩ := spelled
  rw [kind]
  exact ⟨⟨0, rfl, by decide⟩, by decide⟩

theorem mends_one : Mends excused 1 1 := by
  refine ⟨fun _ member _ => member, ?_⟩
  intro tokens viable _
  obtain ⟨rest, empty⟩ := viable
  obtain ⟨rfl, -⟩ := List.append_eq_nil_iff.mp empty
  exact ⟨[], List.not_mem_nil, rfl⟩

theorem Mends.add (mends : Mends excused first first')
    (mends' : Mends excused second second') :
    Mends excused (first + second) (first' + second') := by
  refine ⟨?_, ?_⟩
  · intro word either free
    rcases either with member | member
    · exact .inl (mends.keeps word member free)
    · exact .inr (mends'.keeps word member free)
  · intro tokens either free
    rcases viable_add_iff.mp either with viable | viable
    · obtain ⟨kinds, valid, whole⟩ := mends.mends tokens viable free
      exact ⟨kinds, valid, .inl whole⟩
    · obtain ⟨kinds, valid, whole⟩ := mends'.mends tokens viable free
      exact ⟨kinds, valid, .inr whole⟩

theorem Mends.mul (mends : Mends excused first first')
    (mends' : Mends excused second second') :
    Mends excused (first * second) (first' * second') := by
  refine ⟨?_, ?_⟩
  · intro _ both free
    obtain ⟨word, member, word', member', rfl⟩ := Language.mem_mul.mp both
    obtain ⟨left, right⟩ := free_append_iff.mp free
    exact Language.append_mem_mul (mends.keeps word member left)
      (mends'.keeps word' member' right)
  · intro tokens viable free
    rcases viable.mul_cases with begun | ⟨word, tokens', rfl, member, later, -⟩
    · obtain ⟨_, both⟩ := viable
      obtain ⟨_, -, word', member', -⟩ := Language.mem_mul.mp both
      obtain ⟨kinds, valid, left⟩ := mends.mends tokens begun free
      obtain ⟨kinds', valid', right⟩ := mends'.mends [] ⟨word', member'⟩ free_nil
      refine ⟨kinds ++ kinds', by simp [valid, valid'], ?_⟩
      rw [List.map_append, ← List.append_assoc]
      exact Language.append_mem_mul left right
    · obtain ⟨free, free'⟩ := free_append_iff.mp free
      obtain ⟨kinds, valid, right⟩ := mends'.mends tokens' later free'
      refine ⟨kinds, valid, ?_⟩
      rw [List.append_assoc]
      exact Language.append_mem_mul (mends.keeps word member free) right

theorem Mends.listed (mends : Mends excused item item') :
    Mends excused (listed item) (listed item') := by
  refine ⟨?_, ?_⟩
  · intro word member free
    obtain ⟨pieces, list, each⟩ := member
    refine ⟨pieces, list, fun piece among => ?_⟩
    exact mends.keeps piece (each piece among)
      fun token inside => free token (list.subset piece among inside)
  · intro tokens viable
    obtain ⟨rest, member⟩ := viable
    refine listed_induction (motive := fun whole => ∀ tokens, tokens <+: whole →
      Free excused tokens → ∃ kinds : List Token.Kind, .invalid ∉ kinds ∧
        tokens ++ kinds.map Token.Kind.sample ∈ Reading.listed item')
      ?_ ?_ ?_ member tokens ⟨rest, rfl⟩
    · intro tokens start _
      rw [List.prefix_nil.mp start]
      exact ⟨[], List.not_mem_nil, nil_mem_listed⟩
    · intro piece among tokens start free
      obtain ⟨kinds, valid, whole⟩ :=
        mends.mends tokens (viable_of_isPrefix among start) free
      exact ⟨kinds, valid, mem_listed whole⟩
    · intro piece among comma kind rest induction tokens start free
      rcases prefix_separated_cases start with inside | ⟨later, rfl, start'⟩
      · obtain ⟨kinds, valid, whole⟩ :=
          mends.mends tokens (viable_of_isPrefix among inside) free
        exact ⟨kinds, valid, mem_listed whole⟩
      · obtain ⟨free, free'⟩ := free_append_iff.mp free
        obtain ⟨kinds, valid, whole⟩ :=
          induction later start' (free_cons_iff.mp free').2
        refine ⟨kinds, valid, ?_⟩
        rw [List.append_assoc]
        exact listed_more (mends.keeps piece among free) kind whole

theorem Mends.chained (mends : Mends excused item item') :
    Mends excused (chained item) (chained item') := by
  refine ⟨?_, ?_⟩
  · intro word member
    refine chained_induction (motive := fun word =>
      Free excused word → word ∈ Reading.chained item') ?_ ?_ member
    · intro piece among free
      exact mem_chained (mends.keeps piece among free)
    · intro piece among bar kind rest induction free
      obtain ⟨free, free'⟩ := free_append_iff.mp free
      exact chained_more (mends.keeps piece among free) kind
        (induction (free_cons_iff.mp free').2)
  · intro tokens viable
    obtain ⟨rest, member⟩ := viable
    refine chained_induction (motive := fun whole => ∀ tokens, tokens <+: whole →
      Free excused tokens → ∃ kinds : List Token.Kind, .invalid ∉ kinds ∧
        tokens ++ kinds.map Token.Kind.sample ∈ Reading.chained item')
      ?_ ?_ member tokens ⟨rest, rfl⟩
    · intro piece among tokens start free
      obtain ⟨kinds, valid, whole⟩ :=
        mends.mends tokens (viable_of_isPrefix among start) free
      exact ⟨kinds, valid, mem_chained whole⟩
    · intro piece among bar kind rest induction tokens start free
      rcases prefix_separated_cases start with inside | ⟨later, rfl, start'⟩
      · obtain ⟨kinds, valid, whole⟩ :=
          mends.mends tokens (viable_of_isPrefix among inside) free
        exact ⟨kinds, valid, mem_chained whole⟩
      · obtain ⟨free, free'⟩ := free_append_iff.mp free
        obtain ⟨kinds, valid, whole⟩ :=
          induction later start' (free_cons_iff.mp free').2
        refine ⟨kinds, valid, ?_⟩
        rw [List.append_assoc]
        exact chained_more (mends.keeps piece among free) kind whole

theorem congruence_mends (excused : Token → Prop) :
    Congruence (Mends excused) where
  zero := ⟨nofun, fun _ viable => absurd viable not_viable_zero⟩
  one := mends_one
  kinds plain := mends_kinds fun invalid => (plain _ invalid).2 rfl
  integer := mends_integer
  add := Mends.add
  mul := Mends.mul
  listed := Mends.listed
  chained := Mends.chained

/-! ## Mending arguments -/

theorem Mends.equated (mends : Mends excused item item') :
    Mends excused (ofKinds [.equals] * item) (ofKinds [.equals] * item') :=
  (mends_kind (by decide)).mul mends

theorem Mends.equation (mends : Mends excused item item') :
    Mends excused (equation item) (equation item') :=
  mends.mul (mends_one.add mends.equated)

theorem Mends.field (mends : Mends excused item item') :
    Mends excused (field dialect item) (field dialect item') := by
  have names : Mends excused (ofKinds dialect.names) (ofKinds dialect.names) :=
    mends_kinds (by cases dialect <;> decide)
  exact (names.mul (mends_kind (by decide))).mul mends

theorem Mends.loose (mends : Mends excused item item') :
    Mends excused (loose item) (loose item') := by
  have key : Mends excused (ofKinds [.identifier] * ofKinds [.equals] * item)
      (ofKinds [.identifier] * ofKinds [.equals] * item') :=
    ((mends_kind (by decide)).mul (mends_kind (by decide))).mul mends
  exact (congruence_mends excused).enclosed (by decide) (key.add mends.equation)

theorem Placed.keeps (mends : Mends excused item item')
    (placed : Placed excused dialect item before word after)
    (free : Free excused word) : Placed Nothing dialect item' before word after := by
  cases placed with
  | field member => exact .field (mends.field.keeps word member free)
  | positional member => exact .positional (mends.keeps word member free)
  | offending marked => exact absurd marked (free_cons_iff.mp free).1

/-- The beginning of an argument goes on to an argument that does not offend. -/
theorem Placed.mends (mends : Mends excused item item')
    (placed : Placed excused dialect item before word after)
    (start : tokens <+: word) (nonempty : tokens ≠ [])
    (free : Free excused tokens) :
    ∃ kinds : List Token.Kind, .invalid ∉ kinds ∧
      Placed Nothing dialect item' before
        (tokens ++ kinds.map Token.Kind.sample) after := by
  cases placed with
  | field member =>
      obtain ⟨kinds, valid, whole⟩ :=
        mends.field.mends tokens (viable_of_isPrefix member start) free
      exact ⟨kinds, valid, .field whole⟩
  | positional member =>
      obtain ⟨kinds, valid, whole⟩ :=
        mends.mends tokens (viable_of_isPrefix member start) free
      exact ⟨kinds, valid, .positional whole⟩
  | offending marked =>
      obtain ⟨token, tokens, rfl⟩ := List.exists_cons_of_ne_nil nonempty
      obtain ⟨rfl, -⟩ := List.cons_prefix_cons.mp start
      exact absurd marked (free_cons_iff.mp free).1

theorem Ordered.keeps (mends : Mends excused item item')
    (ordered : Ordered excused dialect item before tokens)
    (free : Free excused tokens) : Ordered Nothing dialect item' before tokens := by
  induction ordered with
  | empty before => exact .empty before
  | last placed => exact .last (placed.keeps mends free)
  | more placed kind _ induction =>
      obtain ⟨free, free'⟩ := free_append_iff.mp free
      exact .more (placed.keeps mends free) kind
        (induction (free_cons_iff.mp free').2)

theorem Ordered.mends (mends : Mends excused item item')
    (ordered : Ordered excused dialect item before rest)
    (start : tokens <+: rest) (free : Free excused tokens) :
    ∃ kinds : List Token.Kind, .invalid ∉ kinds ∧
      Ordered Nothing dialect item' before
        (tokens ++ kinds.map Token.Kind.sample) := by
  by_cases empty : tokens = []
  · subst empty
    exact ⟨[], List.not_mem_nil, .empty before⟩
  induction ordered generalizing tokens with
  | empty before => exact absurd (List.prefix_nil.mp start) empty
  | last placed =>
      obtain ⟨kinds, valid, whole⟩ := placed.mends mends start empty free
      exact ⟨kinds, valid, .last whole⟩
  | @more before after word rest comma placed kind ordered induction =>
      rcases prefix_separated_cases start with inside | ⟨later, rfl, start'⟩
      · obtain ⟨kinds, valid, whole⟩ := placed.mends mends inside empty free
        exact ⟨kinds, valid, .last whole⟩
      · obtain ⟨free, free'⟩ := free_append_iff.mp free
        have kept := placed.keeps mends free
        by_cases done : later = []
        · subst done
          exact ⟨[], List.not_mem_nil, by simpa using .more kept kind (.empty _)⟩
        · obtain ⟨kinds, valid, whole⟩ :=
            induction start' (free_cons_iff.mp free').2 done
          refine ⟨kinds, valid, ?_⟩
          rw [List.append_assoc]
          exact .more kept kind whole

theorem Mends.tolerant (mends : Mends excused item item') :
    Mends excused (tolerant excused dialect item)
      (tolerant Nothing dialect item') := by
  have arguments : Mends excused (ordered excused dialect item)
      (ordered Nothing dialect item') := by
    refine ⟨fun word member free => Ordered.keeps mends member free, ?_⟩
    intro tokens viable free
    obtain ⟨rest, member⟩ := viable
    exact Ordered.mends mends member ⟨rest, rfl⟩ free
  exact ((mends_kind (by decide)).mul arguments).mul (mends_kind (by decide))

end

end TreeQuery.Reading
