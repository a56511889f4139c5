import TreeQuery.Proofs.Reading.Repetition
import TreeQuery.Proofs.Reading.Scalar

/-!
# Texts of the right shape

A text has the right shape when nothing is wrong with it but what is objected to
once its pieces are read: expressions that cannot be read, an equals sign behind
something that is no name, and positional arguments behind named ones.  Values
and patterns have shapes of the same kind, with different branches.
-/

namespace TreeQuery.Reading

/-- What is written: values or patterns. -/
inductive Dialect where
  | value
  | pattern
  deriving DecidableEq, Repr

/-- A number token that spells an integer of a span. -/
def integer : Language Token :=
  single fun token => ∃ value, DerivesInteger token value

/-- A line and a column between angle brackets. -/
def lineColumn : Language Token :=
  ofKinds [.openAngle] * (integer * ofKinds [.comma] * integer) *
    ofKinds [.closeAngle]

/-- Two offsets and two places, in parentheses. -/
def sourceSpan : Language Token :=
  ofKinds [.openParen] *
    (integer * ofKinds [.comma] * integer * ofKinds [.comma] * lineColumn *
      ofKinds [.comma] * lineColumn) *
    ofKinds [.closeParen]

/-- An item, a colon and an item. -/
def entry (item : Language Token) : Language Token :=
  item * ofKinds [.colon] * item

/-- An identifier, an equals sign and an item; or an item, maybe with an equals
sign and another item behind it. -/
def argument (item : Language Token) : Language Token :=
  ofKinds [.identifier] * ofKinds [.equals] * item +
    item * (1 + ofKinds [.equals] * item)

/-- The ways to write an item without stars and bars around it. -/
inductive Branch where
  /-- A name with arguments in parentheses. -/
  | call (names : List Token.Kind)
  /-- One token. -/
  | leaf (kinds : List Token.Kind)
  /-- Entries in parentheses. -/
  | entries
  /-- Items between delimiters. -/
  | items (opening closing : Token.Kind)
  /-- A location, with or without a span. -/
  | location
  deriving DecidableEq, Repr

namespace Branch

/-- What is written by a branch, given how the arguments behind a name are
written, and the items inside. -/
def language (arguments : Language Token → Language Token)
    (item : Language Token) : Branch → Language Token
  | call names => ofKinds names * arguments item
  | leaf kinds => ofKinds kinds
  | entries => enclosed .openParen .closeParen (entry item)
  | items opening closing => enclosed opening closing item
  | location => ofKinds [.location] * (1 + sourceSpan)

/-- The kinds of the first token. -/
def starts : Branch → List Token.Kind
  | call names => names
  | leaf kinds => kinds
  | entries => [.openParen]
  | items opening _ => [opening]
  | location => [.location]

/-- The branches start with different tokens, or the second is a quoted token
that the first has arguments behind. -/
def mayPrecede (first second : Branch) : Bool :=
  first.starts.all (· ∉ second.starts) ||
    match first, second with
    | call _, leaf kinds => kinds.all (· ∈ [Token.Kind.string, .text, .regex])
    | _, _ => false

end Branch

/-- The branches that values and patterns share. -/
def sharedBranches : List Branch :=
  [.entries, .items .openBrace .closeBrace, .items .openBracket .closeBracket,
  .items .openAngle .closeAngle, .leaf [.number],
  .leaf [.trueWord, .falseWord], .location]

namespace Dialect

/-- The branches, in the order in which they are tried. -/
def branches : Dialect → List Branch
  | value =>
      .call [.identifier] :: .call [.string] :: .leaf [.string] ::
        sharedBranches
  | pattern =>
      .leaf [.underscore, .dot] ::
        .call [.identifier, .string, .regex, .text] :: .leaf [.string] ::
        .leaf [.regex] :: .leaf [.text] :: sharedBranches

/-- The kinds of the first token of an item. -/
def starts : Dialect → List Token.Kind
  | value => value.branches.flatMap Branch.starts
  | pattern => .star :: pattern.branches.flatMap Branch.starts

/-- The kinds of tokens that continue an item. -/
def follows : Dialect → List Token.Kind
  | value => [.openParen]
  | pattern => [.alternation, .star, .openParen]

end Dialect

/-- An atom with a star before it, or maybe with one behind it. -/
def term (atom : Language Token) : Language Token :=
  ofKinds [.star] * atom + atom * (1 + ofKinds [.star])

section

variable (arguments : Language Token → Language Token)

/-- An item by one of the branches. -/
def atom (dialect : Dialect) (item : Language Token) : Language Token :=
  (dialect.branches.map (Branch.language arguments item)).sum

/-- An item, given the items inside.  A pattern may have stars and bars. -/
def item : Dialect → Language Token → Language Token
  | .value, inner => atom arguments .value inner
  | .pattern, inner => chained (term (atom arguments .pattern inner))

/-- Items that are nested at most so deep.  At the bottom stands a number. -/
def nested (dialect : Dialect) : (depth : Nat) → Language Token
  | 0 => ofKinds [.number]
  | depth + 1 => item arguments dialect (nested dialect depth)

end

/-- Arguments in any order, with anything before an equals sign. -/
def loose (item : Language Token) : Language Token :=
  enclosed .openParen .closeParen (argument item)

/-- Texts of the right shape that are nested at most so deep. -/
def shapedWithin (dialect : Dialect) (depth : Nat) : Language Token :=
  nested loose dialect depth

/-- Texts of the right shape. -/
def shaped (dialect : Dialect) : Language Token :=
  {tokens | ∃ depth, tokens ∈ shapedWithin dialect depth}

/-! ## Profiles -/

/-- What is known of the items of a dialect without reading into them. -/
structure Shapely (dialect : Dialect) (language : Language Token) : Prop where
  profile : Profile language dialect.starts dialect.follows
  proper : [] ∉ language
  opens : OpensBehind [.identifier] language

section

variable {dialect : Dialect} {language : Language Token}

theorem not_mem_follows {kind : Token.Kind}
    (closes : kind ∈ [Token.Kind.closeParen, .closeBracket, .closeBrace,
      .closeAngle, .comma, .colon, .equals, .identifier]) :
    kind ∉ dialect.follows := by
  revert kind
  cases dialect <;> decide

theorem closing_not_mem {opening closing : Token.Kind}
    (member : .items opening closing ∈ dialect.branches) :
    closing ∉ .comma :: (dialect.follows ++ dialect.starts) := by
  cases dialect
  all_goals
    simp only [Dialect.branches, sharedBranches, List.mem_cons, reduceCtorEq,
      Branch.items.injEq, List.not_mem_nil, false_or, or_false] at member
    rcases member with ⟨-, rfl⟩ | ⟨-, rfl⟩ | ⟨-, rfl⟩ <;> decide

theorem exists_mem_starts {branch : Branch} (member : branch ∈ dialect.branches) :
    ∃ kind, kind ∈ branch.starts := by
  apply List.exists_mem_of_ne_nil
  revert branch
  cases dialect <;> decide

/-- Only names with arguments start with an identifier. -/
theorem identifier_cases {branch : Branch} (member : branch ∈ dialect.branches) :
    (∃ names, branch = .call names) ∨
      Token.Kind.identifier ∉ branch.starts := by
  have known : ∀ branch ∈ dialect.branches,
      (match branch with
        | .call _ => true
        | other => decide (Token.Kind.identifier ∉ other.starts)) = true := by
    cases dialect <;> decide
  have this := known branch member
  cases branch with
  | call names => exact .inl ⟨names, rfl⟩
  | _ => exact .inr (of_decide_eq_true this)

theorem solid_integer : Solid integer [.number] := by
  refine ⟨single_profile ⟨Token.Kind.number.sample, 0, ?_⟩ ?_,
    nil_not_mem_single⟩
  · exact ⟨rfl, by decide⟩
  · intro token spelled
    obtain ⟨value, kind, -⟩ := spelled
    exact List.mem_singleton.mpr kind

theorem solid_lineColumn : Solid lineColumn [.openAngle] :=
  ((solid_kind .openAngle).mul
    ((solid_integer.mul (solid_kind .comma)).mul solid_integer)).mul
      (solid_kind .closeAngle)

theorem solid_sourceSpan : Solid sourceSpan [.openParen] :=
  ((solid_kind .openParen).mul
    ((((((solid_integer.mul (solid_kind .comma)).mul solid_integer).mul
      (solid_kind .comma)).mul solid_lineColumn).mul
        (solid_kind .comma)).mul solid_lineColumn)).mul (solid_kind .closeParen)

namespace Shapely

variable (shapely : Shapely dialect language)

include shapely

/-- An identifier, an equals sign and an item. -/
theorem field_profile :
    Profile (ofKinds [.identifier] * ofKinds [.equals] * language) [.identifier]
      dialect.follows := by
  have name := (solid_kind .identifier).mul (solid_kind .equals)
  exact name.profile.closed_mul shapely.profile name.proper shapely.proper

theorem equated_profile :
    Profile (ofKinds [.equals] * language) [.equals] dialect.follows :=
  (solid_kind .equals).profile.closed_mul shapely.profile nil_not_mem_single
    shapely.proper

theorem separated_equated :
    Separated language (1 + ofKinds [.equals] * language) := by
  apply shapely.profile.separated shapely.equated_profile.optional
  intro kind follows same
  rw [List.mem_singleton.mp same] at follows
  exact not_mem_follows (by decide) follows

/-- An item, maybe with an equals sign and another item behind it. -/
theorem equation_profile :
    Profile (language * (1 + ofKinds [.equals] * language)) dialect.starts
      (.equals :: dialect.follows) :=
  (shapely.profile.mul_nullable shapely.equated_profile.optional shapely.proper
    shapely.separated_equated).mono (List.Subset.refl _) (by
      intro kind
      simp only [List.mem_append, List.mem_cons, List.not_mem_nil]
      tauto)

/-- An identifier alone is no item: a parenthesis would follow. -/
theorem fork :
    Fork (ofKinds [.identifier] * ofKinds [.equals] * language)
      (language * (1 + ofKinds [.equals] * language)) :=
  (shapely.opens.mul shapely.proper).fork (nil_not_mem_mul shapely.proper)
    (by decide) (by decide)

theorem argument_profile :
    Profile (argument language) (.identifier :: dialect.starts)
      (.equals :: .openParen :: dialect.follows) :=
  (shapely.field_profile.add shapely.equation_profile
    shapely.fork.toApart).mono (List.Subset.refl _) (by
      intro kind
      simp only [List.mem_append, List.mem_cons, List.not_mem_nil]
      tauto)

theorem nil_not_mem_argument : [] ∉ argument language :=
  nil_not_mem_add (nil_not_mem_mul (nil_not_mem_mul nil_not_mem_single))
    (nil_not_mem_mul shapely.proper)

theorem solid_arguments :
    Solid (loose language) [.openParen] := by
  apply shapely.argument_profile.solid_enclosed shapely.nil_not_mem_argument
  · cases dialect <;> decide
  · cases dialect <;> decide

theorem entry_profile :
    Profile (entry language) dialect.starts dialect.follows := by
  have colon := ofKinds_profile (List.mem_singleton_self Token.Kind.colon)
  have key := shapely.profile.mul colon shapely.proper nil_not_mem_single
    (shapely.profile.separated colon (by cases dialect <;> decide))
  exact key.closed_mul shapely.profile (nil_not_mem_mul shapely.proper)
    shapely.proper

theorem nil_not_mem_entry : [] ∉ entry language :=
  nil_not_mem_mul (nil_not_mem_mul shapely.proper)

/-! ## Branches -/

theorem branch_profile {branch : Branch} (member : branch ∈ dialect.branches) :
    Profile (branch.language loose language) branch.starts [.openParen] ∧
      [] ∉ branch.language loose language := by
  have closed {language : Language Token} {starts : List Token.Kind}
      (solid : Solid language starts) :
      Profile language starts [.openParen] ∧ [] ∉ language :=
    ⟨solid.profile.mono (List.Subset.refl _) (List.nil_subset _), solid.proper⟩
  obtain ⟨kind, known⟩ := exists_mem_starts member
  cases branch with
  | call names =>
      exact closed (Solid.mul ⟨ofKinds_profile known, nil_not_mem_single⟩
        shapely.solid_arguments)
  | leaf kinds => exact closed ⟨ofKinds_profile known, nil_not_mem_single⟩
  | entries =>
      apply closed
      apply shapely.entry_profile.solid_enclosed shapely.nil_not_mem_entry
      · cases dialect <;> decide
      · cases dialect <;> decide
  | items opening closing =>
      exact closed (shapely.profile.solid_enclosed shapely.proper
        (not_mem_follows (by decide)) (closing_not_mem member))
  | location =>
      have place := (solid_kind .location).profile.mul_nullable
        solid_sourceSpan.profile.optional nil_not_mem_single single_separated
      exact ⟨place.mono (List.Subset.refl _) (by simp),
        nil_not_mem_mul nil_not_mem_single⟩

/-- Branches are apart when the one may be tried before the other. -/
theorem branch_apart {first second : Branch} (member : first ∈ dialect.branches)
    (member' : second ∈ dialect.branches)
    (ordered : first.mayPrecede second = true) :
    Apart (first.language loose language) (second.language loose language) := by
  obtain ⟨profile, proper⟩ := shapely.branch_profile member
  obtain ⟨profile', proper'⟩ := shapely.branch_profile member'
  rcases (Bool.or_eq_true _ _).mp ordered with disjoint | quoted
  · refine (profile.fork profile' proper proper' ?_).toApart
    simpa using disjoint
  · cases first with
    | call names =>
        cases second with
        | leaf kinds =>
            apply OpensBehind.apart _ proper
            · intro kind known
              exact of_decide_eq_true (List.all_eq_true.mp quoted kind known)
            · exact opensBehind_mul shapely.solid_arguments.profile
                shapely.solid_arguments.proper
        | _ => cases quoted
    | _ => cases quoted

theorem branches_apart :
    (dialect.branches.map (Branch.language loose language)).Pairwise Apart := by
  have ordered : dialect.branches.Pairwise (Branch.mayPrecede · · = true) := by
    cases dialect <;> decide
  rw [List.pairwise_map]
  exact ordered.imp_of_mem fun member member' => shapely.branch_apart member member'

theorem add_branches {sum : Language Token} {starts : List Token.Kind}
    {branches : List Branch} (among : branches ⊆ dialect.branches)
    (profile : Profile sum starts [.openParen])
    (apart : (sum :: branches.map (Branch.language loose language)).Pairwise Apart) :
    Profile (sum + (branches.map (Branch.language loose language)).sum)
      (starts ++ branches.flatMap Branch.starts) [.openParen] := by
  induction branches generalizing sum starts with
  | nil => simpa using profile
  | cons branch branches induction =>
      obtain ⟨member, others⟩ := List.cons_subset.mp among
      obtain ⟨first, later⟩ := List.pairwise_cons.mp apart
      obtain ⟨next, last⟩ := List.pairwise_cons.mp later
      have both : Profile (sum + branch.language loose language)
          (starts ++ branch.starts) [.openParen] :=
        (profile.add (shapely.branch_profile member).1
          (first _ List.mem_cons_self)).mono (List.Subset.refl _) (by simp)
      have whole := induction others both (List.pairwise_cons.mpr ⟨?_, last⟩)
      · simpa [add_assoc] using whole
      · intro language member
        exact (first language (List.mem_cons_of_mem _ member)).add
          (next language member)

theorem atom_profile :
    Profile (atom loose dialect language) (dialect.branches.flatMap Branch.starts)
      [.openParen] := by
  have apart := shapely.branches_apart
  have all : dialect.branches ⊆ dialect.branches := List.Subset.refl _
  unfold atom
  cases split : dialect.branches with
  | nil => cases dialect <;> cases split
  | cons branch branches =>
      rw [split] at apart
      nth_rewrite 1 [split] at all
      obtain ⟨member, others⟩ := List.cons_subset.mp all
      exact shapely.add_branches others (shapely.branch_profile member).1 apart

theorem nil_not_mem_atom : [] ∉ atom loose dialect language := by
  intro either
  obtain ⟨_, given, member⟩ := mem_sum_iff.mp either
  obtain ⟨branch, among, rfl⟩ := List.mem_map.mp given
  exact (shapely.branch_profile among).2 member

theorem atom_opens : OpensBehind [.identifier] (atom loose dialect language) := by
  apply opensBehind_sum
  intro _ given
  obtain ⟨branch, among, rfl⟩ := List.mem_map.mp given
  rcases identifier_cases among with ⟨names, rfl⟩ | other
  · exact opensBehind_mul shapely.solid_arguments.profile
      shapely.solid_arguments.proper
  · apply (shapely.branch_profile among).1.opensBehind
    intro kind starts same
    exact other (List.mem_singleton.mp same ▸ starts)

end Shapely

/-! ## Terms and items -/

section

variable {atom : Language Token} {starts : List Token.Kind}
  (profile : Profile atom starts [.openParen]) (proper : [] ∉ atom)
  (unstarred : Token.Kind.star ∉ starts)

include profile

theorem separated_star : Separated atom (1 + ofKinds [.star]) :=
  profile.separated (solid_kind .star).profile.optional (by simp)

include proper

theorem starBefore_profile :
    Profile (ofKinds [.star] * atom) [.star] [.openParen] :=
  (solid_kind .star).profile.closed_mul profile nil_not_mem_single proper

theorem starBehind_profile :
    Profile (atom * (1 + ofKinds [.star])) starts [.star, .openParen] :=
  (profile.mul_nullable (solid_kind .star).profile.optional proper
    (separated_star profile)).mono (List.Subset.refl _) (by simp)

include unstarred

theorem fork_star :
    Fork (ofKinds [.star] * atom) (atom * (1 + ofKinds [.star])) :=
  (starBefore_profile profile proper).fork (starBehind_profile profile proper)
    (nil_not_mem_mul nil_not_mem_single) (nil_not_mem_mul proper)
    (by simpa using unstarred)

theorem term_profile : Profile (term atom) (.star :: starts) [.star, .openParen] :=
  ((starBefore_profile profile proper).add (starBehind_profile profile proper)
    (fork_star profile proper unstarred).toApart).mono
      (List.Subset.refl _) (by simp)

end

theorem nil_not_mem_term {atom : Language Token} (proper : [] ∉ atom) :
    [] ∉ term atom :=
  nil_not_mem_add (nil_not_mem_mul nil_not_mem_single) (nil_not_mem_mul proper)

theorem term_opens {atom : Language Token} (proper : [] ∉ atom)
    (opens : OpensBehind [.identifier] atom) :
    OpensBehind [.identifier] (term atom) := by
  refine .add ?_ (opens.mul proper)
  have star : OpensBehind [.identifier] (ofKinds [.star]) :=
    (solid_kind .star).profile.opensBehind (by decide)
  exact star.mul nil_not_mem_single

theorem Shapely.item (shapely : Shapely dialect language) :
    Shapely dialect (item loose dialect language) := by
  have profile := shapely.atom_profile
  have proper := shapely.nil_not_mem_atom
  cases dialect with
  | value => exact ⟨profile, proper, shapely.atom_opens⟩
  | pattern =>
      have terms := term_profile profile proper (by decide)
      have proper' := nil_not_mem_term proper
      refine ⟨terms.chained proper' (by decide), nil_not_mem_chained proper', ?_⟩
      rw [item, chained_eq]
      exact (term_opens proper shapely.atom_opens).mul proper'

theorem shapely_shapedWithin (dialect : Dialect) (depth : Nat) :
    Shapely dialect (shapedWithin dialect depth) := by
  induction depth with
  | zero =>
      have number := (solid_kind .number).profile
      refine ⟨number.mono ?_ (List.nil_subset _), nil_not_mem_single,
        number.opensBehind (by decide)⟩
      cases dialect <;> decide
  | succ depth induction => exact induction.item

end

end TreeQuery.Reading
