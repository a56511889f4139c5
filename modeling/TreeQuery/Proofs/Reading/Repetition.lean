import TreeQuery.Proofs.Reading.Chains
import TreeQuery.Proofs.Reading.Language

/-!
# Languages of lists

A list is empty, or an item and behind it nothing, or a comma and another list.
A chain is an item and behind it nothing, or a bar and another chain.  So what
continues a list is known from what starts and what continues an item.
-/

namespace TreeQuery.Reading

/-- Items with commas between them and maybe one behind the last. -/
def listed (item : Language Token) : Language Token :=
  {tokens | ∃ pieces, Listed pieces tokens ∧ ∀ piece ∈ pieces, piece ∈ item}

/-- At least one item, with bars between the items. -/
def chained (item : Language Token) : Language Token :=
  {tokens | ∃ pieces, Chained .alternation pieces tokens ∧
    ∀ piece ∈ pieces, piece ∈ item}

/-- A list between its delimiters. -/
def enclosed (opening closing : Token.Kind) (item : Language Token) :
    Language Token :=
  ofKinds [opening] * listed item * ofKinds [closing]

/-- Nothing, or a separator and a word of the language. -/
def behind (separator : Token.Kind) (language : Language Token) :
    Language Token :=
  1 + ofKinds [separator] * language

section

variable {item language : Language Token} {separator : Token.Kind}
  {starts follows : List Token.Kind} {token : Token}
  {tokens word rest : List Token}

theorem mem_behind_iff :
    tokens ∈ behind separator language ↔ tokens = [] ∨
      ∃ found rest, tokens = found :: rest ∧ found.kind = separator ∧
        rest ∈ language := by
  rw [behind, Language.mem_add, Language.mem_one, Language.mem_mul]
  constructor
  · intro member
    rcases member with empty | ⟨_, ⟨found, rfl, known⟩, rest, member, rfl⟩
    · exact .inl empty
    · exact .inr ⟨found, rest, rfl, List.mem_singleton.mp known, member⟩
  · intro member
    rcases member with empty | ⟨found, rest, rfl, kind, member⟩
    · exact .inl empty
    · exact .inr ⟨[found], ⟨found, rfl, List.mem_singleton.mpr kind⟩, rest,
        member, rfl⟩

theorem listed_eq (item : Language Token) :
    listed item = 1 + item * behind .comma (listed item) := by
  ext tokens
  rw [Language.mem_add, Language.mem_one, Language.mem_mul]
  constructor
  · intro member
    obtain ⟨pieces, list, each⟩ := member
    cases list with
    | empty => exact .inl rfl
    | last piece =>
        exact .inr ⟨tokens, each _ List.mem_cons_self, [],
          mem_behind_iff.mpr (.inl rfl), List.append_nil _⟩
    | @trailing comma piece kind =>
        exact .inr ⟨piece, each _ List.mem_cons_self, [comma],
          mem_behind_iff.mpr (.inr ⟨comma, [], rfl, kind, [], .empty,
            List.forall_mem_nil _⟩), rfl⟩
    | more piece kind later =>
        obtain ⟨first, others⟩ := List.forall_mem_cons.mp each
        exact .inr ⟨piece, first, _,
          mem_behind_iff.mpr (.inr ⟨_, _, rfl, kind, _, later, others⟩), rfl⟩
  · intro member
    rcases member with rfl | ⟨piece, first, rest, follows, rfl⟩
    · exact ⟨[], .empty, List.forall_mem_nil _⟩
    · rcases mem_behind_iff.mp follows with
        rfl | ⟨comma, tokens, rfl, kind, pieces, list, each⟩
      · refine ⟨[piece], ?_, List.forall_mem_singleton.mpr first⟩
        rw [List.append_nil]
        exact .last piece
      · cases pieces with
        | nil =>
            cases list
            exact ⟨[piece], .trailing piece kind,
              List.forall_mem_singleton.mpr first⟩
        | cons following pieces =>
            exact ⟨_, .more piece kind list,
              List.forall_mem_cons.mpr ⟨first, each⟩⟩

theorem chained_eq (item : Language Token) :
    chained item = item * behind .alternation (chained item) := by
  ext tokens
  rw [Language.mem_mul]
  constructor
  · intro member
    obtain ⟨pieces, chain, each⟩ := member
    cases chain with
    | last piece =>
        exact ⟨tokens, each _ List.mem_cons_self, [],
          mem_behind_iff.mpr (.inl rfl), List.append_nil _⟩
    | more piece kind later =>
        obtain ⟨first, others⟩ := List.forall_mem_cons.mp each
        exact ⟨piece, first, _,
          mem_behind_iff.mpr (.inr ⟨_, _, rfl, kind, _, later, others⟩), rfl⟩
  · intro member
    obtain ⟨piece, first, rest, follows, rfl⟩ := member
    rcases mem_behind_iff.mp follows with
      rfl | ⟨bar, tokens, rfl, kind, pieces, chain, each⟩
    · refine ⟨[piece], ?_, List.forall_mem_singleton.mpr first⟩
      rw [List.append_nil]
      exact .last piece
    · exact ⟨_, .more piece kind chain,
        List.forall_mem_cons.mpr ⟨first, each⟩⟩

theorem nil_mem_listed : [] ∈ listed item :=
  ⟨[], .empty, List.forall_mem_nil _⟩

theorem mem_listed (member : word ∈ item) : word ∈ listed item :=
  ⟨[word], .last word, List.forall_mem_singleton.mpr member⟩

theorem listed_more (member : word ∈ item) (kind : token.kind = .comma)
    (list : rest ∈ listed item) : word ++ token :: rest ∈ listed item := by
  rw [listed_eq]
  exact .inr (Language.append_mem_mul member
    (mem_behind_iff.mpr (.inr ⟨token, rest, rfl, kind, list⟩)))

/-- A list is empty, or one item, or an item, a comma and a list. -/
theorem listed_induction {motive : List Token → Prop} (empty : motive [])
    (last : ∀ piece ∈ item, motive piece)
    (more : ∀ piece ∈ item, ∀ comma : Token, comma.kind = .comma →
      ∀ rest, motive rest → motive (piece ++ comma :: rest))
    {tokens : List Token} (member : tokens ∈ listed item) : motive tokens := by
  obtain ⟨pieces, list, each⟩ := member
  induction list with
  | empty => exact empty
  | last piece => exact last piece (each piece List.mem_cons_self)
  | trailing piece kind =>
      exact more piece (each piece List.mem_cons_self) _ kind [] empty
  | more piece kind _ induction =>
      obtain ⟨first, others⟩ := List.forall_mem_cons.mp each
      exact more piece first _ kind _ (induction others)

theorem mem_chained (member : word ∈ item) : word ∈ chained item :=
  ⟨[word], .last word, List.forall_mem_singleton.mpr member⟩

theorem chained_more (member : word ∈ item) (kind : token.kind = .alternation)
    (chain : rest ∈ chained item) : word ++ token :: rest ∈ chained item := by
  rw [chained_eq]
  exact Language.append_mem_mul member
    (mem_behind_iff.mpr (.inr ⟨token, rest, rfl, kind, chain⟩))

/-- A chain is one item, or an item, a bar and a chain. -/
theorem chained_induction {motive : List Token → Prop}
    (last : ∀ piece ∈ item, motive piece)
    (more : ∀ piece ∈ item, ∀ bar : Token, bar.kind = .alternation →
      ∀ rest, motive rest → motive (piece ++ bar :: rest))
    {tokens : List Token} (member : tokens ∈ chained item) : motive tokens := by
  obtain ⟨pieces, chain, each⟩ := member
  induction chain with
  | last piece => exact last piece (each piece List.mem_cons_self)
  | more piece kind _ induction =>
      obtain ⟨first, others⟩ := List.forall_mem_cons.mp each
      exact more piece first _ kind _ (induction others)

theorem viable_behind_head (viable : Viable (behind separator language) [token]) :
    token.kind = separator := by
  obtain ⟨rest, member⟩ := viable
  rcases mem_behind_iff.mp member with empty | ⟨found, tokens, split, kind, -⟩
  · cases empty
  · obtain ⟨rfl, -⟩ := List.cons.inj split
    exact kind

theorem Profile.separated_behind (profile : Profile item starts follows)
    (apart : separator ∉ follows) :
    Separated item (behind separator language) := by
  intro word member token viable viable'
  apply apart
  rw [← viable_behind_head viable']
  exact profile.follows word member token viable

/-- What continues an item and what stands behind it continues the item, is the
separator, or continues what stands behind the separator. -/
theorem Profile.follows_behind_cases (profile : Profile item starts follows)
    (apart : separator ∉ follows) (member : word ∈ item)
    (member' : rest ∈ behind separator language)
    (viable : Viable (item * behind separator language)
      (word ++ rest ++ [token])) :
    token.kind ∈ separator :: follows ∨
      ∃ found tokens, rest = found :: tokens ∧ tokens ∈ language ∧
        Viable language (tokens ++ [token]) := by
  have separated : Separated item (behind separator language) :=
    profile.separated_behind apart
  rw [List.append_assoc] at viable
  rcases mem_behind_iff.mp member' with
    rfl | ⟨found, tokens, rfl, kind, inside⟩
  · rw [List.nil_append] at viable
    rcases separated.viable_between member viable with left | right
    · exact .inl (List.mem_cons_of_mem _ (profile.follows word member token left))
    · exact .inl (List.mem_cons.mpr (.inl (viable_behind_head right)))
  · have right := separated.viable_second member (viable_of_mem member')
      (List.cons_ne_nil _ _) viable
    obtain ⟨rest, last⟩ := right
    rcases mem_behind_iff.mp last with empty | ⟨_, _, split, _, longer⟩
    · cases empty
    · obtain ⟨-, rfl⟩ := List.cons.inj split
      exact .inr ⟨found, tokens, rfl, inside, rest, longer⟩

/-- A list starts like an item; it goes on like one, or with a comma, or with
another item. -/
theorem Profile.listed (profile : Profile item starts follows)
    (proper : [] ∉ item) (apart : Token.Kind.comma ∉ follows) :
    Profile (listed item) starts (.comma :: (follows ++ starts)) := by
  have heads (token : Token) (viable : Viable (Reading.listed item) [token]) :
      token.kind ∈ starts := by
    rw [listed_eq, viable_one_add_iff (List.cons_ne_nil _ _)] at viable
    exact profile.starts_mul proper viable
  refine ⟨⟨[], nil_mem_listed⟩, heads, ?_⟩
  intro word
  induction length : word.length using Nat.strong_induction_on
    generalizing word with
  | _ length induction =>
      subst length
      intro member token viable
      have member' := member
      rw [listed_eq] at member'
      rcases member' with empty | within
      · obtain rfl : word = [] := empty
        exact List.mem_cons_of_mem _
          (List.mem_append_right _ (heads token viable))
      · obtain ⟨piece, first, rest, behind, rfl⟩ := Language.mem_mul.mp within
        rw [listed_eq, viable_one_add_iff (by simp)] at viable
        rcases profile.follows_behind_cases apart first behind viable with
          here | ⟨found, tokens, rfl, inside, later⟩
        · exact List.cons_subset_cons _ (List.subset_append_left _ _) here
        · refine induction _ ?_ tokens rfl inside token later
          simp only [List.length_append, List.length_cons]
          omega

theorem Profile.chained (profile : Profile item starts follows)
    (proper : [] ∉ item) (apart : Token.Kind.alternation ∉ follows) :
    Profile (chained item) starts (.alternation :: follows) := by
  obtain ⟨word, member⟩ := profile.inhabited
  refine ⟨⟨word, mem_chained member⟩, ?_, ?_⟩
  · intro token viable
    rw [chained_eq] at viable
    exact profile.starts_mul proper viable
  · intro word
    induction length : word.length using Nat.strong_induction_on
      generalizing word with
    | _ length induction =>
        subst length
        intro member token viable
        have within := member
        rw [chained_eq] at within viable
        obtain ⟨piece, first, rest, behind, rfl⟩ := Language.mem_mul.mp within
        rcases profile.follows_behind_cases apart first behind viable with
          here | ⟨found, tokens, rfl, inside, later⟩
        · exact here
        · refine induction _ ?_ tokens rfl inside token later
          simp only [List.length_append, List.length_cons]
          omega

theorem Profile.separated_closing {opening closing : Token.Kind}
    (profile : Profile item starts follows) (proper : [] ∉ item)
    (comma : Token.Kind.comma ∉ follows)
    (closes : closing ∉ .comma :: (follows ++ starts)) :
    Separated (ofKinds [opening] * Reading.listed item) (ofKinds [closing]) := by
  have begun := (ofKinds_profile (List.mem_singleton_self opening)).mul_nullable
    (profile.listed proper comma) nil_not_mem_single single_separated
  apply begun.separated (ofKinds_profile (List.mem_singleton_self closing))
  intro kind among same
  rw [List.mem_singleton.mp same] at among
  simp only [List.mem_append, List.mem_cons, not_or] at among closes
  tauto

/-- A list between delimiters starts with the one and ends with the other. -/
theorem Profile.solid_enclosed {opening closing : Token.Kind}
    (profile : Profile item starts follows) (proper : [] ∉ item)
    (comma : Token.Kind.comma ∉ follows)
    (closes : closing ∉ .comma :: (follows ++ starts)) :
    Solid (enclosed opening closing item) [opening] := by
  have begun := (solid_kind opening).profile.mul_nullable
    (profile.listed proper comma) nil_not_mem_single single_separated
  exact ⟨begun.mul (solid_kind closing).profile
    (nil_not_mem_mul nil_not_mem_single) nil_not_mem_single
    (profile.separated_closing proper comma closes),
    nil_not_mem_mul (nil_not_mem_mul nil_not_mem_single)⟩

theorem nil_not_mem_chained (proper : [] ∉ item) : [] ∉ chained item := by
  rw [chained_eq]
  exact nil_not_mem_mul proper

theorem listed_mono {larger : Language Token} (less : item ≤ larger) :
    listed item ≤ listed larger := by
  intro tokens member
  obtain ⟨pieces, list, each⟩ := member
  exact ⟨pieces, list, fun piece among => less (each piece among)⟩

theorem enclosed_mono {larger : Language Token} {opening closing : Token.Kind}
    (less : item ≤ larger) :
    enclosed opening closing item ≤ enclosed opening closing larger :=
  mul_le_mul' (mul_le_mul' le_rfl (listed_mono less)) le_rfl

theorem chained_mono {larger : Language Token} (less : item ≤ larger) :
    chained item ≤ chained larger := by
  intro tokens member
  obtain ⟨pieces, chain, each⟩ := member
  exact ⟨pieces, chain, fun piece among => less (each piece among)⟩

end

end TreeQuery.Reading
