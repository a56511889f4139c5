import Mathlib.Computability.Language
import Mathlib.Order.CompletePartialOrder
import TreeQuery.Token

/-!
# Languages of tokens

Tokens are viable in a language when they begin some word of it.  Where one
language ends and the next begins is certain when nothing that continues a word
of the first starts a word of the second; then what is viable behind some tokens
is known from the parts.
-/

namespace TreeQuery

/-- How a token of the kind may be written. -/
def Token.Kind.lexeme : Token.Kind → List Char
  | openParen => ['(']
  | closeParen => [')']
  | openBracket => ['[']
  | closeBracket => [']']
  | openBrace => ['{']
  | closeBrace => ['}']
  | openAngle => ['<']
  | closeAngle => ['>']
  | comma => [',']
  | colon => [':']
  | equals => ['=']
  | star => ['*']
  | alternation => ['|', '|']
  | dot => ['.']
  | underscore => ['_']
  | trueWord => ['t', 'r', 'u', 'e']
  | falseWord => ['f', 'a', 'l', 's', 'e']
  | identifier => ['a']
  | number => ['0']
  | string => ['"', '"']
  | text => ['\'', '\'']
  | regex => ['/', '/']
  | location => ['|', 'a', '|']
  | invalid => ['?']

/-- A token of the kind. -/
def Token.Kind.sample (kind : Token.Kind) : Token :=
  { kind, lexeme := kind.lexeme, start := 0, stop := kind.lexeme.length }

namespace Reading

/-- The tokens can be continued to a word of the language. -/
def Viable (language : Language Token) (tokens : List Token) : Prop :=
  ∃ rest, tokens ++ rest ∈ language

section

variable {first second language : Language Token} {token : Token}
  {tokens tokens' word word' : List Token}

theorem viable_of_mem (member : word ∈ language) : Viable language word :=
  ⟨[], by rwa [List.append_nil]⟩

theorem viable_of_isPrefix (member : word ∈ language)
    (start : tokens <+: word) : Viable language tokens := by
  obtain ⟨rest, rfl⟩ := start
  exact ⟨rest, member⟩

theorem Viable.of_isPrefix (viable : Viable language tokens)
    (start : tokens' <+: tokens) : Viable language tokens' := by
  obtain ⟨rest, member⟩ := viable
  exact viable_of_isPrefix member (start.trans (List.prefix_append _ _))

theorem Viable.head (viable : Viable language (token :: tokens)) :
    Viable language [token] :=
  viable.of_isPrefix ⟨tokens, rfl⟩

theorem Viable.mono (viable : Viable first tokens) (less : first ≤ second) :
    Viable second tokens := by
  obtain ⟨rest, member⟩ := viable
  exact ⟨rest, less member⟩

theorem viable_add_iff :
    Viable (first + second) tokens ↔
      Viable first tokens ∨ Viable second tokens := by
  simp only [Viable, Language.mem_add, exists_or]

/-- What may be left out goes on as it does when it is there. -/
theorem viable_one_add_iff (nonempty : tokens ≠ []) :
    Viable (1 + language) tokens ↔ Viable language tokens := by
  rw [viable_add_iff]
  constructor
  · intro either
    rcases either with ⟨rest, empty⟩ | viable
    · exact absurd (List.append_eq_nil_iff.mp empty).1 nonempty
    · exact viable
  · exact .inr

theorem Viable.mul_left (viable : Viable first tokens)
    (inhabited : ∃ word, word ∈ second) : Viable (first * second) tokens := by
  obtain ⟨rest, member⟩ := viable
  obtain ⟨word, follows⟩ := inhabited
  refine ⟨rest ++ word, ?_⟩
  rw [← List.append_assoc]
  exact Language.append_mem_mul member follows

theorem Viable.mul_right (member : word ∈ first)
    (viable : Viable second tokens) :
    Viable (first * second) (word ++ tokens) := by
  obtain ⟨rest, follows⟩ := viable
  refine ⟨rest, ?_⟩
  rw [List.append_assoc]
  exact Language.append_mem_mul member follows

/-- What is viable in a product is viable in the first factor, or a word of it
is passed. -/
theorem Viable.mul_cases (viable : Viable (first * second) tokens) :
    Viable first tokens ∨
      ∃ word tokens', tokens = word ++ tokens' ∧ word ∈ first ∧
        Viable second tokens' ∧ tokens' ≠ [] := by
  obtain ⟨rest, member⟩ := viable
  obtain ⟨word, memberFirst, word', memberSecond, split⟩ :=
    Language.mem_mul.mp member
  rcases List.append_eq_append_iff.mp split with
    ⟨tokens', rfl, rfl⟩ | ⟨rest', rfl, -⟩
  · by_cases empty : tokens' = []
    · subst empty
      rw [List.append_nil]
      exact .inl (viable_of_mem memberFirst)
    · exact .inr ⟨word, tokens', rfl, memberFirst, ⟨rest, memberSecond⟩, empty⟩
  · exact .inl ⟨rest', memberFirst⟩

/-- Nothing that continues a word of the first language starts a word of the
second. -/
def Separated (first second : Language Token) : Prop :=
  ∀ word ∈ first, ∀ token, Viable first (word ++ [token]) →
    ¬Viable second [token]

namespace Separated

variable (separated : Separated first second)

include separated

theorem stop (member : word ∈ first)
    (longer : Viable first (word ++ token :: tokens))
    (starts : Viable second (token :: tokens')) : False :=
  separated word member token (longer.of_isPrefix ⟨tokens, by simp⟩) starts.head

/-- Behind a word of the first language, a product goes on with either of the
factors, or with a longer word of the first. -/
theorem cut_cases (member : word ∈ first)
    (viable : Viable (first * second) (word ++ tokens)) :
    Viable first (word ++ tokens) ∨ Viable second tokens ∨
      ∃ more tokens', tokens = more ++ tokens' ∧ word ++ more ∈ first ∧
        more ≠ [] ∧ tokens' ≠ [] := by
  rcases viable.mul_cases with left | ⟨word', tokens', split, member', right,
    nonempty⟩
  · exact .inl left
  rcases List.append_eq_append_iff.mp split with
    ⟨more, rfl, rfl⟩ | ⟨extra, rfl, rfl⟩
  · by_cases empty : more = []
    · subst empty
      exact .inr (.inl right)
    · exact .inr (.inr ⟨more, tokens', rfl, member', empty, nonempty⟩)
  · cases extra with
    | nil => exact .inr (.inl right)
    | cons token extra =>
        exact (separated.stop member' (viable_of_mem member) right).elim

/-- Behind a word of the first language and some of the second, a product goes
on with the second. -/
theorem viable_second (member : word ∈ first) (begun : Viable second tokens)
    (nonempty : tokens ≠ [])
    (viable : Viable (first * second) (word ++ (tokens ++ [token]))) :
    Viable second (tokens ++ [token]) := by
  obtain ⟨start, tokens, rfl⟩ := List.exists_cons_of_ne_nil nonempty
  rcases separated.cut_cases member viable with
    left | right | ⟨more, tokens', split, member', nonempty, -⟩
  · exact (separated.stop member left begun).elim
  · exact right
  · obtain ⟨start', more, rfl⟩ := List.exists_cons_of_ne_nil nonempty
    obtain ⟨rfl, -⟩ := List.cons.inj split
    exact (separated.stop member (viable_of_mem member') begun).elim

/-- Right behind a word of the first language, a product goes on with the first
or starts the second. -/
theorem viable_between (member : word ∈ first)
    (viable : Viable (first * second) (word ++ [token])) :
    Viable first (word ++ [token]) ∨ Viable second [token] := by
  rcases separated.cut_cases member viable with
    left | right | ⟨more, tokens', split, -, nonempty, nonempty'⟩
  · exact .inl left
  · exact .inr right
  · obtain ⟨start, more, rfl⟩ := List.exists_cons_of_ne_nil nonempty
    obtain ⟨-, split⟩ := List.cons.inj split
    exact absurd (List.append_eq_nil_iff.mp split.symm).2 nonempty'

/-- Before a word of the first language is complete, a product goes on with the
first. -/
theorem viable_first (begun : Viable first tokens) (open' : tokens ∉ first)
    (viable : Viable (first * second) (tokens ++ [token])) :
    Viable first (tokens ++ [token]) := by
  rcases viable.mul_cases with left | ⟨word, tokens', split, member, right,
    nonempty⟩
  · exact left
  rcases List.append_eq_append_iff.mp split with
    ⟨more, rfl, last⟩ | ⟨inner, rfl, rfl⟩
  · cases more with
    | nil => exact absurd (by simpa using member) open'
    | cons token' more =>
        obtain ⟨-, empty⟩ := List.cons.inj last
        exact absurd (List.append_eq_nil_iff.mp empty.symm).2 nonempty
  · cases inner with
    | nil => exact absurd (by simpa using member) open'
    | cons token' inner =>
        exact (separated.stop member begun right).elim

/-- Of the words that a text begins with, those of the first language leave a
place for the second only where the longest of them ends. -/
theorem eq_of_longest (member : word ∈ first) (start : word <+: tokens)
    (longest : ∀ word' ∈ first, word' <+: tokens → word'.length ≤ word.length)
    (member' : word' ∈ first) (viable : Viable second tokens')
    (nonempty : tokens' ≠ []) (start' : word' ++ tokens' <+: tokens) :
    word' = word := by
  have within : word' <+: tokens := (List.prefix_append _ _).trans start'
  have shorter := longest word' member' within
  obtain ⟨rest, rfl⟩ := List.prefix_of_prefix_length_le within start shorter
  cases rest with
  | nil => exact (List.append_nil word').symm
  | cons token rest =>
      obtain ⟨token', tokens', rfl⟩ := List.exists_cons_of_ne_nil nonempty
      obtain ⟨rest', rfl⟩ := start
      rw [List.append_assoc, List.prefix_append_right_inj, List.cons_append,
        List.cons_prefix_cons] at start'
      obtain ⟨rfl, -⟩ := start'
      exact (separated.stop member' (viable_of_mem member) viable).elim

end Separated

end

/-! ## Profiles -/

/-- There is a word, its first token is of one of the kinds `starts`, and a
token that continues a word is of one of the kinds `follows`. -/
structure Profile (language : Language Token)
    (starts follows : List Token.Kind) : Prop where
  inhabited : ∃ word, word ∈ language
  starts : ∀ token, Viable language [token] → token.kind ∈ starts
  follows : ∀ word ∈ language, ∀ token, Viable language (word ++ [token]) →
    token.kind ∈ follows

/-- The words of one token that is allowed. -/
def single (allowed : Token → Prop) : Language Token :=
  {tokens | ∃ token, tokens = [token] ∧ allowed token}

/-- The words of one token of one of the kinds. -/
def ofKinds (kinds : List Token.Kind) : Language Token :=
  single fun token => token.kind ∈ kinds

section

variable {first second language : Language Token} {allowed : Token → Prop}
  {kinds starts follows starts' follows' : List Token.Kind} {token : Token}
  {tokens : List Token}

theorem mem_single_iff :
    tokens ∈ single allowed ↔ ∃ token, tokens = [token] ∧ allowed token :=
  Iff.rfl

theorem not_viable_single (nonempty : tokens ≠ []) :
    ¬Viable (single allowed) (token :: tokens) := by
  intro viable
  obtain ⟨rest, found, same, -⟩ := viable
  simp [nonempty] at same

theorem single_separated : Separated (single allowed) second := by
  intro word member token longer
  obtain ⟨found, rfl, -⟩ := member
  exact absurd longer (not_viable_single (List.cons_ne_nil _ _))

theorem viable_single_iff : Viable (single allowed) [token] ↔ allowed token := by
  constructor
  · intro viable
    obtain ⟨rest, found, same, fits⟩ := viable
    obtain ⟨rfl, -⟩ := List.cons.inj same
    exact fits
  · intro fits
    exact viable_of_mem ⟨token, rfl, fits⟩

theorem single_profile (inhabited : ∃ token, allowed token)
    (known : ∀ token, allowed token → token.kind ∈ kinds) :
    Profile (single allowed) kinds [] := by
  obtain ⟨token, fits⟩ := inhabited
  refine ⟨⟨[token], token, rfl, fits⟩, ?_, ?_⟩
  · intro token viable
    exact known token (viable_single_iff.mp viable)
  · intro word member token viable
    obtain ⟨start, rfl, -⟩ := member
    exact absurd viable (not_viable_single (List.cons_ne_nil _ _))

theorem ofKinds_profile {kind : Token.Kind} (known : kind ∈ kinds) :
    Profile (ofKinds kinds) kinds [] :=
  single_profile ⟨kind.sample, known⟩ fun _ => id

theorem nil_not_mem_single : [] ∉ single allowed := by
  intro member
  obtain ⟨token, same, -⟩ := member
  cases same

theorem nil_not_mem_mul (proper : [] ∉ first) : [] ∉ first * second := by
  intro member
  obtain ⟨word, member, word', -, split⟩ := Language.mem_mul.mp member
  obtain ⟨rfl, -⟩ := List.append_eq_nil_iff.mp split
  exact proper member

theorem nil_not_mem_add (proper : [] ∉ first) (proper' : [] ∉ second) :
    [] ∉ first + second := by
  intro member
  rcases member with left | right
  · exact proper left
  · exact proper' right

namespace Profile

theorem mono (profile : Profile language starts follows)
    (more : starts ⊆ starts') (more' : follows ⊆ follows') :
    Profile language starts' follows' :=
  ⟨profile.inhabited, fun token viable => more (profile.starts token viable),
    fun word member token viable =>
      more' (profile.follows word member token viable)⟩

theorem separated (profile : Profile first starts follows)
    (profile' : Profile second starts' follows')
    (apart : ∀ kind ∈ follows, kind ∉ starts') : Separated first second := by
  intro word member token viable viable'
  exact apart token.kind (profile.follows word member token viable)
    (profile'.starts token viable')

/-- A product starts like its first factor. -/
theorem starts_mul (profile : Profile first starts follows)
    (proper : [] ∉ first) (viable : Viable (first * second) [token]) :
    token.kind ∈ starts := by
  rcases viable.mul_cases with left | ⟨word, tokens, split, member, -, nonempty⟩
  · exact profile.starts token left
  · rcases List.cons_eq_append_iff.mp split with ⟨rfl, -⟩ | ⟨rest, -, last⟩
    · exact absurd member proper
    · exact absurd (List.append_eq_nil_iff.mp last.symm).2 nonempty

/-- What continues a word of a product continues the part of the second factor,
or stands between the two. -/
theorem follows_mul_cases (profile : Profile first starts follows)
    (profile' : Profile second starts' follows')
    (separated : Separated first second)
    {word word' : List Token} (member : word ∈ first) (member' : word' ∈ second)
    (viable : Viable (first * second) (word ++ word' ++ [token])) :
    token.kind ∈ follows' ∨
      word' = [] ∧ (token.kind ∈ follows ∨ token.kind ∈ starts') := by
  rw [List.append_assoc] at viable
  by_cases empty : word' = []
  · subst empty
    rw [List.nil_append] at viable
    rcases separated.viable_between member viable with left | right
    · exact .inr ⟨rfl, .inl (profile.follows word member token left)⟩
    · exact .inr ⟨rfl, .inr (profile'.starts token right)⟩
  · have right := separated.viable_second member (viable_of_mem member') empty
      viable
    exact .inl (profile'.follows word' member' token right)

theorem inhabited_mul (profile : Profile first starts follows)
    (profile' : Profile second starts' follows') :
    ∃ word, word ∈ first * second := by
  obtain ⟨word, member⟩ := profile.inhabited
  obtain ⟨word', member'⟩ := profile'.inhabited
  exact ⟨word ++ word', Language.append_mem_mul member member'⟩

theorem mul (profile : Profile first starts follows)
    (profile' : Profile second starts' follows') (proper : [] ∉ first)
    (proper' : [] ∉ second) (separated : Separated first second) :
    Profile (first * second) starts follows' := by
  refine ⟨profile.inhabited_mul profile', fun token => profile.starts_mul proper,
    ?_⟩
  intro _ both token viable
  obtain ⟨word, member, word', member', rfl⟩ := Language.mem_mul.mp both
  rcases profile.follows_mul_cases profile' separated member member' viable with
    inside | ⟨rfl, -⟩
  · exact inside
  · exact absurd member' proper'

/-- Nothing continues a word of the first factor. -/
theorem closed_separated (profile : Profile first starts []) :
    Separated first second := by
  intro word member token viable
  cases profile.follows word member token viable

theorem closed_mul (profile : Profile first starts [])
    (profile' : Profile second starts' follows') (proper : [] ∉ first)
    (proper' : [] ∉ second) : Profile (first * second) starts follows' :=
  profile.mul profile' proper proper' profile.closed_separated

/-- The second factor may be left out. -/
theorem mul_nullable (profile : Profile first starts follows)
    (profile' : Profile second starts' follows') (proper : [] ∉ first)
    (separated : Separated first second) :
    Profile (first * second) starts (follows ++ starts' ++ follows') := by
  refine ⟨profile.inhabited_mul profile', fun token => profile.starts_mul proper,
    ?_⟩
  intro _ both token viable
  obtain ⟨word, member, word', member', rfl⟩ := Language.mem_mul.mp both
  simp only [List.mem_append]
  rcases profile.follows_mul_cases profile' separated member member' viable with
    inside | ⟨-, between⟩
  · exact .inr inside
  · exact .inl between

theorem optional (profile : Profile language starts follows) :
    Profile (1 + language) starts (starts ++ follows) := by
  refine ⟨⟨[], .inl rfl⟩, ?_, ?_⟩
  · intro token viable
    rw [viable_one_add_iff (List.cons_ne_nil _ _)] at viable
    exact profile.starts token viable
  · intro word member token viable
    rw [viable_one_add_iff (by simp)] at viable
    rcases member with empty | member
    · obtain rfl : word = [] := empty
      exact List.mem_append_left _ (profile.starts token viable)
    · exact List.mem_append_right _
        (profile.follows word member token viable)

end Profile

/-- Words that are not empty and that nothing continues. -/
structure Solid (language : Language Token) (starts : List Token.Kind) :
    Prop where
  profile : Profile language starts []
  proper : [] ∉ language

theorem Solid.mul (solid : Solid first starts) (solid' : Solid second starts') :
    Solid (first * second) starts :=
  ⟨solid.profile.closed_mul solid'.profile solid.proper solid'.proper,
    nil_not_mem_mul solid.proper⟩

theorem Solid.separated (solid : Solid first starts) : Separated first second :=
  solid.profile.closed_separated

theorem solid_kind (kind : Token.Kind) : Solid (ofKinds [kind]) [kind] :=
  ⟨ofKinds_profile (List.mem_singleton_self kind), nil_not_mem_single⟩

end

/-! ## Choice -/

/-- The token is a parenthesis right behind a quoted token.  A reader that has
given up the arguments of a name takes the name alone, and does not say what was
wrong with the arguments. -/
def Hidden (before : List Token) (kind : Token.Kind) : Prop :=
  kind = .openParen ∧
    ∃ last ∈ before.getLast?, last.kind ∈ [Token.Kind.string, .text, .regex]

/-- Two languages of which at most the first token is in doubt: tokens that
begin words of both are no more than one, and a word of either is not a
beginning of a word of the other.  A single quoted token is an exception: words
of the first language may go on behind it with a parenthesis. -/
structure Apart (first second : Language Token) : Prop where
  left : ∀ word ∈ first, ¬Viable second word
  right : ∀ word ∈ second, ∀ token, Viable first (word ++ [token]) →
    Hidden word token.kind
  common : ∀ tokens, Viable first tokens → Viable second tokens →
    tokens.length ≤ 1
  hidden : ∀ tokens kind, Viable first tokens → Viable second tokens →
    Hidden tokens kind → ∀ token, ¬Viable second (tokens ++ [token])

/-- Two languages that are apart without exception. -/
structure Fork (first second : Language Token) : Prop extends
    Apart first second where
  clear : ∀ word ∈ second, ¬Viable first word

section

variable {first second language : Language Token}
  {starts follows starts' follows' kinds' : List Token.Kind}

theorem not_hidden_nil {kind : Token.Kind} : ¬Hidden [] kind := by
  simp [Hidden]

/-- Languages whose words start with different tokens. -/
theorem Profile.fork (profile : Profile first starts follows)
    (profile' : Profile second starts' follows') (proper : [] ∉ first)
    (proper' : [] ∉ second) (apart : ∀ kind ∈ starts, kind ∉ starts') :
    Fork first second := by
  have disjoint (token : Token) (tokens tokens' : List Token)
      (viable : Viable first (token :: tokens))
      (viable' : Viable second (token :: tokens')) : False :=
    apart token.kind (profile.starts token viable.head)
      (profile'.starts token viable'.head)
  have empty (tokens : List Token) (viable : Viable first tokens)
      (viable' : Viable second tokens) : tokens = [] := by
    cases tokens with
    | nil => rfl
    | cons token tokens => exact (disjoint token _ _ viable viable').elim
  refine ⟨⟨?_, ?_, ?_, ?_⟩, ?_⟩
  · intro word member viable
    obtain rfl := empty word (viable_of_mem member) viable
    exact proper member
  · intro word member token viable
    cases word with
    | nil => exact absurd member proper'
    | cons token' word =>
        exact (disjoint token' _ _ viable (viable_of_mem member)).elim
  · intro tokens viable viable'
    rw [empty tokens viable viable']
    exact Nat.zero_le _
  · intro tokens kind viable viable' hidden
    rw [empty tokens viable viable'] at hidden
    exact absurd hidden not_hidden_nil
  · intro word member viable
    obtain rfl := empty word viable (viable_of_mem member)
    exact proper' member

theorem Apart.add {third : Language Token} (apart : Apart first third)
    (apart' : Apart second third) : Apart (first + second) third := by
  refine ⟨?_, ?_, ?_, ?_⟩
  · intro word either
    rcases either with member | member
    · exact apart.left word member
    · exact apart'.left word member
  · intro word member token viable
    rcases viable_add_iff.mp viable with viable | viable
    · exact apart.right word member token viable
    · exact apart'.right word member token viable
  · intro tokens either viable
    rcases viable_add_iff.mp either with begun | begun
    · exact apart.common tokens begun viable
    · exact apart'.common tokens begun viable
  · intro tokens kind either viable hidden
    rcases viable_add_iff.mp either with begun | begun
    · exact apart.hidden tokens kind begun viable hidden
    · exact apart'.hidden tokens kind begun viable hidden

theorem not_viable_zero {tokens : List Token} : ¬Viable 0 tokens := by
  intro viable
  obtain ⟨rest, none⟩ := viable
  exact none

theorem viable_sum_iff {languages : List (Language Token)}
    {tokens : List Token} :
    Viable languages.sum tokens ↔
      ∃ language ∈ languages, Viable language tokens := by
  induction languages with
  | nil => simpa using not_viable_zero
  | cons first languages induction =>
      rw [List.sum_cons, viable_add_iff, induction]
      simp

theorem mem_sum_iff {languages : List (Language Token)} {word : List Token} :
    word ∈ languages.sum ↔ ∃ language ∈ languages, word ∈ language := by
  induction languages with
  | nil => simp
  | cons first languages induction =>
      rw [List.sum_cons, Language.mem_add, induction]
      simp

theorem ofKinds_append (kinds kinds' : List Token.Kind) :
    ofKinds (kinds ++ kinds') = ofKinds kinds + ofKinds kinds' := by
  ext tokens
  constructor
  · intro member
    obtain ⟨token, rfl, known⟩ := member
    rcases List.mem_append.mp known with left | right
    · exact .inl ⟨token, rfl, left⟩
    · exact .inr ⟨token, rfl, right⟩
  · intro either
    rcases either with ⟨token, rfl, known⟩ | ⟨token, rfl, known⟩
    · exact ⟨token, rfl, List.mem_append_left _ known⟩
    · exact ⟨token, rfl, List.mem_append_right _ known⟩

theorem sum_kinds (kinds : List Token.Kind) :
    (kinds.map fun kind => ofKinds [kind]).sum = ofKinds kinds := by
  induction kinds with
  | nil =>
      ext tokens
      simp [ofKinds, mem_single_iff]
  | cons kind kinds induction =>
      rw [List.map_cons, List.sum_cons, induction, ← ofKinds_append]
      rfl

theorem fork_kinds {kind kind' : Token.Kind} (other : kind ≠ kind') :
    Fork (ofKinds [kind]) (ofKinds [kind']) :=
  (solid_kind kind).profile.fork (solid_kind kind').profile nil_not_mem_single
    nil_not_mem_single (by simpa using other)

theorem kinds_apart {kinds : List Token.Kind} (distinct : kinds.Nodup) :
    (kinds.map fun kind => ofKinds [kind]).Pairwise Apart := by
  rw [List.pairwise_map]
  exact distinct.imp fun other => (fork_kinds other).toApart

/-- A word that starts with a token of these kinds goes on with a parenthesis. -/
structure OpensBehind (kinds : List Token.Kind) (language : Language Token) :
    Prop where
  longer : ∀ token, token.kind ∈ kinds → [token] ∉ language
  opens : ∀ token token', token.kind ∈ kinds →
    Viable language [token, token'] → token'.kind = .openParen

section

variable {kinds : List Token.Kind}

theorem opensBehind_sum {languages : List (Language Token)}
    (each : ∀ language ∈ languages, OpensBehind kinds language) :
    OpensBehind kinds languages.sum := by
  constructor
  · intro token known either
    obtain ⟨language, among, member⟩ := mem_sum_iff.mp either
    exact (each language among).longer token known member
  · intro token token' known either
    obtain ⟨language, among, viable⟩ := viable_sum_iff.mp either
    exact (each language among).opens token token' known viable

theorem OpensBehind.add (opens : OpensBehind kinds first)
    (opens' : OpensBehind kinds second) :
    OpensBehind kinds (first + second) := by
  have both : OpensBehind kinds [first, second].sum :=
    opensBehind_sum (by simp [opens, opens'])
  simpa using both

theorem OpensBehind.mul (opens : OpensBehind kinds first) (proper : [] ∉ first) :
    OpensBehind kinds (first * second) := by
  have alone (token : Token) (word : List Token) (known : token.kind ∈ kinds)
      (start : word <+: [token]) : word ∉ first := by
    intro member
    rcases List.prefix_cons_iff.mp start with rfl | ⟨rest, rfl, short⟩
    · exact proper member
    · rw [List.prefix_nil.mp short] at member
      exact opens.longer token known member
  constructor
  · intro token known member
    obtain ⟨word, member, word', -, split⟩ := Language.mem_mul.mp member
    exact alone token word known ⟨word', split⟩ member
  · intro token token' known viable
    rcases viable.mul_cases with left | ⟨word, tokens, split, member, -, more⟩
    · exact opens.opens token token' known left
    · refine (alone token word known ?_ member).elim
      have start : word <+: [token, token'] := ⟨tokens, split.symm⟩
      apply List.prefix_of_prefix_length_le start ⟨[token'], rfl⟩
      have total := congrArg List.length split
      have positive := List.length_pos_iff.mpr more
      simp only [List.length_cons, List.length_nil, List.length_append] at total ⊢
      omega

theorem Profile.opensBehind (profile : Profile language starts follows)
    (apart : ∀ kind ∈ starts, kind ∉ kinds) : OpensBehind kinds language := by
  constructor
  · intro token known member
    exact apart _ (profile.starts token (viable_of_mem member)) known
  · intro token token' known viable
    exact absurd known (apart _ (profile.starts token viable.head))

/-- Arguments in parentheses behind a name. -/
theorem opensBehind_mul (profile : Profile second [.openParen] follows)
    (proper : [] ∉ second) : OpensBehind kinds (ofKinds kinds' * second) := by
  constructor
  · intro token _ member
    obtain ⟨word, ⟨name, rfl, -⟩, word', member, split⟩ :=
      Language.mem_mul.mp member
    obtain rfl : word' = [] := (List.cons.inj split).2
    exact proper member
  · intro token token' _ viable
    rcases viable.mul_cases with left | ⟨word, tokens, split, member, right, -⟩
    · exact absurd left (not_viable_single (List.cons_ne_nil _ _))
    · obtain ⟨name, rfl, -⟩ := member
      obtain rfl : [token'] = tokens := (List.cons.inj split).2
      exact List.mem_singleton.mp (profile.starts token' right)

/-- Quoted tokens that stand alone, behind words that start with such a token
and go on with a parenthesis. -/
theorem OpensBehind.apart (opens : OpensBehind kinds first)
    (proper : [] ∉ first) (quoted : kinds ⊆ [.string, .text, .regex]) :
    Apart first (ofKinds kinds) := by
  refine ⟨?_, ?_, ?_, ?_⟩
  · intro word member viable
    obtain _ | ⟨token, _ | ⟨token', word⟩⟩ := word
    · exact proper member
    · exact opens.longer token (viable_single_iff.mp viable) member
    · exact not_viable_single (List.cons_ne_nil _ _) viable
  · intro word member token viable
    obtain ⟨start, rfl, known⟩ := member
    exact ⟨opens.opens start token known viable, start, rfl, quoted known⟩
  · intro tokens _ viable
    obtain _ | ⟨token, _ | ⟨token', tokens⟩⟩ := tokens
    · exact Nat.zero_le _
    · exact Nat.le_refl _
    · exact (not_viable_single (List.cons_ne_nil _ _) viable).elim
  · intro tokens kind _ _ hidden token viable
    cases tokens with
    | nil => exact not_hidden_nil hidden
    | cons token' tokens => exact not_viable_single (by simp) viable

/-- Two tokens of which the second is no parenthesis, before words that go on
with a parenthesis behind the first. -/
theorem OpensBehind.fork {kind kind' : Token.Kind}
    (opens : OpensBehind [kind] second) (proper : [] ∉ second)
    (other : kind' ≠ .openParen)
    (unquoted : kind ∉ [Token.Kind.string, .text, .regex]) :
    Fork (ofKinds [kind] * ofKinds [kind'] * language) second := by
  have named (token : Token) (tokens : List Token)
      (viable : Viable (ofKinds [kind] * ofKinds [kind'] * language)
        (token :: tokens)) :
      token.kind = kind ∧ ∀ next ∈ tokens.head?, next.kind = kind' := by
    rw [mul_assoc] at viable
    have start := (ofKinds_profile (List.mem_singleton_self kind)).starts_mul
      nil_not_mem_single viable.head
    refine ⟨List.mem_singleton.mp start, ?_⟩
    intro next ahead
    obtain ⟨rest, rfl⟩ := List.head?_eq_some_iff.mp ahead
    rcases viable.mul_cases with left | ⟨word, later, split, member, right, -⟩
    · exact absurd left (not_viable_single (List.cons_ne_nil _ _))
    · obtain ⟨found, rfl, -⟩ := member
      obtain ⟨-, rfl⟩ := List.cons.inj split
      exact List.mem_singleton.mp
        ((ofKinds_profile (List.mem_singleton_self kind')).starts_mul
          nil_not_mem_single right.head)
  have common (tokens : List Token)
      (viable : Viable (ofKinds [kind] * ofKinds [kind'] * language) tokens)
      (viable' : Viable second tokens) : tokens.length ≤ 1 := by
    obtain _ | ⟨token, _ | ⟨next, tokens⟩⟩ := tokens
    · exact Nat.zero_le _
    · exact Nat.le_refl _
    · obtain ⟨rfl, equals⟩ := named token _ viable
      have opened := opens.opens token next (List.mem_singleton_self _)
        (viable'.of_isPrefix ⟨tokens, rfl⟩)
      exact absurd ((equals next rfl).symm.trans opened) other
  have clear (word : List Token) (member : word ∈ second)
      (viable : Viable (ofKinds [kind] * ofKinds [kind'] * language) word) :
      False := by
    have short := common word viable (viable_of_mem member)
    obtain _ | ⟨token, _ | ⟨next, word⟩⟩ := word
    · exact proper member
    · obtain ⟨rfl, -⟩ := named token _ viable
      exact opens.longer token (List.mem_singleton_self _) member
    · simp at short
  refine ⟨⟨?_, ?_, common, ?_⟩, clear⟩
  · intro word member viable
    have short := common word (viable_of_mem member) viable
    obtain ⟨_, ⟨_, ⟨first, rfl, -⟩, _, ⟨second, rfl, -⟩, rfl⟩, _, -, rfl⟩ :=
      member
    simp at short
  · intro word member token viable
    exact (clear word member (viable.of_isPrefix (List.prefix_append _ _))).elim
  · intro tokens _ viable viable' hidden
    have short := common tokens viable viable'
    obtain ⟨-, last, ends, quoted⟩ := hidden
    obtain _ | ⟨token, _ | ⟨next, tokens⟩⟩ := tokens
    · cases ends
    · cases ends
      obtain ⟨rfl, -⟩ := named token _ viable
      exact absurd quoted unquoted
    · simp at short

end

theorem Profile.add (profile : Profile first starts follows)
    (profile' : Profile second starts' follows') (apart : Apart first second) :
    Profile (first + second) (starts ++ starts')
      (follows ++ follows' ++ [.openParen]) := by
  obtain ⟨word, member⟩ := profile.inhabited
  refine ⟨⟨word, .inl member⟩, ?_, ?_⟩
  · intro token viable
    rcases viable_add_iff.mp viable with left | right
    · exact List.mem_append_left _ (profile.starts token left)
    · exact List.mem_append_right _ (profile'.starts token right)
  · intro word member token viable
    simp only [List.mem_append, List.mem_singleton]
    rcases member with member | member
    · rcases viable_add_iff.mp viable with left | right
      · exact .inl (.inl (profile.follows word member token left))
      · exact (apart.left word member
          (right.of_isPrefix (List.prefix_append _ _))).elim
    · rcases viable_add_iff.mp viable with left | right
      · exact .inr (apart.right word member token left).1
      · exact .inl (.inr (profile'.follows word member token right))

end

end Reading

end TreeQuery
