import TreeQuery.Proofs.Reading.Faults
import TreeQuery.Proofs.Reading.Language

/-!
# Frontiers

The frontier of a language in a text is the longest beginning of the text that
begins a word of the language.  A reader of the language looks as far as the
frontier: the furthest fault it met stands there and expects the tokens that are
viable behind it.  Readers of products and of choices look as far as the
frontiers of these.
-/

namespace TreeQuery.Reading

/-- The longest word of the language that the tokens begin with, if any. -/
def Longest (language : Language Token) (tokens : List Token) :
    Option (List Token) → Prop
  | none => ∀ word ∈ language, ¬word <+: tokens
  | some word => word ∈ language ∧ word <+: tokens ∧
      ∀ longer ∈ language, longer <+: tokens → longer.length ≤ word.length

section

variable {first second : Language Token} {tokens word word' : List Token}
  {read : Option (List Token)}

theorem Longest.eq_of_isPrefix (longest : Longest first tokens (some word))
    (member : word' ∈ first) (start : word' <+: tokens)
    (more : word <+: word') : word = word' :=
  more.eq_of_length_le (longest.2.2 word' member start)

theorem Longest.mul_none (longest : Longest first tokens none) :
    Longest (first * second) tokens none := by
  intro _ both start
  obtain ⟨word, member, word', -, rfl⟩ := Language.mem_mul.mp both
  exact longest word member ((List.prefix_append word word').trans start)

theorem Longest.mul (longest : Longest first tokens (some word))
    (separated : Separated first second)
    (longest' : Longest second (tokens.drop word.length) read) :
    Longest (first * second) tokens (read.map (word ++ ·)) := by
  obtain ⟨member, ⟨rest, rfl⟩, longer⟩ := longest
  rw [List.drop_left] at longest'
  -- A word of the product that goes into the second factor leaves the first
  -- where its longest word ends.
  have cut (word' tokens : List Token) (member' : word' ∈ first)
      (inside : tokens ∈ second) (start : word' ++ tokens <+: word ++ rest) :
      tokens = [] ∨ word' = word ∧ tokens <+: rest := by
    by_cases empty : tokens = []
    · exact .inl empty
    · obtain rfl := separated.eq_of_longest member (List.prefix_append _ _)
        longer member' (viable_of_mem inside) empty start
      exact .inr ⟨rfl, (List.prefix_append_right_inj word').mp start⟩
  cases read with
  | none =>
      intro both among start
      obtain ⟨word', member', tokens, inside, rfl⟩ := Language.mem_mul.mp among
      rcases cut word' tokens member' inside start with rfl | ⟨-, within⟩
      · exact longest' [] inside List.nil_prefix
      · exact longest' tokens inside within
  | some last =>
      obtain ⟨memberLast, startLast, longestLast⟩ := longest'
      refine ⟨Language.append_mem_mul member memberLast,
        (List.prefix_append_right_inj word).mpr startLast, ?_⟩
      intro both among start
      obtain ⟨word', member', tokens, inside, rfl⟩ := Language.mem_mul.mp among
      rcases cut word' tokens member' inside start with rfl | ⟨rfl, within⟩
      · rw [List.append_nil] at start ⊢
        have bound := longer word' member' start
        simp only [List.length_append]
        omega
      · have bound := longestLast tokens inside within
        simp only [List.length_append]
        omega

end

/-- An objection stands behind the token at the frontier. -/
def Objects (cursor : Cursor) (before : List Token) (fault : Option Fault) :
    Prop :=
  ∃ met ∈ fault, met.objection ≠ none ∧
    met.position = (cursor.skip before.length).position + 1

/-- The fault tells what is viable behind the tokens, and no more of them are
viable, up to hidden parentheses. -/
structure Tells (language : Language Token) (cursor : Cursor)
    (read : Option (List Token)) (fault : Option Fault)
    (before : List Token) : Prop where
  points : Points cursor before.length fault
    (fun kind => Viable language (before ++ [kind.sample]))
    fun kind => ∃ token : Token, token.kind = kind ∧
      Viable language (before ++ [token]) ∧ ¬Hidden before kind
  here : read ≠ some before → ∃ met ∈ fault,
    met.position = (cursor.skip before.length).position
  stop : ∀ token rest, cursor.ahead = before ++ token :: rest →
    Viable language (before ++ [token]) → Hidden before token.kind

/-- The tokens `before` lead to the frontier.  What was read is the longest word
ahead, what was emitted objects to tokens before the frontier, and the fault
stands at the frontier, or behind it with an objection. -/
structure Sight (language : Language Token) (cursor : Cursor)
    (read : Option (List Token)) (fault : Option Fault) (emitted : List Fault)
    (before : List Token) : Prop where
  start : before <+: cursor.ahead
  viable : Viable language before
  longest : Longest language cursor.ahead read
  within : ∀ word ∈ read, word <+: before
  emitted : ∀ met ∈ emitted, met.objection ≠ none ∧
    ∃ token ∈ before, met.start = token.start
  account : Objects cursor before fault ∧ read ≠ some before ∨
    Tells language cursor read fault before

/-- An objection stands behind so many tokens at least, and the token that it is
about. -/
def Firm (depth : Nat) (cursor : Cursor) (fault : Option Fault) : Prop :=
  ∀ met ∈ fault, met.objection ≠ none → cursor.position + depth < met.position

section

variable {first second language : Language Token} {cursor : Cursor}
  {read : Option (List Token)} {fault fault' joined : Option Fault}
  {emitted emitted' : List Fault} {before before' word : List Token}
  {depth depth' : Nat}

theorem Firm.mono (firm : Firm depth cursor fault) (less : depth' ≤ depth) :
    Firm depth' cursor fault := by
  intro met found objects
  have further := firm met found objects
  omega

theorem Firm.of_skip {count : Nat}
    (firm : Firm depth (cursor.skip count) fault) :
    Firm (count + depth) cursor fault := by
  intro met found objects
  have further := firm met found objects
  simp only [Cursor.skip] at further
  omega

theorem Joins.firm (joins : Joins fault fault' joined)
    (firm : Firm depth cursor fault) (firm' : Firm depth cursor fault') :
    Firm depth cursor joined := by
  intro met found objects
  obtain ⟨origin, among, same, -, -, objection⟩ := joins.source met found
  rw [← objection] at objects
  rw [← same]
  rcases among with left | right
  · exact firm origin left objects
  · exact firm' origin right objects

theorem Sight.not_mem (sight : Sight first cursor none fault emitted before) :
    before ∉ first := by
  intro member
  exact sight.longest before member sight.start

theorem Sight.not_mem_of_ne
    (sight : Sight first cursor (some word) fault emitted before)
    (other : word ≠ before) : before ∉ first := by
  intro member
  exact other (sight.longest.eq_of_isPrefix member sight.start
    (sight.within word rfl))

/-- What is looked at in one language is looked at in another one that goes on
from the frontier in the same ways. -/
theorem Sight.widen {larger : Language Token} {read' : Option (List Token)}
    (sight : Sight language cursor read fault emitted before)
    (more : ∀ tokens, Viable language tokens → Viable larger tokens)
    (only : ∀ token, Viable larger (before ++ [token]) →
      Viable language (before ++ [token]) ∨ Hidden before token.kind)
    (longest : Longest larger cursor.ahead read')
    (within : ∀ word ∈ read', word <+: before)
    (same : read = some before → read' = some before)
    (same' : Objects cursor before fault → read' = some before →
      read = some before) :
    Sight larger cursor read' fault emitted before := by
  refine ⟨sight.start, more before sight.viable, longest, within, sight.emitted,
    ?_⟩
  rcases sight.account with ⟨objects, other⟩ | tells
  · exact .inl ⟨objects, fun equal => other (same' objects equal)⟩
  · refine .inr ⟨?_, fun other => tells.here fun equal => other (same equal), ?_⟩
    · apply tells.points.mono
      · exact fun kind => more _
      · intro kind holds
        obtain ⟨token, rfl, viable, clear⟩ := holds
        have within := (only token viable).resolve_right clear
        exact ⟨token, rfl, within, clear⟩
    · intro token rest split viable
      rcases only token viable with within | hidden
      · exact tells.stop token rest split within
      · exact hidden

theorem Sight.silent (sight : Sight language cursor read fault emitted before) :
    Sight language cursor read fault [] before :=
  ⟨sight.start, sight.viable, sight.longest, sight.within,
    List.forall_mem_nil _, sight.account⟩

/-- Near enough there is no objection. -/
theorem Sight.tells (sight : Sight language cursor read fault emitted before)
    (firm : Firm depth cursor fault) (short : before.length < depth) :
    Tells language cursor read fault before := by
  rcases sight.account with ⟨⟨met, found, objects, place⟩, -⟩ | tells
  · have further := firm met found objects
    simp only [Cursor.skip] at place
    omega
  · exact tells

theorem Sight.tells_of_read
    (sight : Sight language cursor (some before) fault emitted before) :
    Tells language cursor (some before) fault before := by
  rcases sight.account with ⟨-, other⟩ | tells
  · exact absurd rfl other
  · exact tells

/-- A fault before the frontier adds nothing. -/
theorem Sight.join (sight : Sight language cursor read fault emitted before)
    (earlier : ∀ met ∈ fault',
      met.position < (cursor.skip before.length).position)
    (joins : Joins fault' fault joined) :
    Sight language cursor read joined emitted before := by
  refine ⟨sight.start, sight.viable, sight.longest, sight.within, sight.emitted,
    ?_⟩
  rcases sight.account with ⟨⟨met, rfl, objects, place⟩, rest⟩ | tells
  · refine .inl ⟨?_, rest⟩
    obtain ⟨met', rfl, same, objection⟩ := joins.eq_right fun met' member =>
      (earlier met' member).trans (by omega)
    exact ⟨met', rfl, by rwa [objection], same.trans place⟩
  · refine .inr ⟨?_, ?_, tells.stop⟩
    · exact ((Points.of_lt earlier).join tells.points joins).mono
        (fun _ => id) fun _ => .inr
    · intro other
      obtain ⟨met, member, place⟩ := tells.here other
      obtain ⟨met', member', place', -⟩ := joins.exists_at
        (fun met member => Nat.le_of_lt (earlier met member)) tells.points.le
        (.inr member) place
      exact ⟨met', member', place'⟩

/-! ## Products -/

theorem hidden_append_iff {kind : Token.Kind} (nonempty : before' ≠ []) :
    Hidden (before ++ before') kind ↔ Hidden before' kind := by
  rw [Hidden, Hidden, List.getLast?_append_of_ne_nil _ nonempty]

theorem Sight.inhabited
    (sight : Sight language cursor read fault emitted before) :
    ∃ word, word ∈ language := by
  obtain ⟨rest, member⟩ := sight.viable
  exact ⟨before ++ rest, member⟩

theorem Sight.mul_none (sight : Sight first cursor none fault emitted before)
    (separated : Separated first second) (inhabited : ∃ word, word ∈ second) :
    Sight (first * second) cursor none fault emitted before := by
  refine sight.widen (fun tokens viable => viable.mul_left inhabited) ?_
    sight.longest.mul_none (by simp) id fun _ => id
  intro token viable
  exact .inl (separated.viable_first sight.viable sight.not_mem viable)

/-- The first factor was read as far as was looked, and the second was looked
at. -/
theorem Tells.mul_right
    (tells : Tells second (cursor.skip word.length) read fault before)
    (separated : Separated first second) (member : word ∈ first)
    (begun : Viable second before) (nonempty : before ≠ []) :
    Tells (first * second) cursor (read.map (word ++ ·)) fault
      (word ++ before) := by
  refine ⟨?_, ?_, ?_⟩
  · rw [List.length_append]
    apply tells.points.shift.mono
    · intro kind viable
      rw [List.append_assoc]
      exact viable.mul_right member
    · intro kind holds
      obtain ⟨token, same, viable, clear⟩ := holds
      rw [List.append_assoc] at viable
      rw [hidden_append_iff nonempty] at clear
      exact ⟨token, same, separated.viable_second member begun nonempty viable,
        clear⟩
  · intro other
    rw [List.length_append, ← Cursor.skip_skip]
    apply tells.here
    intro same
    apply other
    rw [same, Option.map_some]
  · intro token rest split viable
    rw [List.append_assoc] at viable
    rw [hidden_append_iff nonempty]
    apply tells.stop token rest
    · rw [Cursor.skip, split, List.append_assoc, List.drop_left]
    · exact separated.viable_second member begun nonempty viable

/-- Both factors were looked at where the one ends and the other begins. -/
theorem Tells.mul_between (tells : Tells first cursor (some word) fault word)
    (tells' : Tells second (cursor.skip word.length) read fault' [])
    (separated : Separated first second) (member : word ∈ first)
    (inhabited : ∃ word, word ∈ second) (joins : Joins fault fault' joined) :
    Tells (first * second) cursor (read.map (word ++ ·)) joined word := by
  have shifted := tells'.points.shift
  rw [List.length_nil, Nat.add_zero] at shifted
  refine ⟨?_, ?_, ?_⟩
  · have left := tells.points.mono
      (fun kind viable => Viable.mul_left viable inhabited) fun _ => id
    have right := shifted.mono
      (fun kind viable => Viable.mul_right member viable) fun _ => id
    apply (left.join right joins).mono fun _ => id
    intro kind holds
    obtain ⟨token, same, viable, clear⟩ := holds
    rcases separated.viable_between member viable with first | second
    · exact .inl ⟨token, same, first, clear⟩
    · exact .inr ⟨token, same, second, not_hidden_nil⟩
  · intro other
    obtain ⟨met, found, place⟩ := tells'.here fun same => other (by simp [same])
    rw [List.length_nil, Cursor.skip_zero] at place
    obtain ⟨met', found', place', -⟩ := joins.exists_at tells.points.le
      shifted.le (.inr found) place
    exact ⟨met', found', place'⟩
  · intro token rest split viable
    rcases separated.viable_between member viable with left | right
    · exact tells.stop token rest split left
    · have hidden := tells'.stop token rest
        (by rw [Cursor.skip, split, List.drop_left, List.nil_append]) right
      exact absurd hidden not_hidden_nil

/-- The first factor was read as far as was looked: the frontier of the product
is that of the second factor. -/
theorem Sight.mul_near
    (sight : Sight first cursor (some word) fault emitted word)
    (sight' : Sight second (cursor.skip word.length) read fault' emitted' before')
    (separated : Separated first second) (joins : Joins fault fault' joined) :
    Sight (first * second) cursor (read.map (word ++ ·)) joined
      (emitted ++ emitted') (word ++ before') := by
  have longest := sight.longest.mul separated sight'.longest
  have tells := sight.tells_of_read
  have below := tells.points.le
  obtain ⟨member, ⟨ahead, split⟩, -⟩ := sight.longest
  have drop : (cursor.skip word.length).ahead = ahead := by
    rw [Cursor.skip, ← split, List.drop_left]
  have known {fault : Option Fault}
      (account : Objects cursor (word ++ before') fault ∧
          read.map (word ++ ·) ≠ some (word ++ before') ∨
        Tells (first * second) cursor (read.map (word ++ ·)) fault
          (word ++ before')) :
      Sight (first * second) cursor (read.map (word ++ ·)) fault
        (emitted ++ emitted') (word ++ before') := by
    refine ⟨?_, .mul_right member sight'.viable, longest, ?_, ?_, account⟩
    · rw [← split, List.prefix_append_right_inj, ← drop]
      exact sight'.start
    · intro both among
      obtain ⟨word', among', rfl⟩ := Option.map_eq_some_iff.mp among
      exact (List.prefix_append_right_inj word).mpr (sight'.within word' among')
    · intro met among
      rcases List.mem_append.mp among with left | right
      · obtain ⟨objects, token, among', same⟩ := sight.emitted met left
        exact ⟨objects, token, List.mem_append_left _ among', same⟩
      · obtain ⟨objects, token, among', same⟩ := sight'.emitted met right
        exact ⟨objects, token, List.mem_append_right _ among', same⟩
  rcases sight'.account with ⟨⟨met, rfl, objects, place⟩, other⟩ | tells'
  · refine known (.inl ⟨?_, ?_⟩)
    · rw [Cursor.skip_skip, ← List.length_append] at place
      obtain ⟨met', rfl, same, objection⟩ := joins.eq_right fun met' found => by
        have within := below met' found
        simp only [Cursor.skip, List.length_append] at within place
        omega
      exact ⟨met', rfl, by rwa [objection], same.trans place⟩
    · intro same
      obtain ⟨word', among, equal⟩ := Option.map_eq_some_iff.mp same
      rw [among, List.append_cancel_left equal] at other
      exact other rfl
  · by_cases empty : before' = []
    · subst empty
      apply known
      rw [List.append_nil]
      exact .inr
        (tells.mul_between tells' separated member sight'.inhabited joins)
    · have longer := List.length_pos_iff.mpr empty
      refine Sight.join
        (known (.inr (tells'.mul_right separated member sight'.viable empty))) ?_
        joins
      intro met found
      have within := below met found
      simp only [Cursor.skip, List.length_append] at within ⊢
      omega

/-- More was looked at than the word of the first factor that was read: the
frontier of the product is that of the first factor. -/
theorem Sight.mul_far
    (sight : Sight first cursor (some word) fault emitted before)
    (sight' : Sight second (cursor.skip word.length) read fault' emitted' before')
    (firm' : Firm 1 (cursor.skip word.length) fault')
    (separated : Separated first second) (joins : Joins fault fault' joined)
    (far : word ≠ before) :
    Sight (first * second) cursor (read.map (word ++ ·)) joined
      (emitted ++ emitted') before := by
  have longest := sight.longest.mul separated sight'.longest
  have incomplete := sight.not_mem_of_ne far
  obtain ⟨member, -, -⟩ := sight.longest
  obtain ⟨rest, rfl⟩ := sight.within word rfl
  obtain ⟨ahead, split⟩ := sight.start
  -- The token at which the first factor was left does not start the second.
  obtain rfl : before' = [] := by
    cases before' with
    | nil => rfl
    | cons token before' =>
        have start := sight'.start
        rw [Cursor.skip, ← split, List.append_assoc, List.drop_left] at start
        cases rest with
        | nil => exact absurd (List.append_nil word).symm far
        | cons token' rest =>
            obtain ⟨rfl, -⟩ := List.cons_prefix_cons.mp start
            exact (separated.stop member sight.viable sight'.viable).elim
  have empty : ∀ word' ∈ read, word' = [] := fun word' among =>
    List.prefix_nil.mp (sight'.within word' among)
  have silent : emitted' = [] := by
    apply List.eq_nil_iff_forall_not_mem.mpr
    intro met among
    obtain ⟨-, token, among', -⟩ := sight'.emitted met among
    cases among'
  have longer : rest ≠ [] := by
    rintro rfl
    exact far (List.append_nil word).symm
  have below := (sight'.tells firm' Nat.zero_lt_one).points.le
  subst silent
  rw [List.append_nil]
  refine Sight.join ?_ ?_ joins.symm
  · apply sight.widen fun tokens viable => viable.mul_left sight'.inhabited
    · intro token viable
      exact .inl (separated.viable_first sight.viable incomplete viable)
    · exact longest
    · intro both among
      obtain ⟨word', among', rfl⟩ := Option.map_eq_some_iff.mp among
      rw [empty word' among', List.append_nil]
      exact List.prefix_append _ _
    · exact fun same => absurd (Option.some.inj same) far
    · intro _ same
      obtain ⟨word', among', same⟩ := Option.map_eq_some_iff.mp same
      rw [empty word' among'] at same
      exact absurd (List.append_cancel_left same).symm longer
  · intro met found
    have within := below met found
    have positive := List.length_pos_iff.mpr longer
    simp only [Cursor.skip, List.length_append, List.length_nil] at within ⊢
    omega

/-- The frontier of a product is that of its first factor, or that of the second
behind the word of the first that was read. -/
theorem Sight.mul
    (sight : Sight first cursor (some word) fault emitted before)
    (sight' : Sight second (cursor.skip word.length) read fault' emitted' before')
    (near : word = before ∨ Firm 1 (cursor.skip word.length) fault')
    (separated : Separated first second) (joins : Joins fault fault' joined) :
    ∃ before, Sight (first * second) cursor (read.map (word ++ ·)) joined
      (emitted ++ emitted') before := by
  by_cases same : word = before
  · subst same
    exact ⟨_, sight.mul_near sight' separated joins⟩
  · exact ⟨_, sight.mul_far sight' (near.resolve_left same) separated joins same⟩

/-! ## Choices -/

theorem Longest.add_left (longest : Longest first cursor.ahead (some word))
    (left : ∀ word ∈ first, ¬Viable second word) :
    Longest (first + second) cursor.ahead (some word) := by
  obtain ⟨member, start, longer⟩ := longest
  refine ⟨.inl member, start, ?_⟩
  intro word' either start'
  rcases either with member' | member'
  · exact longer word' member' start'
  · by_contra more
    exact left word member (viable_of_isPrefix member'
      (List.prefix_of_prefix_length_le start start' (by omega)))

theorem Longest.add_right (longest : Longest first cursor.ahead none)
    (longest' : Longest second cursor.ahead read) :
    Longest (first + second) cursor.ahead read := by
  cases read with
  | none =>
      intro word either start
      rcases either with member | member
      · exact longest word member start
      · exact longest' word member start
  | some last =>
      obtain ⟨member, start, longer⟩ := longest'
      refine ⟨.inr member, start, ?_⟩
      intro word either start'
      rcases either with member' | member'
      · exact absurd start' (longest word member')
      · exact longer word member' start'

/-- When the first language was read, nothing is lost by not trying the
second. -/
theorem Sight.add_left
    (sight : Sight first cursor (some word) fault emitted before)
    (left : ∀ word ∈ first, ¬Viable second word) :
    Sight (first + second) cursor (some word) fault emitted before := by
  refine sight.widen (fun tokens viable => viable_add_iff.mpr (.inl viable)) ?_
    (sight.longest.add_left left) sight.within id fun _ => id
  intro token viable
  rcases viable_add_iff.mp viable with viable | viable
  · exact .inl viable
  · exact (left word sight.longest.1 (viable.of_isPrefix
      ((sight.within word rfl).trans (List.prefix_append _ _)))).elim

/-- What goes on with the first language behind the frontier of the second, once
a word of the second was read, is hidden. -/
theorem Apart.hidden_of_longest (apart : Apart first second) {token : Token}
    (member : word ∈ second) (start : word <+: before)
    (begun : Viable second before) (viable : Viable first (before ++ [token])) :
    Hidden before token.kind := by
  obtain ⟨rest, rfl⟩ := start
  cases rest with
  | nil =>
      rw [List.append_nil] at viable ⊢
      exact apart.right word member token viable
  | cons token' rest =>
      have next : word ++ [token'] <+: word ++ token' :: rest :=
        ⟨rest, by simp⟩
      have longer := viable.of_isPrefix (next.trans (List.prefix_append _ _))
      have hidden := apart.right word member token' longer
      exact (apart.hidden word token'.kind
        (longer.of_isPrefix (List.prefix_append _ _)) (viable_of_mem member)
        hidden token' (begun.of_isPrefix next)).elim

/-- When the first language was given up and the second was read, what was met
in the first may be forgotten. -/
theorem Sight.add_right (longest : Longest first cursor.ahead none)
    (sight : Sight second cursor (some word) fault emitted before)
    (apart : Apart first second) :
    Sight (first + second) cursor (some word) fault emitted before := by
  refine sight.widen (fun tokens viable => viable_add_iff.mpr (.inr viable)) ?_
    (longest.add_right sight.longest) sight.within id fun _ => id
  intro token viable
  rcases viable_add_iff.mp viable with viable | viable
  · exact .inr (apart.hidden_of_longest sight.longest.1 (sight.within word rfl)
      sight.viable viable)
  · exact .inl viable

/-- What is viable further on than the frontier goes on hidden there. -/
theorem Tells.hidden_of_further {longer : List Token}
    (tells : Tells language cursor read fault before)
    (start : before <+: longer) (further : before.length < longer.length)
    (ahead : longer <+: cursor.ahead) (viable : Viable language longer) :
    ∃ token, before ++ [token] <+: longer ∧ Hidden before token.kind := by
  obtain ⟨_ | ⟨token, rest⟩, rfl⟩ := start
  · simp at further
  · have next : before ++ [token] <+: before ++ token :: rest := ⟨rest, by simp⟩
    obtain ⟨behind, split⟩ := ahead
    refine ⟨token, next, tells.stop token (rest ++ behind) ?_
      (viable.of_isPrefix next)⟩
    rw [← split, List.append_assoc, List.cons_append]

/-- Where two languages are looked at equally far, both are told about. -/
theorem Sight.add_equal
    (sight : Sight first cursor none fault emitted before)
    (sight' : Sight second cursor none fault' emitted' before)
    (firm : Firm 2 cursor fault) (firm' : Firm 2 cursor fault')
    (apart : Apart first second) (joins : Joins fault fault' joined) :
    Sight (first + second) cursor none joined [] before := by
  have short := apart.common before sight.viable sight'.viable
  have tells := sight.tells firm (Nat.lt_succ_of_le short)
  have tells' := sight'.tells firm' (Nat.lt_succ_of_le short)
  have less : first ≤ first + second := fun word => .inl
  have less' : second ≤ first + second := fun word => .inr
  refine ⟨sight.start, viable_add_iff.mpr (.inl sight.viable),
    sight.longest.add_right sight'.longest, by simp, by simp, .inr ⟨?_, ?_, ?_⟩⟩
  · have left := tells.points.mono
      (fun kind viable => Viable.mono viable less) fun _ => id
    have right := tells'.points.mono
      (fun kind viable => Viable.mono viable less') fun _ => id
    apply (left.join right joins).mono fun _ => id
    intro kind holds
    obtain ⟨token, same, viable, clear⟩ := holds
    rcases viable_add_iff.mp viable with viable | viable
    · exact .inl ⟨token, same, viable, clear⟩
    · exact .inr ⟨token, same, viable, clear⟩
  · intro other
    obtain ⟨met, found, place⟩ := tells.here other
    obtain ⟨met', found', place', -⟩ := joins.exists_at tells.points.le
      tells'.points.le (.inl found) place
    exact ⟨met', found', place'⟩
  · intro token rest split viable
    rcases viable_add_iff.mp viable with viable | viable
    · exact tells.stop token rest split viable
    · exact tells'.stop token rest split viable

/-- Where one of two languages is looked at further than the other, the other
does not matter. -/
theorem Sight.add_further
    (sight : Sight first cursor none fault emitted before)
    (sight' : Sight second cursor none fault' emitted' before')
    (tells' : Tells second cursor none fault' before')
    (further : before'.length < before.length)
    (only : ∀ token, ¬Viable second (before ++ [token]))
    (joins : Joins fault fault' joined) :
    Sight (first + second) cursor none joined [] before := by
  refine Sight.join ?_ ?_ joins.symm
  · refine (sight.widen (fun tokens viable => viable_add_iff.mpr (.inl viable))
      ?_ (sight.longest.add_right sight'.longest) (by simp) id fun _ => id).silent
    intro token viable
    exact .inl ((viable_add_iff.mp viable).resolve_right (only token))
  · intro met found
    have within := tells'.points.le met found
    simp only [Cursor.skip] at within ⊢
    omega

/-- Where two languages that are apart are both given up, the frontier is the
further one. -/
theorem Sight.add_none (sight : Sight first cursor none fault emitted before)
    (sight' : Sight second cursor none fault' emitted' before')
    (firm : Firm 2 cursor fault) (firm' : Firm 2 cursor fault')
    (apart : Apart first second) (joins : Joins fault fault' joined) :
    ∃ before, Sight (first + second) cursor none joined [] before := by
  rcases Nat.lt_trichotomy before.length before'.length with
    below | same | above
  · have start := List.prefix_of_prefix_length_le sight.start sight'.start
      (Nat.le_of_lt below)
    have viable' := sight'.viable.of_isPrefix start
    have tells := sight.tells firm
      (Nat.lt_succ_of_le (apart.common before sight.viable viable'))
    refine ⟨before', ?_⟩
    rw [add_comm]
    refine sight'.add_further sight tells below ?_ joins.symm
    intro token viable
    obtain ⟨token', next, hidden⟩ := tells.hidden_of_further start below
      sight'.start (viable.of_isPrefix (List.prefix_append _ _))
    exact apart.hidden before token'.kind sight.viable viable' hidden token'
      (sight'.viable.of_isPrefix next)
  · have start := List.prefix_of_prefix_length_le sight.start sight'.start
      (Nat.le_of_eq same)
    obtain rfl := start.eq_of_length same
    exact ⟨before, sight.add_equal sight' firm firm' apart joins⟩
  · have start := List.prefix_of_prefix_length_le sight'.start sight.start
      (Nat.le_of_lt above)
    have viable := sight.viable.of_isPrefix start
    have tells' := sight'.tells firm'
      (Nat.lt_succ_of_le (apart.common before' viable sight'.viable))
    refine ⟨before, sight.add_further sight' tells' above ?_ joins⟩
    intro token longer
    have viable' := longer.of_isPrefix (List.prefix_append _ _)
    obtain ⟨token', next, hidden⟩ := tells'.hidden_of_further start above
      sight.start viable'
    exact apart.hidden before' token'.kind viable sight'.viable hidden token'
      (viable'.of_isPrefix next)

/-- When one of two languages was read and the other given up, the fault of the
other is joined: it lies before the frontier. -/
theorem Sight.add_some
    (sight : Sight first cursor (some word) fault emitted before)
    (sight' : Sight second cursor none fault' emitted' before')
    (firm' : Firm 2 cursor fault') (left : ∀ word ∈ first, ¬Viable second word)
    (common : ∀ tokens, Viable first tokens → Viable second tokens →
      tokens.length ≤ 1) (joins : Joins fault fault' joined) :
    Sight (first + second) cursor (some word) joined emitted before := by
  refine (sight.add_left left).join ?_ joins.symm
  have within := sight.within word rfl
  have shorter : before'.length < word.length := by
    by_contra longer
    exact left word sight.longest.1 (sight'.viable.of_isPrefix
      (List.prefix_of_prefix_length_le sight.longest.2.1 sight'.start
        (by omega)))
  have start := List.prefix_of_prefix_length_le sight'.start sight.start
    (Nat.le_of_lt (shorter.trans_le within.length_le))
  have short := common before' (sight.viable.of_isPrefix start) sight'.viable
  intro met found
  have tells' := sight'.tells firm' (Nat.lt_succ_of_le short)
  have below := tells'.points.le met found
  have longer := within.length_le
  simp only [Cursor.skip] at below ⊢
  omega

/-- What may be left out is left out when it is given up. -/
theorem Sight.optional_none
    (sight : Sight language cursor none fault emitted before)
    (firm : Firm 1 cursor fault) :
    Sight (1 + language) cursor (some []) fault emitted before := by
  refine sight.widen (fun tokens viable => viable_add_iff.mpr (.inr viable)) ?_
    ?_ ?_ nofun ?_
  · intro token viable
    exact .inl ((viable_one_add_iff (by simp)).mp viable)
  · refine ⟨.inl rfl, List.nil_prefix, ?_⟩
    intro word either start
    rcases either with rfl | member
    · exact Nat.le_refl _
    · exact absurd start (sight.longest word member)
  · intro word same
    cases same
    exact List.nil_prefix
  · intro objects same
    obtain ⟨met, found, objection, place⟩ := objects
    have further := firm met found objection
    cases Option.some.inj same
    simp [Cursor.skip] at place
    omega

theorem Sight.optional_some
    (sight : Sight language cursor (some word) fault emitted before) :
    Sight (1 + language) cursor (some word) fault emitted before := by
  obtain ⟨member, start, longer⟩ := sight.longest
  refine sight.widen (fun tokens viable => viable_add_iff.mpr (.inr viable)) ?_
    ⟨.inr member, start, ?_⟩ sight.within id fun _ => id
  · intro token viable
    exact .inl ((viable_one_add_iff (by simp)).mp viable)
  · intro word' either start'
    rcases either with rfl | member'
    · exact Nat.zero_le _
    · exact longer word' member' start'

end

end TreeQuery.Reading
