import TreeQuery.Proofs.Reading.Frontier
import TreeQuery.Proofs.Reading.Reads

/-!
# Rules that look as far as the frontier

A rule tracks a language when it reads the longest word ahead, or fails if there
is none, and in both cases accounts for the frontier of the language.  Every
combinator of rules keeps this.
-/

namespace TreeQuery.Reading

/-- What came of a rule for the language at the place: it read a word, or gave
up. -/
inductive Sees {α : Type} (depth : Nat) (language : Language Token)
    (cursor : Cursor) (outcome : Outcome α) : Prop where
  | took {word before : List Token} {progress : Progress α}
      (result : outcome.result = .ok progress)
      (next : progress.next = cursor.skip word.length)
      (firm : Firm depth cursor progress.passed)
      (sight : Sight language cursor (some word) progress.passed
        outcome.emitted before)
  | gave {before : List Token} {fault : Fault}
      (result : outcome.result = .error fault)
      (firm : Firm depth cursor (some fault))
      (sight : Sight language cursor none (some fault) outcome.emitted before)

theorem Sees.ok {α : Type} {depth : Nat} {language : Language Token}
    {cursor : Cursor} {word before : List Token} {passed : Option Fault}
    {emitted : List Fault} {value : α} (firm : Firm depth cursor passed)
    (sight : Sight language cursor (some word) passed emitted before) :
    Sees depth language cursor
      ⟨emitted, .ok ⟨value, cursor.skip word.length, passed⟩⟩ :=
  .took rfl rfl firm sight

namespace Rule

/-- The rule tracks the language on inputs shorter than the bound. -/
def Tracks {α : Type} (rule : Rule α) (depth bound : Nat)
    (language : Language Token) : Prop :=
  ∀ cursor : Cursor, cursor.ahead.length < bound →
    Sees depth language cursor (rule cursor)

/-- A rule that passes over no fault. -/
def Plain {α : Type} (rule : Rule α) : Prop :=
  ∀ cursor progress, (rule cursor).result = .ok progress →
    progress.passed = none

/-- A rule that emits nothing when it fails. -/
def Quiet {α : Type} (rule : Rule α) : Prop :=
  ∀ cursor fault, (rule cursor).result = .error fault →
    (rule cursor).emitted = []

end Rule

/-! ## Single tokens -/

section

variable {allowed : Token → Prop} {kind : Token.Kind} {cursor : Cursor}
  {found : Token} {rest : List Token}

theorem firm_none {depth : Nat} : Firm depth cursor none := by
  intro met found
  cases found

theorem firm_unexpected {depth : Nat} {expected : List Expectation} :
    Firm depth cursor (some (cursor.unexpected expected)) := by
  intro met found objects
  cases found
  exact absurd rfl objects

theorem Cursor.skip_one (split : cursor.ahead = found :: rest) :
    cursor.skip 1 =
      { cursor with ahead := rest, position := cursor.position + 1 } := by
  simp [Cursor.skip, split]

/-- Nothing goes on behind a single token. -/
theorem Sight.single_read (split : cursor.ahead = found :: rest)
    (fits : allowed found) :
    Sight (single allowed) cursor (some [found]) none [] [found] := by
  have start : [found] <+: cursor.ahead := by simp [split]
  have done (token : Token) : ¬Viable (single allowed) ([found] ++ [token]) :=
    not_viable_single (List.cons_ne_nil _ _)
  refine ⟨start, viable_single_iff.mpr fits, ⟨⟨found, rfl, fits⟩, start, ?_⟩,
    by simp, by simp, .inr ⟨⟨by simp, by simp, by simp, ?_⟩, by simp, ?_⟩⟩
  · intro word member _
    obtain ⟨token, rfl, -⟩ := member
    exact Nat.le_refl _
  · intro kind holds
    obtain ⟨token, -, viable, -⟩ := holds
    exact absurd viable (done token)
  · intro token behind _ viable
    exact absurd viable (done token)

theorem Longest.single_none
    (refused : ∀ token ∈ cursor.ahead.head?, ¬allowed token) :
    Longest (single allowed) cursor.ahead none := by
  intro word member start
  obtain ⟨token, rfl, fits⟩ := member
  obtain ⟨rest, split⟩ := start
  exact refused token (by simp [← split]) fits

/-- Any token that is allowed is expected where another one is met. -/
theorem Sight.single_refused {expected : List Expectation}
    (refused : ∀ token ∈ cursor.ahead.head?, ¬allowed token)
    (sample : allowed kind.sample)
    (only : ∀ token, allowed token → token.kind = kind)
    (expects : ∀ expectation, expectation ∈ expected ↔
      expectation = .token kind) :
    Sight (single allowed) cursor none (some (cursor.unexpected expected)) []
      [] := by
  refine ⟨List.nil_prefix, ⟨[kind.sample], kind.sample, rfl, sample⟩,
    .single_none refused, by simp, by simp, .inr ⟨⟨?_, ?_, ?_, ?_⟩, ?_, ?_⟩⟩
  · intro met found
    cases found
    exact Nat.le_refl _
  · intro met found _
    cases found
    exact ⟨rfl, rfl, rfl⟩
  · intro met found _ expectation expected
    cases found
    exact ⟨kind, (expects expectation).mp expected,
      viable_single_iff.mpr sample⟩
  · intro other holds
    obtain ⟨token, rfl, viable, -⟩ := holds
    refine ⟨_, rfl, rfl, (expects _).mpr ?_⟩
    rw [only token (viable_single_iff.mp viable)]
  · intro _
    exact ⟨_, rfl, rfl⟩
  · intro token rest split viable
    exact absurd (viable_single_iff.mp viable) (refused token (by simp [split]))

/-- The token is of the right kind, but is objected to. -/
theorem Sight.single_objected {objection : Objection} {place : Nat}
    (inhabited : ∃ token, allowed token)
    (refused : ∀ token ∈ cursor.ahead.head?, ¬allowed token) :
    Sight (single allowed) cursor none
      (some ((cursor.skip 1).object place objection)) [] [] := by
  obtain ⟨token, fits⟩ := inhabited
  exact ⟨List.nil_prefix, ⟨[token], token, rfl, fits⟩, .single_none refused,
    by simp, by simp, .inl ⟨⟨_, rfl, by simp [Cursor.object], rfl⟩, by simp⟩⟩

end

namespace Rule

section

variable {α β : Type} {rule : Rule α} {second : Rule β}
  {language language' : Language Token} {depth depth' bound bound' : Nat}
  {kind : Token.Kind} {cursor : Cursor}

theorem Tracks.mono (tracks : rule.Tracks depth bound language)
    (less : depth' ≤ depth) (shorter : bound' ≤ bound) :
    rule.Tracks depth' bound' language := by
  intro cursor short
  cases tracks cursor (short.trans_le shorter) with
  | took result next firm sight =>
      exact .took result next (firm.mono less) sight
  | gave result firm sight => exact .gave result (firm.mono less) sight

theorem token_eq_accept {found : Token} {rest : List Token}
    (split : cursor.ahead = found :: rest) (fits : found.kind = kind) :
    token kind cursor = .accept found (cursor.skip 1) := by
  simp only [token, split, fits, if_true, Cursor.skip_one split]

theorem token_eq_refuse
    (other : ∀ token ∈ cursor.ahead.head?, token.kind ≠ kind) :
    token kind cursor = .refuse (cursor.unexpected [.token kind]) := by
  unfold token
  split
  · next found rest split =>
      rw [if_neg (other found (by simp [split]))]
  · rfl

/-- The token ahead is of the kind, or none is. -/
theorem head_cases (cursor : Cursor) (kind : Token.Kind) :
    (∃ found rest, cursor.ahead = found :: rest ∧ found.kind = kind) ∨
      ∀ token ∈ cursor.ahead.head?, token.kind ≠ kind := by
  cases split : cursor.ahead with
  | nil => simp
  | cons found rest =>
      by_cases fits : found.kind = kind
      · exact .inl ⟨found, rest, rfl, fits⟩
      · exact .inr (by simpa using fits)

theorem token_tracks (kind : Token.Kind) (depth bound : Nat) :
    (token kind).Tracks depth bound (ofKinds [kind]) := by
  intro cursor _
  rcases head_cases cursor kind with ⟨found, rest, split, fits⟩ | other
  · rw [token_eq_accept split fits]
    have member : found.kind ∈ [kind] := List.mem_singleton.mpr fits
    exact .ok firm_none (.single_read split member)
  · rw [token_eq_refuse other]
    have sample : kind.sample.kind ∈ [kind] := List.mem_singleton_self kind
    refine .gave rfl firm_unexpected (.single_refused ?_ sample ?_ ?_)
    · exact fun token ahead same => other token ahead (List.mem_singleton.mp same)
    · exact fun token => List.mem_singleton.mp
    · exact fun expectation => List.mem_singleton

theorem token_plain (kind : Token.Kind) : (token kind).Plain := by
  intro cursor progress result
  rcases head_cases cursor kind with ⟨found, rest, split, fits⟩ | other
  · rw [token_eq_accept split fits] at result
    cases result
    rfl
  · rw [token_eq_refuse other] at result
    cases result

theorem token_quiet (kind : Token.Kind) : (token kind).Quiet :=
  fun _ _ _ => token_emitted

/-! ## Values -/

theorem Tracks.map (tracks : rule.Tracks depth bound language) (change : α → β) :
    (rule.map change).Tracks depth bound language := by
  intro cursor short
  cases tracks cursor short with
  | took result next firm sight =>
      exact .took (by rw [Rule.map, Outcome.map, result]; rfl) next firm sight
  | gave result firm sight =>
      exact .gave (by rw [Rule.map, Outcome.map, result]; rfl) firm sight

theorem map_ok {change : α → β} {progress : Progress β}
    (result : ((rule.map change) cursor).result = .ok progress) :
    ∃ before, (rule cursor).result = .ok before ∧
      progress = ⟨change before.value, before.next, before.passed⟩ := by
  rw [Rule.map, Outcome.map] at result
  cases given : (rule cursor).result with
  | error fault =>
      rw [given] at result
      cases result
  | ok before =>
      rw [given] at result
      cases result
      exact ⟨before, rfl, rfl⟩

theorem Plain.map (plain : rule.Plain) (change : α → β) :
    (rule.map change).Plain := by
  intro cursor progress result
  obtain ⟨before, given, rfl⟩ := map_ok result
  exact plain cursor before given

theorem Quiet.map (quiet : rule.Quiet) (change : α → β) :
    (rule.map change).Quiet := by
  intro cursor fault result
  rw [Rule.map, Outcome.map] at result
  cases given : (rule cursor).result with
  | error fault => exact quiet cursor fault given
  | ok before =>
      rw [given] at result
      cases result

/-! ## Sequences -/

theorem andThen_of_error {fault : Fault}
    (result : (rule cursor).result = .error fault) :
    (rule.andThen second) cursor =
      ⟨(rule cursor).emitted, .error fault⟩ := by
  simp only [andThen, result]

theorem andThen_of_ok_error {progress : Progress α} {fault : Fault}
    (result : (rule cursor).result = .ok progress)
    (result' : (second progress.next).result = .error fault) :
    ∃ joined, Fault.note progress.passed (some fault) = some joined ∧
      (rule.andThen second) cursor =
        ⟨(rule cursor).emitted ++ (second progress.next).emitted,
          .error joined⟩ := by
  simp only [andThen, result, result']
  cases progress.passed <;> exact ⟨_, rfl, rfl⟩

theorem andThen_of_ok_ok {progress : Progress α} {progress' : Progress β}
    (result : (rule cursor).result = .ok progress)
    (result' : (second progress.next).result = .ok progress') :
    (rule.andThen second) cursor =
      ⟨(rule cursor).emitted ++ (second progress.next).emitted,
        .ok ⟨(progress.value, progress'.value), progress'.next,
          Fault.note progress.passed progress'.passed⟩⟩ := by
  simp only [andThen, result, result']

theorem andThen_ok {progress : Progress (α × β)}
    (result : ((rule.andThen second) cursor).result = .ok progress) :
    ∃ before after, (rule cursor).result = .ok before ∧
      (second before.next).result = .ok after ∧
      progress = ⟨(before.value, after.value), after.next,
        Fault.note before.passed after.passed⟩ := by
  cases given : (rule cursor).result with
  | error fault =>
      rw [andThen_of_error given] at result
      cases result
  | ok before =>
      cases given' : (second before.next).result with
      | error fault =>
          obtain ⟨joined, -, same⟩ := andThen_of_ok_error given given'
          rw [same] at result
          cases result
      | ok after =>
          rw [andThen_of_ok_ok given given'] at result
          cases result
          exact ⟨before, after, rfl, given', rfl⟩

/-- A rule behind another one, which need not be so firm when the other was read
as far as it looked. -/
theorem sees_andThen (inner : Nat)
    (sees : Sees depth language cursor (rule cursor))
    (inhabited : ∃ word, word ∈ language')
    (separated : Separated language language')
    (after : ∀ word before progress, progress.next = cursor.skip word.length →
      (rule cursor).result = .ok progress →
      Sight language cursor (some word) progress.passed (rule cursor).emitted
        before →
      Sees inner language' progress.next (second progress.next) ∧
        (word = before ∨ 1 ≤ inner) ∧ depth ≤ word.length + inner) :
    Sees depth (language * language') cursor
      ((rule.andThen second) cursor) := by
  cases sees with
  | gave result firm sight =>
      rw [andThen_of_error result]
      exact .gave rfl firm (sight.mul_none separated inhabited)
  | @took word before progress result next firm sight =>
      obtain ⟨sees', near, less⟩ := after word before progress next result sight
      have further {fault : Option Fault}
          (firm' : Firm inner progress.next fault) :
          (word = before ∨ Firm 1 (cursor.skip word.length) fault) ∧
            Firm depth cursor fault := by
        rw [next] at firm'
        exact ⟨near.imp_right firm'.mono, firm'.of_skip.mono less⟩
      cases sees' with
      | @gave _ fault result' firm' sight' =>
          obtain ⟨near', firm'⟩ := further firm'
          obtain ⟨joined, noted, same⟩ := andThen_of_ok_error result result'
          have joins := Joins.note progress.passed (some fault)
          rw [noted] at joins
          rw [next] at sight'
          obtain ⟨_, both⟩ := sight.mul sight' near' separated joins
          rw [same, next]
          exact .gave rfl (joins.firm firm firm') both
      | @took word' _ progress' result' next' firm' sight' =>
          obtain ⟨near', firm'⟩ := further firm'
          have joins := Joins.note progress.passed progress'.passed
          rw [next] at next' sight'
          obtain ⟨_, both⟩ := sight.mul sight' near' separated joins
          rw [andThen_of_ok_ok result result', next, next', Cursor.skip_skip,
            ← List.length_append]
          exact .ok (joins.firm firm firm') both

theorem Tracks.andThen (tracks : rule.Tracks depth bound language)
    (tracks' : second.Tracks depth bound language')
    (inhabited : ∃ word, word ∈ language')
    (separated : Separated language language') (positive : 1 ≤ depth) :
    (rule.andThen second).Tracks depth bound (language * language') := by
  intro cursor short
  refine sees_andThen depth (tracks cursor short) inhabited separated ?_
  intro word before progress next result sight
  refine ⟨tracks' _ ?_, .inr positive, Nat.le_add_left _ _⟩
  rw [next]
  exact (cursor.length_skip_le _).trans_lt short

/-- A rule that reads no less than it looks at. -/
theorem Plain.eq_of_sight (plain : rule.Plain) {word before : List Token}
    {progress : Progress α} {emitted : List Fault}
    (result : (rule cursor).result = .ok progress)
    (sight : Sight language cursor (some word) progress.passed emitted before) :
    word = before := by
  rw [plain cursor progress result] at sight
  rcases sight.account with ⟨⟨met, found, -⟩, -⟩ | tells
  · cases found
  · by_contra other
    obtain ⟨met, found, -⟩ := tells.here fun same =>
      other (Option.some.inj same)
    cases found

theorem Tracks.plain_andThen (tracks : rule.Tracks depth bound language)
    (plain : rule.Plain) (tracks' : second.Tracks depth bound language')
    (inhabited : ∃ word, word ∈ language')
    (separated : Separated language language') :
    (rule.andThen second).Tracks depth bound (language * language') := by
  intro cursor short
  refine sees_andThen depth (tracks cursor short) inhabited separated ?_
  intro word before progress next result sight
  refine ⟨tracks' _ ?_, .inl (plain.eq_of_sight result sight),
    Nat.le_add_left _ _⟩
  rw [next]
  exact (cursor.length_skip_le _).trans_lt short

/-- Behind a token there is less input left. -/
theorem Tracks.token_andThen {allowed : Token → Prop}
    (tracks : rule.Tracks (depth + 1) (bound + 1) (single allowed))
    (plain : rule.Plain) (tracks' : second.Tracks depth bound language')
    (inhabited : ∃ word, word ∈ language') :
    (rule.andThen second).Tracks (depth + 1) (bound + 1)
      (single allowed * language') := by
  intro cursor short
  refine sees_andThen depth (tracks cursor short) inhabited single_separated ?_
  intro word before progress next result sight
  obtain ⟨⟨token, rfl, -⟩, ⟨rest, split⟩, -⟩ := sight.longest
  refine ⟨tracks' _ ?_, .inl (plain.eq_of_sight result sight), ?_⟩
  · rw [next]
    rw [← split] at short
    simp [Cursor.skip, ← split] at short ⊢
    omega
  · rw [List.length_singleton, Nat.add_comm]

theorem Tracks.optional (tracks : rule.Tracks depth bound language)
    (positive : 1 ≤ depth) :
    rule.optional.Tracks depth bound (1 + language) := by
  intro cursor short
  cases tracks cursor short with
  | took result next firm sight =>
      simp only [Rule.optional, result]
      exact .took (by rw [Outcome.map, result]; rfl) next firm
        sight.optional_some
  | gave result firm sight =>
      have here : cursor = cursor.skip ([] : List Token).length :=
        (Cursor.skip_zero cursor).symm
      simp only [Rule.optional, result]
      exact .took rfl here firm
        (sight.optional_none (firm.mono positive)).silent

/-! ## Objections -/

theorem exists_start {word : List Token} (nonempty : word ≠ [])
    (start : word <+: cursor.ahead) :
    ∃ token ∈ word, cursor.start = token.start := by
  obtain ⟨token, word, rfl⟩ := List.exists_cons_of_ne_nil nonempty
  obtain ⟨rest, split⟩ := start
  refine ⟨token, List.mem_cons_self, ?_⟩
  rw [Cursor.start, ← split]
  rfl

theorem Tracks.located (tracks : rule.Tracks depth bound language) :
    rule.located.Tracks depth bound language := by
  intro cursor short
  exact tracks.map (fun value => (value, cursor.start)) cursor short

/-- Objections to a value must be about its tokens. -/
theorem Tracks.inspect (tracks : rule.Tracks depth bound language)
    {check : α → β × List (Nat × Objection)}
    (about : ∀ (cursor : Cursor) word progress, cursor.ahead.length < bound →
      (rule cursor).result = .ok progress →
      progress.next = cursor.skip word.length → word <+: cursor.ahead →
      word ∈ language → ∀ objection ∈ (check progress.value).2,
        ∃ token ∈ word, objection.1 = token.start) :
    (rule.inspect check).Tracks depth bound language := by
  intro cursor short
  cases tracks cursor short with
  | gave result firm sight =>
      simp only [Rule.inspect, result]
      exact .gave rfl firm sight
  | @took word before progress result next firm sight =>
      obtain ⟨member, start, -⟩ := sight.longest
      have known := about cursor word progress short result next start member
      simp only [Rule.inspect, result]
      refine .took rfl next firm ⟨sight.start, sight.viable, sight.longest,
        sight.within, ?_, sight.account⟩
      intro met among
      rcases List.mem_append.mp among with emitted | objected
      · exact sight.emitted met emitted
      · obtain ⟨objection, given, rfl⟩ := List.mem_map.mp objected
        obtain ⟨token, inside, same⟩ := known objection given
        exact ⟨Option.some_ne_none _, token,
          (sight.within word rfl).subset inside, same⟩

theorem Quiet.inspect (quiet : rule.Quiet)
    {check : α → β × List (Nat × Objection)} : (rule.inspect check).Quiet := by
  intro cursor fault result
  cases given : (rule cursor).result with
  | error fault =>
      simp only [Rule.inspect, given]
      exact quiet cursor fault given
  | ok progress =>
      simp only [Rule.inspect, given] at result
      cases result

theorem Quiet.andThen (clean : ∀ cursor, (rule cursor).emitted = [])
    (quiet : second.Quiet) : (rule.andThen second).Quiet := by
  intro cursor fault result
  cases given : (rule cursor).result with
  | error fault =>
      rw [andThen_of_error given]
      exact clean cursor
  | ok progress =>
      cases given' : (second progress.next).result with
      | error fault =>
          obtain ⟨joined, -, same⟩ := andThen_of_ok_error given given'
          rw [same, clean cursor, quiet _ fault given', List.append_nil]
      | ok progress' =>
          rw [andThen_of_ok_ok given given'] at result
          cases result

/-! ## Choices -/

/-- The rules each track one of the languages. -/
def TrackEach (bound : Nat) : List (Rule α) → List (Language Token) → Prop :=
  List.Forall₂ fun rule language => rule.Tracks 2 bound language

/-- When a rule has read a word, the rules behind it are not missed. -/
theorem sight_sum {languages : List (Language Token)} {word before : List Token}
    {fault : Option Fault} {emitted : List Fault}
    (sight : Sight language cursor (some word) fault emitted before)
    (apart : ∀ other ∈ languages, Apart language other) :
    Sight (language + languages.sum) cursor (some word) fault emitted before := by
  apply sight.add_left
  intro word member either
  obtain ⟨other, among, viable⟩ := viable_sum_iff.mp either
  exact (apart other among).left word member viable

theorem TrackEach.firstAfter {rules : List (Rule α)}
    {languages : List (Language Token)} (each : TrackEach bound rules languages)
    (apart : (language :: languages).Pairwise Apart) {failed : Fault}
    {before : List Token} (short : cursor.ahead.length < bound)
    (firm : Firm 2 cursor (some failed))
    (sight : Sight language cursor none (some failed) [] before) :
    Sees 2 (language + languages.sum) cursor (firstAfter failed rules cursor) := by
  induction each generalizing language failed before with
  | nil =>
      rw [List.sum_nil, add_zero]
      exact .gave rfl firm sight
  | @cons rule second rules languages tracks _ induction =>
      obtain ⟨first, others⟩ := List.pairwise_cons.mp apart
      obtain ⟨next, last⟩ := List.pairwise_cons.mp others
      have apart' := first second List.mem_cons_self
      have both : ∀ other ∈ languages, Apart (language + second) other :=
        fun other among =>
          (first other (List.mem_cons_of_mem _ among)).add (next other among)
      rw [List.sum_cons, ← add_assoc]
      cases tracks cursor short with
      | took result stop firm' sight' =>
          simp only [Rule.firstAfter, result]
          exact .took result stop firm'
            (sight_sum (sight'.add_right sight.longest apart') both)
      | @gave _ fault result firm' sight' =>
          simp only [Rule.firstAfter, result]
          have joins := (Joins.further fault failed).symm
          obtain ⟨_, sum⟩ := sight.add_none sight' firm firm' apart' joins
          exact induction (List.pairwise_cons.mpr ⟨both, last⟩)
            (joins.firm firm firm') sum

theorem TrackEach.firstOf {rules : List (Rule α)}
    {languages : List (Language Token)}
    (each : TrackEach bound (rule :: rules) languages)
    (apart : languages.Pairwise Apart) :
    (firstOf rule rules).Tracks 2 bound languages.sum := by
  obtain ⟨language, languages, tracks, others, rfl⟩ :=
    List.forall₂_cons_left_iff.mp each
  rw [List.sum_cons]
  intro cursor short
  cases tracks cursor short with
  | took result next firm sight =>
      simp only [Rule.firstOf, result]
      exact .took result next firm
        (sight_sum sight (List.pairwise_cons.mp apart).1)
  | gave result firm sight =>
      simp only [Rule.firstOf, result]
      exact TrackEach.firstAfter others apart short firm sight.silent

theorem firstAfter_quiet (failed : Fault) (rules : List (Rule α)) :
    (firstAfter failed rules).Quiet := by
  induction rules generalizing failed with
  | nil => exact fun _ _ _ => rfl
  | cons rule rules induction =>
      intro cursor fault result
      cases given : (rule cursor).result with
      | ok progress =>
          simp only [firstAfter, given] at result
          cases result
      | error failed' =>
          simp only [firstAfter, given] at result ⊢
          exact induction _ cursor fault result

theorem firstOf_quiet (rule : Rule α) (rules : List (Rule α)) :
    (firstOf rule rules).Quiet := by
  intro cursor fault result
  cases given : (rule cursor).result with
  | ok progress =>
      simp only [firstOf, given] at result
      cases result
  | error failed =>
      simp only [firstOf, given] at result ⊢
      exact firstAfter_quiet failed rules cursor fault result

theorem better_of_error_error {first second : Outcome α} {fault fault' : Fault}
    (result : first.result = .error fault)
    (result' : second.result = .error fault') (silent : first.emitted = [])
    (silent' : second.emitted = []) :
    better first second = ⟨[], .error (fault.further fault')⟩ := by
  obtain ⟨emitted, _⟩ := first
  obtain ⟨emitted', _⟩ := second
  subst silent silent' result result'
  rcases Nat.lt_trichotomy fault.position fault'.position with
    below | same | above
  · simp [better, Fault.further, below, Nat.compare_eq_lt.mpr below]
  · simp [better, Fault.further, comparePositions, same]
  · simp [better, Fault.further, above, above.le, Nat.compare_eq_gt.mpr above]

theorem orElse_eq (first second : Rule α) (cursor : Cursor) :
    (first.orElse second) cursor =
      if (first cursor).isClean then first cursor
      else if (second cursor).isClean then second cursor
      else better (first cursor) (second cursor) := rfl

/-- A choice gives the outcome of one of the rules, with the fault of the other
noted unless nothing is wrong with it. -/
theorem Tracks.orElse {second : Rule α} (tracks : rule.Tracks 2 bound language)
    (tracks' : second.Tracks 2 bound language') (quiet : rule.Quiet)
    (quiet' : second.Quiet) (fork : Fork language language') :
    (rule.orElse second).Tracks 2 bound (language + language') := by
  have swapped (tokens : List Token) (viable : Viable language' tokens)
      (viable' : Viable language tokens) : tokens.length ≤ 1 :=
    fork.common tokens viable' viable
  intro cursor short
  rw [orElse_eq]
  by_cases clean : (rule cursor).isClean = true
  · rw [if_pos clean]
    cases tracks cursor short with
    | took result next firm sight =>
        exact .took result next firm (sight.add_left fork.left)
    | gave result =>
        rw [Outcome.isClean, result] at clean
        simp [Except.isOk, Except.toBool] at clean
  rw [if_neg clean]
  cases tracks cursor short with
  | @took word _ progress result next firm sight =>
      cases tracks' cursor short with
      | @took word' _ _ _ _ _ sight' =>
          -- One of the words would begin with the other.
          exfalso
          obtain ⟨member, start, -⟩ := sight.longest
          obtain ⟨member', start', -⟩ := sight'.longest
          rcases List.prefix_or_prefix_of_prefix start start' with more | more
          · exact fork.left word member (viable_of_isPrefix member' more)
          · exact fork.clear word' member' (viable_of_isPrefix member more)
      | @gave _ fault result' firm' sight' =>
          have spoiled : ¬(second cursor).isClean = true := by
            simp [Outcome.isClean, result', Except.isOk, Except.toBool]
          have joins := Joins.note progress.passed (some fault)
          rw [if_neg spoiled]
          simp only [better, result, result', Outcome.insteadOf,
            Outcome.fault?]
          exact .took rfl next (joins.firm firm firm')
            (sight.add_some sight' firm' fork.left fork.common joins)
  | @gave _ fault result firm sight =>
      cases tracks' cursor short with
      | @took _ _ progress result' next' firm' sight' =>
          split
          · exact .took result' next' firm'
              (sight'.add_right sight.longest fork.toApart)
          · have joins := Joins.note progress.passed (some fault)
            simp only [better, result, result', Outcome.insteadOf,
              Outcome.fault?]
            rw [add_comm]
            exact .took rfl next' (joins.firm firm' firm)
              (sight'.add_some sight firm fork.clear swapped joins)
      | @gave _ fault' result' firm' sight' =>
          have spoiled : ¬(second cursor).isClean = true := by
            simp [Outcome.isClean, result', Except.isOk, Except.toBool]
          have joins := Joins.further fault fault'
          obtain ⟨_, both⟩ :=
            sight.add_none sight' firm firm' fork.toApart joins
          rw [if_neg spoiled, better_of_error_error result result'
            (quiet cursor fault result) (quiet' cursor fault' result')]
          exact .gave rfl (joins.firm firm firm') both

end

end Rule

end TreeQuery.Reading
