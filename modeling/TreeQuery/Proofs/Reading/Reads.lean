import Mathlib.Data.List.Forall2
import TreeQuery.Reading.Report

/-!
# Reading without complaint

A rule reads a value when it succeeds and emits nothing, and refuses a place
when it fails and emits nothing.  The faults that were passed over are left out,
so each combinator is described by what its parts read and refuse.
-/

namespace TreeQuery.Reading

namespace Cursor

/-- The kind of the next token, unless the input ends. -/
def nextKind? (cursor : Cursor) : Option Token.Kind :=
  cursor.ahead.head?.map Token.kind

/-- The tokens lead from one place to the other. -/
structure Passes (cursor : Cursor) (tokens : List Token) (next : Cursor) :
    Prop where
  ahead : cursor.ahead = tokens ++ next.ahead
  position : next.position = cursor.position + tokens.length
  sourceEnd : next.sourceEnd = cursor.sourceEnd

section

variable {cursor next : Cursor}

theorem passes_nil_iff : cursor.Passes [] next ↔ next = cursor := by
  constructor
  · intro passes
    obtain ⟨ahead, position, sourceEnd⟩ := passes
    cases cursor
    cases next
    simp_all
  · intro same
    subst next
    exact ⟨rfl, rfl, rfl⟩

theorem passes_append_iff {tokens tokens' : List Token} :
    cursor.Passes (tokens ++ tokens') next ↔
      ∃ middle, cursor.Passes tokens middle ∧ middle.Passes tokens' next := by
  constructor
  · intro passes
    obtain ⟨ahead, position, sourceEnd⟩ := passes
    refine ⟨⟨tokens' ++ next.ahead, cursor.position + tokens.length,
      cursor.sourceEnd⟩, ⟨?_, rfl, rfl⟩, ⟨rfl, ?_, sourceEnd⟩⟩
    · rw [ahead, List.append_assoc]
    · rw [position, List.length_append, Nat.add_assoc]
  · intro both
    obtain ⟨middle, first, second⟩ := both
    refine ⟨?_, ?_, second.sourceEnd.trans first.sourceEnd⟩
    · rw [first.ahead, second.ahead, List.append_assoc]
    · rw [second.position, first.position, List.length_append, Nat.add_assoc]

theorem Passes.append {middle : Cursor} {tokens tokens' : List Token}
    (first : cursor.Passes tokens middle)
    (second : middle.Passes tokens' next) :
    cursor.Passes (tokens ++ tokens') next :=
  passes_append_iff.mpr ⟨middle, first, second⟩

theorem passes_cons_iff {token : Token} {tokens : List Token} :
    cursor.Passes (token :: tokens) next ↔
      ∃ middle, cursor.Passes [token] middle ∧ middle.Passes tokens next :=
  @passes_append_iff cursor next [token] tokens

theorem Passes.nextKind?_eq {token : Token} {tokens : List Token}
    (passes : cursor.Passes (token :: tokens) next) :
    cursor.nextKind? = some token.kind := by
  rw [nextKind?, passes.ahead]
  rfl

theorem nextKind?_ne_of_not_mem {kind : Token.Kind} {kinds : List Token.Kind}
    (here : cursor.nextKind? = some kind) (absent : kind ∉ kinds) :
    ∀ other ∈ kinds, cursor.nextKind? ≠ some other := by
  intro other member same
  rw [here] at same
  cases same
  exact absent member

theorem Passes.forall_nextKind? {prevents : Token.Kind → Prop} {token : Token}
    {tokens : List Token} (passes : cursor.Passes (token :: tokens) next)
    (allowed : ¬prevents token.kind) :
    ∀ kind ∈ cursor.nextKind?, ¬prevents kind := by
  intro kind member
  rw [passes.nextKind?_eq] at member
  cases member
  exact allowed

end

end Cursor

namespace Rule

variable {α β : Type}

/-- The rule reads the value, emits nothing and stops at `next`. -/
def Reads (rule : Rule α) (cursor : Cursor) (value : α) (next : Cursor) :
    Prop :=
  ∃ passed, rule cursor = ⟨[], .ok ⟨value, next, passed⟩⟩

/-- The rule fails and emits nothing. -/
def Refuses (rule : Rule α) (cursor : Cursor) : Prop :=
  ∃ fault, rule cursor = ⟨[], .error fault⟩

/-- The rule refuses every place where no token of these kinds comes next. -/
def StartsWith (rule : Rule α) (kinds : List Token.Kind) : Prop :=
  ∀ cursor : Cursor, (∀ kind ∈ kinds, cursor.nextKind? ≠ some kind) →
    rule.Refuses cursor

section

variable {cursor middle next : Cursor} {kind : Token.Kind} {rule : Rule α}

theorem reads_token_iff {found : Token} :
    (token kind).Reads cursor found next ↔
      found.kind = kind ∧ cursor.Passes [found] next := by
  obtain ⟨ahead, position, sourceEnd⟩ := cursor
  cases ahead with
  | nil =>
      constructor
      · intro reads
        obtain ⟨passed, result⟩ := reads
        simp [token, Outcome.refuse] at result
      · intro both
        exact absurd both.2.ahead (by simp)
  | cons first rest =>
      constructor
      · intro reads
        obtain ⟨passed, result⟩ := reads
        by_cases fits : first.kind = kind
        · simp only [token, fits, if_true, Outcome.accept, Outcome.mk.injEq,
            Except.ok.injEq, Progress.mk.injEq, true_and] at result
          obtain ⟨rfl, rfl, -⟩ := result
          exact ⟨fits, rfl, rfl, rfl⟩
        · simp [token, fits, Outcome.refuse] at result
      · intro both
        obtain ⟨fits, ahead, position', sourceEnd'⟩ := both
        obtain ⟨rfl, rfl⟩ : first = found ∧ rest = next.ahead := by
          simpa using ahead
        refine ⟨none, ?_⟩
        obtain ⟨ahead', place, ending⟩ := next
        obtain rfl : place = position + 1 := position'
        obtain rfl : ending = sourceEnd := sourceEnd'
        simp [token, fits, Outcome.accept]

theorem reads_of_result {progress : Progress α}
    (clean : (rule cursor).emitted = [])
    (result : (rule cursor).result = .ok progress) :
    rule.Reads cursor progress.value progress.next :=
  ⟨progress.passed, by rw [← clean, ← result]⟩

theorem token_emitted : (token kind cursor).emitted = [] := by
  unfold token
  split
  · split <;> rfl
  · rfl

theorem token_refuses (differs : cursor.nextKind? ≠ some kind) :
    (token kind).Refuses cursor := by
  obtain ⟨ahead, position, sourceEnd⟩ := cursor
  cases ahead with
  | nil => exact ⟨_, rfl⟩
  | cons first rest =>
      have other : first.kind ≠ kind := by
        simpa [Cursor.nextKind?] using differs
      exact ⟨_, if_neg other⟩

theorem reads_finish_iff :
    finish.Reads cursor () next ↔ cursor.ahead = [] ∧ next = cursor := by
  obtain ⟨ahead, position, sourceEnd⟩ := cursor
  cases ahead <;>
    simp [Reads, finish, Outcome.accept, Outcome.refuse, eq_comm]

theorem reads_map_iff {change : α → β} {value : β} :
    (rule.map change).Reads cursor value next ↔
      ∃ before, rule.Reads cursor before next ∧ change before = value := by
  unfold Reads Rule.map
  obtain ⟨emitted, fault | progress⟩ := rule cursor
  · simp [Outcome.map, Except.map]
  · obtain ⟨before, stop, passed⟩ := progress
    simp only [Outcome.map, Except.map, Outcome.mk.injEq, Except.ok.injEq,
      Progress.mk.injEq]
    grind

theorem Refuses.map {change : α → β} (refuses : rule.Refuses cursor) :
    (rule.map change).Refuses cursor := by
  obtain ⟨fault, result⟩ := refuses
  exact ⟨fault, by simp [Rule.map, result, Outcome.map, Except.map]⟩

theorem reads_andThen_iff {second : Rule β} {values : α × β} :
    (rule.andThen second).Reads cursor values next ↔
      ∃ middle, rule.Reads cursor values.1 middle ∧
        second.Reads middle values.2 next := by
  unfold Reads andThen
  obtain ⟨emitted, fault | progress⟩ := rule cursor
  · simp
  · obtain ⟨before, stop, passed⟩ := progress
    obtain ⟨value, value'⟩ := values
    rcases result : second stop with ⟨emitted', fault | ⟨after, stop', passed'⟩⟩
    · simp only [result, Outcome.mk.injEq, reduceCtorEq, and_false,
        exists_false, false_iff]
      grind
    · simp only [result, Outcome.mk.injEq, Except.ok.injEq, Progress.mk.injEq,
        List.append_eq_nil_iff]
      grind

theorem Refuses.andThen {second : Rule β} (refuses : rule.Refuses cursor) :
    (rule.andThen second).Refuses cursor := by
  obtain ⟨fault, result⟩ := refuses
  exact ⟨fault, by simp [Rule.andThen, result]⟩

theorem Reads.andThen_refuses {second : Rule β} {value : α}
    (reads : rule.Reads cursor value middle) (refuses : second.Refuses middle) :
    (rule.andThen second).Refuses cursor := by
  obtain ⟨passed, result⟩ := reads
  obtain ⟨fault, result'⟩ := refuses
  exact ⟨_, by simp only [andThen, result, result', List.append_nil]; rfl⟩

theorem reads_skipThen_iff {second : Rule β} {value : β} :
    (rule.skipThen second).Reads cursor value next ↔
      ∃ skipped middle, rule.Reads cursor skipped middle ∧
        second.Reads middle value next := by
  simp only [skipThen, reads_map_iff, reads_andThen_iff, Prod.exists]
  constructor
  · intro read
    obtain ⟨skipped, _, ⟨middle, first, last⟩, rfl⟩ := read
    exact ⟨skipped, middle, first, last⟩
  · intro read
    obtain ⟨skipped, middle, first, last⟩ := read
    exact ⟨skipped, value, ⟨middle, first, last⟩, rfl⟩

theorem Refuses.skipThen {second : Rule β} (refuses : rule.Refuses cursor) :
    (rule.skipThen second).Refuses cursor :=
  refuses.andThen.map

theorem reads_thenSkip_iff {second : Rule β} {value : α} :
    (rule.thenSkip second).Reads cursor value next ↔
      ∃ middle, rule.Reads cursor value middle ∧
        ∃ skipped, second.Reads middle skipped next := by
  simp only [thenSkip, reads_map_iff, reads_andThen_iff, Prod.exists]
  constructor
  · intro read
    obtain ⟨_, skipped, ⟨middle, first, last⟩, rfl⟩ := read
    exact ⟨middle, first, skipped, last⟩
  · intro read
    obtain ⟨middle, first, skipped, last⟩ := read
    exact ⟨value, skipped, ⟨middle, first, last⟩, rfl⟩

theorem Refuses.thenSkip {second : Rule β} (refuses : rule.Refuses cursor) :
    (rule.thenSkip second).Refuses cursor :=
  refuses.andThen.map

theorem reads_between_iff {opening closing : Token.Kind} {value : α} :
    (rule.between opening closing).Reads cursor value next ↔
      ∃ first last before after, first.kind = opening ∧ last.kind = closing ∧
        cursor.Passes [first] before ∧ rule.Reads before value after ∧
        after.Passes [last] next := by
  simp only [between, reads_thenSkip_iff, reads_skipThen_iff, reads_token_iff]
  grind

theorem between_refuses {opening closing : Token.Kind}
    (differs : cursor.nextKind? ≠ some opening) :
    (rule.between opening closing).Refuses cursor :=
  (token_refuses differs).skipThen.thenSkip

theorem Reads.optional {value : α} (reads : rule.Reads cursor value next) :
    rule.optional.Reads cursor (some value) next := by
  obtain ⟨passed, result⟩ := reads
  exact ⟨passed, by simp [Rule.optional, result, Outcome.map, Except.map]⟩

theorem Refuses.optional (refuses : rule.Refuses cursor) :
    rule.optional.Reads cursor none cursor := by
  obtain ⟨fault, result⟩ := refuses
  exact ⟨some fault, by simp [Rule.optional, result]⟩

theorem Reads.optional_cases {value : Option α}
    (reads : rule.optional.Reads cursor value next) :
    (∃ given, value = some given ∧ rule.Reads cursor given next) ∨
      value = none ∧ next = cursor := by
  obtain ⟨passed, result⟩ := reads
  unfold Reads
  rcases outcome : rule cursor with ⟨emitted, fault | ⟨given, stop, passed'⟩⟩
  · right
    simp only [Rule.optional, outcome, Outcome.mk.injEq, Except.ok.injEq,
      Progress.mk.injEq, true_and] at result
    exact ⟨result.1.symm, result.2.1.symm⟩
  · left
    simp only [Rule.optional, outcome, Outcome.map, Except.map,
      Outcome.mk.injEq, Except.ok.injEq, Progress.mk.injEq] at result
    obtain ⟨rfl, rfl, rfl, rfl⟩ := result
    exact ⟨given, rfl, passed', rfl⟩

theorem reads_located_iff {value : α × Nat} :
    rule.located.Reads cursor value next ↔
      rule.Reads cursor value.1 next ∧ value.2 = cursor.start := by
  obtain ⟨given, start⟩ := value
  have same : rule.located.Reads cursor (given, start) next ↔
      (rule.map fun value => (value, cursor.start)).Reads cursor
        (given, start) next := Iff.rfl
  rw [same, reads_map_iff]
  grind

theorem Refuses.located (refuses : rule.Refuses cursor) :
    rule.located.Refuses cursor := by
  obtain ⟨fault, result⟩ := refuses
  exact ⟨fault, by simp [Rule.located, result, Outcome.map, Except.map]⟩

theorem reads_refine_iff {check : α → Except Objection β} {value : β} :
    (rule.refine check).Reads cursor value next ↔
      ∃ before, rule.Reads cursor before next ∧ check before = .ok value := by
  unfold Reads refine
  rcases rule cursor with ⟨emitted, fault | ⟨before, stop, passed⟩⟩
  · simp
  · rcases result : check before with objection | after
    · simp only [result, Outcome.mk.injEq, reduceCtorEq, and_false,
        exists_false, false_iff]
      grind
    · simp only [result, Outcome.mk.injEq, Except.ok.injEq, Progress.mk.injEq]
      grind

theorem reads_inspect_iff {check : α → β × List (Nat × Objection)}
    {value : β} :
    (rule.inspect check).Reads cursor value next ↔
      ∃ before, rule.Reads cursor before next ∧ check before = (value, []) := by
  unfold Reads inspect
  rcases rule cursor with ⟨emitted, fault | ⟨before, stop, passed⟩⟩
  · simp
  · rcases result : check before with ⟨after, objections⟩
    simp only [result, Outcome.mk.injEq, Except.ok.injEq, Progress.mk.injEq,
      List.append_eq_nil_iff, List.map_eq_nil_iff]
    grind

theorem Refuses.inspect {check : α → β × List (Nat × Objection)}
    (refuses : rule.Refuses cursor) : (rule.inspect check).Refuses cursor := by
  obtain ⟨fault, result⟩ := refuses
  exact ⟨fault, by simp [Rule.inspect, result]⟩

end

/-! ## Choice -/

section

variable {cursor next : Cursor} {rule : Rule α} {value : α}

theorem Reads.isClean (reads : rule.Reads cursor value next) :
    (rule cursor).isClean = true := by
  obtain ⟨passed, result⟩ := reads
  rw [result]
  rfl

theorem exists_reads_of_isClean (clean : (rule cursor).isClean = true) :
    ∃ value next, rule.Reads cursor value next := by
  unfold Reads
  rcases result : rule cursor with ⟨emitted, fault | ⟨given, stop, passed⟩⟩
  · simp [result, Outcome.isClean, Except.isOk, Except.toBool] at clean
  · obtain rfl : emitted = [] := by
      simpa [result, Outcome.isClean, Except.isOk, Except.toBool] using clean
    exact ⟨given, stop, passed, rfl⟩

/-- The better of two outcomes with complaints has complaints. -/
theorem better_isClean {first second : Outcome α}
    (unclean : first.isClean = false) (unclean' : second.isClean = false) :
    (better first second).isClean = false := by
  obtain ⟨emitted, result⟩ := first
  obtain ⟨emitted', result'⟩ := second
  unfold better
  cases result <;> cases result' <;> dsimp only <;> repeat' split
  all_goals
    simp_all [Outcome.isClean, Outcome.insteadOf, Except.isOk, Except.toBool,
      Except.map]

theorem Reads.orElse_first {second : Rule α}
    (reads : rule.Reads cursor value next) :
    (rule.orElse second).Reads cursor value next := by
  have clean := reads.isClean
  obtain ⟨passed, result⟩ := reads
  exact ⟨passed, (if_pos clean).trans result⟩

theorem Reads.orElse_second {first : Rule α}
    (unread : ∀ value next, ¬first.Reads cursor value next)
    (reads : rule.Reads cursor value next) :
    (first.orElse rule).Reads cursor value next := by
  have unclean : ¬(first cursor).isClean = true := by
    intro clean
    obtain ⟨value, next, read⟩ := exists_reads_of_isClean clean
    exact unread value next read
  have clean := reads.isClean
  obtain ⟨passed, result⟩ := reads
  exact ⟨passed, (if_neg unclean).trans ((if_pos clean).trans result)⟩

theorem Reads.orElse_cases {first second : Rule α}
    (reads : (first.orElse second).Reads cursor value next) :
    first.Reads cursor value next ∨ second.Reads cursor value next := by
  have clean := reads.isClean
  unfold Reads orElse at reads
  by_cases cleanFirst : (first cursor).isClean = true
  · rw [if_pos cleanFirst] at reads
    exact .inl reads
  · by_cases cleanSecond : (second cursor).isClean = true
    · rw [if_neg cleanFirst, if_pos cleanSecond] at reads
      exact .inr reads
    · have unclean := better_isClean (Bool.eq_false_iff.mpr cleanFirst)
        (Bool.eq_false_iff.mpr cleanSecond)
      simp [orElse, cleanFirst, cleanSecond, unclean] at clean

theorem Refuses.orElse {first second : Rule α} (refuses : first.Refuses cursor)
    (refuses' : second.Refuses cursor) :
    (first.orElse second).Refuses cursor := by
  obtain ⟨fault, result⟩ := refuses
  obtain ⟨fault', result'⟩ := refuses'
  unfold Refuses Rule.orElse
  simp only [result, result', Outcome.isClean, Except.isOk, Except.toBool,
    Bool.and_false, Bool.false_eq_true, if_false, better]
  split <;> exact ⟨_, rfl⟩

theorem Reads.firstAfter_cases {rules : List (Rule α)} {failed : Fault}
    (reads : (firstAfter failed rules).Reads cursor value next) :
    ∃ rule ∈ rules, rule.Reads cursor value next := by
  induction rules generalizing failed with
  | nil =>
      obtain ⟨passed, result⟩ := reads
      simp [firstAfter, Outcome.refuse] at result
  | cons first rules induction =>
      unfold Reads firstAfter at reads
      rcases outcome : first cursor with ⟨emitted, fault | progress⟩
      · simp only [outcome] at reads
        obtain ⟨rule, member, read⟩ := induction reads
        exact ⟨rule, List.mem_cons_of_mem first member, read⟩
      · simp only [outcome] at reads
        obtain ⟨passed, result⟩ := reads
        exact ⟨first, List.mem_cons_self, passed, outcome.trans result⟩

theorem Reads.firstOf_cases {first : Rule α} {others : List (Rule α)}
    (reads : (firstOf first others).Reads cursor value next) :
    ∃ rule ∈ first :: others, rule.Reads cursor value next := by
  unfold Reads firstOf at reads
  rcases outcome : first cursor with ⟨emitted, fault | progress⟩
  · simp only [outcome] at reads
    obtain ⟨rule, member, read⟩ := Reads.firstAfter_cases reads
    exact ⟨rule, List.mem_cons_of_mem first member, read⟩
  · simp only [outcome] at reads
    obtain ⟨passed, result⟩ := reads
    exact ⟨first, List.mem_cons_self, passed, outcome.trans result⟩

theorem Reads.firstAfter {before after : List (Rule α)} (failed : Fault)
    (refuse : ∀ other ∈ before, other.Refuses cursor)
    (reads : rule.Reads cursor value next) :
    (firstAfter failed (before ++ rule :: after)).Reads cursor value next := by
  induction before generalizing failed with
  | nil =>
      obtain ⟨passed, result⟩ := reads
      exact ⟨passed, by simp [Rule.firstAfter, result]⟩
  | cons first before induction =>
      obtain ⟨⟨fault, result⟩, refuseOthers⟩ := List.forall_mem_cons.mp refuse
      obtain ⟨passed, read⟩ := induction (fault.further failed) refuseOthers
      exact ⟨passed, by simpa [Rule.firstAfter, result] using read⟩

theorem Reads.firstOf_first {others : List (Rule α)}
    (reads : rule.Reads cursor value next) :
    (firstOf rule others).Reads cursor value next := by
  obtain ⟨passed, result⟩ := reads
  exact ⟨passed, by simp [firstOf, result]⟩

theorem Reads.firstOf_other {first : Rule α} (before after : List (Rule α))
    (refuses : first.Refuses cursor)
    (refuse : ∀ other ∈ before, other.Refuses cursor)
    (reads : rule.Reads cursor value next) :
    (firstOf first (before ++ rule :: after)).Reads cursor value next := by
  obtain ⟨fault, result⟩ := refuses
  have read : (Rule.firstAfter fault (before ++ rule :: after)).Reads cursor
      value next := Reads.firstAfter fault refuse reads
  obtain ⟨passed, outcome⟩ := read
  exact ⟨passed, by simpa [firstOf, result] using outcome⟩

theorem firstAfter_refuses {rules : List (Rule α)} (failed : Fault)
    (refuse : ∀ rule ∈ rules, rule.Refuses cursor) :
    (Rule.firstAfter failed rules).Refuses cursor := by
  induction rules generalizing failed with
  | nil => exact ⟨failed, rfl⟩
  | cons first rules induction =>
      obtain ⟨⟨fault, result⟩, refuseOthers⟩ := List.forall_mem_cons.mp refuse
      obtain ⟨last, refused⟩ := induction (fault.further failed) refuseOthers
      exact ⟨last, by simpa [Rule.firstAfter, result] using refused⟩

theorem Refuses.firstOf {first : Rule α} {others : List (Rule α)}
    (refuses : first.Refuses cursor)
    (refuse : ∀ rule ∈ others, rule.Refuses cursor) :
    (firstOf first others).Refuses cursor := by
  obtain ⟨fault, result⟩ := refuses
  obtain ⟨last, refused⟩ := firstAfter_refuses fault refuse
  exact ⟨last, by simpa [Rule.firstOf, result] using refused⟩

theorem refuse_of_startWith {rules : List (Rule α)}
    {kinds : List (List Token.Kind)}
    (start : List.Forall₂ StartsWith rules kinds)
    (differ : ∀ kind ∈ kinds.flatten, cursor.nextKind? ≠ some kind) :
    ∀ rule ∈ rules, rule.Refuses cursor := by
  induction start with
  | nil => exact List.forall_mem_nil _
  | cons first _ induction =>
      rw [List.flatten_cons] at differ
      rw [List.forall_mem_cons]
      constructor
      · apply first
        intro kind member
        exact differ kind (List.mem_append_left _ member)
      · apply induction
        intro kind member
        exact differ kind (List.mem_append_right _ member)

/-- A rule is chosen when the ones before it refuse. -/
theorem Reads.firstOf_chosen {first : Rule α} {others : List (Rule α)}
    (index : Nat) (chosen : others[index]? = some rule)
    (refuses : first.Refuses cursor)
    (refuse : ∀ other ∈ others.take index, other.Refuses cursor)
    (reads : rule.Reads cursor value next) :
    (firstOf first others).Reads cursor value next := by
  obtain ⟨inside, rfl⟩ := List.getElem?_eq_some_iff.mp chosen
  have split : others.take index ++ others[index] :: others.drop (index + 1) =
      others := by
    rw [← List.drop_eq_getElem_cons inside, List.take_append_drop]
  rw [← split]
  exact Reads.firstOf_other _ _ refuses refuse reads

/-- A rule is chosen when the ones before it start with tokens of other
kinds. -/
theorem Reads.firstOf_index {first : Rule α} {others : List (Rule α)}
    {kinds : List (List Token.Kind)}
    (start : List.Forall₂ StartsWith others kinds) (index : Nat)
    (chosen : others[index]? = some rule) (refuses : first.Refuses cursor)
    (differ : ∀ kind ∈ (kinds.take index).flatten,
      cursor.nextKind? ≠ some kind)
    (reads : rule.Reads cursor value next) :
    (firstOf first others).Reads cursor value next :=
  Reads.firstOf_chosen index chosen refuses
    (refuse_of_startWith (List.forall₂_take index start) differ) reads

end

/-! ## Beginnings -/

section

variable {rule : Rule α} {kinds kinds' : List Token.Kind}

theorem token_startsWith (kind : Token.Kind) :
    (token kind).StartsWith [kind] := by
  intro cursor differ
  exact token_refuses (differ kind List.mem_cons_self)

theorem StartsWith.map (starts : rule.StartsWith kinds) (change : α → β) :
    (rule.map change).StartsWith kinds := by
  intro cursor differ
  exact (starts cursor differ).map

theorem StartsWith.andThen (starts : rule.StartsWith kinds)
    (second : Rule β) : (rule.andThen second).StartsWith kinds := by
  intro cursor differ
  exact (starts cursor differ).andThen

theorem StartsWith.located (starts : rule.StartsWith kinds) :
    rule.located.StartsWith kinds := by
  intro cursor differ
  exact (starts cursor differ).located

theorem StartsWith.inspect (starts : rule.StartsWith kinds)
    (check : α → β × List (Nat × Objection)) :
    (rule.inspect check).StartsWith kinds := by
  intro cursor differ
  exact (starts cursor differ).inspect

theorem StartsWith.orElse {second : Rule α} (starts : rule.StartsWith kinds)
    (starts' : second.StartsWith kinds') :
    (rule.orElse second).StartsWith (kinds ++ kinds') := by
  intro cursor differ
  obtain ⟨differFirst, differSecond⟩ := List.forall_mem_append.mp differ
  exact (starts cursor differFirst).orElse (starts' cursor differSecond)

theorem StartsWith.firstOf {others : List (Rule α)}
    {otherKinds : List (List Token.Kind)} (starts : rule.StartsWith kinds)
    (start : List.Forall₂ StartsWith others otherKinds) :
    (firstOf rule others).StartsWith (kinds ++ otherKinds.flatten) := by
  intro cursor differ
  obtain ⟨differFirst, differOthers⟩ := List.forall_mem_append.mp differ
  exact (starts cursor differFirst).firstOf
    (refuse_of_startWith start differOthers)

theorem between_startsWith {opening closing : Token.Kind} (rule : Rule α) :
    (rule.between opening closing).StartsWith [opening] := by
  intro cursor differ
  exact between_refuses (differ opening List.mem_cons_self)

end

end Rule

/-- A source is read when its rule reads all tokens. -/
theorem readAll_eq_ok_iff {α : Type} {forValues : Bool}
    {rule : List Token → Rule α} {source : String} {value : α} :
    readAll forValues rule source = .ok value ↔
      ∃ next, (rule (tokenize source)).Reads (startOf source (tokenize source))
        value next ∧ next.ahead = [] := by
  have finished : readAll forValues rule source = .ok value ↔
      ∃ next, ((rule (tokenize source)).thenSkip .finish).Reads
        (startOf source (tokenize source)) value next := by
    unfold readAll Rule.Reads
    rcases outcome : (rule (tokenize source)).thenSkip .finish
      (startOf source (tokenize source)) with
      ⟨_ | ⟨fault, faults⟩, last | ⟨given, stop, passed⟩⟩
    · simp [outcome]
    · simp [outcome]
    · simp [outcome]
    · simp [outcome]
  rw [finished]
  constructor
  · intro read
    obtain ⟨next, reads⟩ := read
    obtain ⟨middle, reads, _, ends⟩ := Rule.reads_thenSkip_iff.mp reads
    exact ⟨middle, reads, (Rule.reads_finish_iff.mp ends).1⟩
  · intro read
    obtain ⟨next, reads, ends⟩ := read
    exact ⟨next, Rule.reads_thenSkip_iff.mpr
      ⟨next, reads, (), Rule.reads_finish_iff.mpr ⟨ends, rfl⟩⟩⟩

end TreeQuery.Reading
