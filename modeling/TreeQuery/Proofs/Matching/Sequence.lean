import Mathlib.Data.List.Forall2
import TreeQuery.Matching

/-!
# Sequences of patterns

`Cuts` says declaratively when a list of values is matched by a list of
patterns: the values fall into consecutive pieces, one for each pattern.  The
matcher with its table of failures decides exactly this relation.  What carries
the proof is that every pair of places in the table is a real failure, whatever
option or length of a run was being tried when the pair was recorded.
-/

namespace TreeQuery

namespace Pattern

/-- Everything but an alternation and a repetition takes one value. -/
def takesOne : Pattern → Bool
  | or _ => false
  | repeated _ => false
  | _ => true

section

variable {α : Type}

/-- The runs of values that one pattern of a sequence may take. -/
inductive Piece (accepted : Pattern → α → Bool) : Pattern → List α → Prop where
  | run {inner : Pattern} {values : List α} :
      (∀ value ∈ values, accepted inner value = true) →
      Piece accepted (.repeated inner) values
  | option {options : List Pattern} {option : Pattern} {values : List α} :
      option ∈ options → Piece accepted option values →
      Piece accepted (.or options) values
  | one {item : Pattern} {value : α} :
      item.takesOne = true → accepted item value = true →
      Piece accepted item [value]

/-- The values fall into consecutive pieces, one for each pattern in order. -/
def Cuts (accepted : Pattern → α → Bool) (items : List Pattern)
    (values : List α) : Prop :=
  ∃ pieces : List (List α),
    List.Forall₂ (Piece accepted) items pieces ∧ pieces.flatten = values

variable {accepted : Pattern → α → Bool} {values : List α}

theorem piece_or_iff {options : List Pattern} :
    Piece accepted (.or options) values ↔
      ∃ option ∈ options, Piece accepted option values := by
  constructor
  · intro piece
    cases piece with
    | option member taken => exact ⟨_, member, taken⟩
    | one single => simp [takesOne] at single
  · intro given
    obtain ⟨option, member, taken⟩ := given
    exact .option member taken

theorem piece_repeated_iff {inner : Pattern} :
    Piece accepted (.repeated inner) values ↔
      ∀ value ∈ values, accepted inner value = true := by
  constructor
  · intro piece
    cases piece with
    | run every => exact every
    | one single => simp [takesOne] at single
  · exact .run

theorem piece_single_iff {item : Pattern} (single : item.takesOne = true) :
    Piece accepted item values ↔
      ∃ value, values = [value] ∧ accepted item value = true := by
  constructor
  · intro piece
    cases piece with
    | run every => simp [takesOne] at single
    | option member taken => simp [takesOne] at single
    | one _ takes => exact ⟨_, rfl, takes⟩
  · intro lone
    obtain ⟨value, rfl, takes⟩ := lone
    exact .one single takes

theorem cuts_nil_iff : Cuts accepted [] values ↔ values = [] := by
  constructor
  · intro cut
    obtain ⟨pieces, taken, joined⟩ := cut
    cases taken
    simpa using joined.symm
  · intro same
    subst same
    exact ⟨[], .nil, rfl⟩

theorem cuts_cons_iff {item : Pattern} {items : List Pattern} :
    Cuts accepted (item :: items) values ↔
      ∃ piece rest, values = piece ++ rest ∧ Piece accepted item piece ∧
        Cuts accepted items rest := by
  constructor
  · intro cut
    obtain ⟨pieces, taken, joined⟩ := cut
    cases taken with
    | @cons _ piece _ pieces first others =>
        exact ⟨piece, pieces.flatten, by simpa using joined.symm, first,
          pieces, others, rfl⟩
  · intro split
    obtain ⟨piece, rest, rfl, first, pieces, others, rfl⟩ := split
    exact ⟨piece :: pieces, .cons first others, by simp⟩

/-- The pattern takes the values from `place` up to `stop`. -/
def Takes (accepted : Pattern → α → Bool) (item : Pattern) (values : List α)
    (place stop : Nat) : Prop :=
  place ≤ stop ∧ stop ≤ values.length ∧
    Piece accepted item ((values.drop place).take (stop - place))

theorem cuts_drop_cons_iff {item : Pattern} {items : List Pattern}
    {place : Nat} (inside : place ≤ values.length) :
    Cuts accepted (item :: items) (values.drop place) ↔
      ∃ stop, Takes accepted item values place stop ∧
        Cuts accepted items (values.drop stop) := by
  rw [cuts_cons_iff]
  constructor
  · intro cut
    obtain ⟨piece, rest, split, taken, others⟩ := cut
    have lengths := congrArg List.length split
    simp only [List.length_drop, List.length_append] at lengths
    refine ⟨place + piece.length, ⟨by omega, by omega, ?_⟩, ?_⟩
    · simpa [split] using taken
    · rw [← List.drop_drop, split]
      simpa using others
  · intro reached
    obtain ⟨stop, ⟨after, within, taken⟩, others⟩ := reached
    refine ⟨_, _, (List.take_append_drop (stop - place) _).symm, taken, ?_⟩
    have reached : place + (stop - place) = stop := by omega
    simpa [List.drop_drop, reached] using others

theorem takes_or_iff {options : List Pattern} {place stop : Nat} :
    Takes accepted (.or options) values place stop ↔
      ∃ option ∈ options, Takes accepted option values place stop := by
  simp only [Takes, piece_or_iff]
  constructor
  · intro takes
    obtain ⟨after, within, option, member, taken⟩ := takes
    exact ⟨option, member, after, within, taken⟩
  · intro some
    obtain ⟨option, member, after, within, taken⟩ := some
    exact ⟨after, within, option, member, taken⟩

/-- A prefix is accepted throughout when it ends within the longest accepted
run. -/
private theorem take_all_iff {accepts : α → Bool} {ahead : List α} {count : Nat}
    (within : count ≤ ahead.length) :
    (∀ value ∈ ahead.take count, accepts value = true) ↔
      count ≤ (ahead.takeWhile accepts).length := by
  induction ahead generalizing count with
  | nil => simpa using within
  | cons value ahead induction =>
      cases count with
      | zero => simp
      | succ count =>
          have smaller : count ≤ ahead.length := by simpa using within
          by_cases takes : accepts value = true
          · simp [takes, ← induction smaller]
          · simp [takes]

private theorem length_takeWhile_drop_le (values : List α) (accepts : α → Bool)
    (place : Nat) :
    ((values.drop place).takeWhile accepts).length ≤ values.length - place := by
  rw [← List.length_drop]
  exact (List.takeWhile_prefix accepts).length_le

theorem takes_repeated_iff {inner : Pattern} {place stop : Nat}
    (inside : place ≤ values.length) :
    Takes accepted (.repeated inner) values place stop ↔
      ∃ run ≤ ((values.drop place).takeWhile (accepted inner)).length,
        stop = place + run := by
  have longest := length_takeWhile_drop_le values (accepted inner) place
  constructor
  · intro takes
    obtain ⟨after, within, taken⟩ := takes
    have short : stop - place ≤ (values.drop place).length := by
      rw [List.length_drop]
      omega
    rw [piece_repeated_iff, take_all_iff short] at taken
    exact ⟨stop - place, taken, by omega⟩
  · intro bounds
    obtain ⟨run, bounded, rfl⟩ := bounds
    have short : run ≤ (values.drop place).length := by
      rw [List.length_drop]
      omega
    refine ⟨by omega, by omega, ?_⟩
    rw [piece_repeated_iff, Nat.add_sub_cancel_left, take_all_iff short]
    exact bounded

theorem takes_single_iff {item : Pattern} {place stop : Nat}
    (single : item.takesOne = true) :
    Takes accepted item values place stop ↔
      stop = place + 1 ∧
        ∃ value, values[place]? = some value ∧ accepted item value = true := by
  simp only [Takes, piece_single_iff single]
  constructor
  · intro takes
    obtain ⟨after, within, value, only, takes⟩ := takes
    have lengths := congrArg List.length only
    simp only [List.length_take, List.length_drop, List.length_singleton]
      at lengths
    have next : stop = place + 1 := by omega
    subst next
    refine ⟨rfl, value, ?_, takes⟩
    have first := congrArg (·[0]?) only
    simpa using first
  · intro next
    obtain ⟨rfl, value, found, takes⟩ := next
    obtain ⟨inside, rfl⟩ := List.getElem?_eq_some_iff.mp found
    refine ⟨by omega, by omega, _, ?_, takes⟩
    rw [Nat.add_sub_cancel_left, List.drop_eq_getElem_cons inside,
      List.take_succ_cons, List.take_zero]

end

/-- Every pair of places in the table is one from which no match exists. -/
def RealFailures (graph : Graph) (items : List Pattern) (values : List ValueId)
    (failed : Failed) : Prop :=
  ∀ place index, (place, index) ∈ failed →
    ¬Cuts (accepts graph) (items.drop index) (values.drop place)

/-- From any table that `sound` admits, the attempt stays within the values,
answers whether `goal` holds, and leaves such a table again. -/
def Attempt.Decides (attempt : Attempt) (sound : Failed → Prop)
    (goal : Prop) : Prop :=
  ∀ failed, sound failed →
    ∃ answer after, attempt failed = some (answer, after) ∧
      (answer = true ↔ goal) ∧ sound after

namespace Attempt.Decides

variable {sound : Failed → Prop}

theorem congr {attempt : Attempt} {goal goal' : Prop}
    (decides : attempt.Decides sound goal) (same : goal ↔ goal') :
    attempt.Decides sound goal' := by
  intro failed start
  obtain ⟨answer, after, result, exact, finish⟩ := decides failed start
  exact ⟨answer, after, result, exact.trans same, finish⟩

theorem refuse : Attempt.Decides (fun failed => some (false, failed)) sound
    False := by
  intro failed start
  exact ⟨false, failed, rfl, by simp, start⟩

theorem orElse {first second : Attempt} {goal goal' : Prop}
    (decides : first.Decides sound goal)
    (decides' : second.Decides sound goal') :
    (first.orElse second).Decides sound (goal ∨ goal') := by
  intro failed start
  obtain ⟨answer, after, result, exact, finish⟩ := decides failed start
  cases answer with
  | true =>
      have holds : goal := exact.mp rfl
      exact ⟨true, after, by simp [Attempt.orElse, result], by simp [holds],
        finish⟩
  | false =>
      have fails : ¬goal := by simpa using exact
      obtain ⟨answer', after', result', exact', finish'⟩ :=
        decides' after finish
      exact ⟨answer', after', by simp [Attempt.orElse, result, result'],
        by simp [exact', fails], finish'⟩

theorem tryRuns {rest : Nat → Attempt} {goal : Nat → Prop} {place run : Nat}
    (decides : ∀ count ≤ run,
      (rest (place + count)).Decides sound (goal (place + count))) :
    (tryRuns rest place run).Decides sound
      (∃ count ≤ run, goal (place + count)) := by
  induction run with
  | zero =>
      exact (decides 0 (Nat.le_refl 0)).congr (by simp)
  | succ run induction =>
      have shorter := induction fun count bounded =>
        decides count (Nat.le_succ_of_le bounded)
      refine (orElse (decides (run + 1) (Nat.le_refl _)) shorter).congr ?_
      constructor
      · intro reached
        rcases reached with longest | ⟨count, bounded, holds⟩
        · exact ⟨run + 1, Nat.le_refl _, longest⟩
        · exact ⟨count, Nat.le_succ_of_le bounded, holds⟩
      · intro reached
        obtain ⟨count, bounded, holds⟩ := reached
        rcases Nat.le_succ_iff.mp bounded with smaller | rfl
        · exact .inr ⟨count, smaller, holds⟩
        · exact .inl holds

end Attempt.Decides

theorem element_of_takesOne {graph : Graph} {item : Pattern}
    {accepted : ValueId → Bool} {rest : Nat → Attempt} {values : List ValueId}
    {place : Nat} (single : item.takesOne = true) :
    element graph item accepted rest values place = fun failed =>
      if place < values.length then
        values[place]?.bind fun value =>
          if accepted value then rest (place + 1) failed
          else some (false, failed)
      else some (false, failed) := by
  cases item <;> first | rfl | simp [takesOne] at single

section

variable {graph : Graph} {values : List ValueId} {rest : Nat → Attempt}
  {sound : Failed → Prop} {goal : Nat → Prop} {place : Nat}

theorem element_single_decides {item : Pattern}
    (single : item.takesOne = true)
    (decides : ∀ stop ≤ values.length, (rest stop).Decides sound (goal stop)) :
    (element graph item (accepts graph item) rest values place).Decides sound
      (∃ stop, Takes (accepts graph) item values place stop ∧ goal stop) := by
  simp only [takes_single_iff single, element_of_takesOne single]
  intro failed start
  by_cases inside : place < values.length
  · by_cases takes : accepts graph item values[place] = true
    · obtain ⟨answer, after, result, exact, finish⟩ :=
        decides (place + 1) inside failed start
      refine ⟨answer, after, ?_, ?_, finish⟩
      · simp [inside, takes, result]
      · simp [exact, inside, takes]
    · refine ⟨false, failed, ?_, ?_, start⟩
      · simp [inside, takes]
      · simp [inside, takes]
  · refine ⟨false, failed, ?_, ?_, start⟩
    · simp [inside]
    · simp [inside]

theorem element_repeated_decides {inner : Pattern}
    {accepted : ValueId → Bool} (inside : place ≤ values.length)
    (decides : ∀ stop ≤ values.length, (rest stop).Decides sound (goal stop)) :
    (element graph (.repeated inner) accepted rest values place).Decides sound
      (∃ stop, Takes (accepts graph) (.repeated inner) values place stop ∧
        goal stop) := by
  have longest := length_takeWhile_drop_le values (accepts graph inner) place
  have runs : (tryRuns rest place
      ((values.drop place).takeWhile (accepts graph inner)).length).Decides
        sound _ :=
    .tryRuns fun count bounded => decides (place + count) (by omega)
  intro failed start
  obtain ⟨answer, after, result, exact, finish⟩ := runs failed start
  refine ⟨answer, after, ?_, ?_, finish⟩
  · simpa [element, valuesFrom, inside] using result
  · rw [exact]
    simp only [takes_repeated_iff inside]
    constructor
    · intro reached
      obtain ⟨count, bounded, holds⟩ := reached
      exact ⟨_, ⟨count, bounded, rfl⟩, holds⟩
    · intro reached
      obtain ⟨_, ⟨count, bounded, rfl⟩, holds⟩ := reached
      exact ⟨count, bounded, holds⟩

mutual

/-- An element finds every place at which it can stop and from which the rest
goes on. -/
theorem element_decides (item : Pattern) (inside : place ≤ values.length)
    (decides : ∀ stop ≤ values.length, (rest stop).Decides sound (goal stop)) :
    (element graph item (accepts graph item) rest values place).Decides sound
      (∃ stop, Takes (accepts graph) item values place stop ∧ goal stop) := by
  match item with
  | .or options =>
      refine (someElement_decides options inside decides).congr ?_
      simp only [takes_or_iff]
      constructor
      · intro reached
        obtain ⟨option, member, stop, taken, holds⟩ := reached
        exact ⟨stop, ⟨option, member, taken⟩, holds⟩
      · intro reached
        obtain ⟨stop, ⟨option, member, taken⟩, holds⟩ := reached
        exact ⟨option, member, stop, taken, holds⟩
  | .repeated inner => exact element_repeated_decides inside decides
  | .any | .regex _ | .text _ | .map _ | .list _ | .set _ | .tuple _
  | .constr _ _ _ | .string _ | .number _ | .boolean _ | .location _ =>
      exact element_single_decides rfl decides
termination_by structural item

/-- List counterpart of `element_decides` for the options of an alternation. -/
theorem someElement_decides (options : List Pattern)
    (inside : place ≤ values.length)
    (decides : ∀ stop ≤ values.length, (rest stop).Decides sound (goal stop)) :
    (someElement graph options rest values place).Decides sound
      (∃ option ∈ options, ∃ stop,
        Takes (accepts graph) option values place stop ∧ goal stop) := by
  match options with
  | [] => exact Attempt.Decides.refuse.congr (by simp)
  | option :: options =>
      have first := element_decides option inside decides
      have others := someElement_decides options inside decides
      exact (first.orElse others).congr (by simp)
termination_by structural options

end

end

namespace RealFailures

variable {graph : Graph} {items : List Pattern} {values : List ValueId}
  {failed : Failed}

theorem empty : RealFailures graph items values {} := by
  intro place index member
  simp at member

theorem insert {place index : Nat}
    (real : RealFailures graph items values failed)
    (fails : ¬Cuts (accepts graph) (items.drop index) (values.drop place)) :
    RealFailures graph items values (failed.insert (place, index)) := by
  intro place' index' member
  rcases Std.HashSet.mem_insert.mp member with same | earlier
  · simp only [beq_iff_eq, Prod.mk.injEq] at same
    obtain ⟨rfl, rfl⟩ := same
    exact fails
  · exact real place' index' earlier

end RealFailures

section

variable {graph : Graph} {items : List Pattern} {values : List ValueId}
  {place index : Nat}

/-- One step of the recursion: the answer for the patterns from `index` on, once
those behind `index` are decided. -/
theorem sequence_cons_decides {item : Pattern} {others : List Pattern}
    (here : items.drop index = item :: others)
    (inside : place ≤ values.length)
    (decides : ∀ stop ≤ values.length,
      (sequence graph others values stop (index + 1)).Decides
        (RealFailures graph items values)
        (Cuts (accepts graph) others (values.drop stop))) :
    (sequence graph (item :: others) values place index).Decides
      (RealFailures graph items values)
      (Cuts (accepts graph) (item :: others) (values.drop place)) := by
  intro failed start
  by_cases known : (place, index) ∈ failed
  · have fails := start place index known
    rw [here] at fails
    exact ⟨false, failed, by simp [sequence, known], by simp [fails], start⟩
  · have tried := (element_decides item inside decides).congr
      (cuts_drop_cons_iff inside).symm
    obtain ⟨answer, after, result, exact, finish⟩ := tried failed start
    cases answer with
    | true =>
        exact ⟨true, after, by simp [sequence, known, result], exact, finish⟩
    | false =>
        have fails :
            ¬Cuts (accepts graph) (item :: others) (values.drop place) := by
          simpa using exact
        refine ⟨false, after.insert (place, index), ?_, exact, ?_⟩
        · simp [sequence, known, result]
        · exact finish.insert (by rwa [here])

theorem sequence_decides (inside : place ≤ values.length) :
    (sequence graph (items.drop index) values place index).Decides
      (RealFailures graph items values)
      (Cuts (accepts graph) (items.drop index) (values.drop place)) := by
  generalize remaining : items.drop index = others
  induction others generalizing place index with
  | nil =>
      intro failed start
      refine ⟨place == values.length, failed, rfl, ?_, start⟩
      rw [cuts_nil_iff, beq_iff_eq, List.drop_eq_nil_iff]
      omega
  | cons item others induction =>
      refine sequence_cons_decides remaining inside fun stop within => ?_
      refine induction within ?_
      rw [← List.tail_drop, remaining, List.tail_cons]

theorem sequence_succeeds_iff :
    (sequence graph items values 0 0).succeeds = true ↔
      Cuts (accepts graph) items values := by
  have start : (sequence graph (items.drop 0) values 0 0).Decides
      (RealFailures graph items values)
      (Cuts (accepts graph) (items.drop 0) (values.drop 0)) :=
    sequence_decides (Nat.zero_le _)
  rw [List.drop_zero, List.drop_zero] at start
  obtain ⟨answer, after, result, exact, -⟩ := start {} .empty
  simp [Attempt.succeeds, result, exact]

end

/-- A sequence of patterns matches exactly when the values can be cut into one
piece for each pattern.  From every place within the values, and with every
table of real failures, matching looks up no value beyond the end, answers
exactly, and records real failures only. -/
theorem sequence_iff_cuts (graph : Graph) (items : List Pattern)
    (values : List ValueId) :
    ((sequence graph items values 0 0).succeeds = true ↔
        Cuts (accepts graph) items values) ∧
      ∀ place index, place ≤ values.length →
        (sequence graph (items.drop index) values place index).Decides
          (RealFailures graph items values)
          (Cuts (accepts graph) (items.drop index) (values.drop place)) := by
  refine ⟨sequence_succeeds_iff, ?_⟩
  intro place index inside
  exact sequence_decides inside

theorem sequence_iff_cuts_gives_back :
    let graph : Graph := ⟨#[.value (.number "4"), .value (.number "1")]⟩
    let items := [.repeated .any, .or [.repeated (.number "1"), .number "4"]]
    let values : List ValueId := [⟨0⟩, ⟨1⟩, ⟨0⟩]
    Cuts (accepts graph) items values ∧
      2 ≤ values.length ∧
      (sequence graph (items.drop 1) values 2 1).Decides
        (RealFailures graph items values)
        (Cuts (accepts graph) (items.drop 1) (values.drop 2)) := by
  intro graph items values
  have exact := sequence_iff_cuts graph items values
  have inside : 2 ≤ values.length := by decide
  exact ⟨exact.1.mp (by cbv), inside, exact.2 2 1 inside⟩

end Pattern

end TreeQuery
