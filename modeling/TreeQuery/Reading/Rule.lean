import TreeQuery.Reading.Fault

/-!
# Rules over a token list

A rule reads some tokens and gives a value, or fails with one fault.  A rule
that succeeds also remembers the furthest fault it passed over, and any rule
may emit faults that spoil the reading without stopping it.
-/

namespace TreeQuery.Reading

/-- A place in the token list. -/
structure Cursor where
  ahead : List Token
  /-- The number of tokens before this place. -/
  position : Nat
  /-- The byte length of the whole source. -/
  sourceEnd : Nat
  deriving Repr, Inhabited

namespace Cursor

/-- The byte offset at which the next token starts, or the end of the source. -/
def start (cursor : Cursor) : Nat :=
  match cursor.ahead with
  | token :: _ => token.start
  | [] => cursor.sourceEnd

/-- The fault of having read something else than expected. -/
def unexpected (cursor : Cursor) (expected : List Expectation) : Fault :=
  { position := cursor.position
    start := cursor.start
    expected
    found := cursor.ahead.head?
    objection := none }

/-- An objection to input that starts at byte `start` and ends here. -/
def object (cursor : Cursor) (start : Nat) (objection : Objection) : Fault :=
  { position := cursor.position
    start
    expected := []
    found := none
    objection := some objection }

end Cursor

structure Progress (α : Type) where
  value : α
  next : Cursor
  /-- The furthest fault that was passed over. -/
  passed : Option Fault

structure Outcome (α : Type) where
  emitted : List Fault
  result : Except Fault (Progress α)

namespace Outcome

def accept (value : α) (next : Cursor) : Outcome α :=
  ⟨[], .ok ⟨value, next, none⟩⟩

def refuse (fault : Fault) : Outcome α :=
  ⟨[], .error fault⟩

def map (change : α → β) (outcome : Outcome α) : Outcome β :=
  ⟨outcome.emitted,
    outcome.result.map fun progress =>
      ⟨change progress.value, progress.next, progress.passed⟩⟩

/-- Did the rule succeed without a complaint? -/
def isClean (outcome : Outcome α) : Bool :=
  outcome.emitted.isEmpty && outcome.result.isOk

/-- The furthest fault of an outcome, passed over or final. -/
def fault? (outcome : Outcome α) : Option Fault :=
  match outcome.result with
  | .ok progress => progress.passed
  | .error fault => some fault

/-- Keep an outcome and note the fault of one that was given up for it. -/
def insteadOf (outcome other : Outcome α) : Outcome α :=
  { outcome with
    result := outcome.result.map fun progress =>
      { progress with passed := Fault.note progress.passed other.fault? } }

end Outcome

/-- How the positions of two optional faults compare, if both are there. -/
def comparePositions (first second : Option Fault) : Option Ordering :=
  match first, second with
  | some first, some second => some (compare first.position second.position)
  | _, _ => none

/-- A way to read some tokens. -/
abbrev Rule (α : Type) : Type := Cursor → Outcome α

namespace Rule

/-- One token of the given kind. -/
def token (kind : Token.Kind) : Rule Token := fun cursor =>
  match cursor.ahead with
  | found :: rest =>
      if found.kind = kind then
        .accept found
          { cursor with ahead := rest, position := cursor.position + 1 }
      else .refuse (cursor.unexpected [.token kind])
  | [] => .refuse (cursor.unexpected [.token kind])

/-- The end of the input. -/
def finish : Rule Unit := fun cursor =>
  match cursor.ahead with
  | [] => .accept () cursor
  | _ :: _ => .refuse (cursor.unexpected [.endOfInput])

def map (change : α → β) (rule : Rule α) : Rule β := fun cursor =>
  (rule cursor).map change

/-- Two rules one after the other. -/
def andThen (first : Rule α) (second : Rule β) : Rule (α × β) := fun cursor =>
  let before := first cursor
  match before.result with
  | .error fault => ⟨before.emitted, .error fault⟩
  | .ok progress =>
      let after := second progress.next
      ⟨before.emitted ++ after.emitted,
        match after.result with
        | .error fault =>
            .error (match progress.passed with
              | some passed => fault.further passed
              | none => fault)
        | .ok last =>
            .ok ⟨(progress.value, last.value), last.next,
              Fault.note progress.passed last.passed⟩⟩

/-- Two rules one after the other, of which the second gives the value. -/
def skipThen (first : Rule α) (second : Rule β) : Rule β :=
  (first.andThen second).map Prod.snd

/-- Two rules one after the other, of which the first gives the value. -/
def thenSkip (first : Rule α) (second : Rule β) : Rule α :=
  (first.andThen second).map Prod.fst

/-- A rule between two delimiters. -/
def between (opening closing : Token.Kind) (rule : Rule α) : Rule α :=
  ((token opening).skipThen rule).thenSkip (token closing)

/-- The first of the rules that succeeds, given the fault of those before. -/
def firstAfter (failed : Fault) : List (Rule α) → Rule α
  | [], _ => .refuse failed
  | rule :: rules, cursor =>
      let outcome := rule cursor
      match outcome.result with
      | .ok _ => outcome
      | .error fault => firstAfter (fault.further failed) rules cursor

/-- The first rule that succeeds; what the rules before it met is forgotten. -/
def firstOf (rule : Rule α) (others : List (Rule α)) : Rule α := fun cursor =>
  let outcome := rule cursor
  match outcome.result with
  | .ok _ => outcome
  | .error fault => firstAfter fault others cursor

/-- Of two outcomes that both leave something to complain about, the one with
fewer complaints; then the one whose last complaint, and then whose passed fault,
lies further on.  An outcome that succeeds beats one that fails. -/
def better (first second : Outcome α) : Outcome α :=
  let byLast := comparePositions first.emitted.getLast? second.emitted.getLast?
  match first.result, second.result with
  | .ok _, .error _ => first.insteadOf second
  | .error _, .ok _ => second.insteadOf first
  | .ok _, .ok _ =>
      let preferFirst : Bool :=
        match compare first.emitted.length second.emitted.length with
        | .lt => true
        | .gt => false
        | .eq =>
            match byLast with
            | some .gt => true
            | some .lt => false
            | _ => comparePositions first.fault? second.fault? != some .lt
      if preferFirst then first.insteadOf second else second.insteadOf first
  | .error firstFault, .error secondFault =>
      match compare firstFault.position secondFault.position,
          compare first.emitted.length second.emitted.length, byLast with
      | .gt, _, _ => first
      | .lt, _, _ => second
      | .eq, .lt, _ => first
      | .eq, .gt, _ => second
      | .eq, .eq, some .gt => first
      | .eq, .eq, some .lt => second
      | .eq, .eq, _ => ⟨first.emitted, .error (firstFault.further secondFault)⟩

/-- The first rule if nothing is wrong with it, else the second if nothing is
wrong with that, else the better of the two. -/
def orElse (first second : Rule α) : Rule α := fun cursor =>
  let outcome := first cursor
  if outcome.isClean then outcome
  else
    let other := second cursor
    if other.isClean then other else better outcome other

/-- A rule that may be left out. -/
def optional (rule : Rule α) : Rule (Option α) := fun cursor =>
  let outcome := rule cursor
  match outcome.result with
  | .ok _ => outcome.map some
  | .error fault => ⟨[], .ok ⟨none, cursor, some fault⟩⟩

/-- Items read so far, where the last of them ends, and why there is no more. -/
structure Run (α : Type) where
  items : List α
  emitted : List Fault
  next : Cursor
  passed : Option Fault
  stopped : Fault

/-- Read separator and item as often as both are there.  The length of the
input bounds the number of rounds. -/
def moreItems (item : Rule α) (separator : Rule β) :
    (bound : Nat) → Option Fault → Cursor → Run α
  | 0, passed, cursor => ⟨[], [], cursor, passed, cursor.unexpected []⟩
  | bound + 1, passed, cursor =>
      let separation := separator cursor
      match separation.result with
      | .error fault => ⟨[], separation.emitted, cursor, passed, fault⟩
      | .ok separated =>
          let passed := Fault.note passed separated.passed
          let outcome := item separated.next
          match outcome.result with
          | .error fault =>
              ⟨[], separation.emitted ++ outcome.emitted, cursor, passed, fault⟩
          | .ok progress =>
              let run := moreItems item separator bound
                (Fault.note passed progress.passed) progress.next
              { run with
                items := progress.value :: run.items
                emitted := separation.emitted ++ outcome.emitted ++ run.emitted }

/-- Items with separators between them, as many as there are. -/
def items (item : Rule α) (separator : Rule β) : Cursor → Run α := fun cursor =>
  let outcome := item cursor
  match outcome.result with
  | .error fault => ⟨[], outcome.emitted, cursor, none, fault⟩
  | .ok progress =>
      let run := moreItems item separator cursor.ahead.length
        progress.passed progress.next
      { run with
        items := progress.value :: run.items
        emitted := outcome.emitted ++ run.emitted }

/-- Any number of separated items; behind the last one a separator may follow. -/
def separatedList (item : Rule α) (separator : Rule β) : Rule (List α) :=
  fun cursor =>
    let run := items item separator cursor
    let (passed, next) :=
      if run.items.isEmpty then (run.passed, run.next)
      else
        match (separator run.next).result with
        | .ok progress => (Fault.note run.passed progress.passed, progress.next)
        | .error fault => (Fault.note run.passed (some fault), run.next)
    ⟨run.emitted, .ok ⟨run.items, next, Fault.note passed (some run.stopped)⟩⟩

/-- At least one item, with separators between them only. -/
def separatedChain (item : Rule α) (separator : Rule β) : Rule (List α) :=
  fun cursor =>
    let run := items item separator cursor
    if run.items.isEmpty then ⟨run.emitted, .error run.stopped⟩
    else
      ⟨run.emitted,
        .ok ⟨run.items, run.next, Fault.note run.passed (some run.stopped)⟩⟩

/-- The value together with the byte offset at which it starts. -/
def located (rule : Rule α) : Rule (α × Nat) := fun cursor =>
  (rule cursor).map fun value => (value, cursor.start)

/-- Turn the value into another one, or fail with an objection to it. -/
def refine (rule : Rule α) (check : α → Except Objection β) : Rule β :=
  fun cursor =>
    let outcome := rule cursor
    match outcome.result with
    | .error fault => ⟨outcome.emitted, .error fault⟩
    | .ok progress =>
        match check progress.value with
        | .ok value =>
            ⟨outcome.emitted, .ok ⟨value, progress.next, progress.passed⟩⟩
        | .error objection =>
            ⟨outcome.emitted,
              .error (progress.next.object cursor.start objection)⟩

/-- Turn the value into another one and emit the objections to it, each with the
byte offset of what it is about. -/
def inspect (rule : Rule α) (check : α → β × List (Nat × Objection)) : Rule β :=
  fun cursor =>
    let outcome := rule cursor
    match outcome.result with
    | .error fault => ⟨outcome.emitted, .error fault⟩
    | .ok progress =>
        let (value, objections) := check progress.value
        ⟨outcome.emitted ++ objections.map fun (start, objection) =>
            progress.next.object start objection,
          .ok ⟨value, progress.next, progress.passed⟩⟩

end Rule

end TreeQuery.Reading
