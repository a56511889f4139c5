import Std.Data.HashSet
import TreeQuery.Flat
import TreeQuery.Pattern

/-!
# Matching patterns

Lists, tuples and the positional children of constructors are matched in order,
where a repetition takes a run of values.  Sets, maps and named children only
need some member for each part of the pattern, and a member may serve twice.
-/

namespace TreeQuery

namespace Pattern

/-- The places of a value and of a pattern from which no match was found. -/
abbrev Failed : Type := Std.HashSet (Nat × Nat)

/-- Matching in progress: an answer and the failures met so far, or nothing if a
value was looked up beyond the end. -/
abbrev Attempt : Type := Failed → Option (Bool × Failed)

/-- Try an attempt, and then another one if it fails. -/
def Attempt.orElse (first second : Attempt) : Attempt := fun failed =>
  match first failed with
  | some (false, failed) => second failed
  | outcome => outcome

/-- The answer of an attempt that starts with no failures. -/
def Attempt.succeeds (attempt : Attempt) : Bool :=
  (attempt {}).any Prod.fst

/-- The values from a place on; there are none beyond the end. -/
def valuesFrom (values : List ValueId) (place : Nat) : Option (List ValueId) :=
  if place ≤ values.length then some (values.drop place) else none

/-- Give the longest run to a repetition first, then shorter ones. -/
def tryRuns (rest : Nat → Attempt) (place : Nat) : (run : Nat) → Attempt
  | 0 => rest place
  | run + 1 => (rest (place + (run + 1))).orElse (tryRuns rest place run)

mutual

/-- Does the value of a handle match the pattern?  A handle without a value
never does. -/
def accepts (graph : Graph) : Pattern → ValueId → Bool
  | any, id => (graph.value? id).isSome
  | or options, id => acceptsSome graph options id
  | repeated _, _ => false
  | regex expression, id =>
      match graph.value? id with
      | some (.string actual) => expression.search actual.plain
      | _ => false
  | text part, id =>
      match graph.value? id with
      | some (.string actual) => part.isWithin actual.plain
      | _ => false
  | map pairs, id =>
      match graph.value? id with
      | some (.map entries) => acceptsPairs graph pairs entries
      | _ => false
  | list items, id =>
      match graph.value? id with
      | some (.list values) => (sequence graph items values 0 0).succeeds
      | _ => false
  | set items, id =>
      match graph.value? id with
      | some (.set values) => acceptsMembers graph items values
      | _ => false
  | tuple items, id =>
      match graph.value? id with
      | some (.tuple values) => (sequence graph items values 0 0).succeeds
      | _ => false
  | constr name positional named, id =>
      match graph.value? id with
      | some (.constr kind actual values fields) =>
          name.matchesConstructor kind actual &&
            (sequence graph positional values 0 0).succeeds &&
            acceptsFields graph named fields
      | _ => false
  | string expected, id =>
      match graph.value? id with
      | some (.string actual) => expected.plain == actual.plain
      | _ => false
  | number expected, id =>
      match graph.value? id with
      | some (.number digits) => expected == digits
      | _ => false
  | boolean expected, id =>
      match graph.value? id with
      | some (.boolean truth) => expected == truth
      | _ => false
  | location expected, id =>
      match graph.value? id with
      | some (.location place) => expected == place
      | _ => false

def acceptsSome (graph : Graph) : List Pattern → ValueId → Bool
  | [], _ => false
  | option :: options, id =>
      accepts graph option id || acceptsSome graph options id

/-- Each pattern matches some of the values. -/
def acceptsMembers (graph : Graph) : List Pattern → List ValueId → Bool
  | [], _ => true
  | item :: items, values =>
      values.any (accepts graph item) && acceptsMembers graph items values

/-- Each pair matches some of the entries. -/
def acceptsPairs (graph : Graph) :
    List (Pattern × Pattern) → List EntryId → Bool
  | [], _ => true
  | (key, value) :: pairs, entries =>
      (entries.any fun id =>
        match graph.entry? id with
        | some entry =>
            accepts graph key entry.key && accepts graph value entry.value
        | none => false) &&
        acceptsPairs graph pairs entries

/-- Each named pattern matches some of the named children. -/
def acceptsFields (graph : Graph) :
    List (NamePattern × Pattern) → List (String × ValueId) → Bool
  | [], _ => true
  | (name, item) :: named, fields =>
      (fields.any fun (actual, id) =>
        name.matchesField actual && accepts graph item id) &&
        acceptsFields graph named fields

/-- Match the values from `place` on against the patterns, of which the first
stands at `index`. -/
def sequence (graph : Graph) :
    List Pattern → List ValueId → (place index : Nat) → Attempt
  | [], values, place, _ => fun failed => some (place == values.length, failed)
  | item :: items, values, place, index => fun failed =>
      if failed.contains (place, index) then some (false, failed)
      else
        match element graph item (accepts graph item)
            (fun place => sequence graph items values place (index + 1))
            values place failed with
        | some (false, failed) => some (false, failed.insert (place, index))
        | outcome => outcome

/-- Match the values at `place` against one pattern and the others by `rest`.
Every pattern but an alternation and a repetition takes one value, which
`accepted` decides. -/
def element (graph : Graph) :
    Pattern → (accepted : ValueId → Bool) → (rest : Nat → Attempt) →
      List ValueId → (place : Nat) → Attempt
  | or options, _, rest, values, place =>
      someElement graph options rest values place
  | repeated inner, _, rest, values, place => fun failed =>
      (valuesFrom values place).bind fun ahead =>
        tryRuns rest place (ahead.takeWhile (accepts graph inner)).length failed
  | _, accepted, rest, values, place => fun failed =>
      if place < values.length then
        values[place]?.bind fun value =>
          if accepted value then rest (place + 1) failed
          else some (false, failed)
      else some (false, failed)

/-- Try the options one after the other in the place of one pattern. -/
def someElement (graph : Graph) :
    List Pattern → (rest : Nat → Attempt) → List ValueId → (place : Nat) →
      Attempt
  | [], _, _, _ => fun failed => some (false, failed)
  | option :: options, rest, values, place =>
      (element graph option (accepts graph option) rest values place).orElse
        (someElement graph options rest values place)

end

mutual

/-- Does an entry match the pattern?  A map pattern with one pair stands for an
entry. -/
def acceptsEntry (graph : Graph) : Pattern → EntryId → Bool
  | any, _ => true
  | or options, id => acceptsSomeEntry graph options id
  | map [pair], id => acceptsPairs graph [pair] [id]
  | _, _ => false

def acceptsSomeEntry (graph : Graph) : List Pattern → EntryId → Bool
  | [], _ => false
  | option :: options, id =>
      acceptsEntry graph option id || acceptsSomeEntry graph options id

end

/-- Does what a record stands for match the pattern? -/
def acceptsTarget (graph : Graph) (pattern : Pattern) : Target → Bool
  | .value id => pattern.accepts graph id
  | .entry id => pattern.acceptsEntry graph id

/-- Does a record of the array match the pattern? -/
def acceptsRecord (graph : Graph) (flat : Flat) (pattern : Pattern) (id : Nat) :
    Bool :=
  match flat.get? id with
  | some record => pattern.acceptsTarget graph record.caption.target
  | none => false

end Pattern

/-- The first `limit` records that match the pattern, in order. -/
def Flat.search (flat : Flat) (graph : Graph) (pattern : Pattern)
    (limit : Nat) : List Nat :=
  ((flat.records.toList.filter fun record =>
    pattern.acceptsRecord graph flat record.id).map Record.id).take limit

end TreeQuery
