import TreeQuery.Unicode.CharSet

/-!
# Regular expressions

An expression is built from sets of characters and from assertions about a
place between two characters.  `Regex.search` tells whether an expression
matches some part of a text: it follows the ways of the expression through the
text from all places at once, so it needs no backtracking.
-/

namespace TreeQuery

/-- How a place lies to the words around it. -/
inductive WordEdge where
  | boundary
  | notBoundary
  | start
  | stop
  | startHalf
  | stopHalf
  deriving DecidableEq, Repr, Inhabited

/-- A condition on the characters before and after a place in a text. -/
inductive Assertion where
  | textStart
  | textEnd
  | lineStart
  | lineEnd
  /-- Start of a line where a carriage return also ends lines. -/
  | returnLineStart
  /-- End of a line where a carriage return also ends lines. -/
  | returnLineEnd
  | word (edge : WordEdge) (members : CharSet)
  deriving Repr, Inhabited

namespace Assertion

/-- Does the assertion hold between these two characters, of which either is
missing at an end of the text? -/
def holds (assertion : Assertion) (before after : Option Char) : Bool :=
  match assertion with
  | textStart => before.isNone
  | textEnd => after.isNone
  | lineStart => before.isNone || before == some '\n'
  | lineEnd => after.isNone || after == some '\n'
  | returnLineStart =>
      before.isNone || before == some '\n' ||
        (before == some '\r' && after != some '\n')
  | returnLineEnd =>
      after.isNone || after == some '\r' ||
        (after == some '\n' && before != some '\r')
  | word edge members =>
      let wordBefore := before.any members.contains
      let wordAfter := after.any members.contains
      match edge with
      | .boundary => wordBefore != wordAfter
      | .notBoundary => wordBefore == wordAfter
      | .start => !wordBefore && wordAfter
      | .stop => wordBefore && !wordAfter
      | .startHalf => !wordBefore
      | .stopHalf => !wordAfter

end Assertion

inductive Regex where
  /-- Matches the empty text everywhere. -/
  | empty
  | chars (set : CharSet)
  | assertion (condition : Assertion)
  | concat (first second : Regex)
  | alternation (first second : Regex)
  /-- At least `least` and, if `most` is given, at most that many times. -/
  | repetition (inner : Regex) (least : Nat) (most : Option Nat)
  /-- A part whose match can be referred to. -/
  | group (inner : Regex)
  deriving Repr, Inhabited

namespace Regex

/-- The parts one after the other. -/
def sequence : List Regex → Regex
  | [] => empty
  | [only] => only
  | empty :: rest => sequence rest
  | first :: rest =>
      match sequence rest with
      | empty => first
      | rest => concat first rest

/-- One set for branches that are all sets. -/
def commonSet? : List Regex → Option CharSet
  | [] => some .empty
  | chars set :: rest => (commonSet? rest).map set.union
  | _ :: _ => none

/-- The branches one beside the other. -/
def branching : List Regex → Regex
  | [] => chars .empty
  | [only] => only
  | first :: rest => alternation first (branching rest)

/-- Any of the branches.  Sets are joined, if there is nothing else. -/
def choice (branches : List Regex) : Regex :=
  match commonSet? branches with
  | some set => chars set
  | none => branching branches

/-- Can the expression match nothing but the empty text? -/
def isNull : Regex → Bool
  | empty => true
  | chars _ => false
  | assertion _ => true
  | concat first second => first.isNull && second.isNull
  | alternation first second => first.isNull && second.isNull
  | repetition inner _ _ => inner.isNull
  | group inner => inner.isNull

/-- The expression a number of times.  What matches only the empty text need not
be looked for more than once. -/
def repeated (inner : Regex) (least : Nat) (most : Option Nat) : Regex :=
  let least := if inner.isNull then min least 1 else least
  let most := if inner.isNull then some (min (most.getD 1) 1) else most
  if least = 0 ∧ most = some 0 then empty
  else if least = 1 ∧ most = some 1 then inner
  else repetition inner least most

/-- A set of places in a text.  Bit `i` says whether the place behind the first
`i` characters is in the set. -/
structure Places where
  bits : Nat
  deriving DecidableEq, Repr, Inhabited

namespace Places

/-- The places for which a list says so, from the start of the text on. -/
def ofList (members : List Bool) : Places :=
  ⟨members.foldr (fun isMember bits => 2 * bits + isMember.toNat) 0⟩

/-- The places before each of `count` characters, and the one behind them. -/
def all (count : Nat) : Places :=
  ofList (List.replicate (count + 1) true)

def isEmpty (places : Places) : Bool :=
  places.bits == 0

def union (first second : Places) : Places :=
  ⟨first.bits ||| second.bits⟩

def intersection (first second : Places) : Places :=
  ⟨first.bits &&& second.bits⟩

/-- The places one character further on. -/
def next (places : Places) : Places :=
  ⟨places.bits <<< 1⟩

/-- The places before characters of a set. -/
def before (set : CharSet) (text : List Char) : Places :=
  ofList (text.map set.contains)

/-- The places at which a condition holds. -/
def holding (condition : Assertion) (text : List Char) : Places :=
  ofList (List.zipWith condition.holds (none :: text.map some)
    (text.map some ++ [none]))

end Places

/-- Apply `move` as often as told.  Places that a move does not change are not
changed by more of them. -/
def times (move : Places → Places) : Nat → Places → Places
  | 0, places => places
  | count + 1, places =>
      let next := move places
      if next = places then places else times move count next

/-- The places reached by at most `count` moves. -/
def upTo (move : Places → Places) : Nat → Places → Places
  | 0, places => places
  | count + 1, places =>
      let more := places.union (move places)
      if more = places then places else upTo move count more

/-- The ways of an expression through one text. -/
inductive Route where
  /-- Stay where one is, if it is one of these places. -/
  | stay (places : Places)
  /-- Go one character further from one of these places. -/
  | step (places : Places)
  | concat (first second : Route)
  | alternation (first second : Route)
  /-- So many times, and then at most so many more. -/
  | repetition (inner : Route) (least further : Nat)
  deriving Repr, Inhabited

/-- Where the ways lead from some places. -/
def Route.follow : Route → Places → Places
  | stay allowed, places => places.intersection allowed
  | step starts, places => (places.intersection starts).next
  | concat first second, places => second.follow (first.follow places)
  | alternation first second, places =>
      (first.follow places).union (second.follow places)
  | repetition inner least further, places =>
      upTo inner.follow further (times inner.follow least places)

/-- The ways of the expression through a text.  No way is longer than the text,
so a repetition without a limit has one there. -/
def route (text : List Char) : Regex → Route
  | empty => .stay (Places.all text.length)
  | chars set => .step (Places.before set text)
  | assertion condition => .stay (Places.holding condition text)
  | concat first second => .concat (first.route text) (second.route text)
  | alternation first second =>
      .alternation (first.route text) (second.route text)
  | repetition inner least most =>
      .repetition (inner.route text) least ((most.getD text.length) - least)
  | group inner => inner.route text

/-- Does the expression match some part of the text? -/
def search (regex : Regex) (text : String) : Bool :=
  let chars := text.toList
  !((regex.route chars).follow (Places.all chars.length)).isEmpty

instance : Coe Regex (String → Bool) :=
  ⟨search⟩

end Regex

end TreeQuery
