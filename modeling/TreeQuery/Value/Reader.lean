import TreeQuery.Reading.Arguments
import TreeQuery.Reading.Report
import TreeQuery.Reading.Scalar

/-!
# Reading values

The rule for values refers to itself for the items inside.  Every item lies
behind at least one token of the value around it, so the number of tokens bounds
how deep items can lie.
-/

namespace TreeQuery

namespace Value

open Reading

/-- A name with arguments in parentheses. -/
def constrRule (kind : ConstructorKind) (name : Rule String)
    (item : Rule Value) : Rule Value :=
  (name.andThen (Rule.arguments .identifier item fun _ => none)).map
    fun (name, positional, named) => constr kind name positional named

/-- The ways to read a value that is not named by an identifier, in order.  A
quoted text with arguments names a node, and is a string otherwise. -/
def otherRules (item : Rule Value) : List (Rule Value) :=
  [constrRule .node ((Rule.quoted .string).map Text.plain) item,
  (Rule.quoted .string).map string,
  (Rule.delimitedList .openParen .closeParen item.entry).map map,
  (Rule.delimitedList .openBrace .closeBrace item).map set,
  (Rule.delimitedList .openBracket .closeBracket item).map list,
  (Rule.delimitedList .openAngle .closeAngle item).map tuple,
  Rule.number.map number,
  Rule.boolean.map boolean,
  Rule.location.map location]

/-- One value whose items lie at most `depth` levels deep. -/
def rule : (depth : Nat) → Rule Value
  | 0 => fun cursor => .refuse (cursor.unexpected [])
  | depth + 1 =>
      .firstOf (constrRule .identifier Rule.identifier (rule depth))
        (otherRules (rule depth))

/-- Read the text of one value. -/
def read (source : String) : Except SyntaxFailure Value :=
  readAll true (fun tokens => rule (tokens.length + 1)) source

end Value

end TreeQuery
