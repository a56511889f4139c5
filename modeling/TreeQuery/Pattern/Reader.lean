import TreeQuery.Pattern
import TreeQuery.Reading.Arguments
import TreeQuery.Reading.Report
import TreeQuery.Reading.Scalar
import TreeQuery.Regex.Compile

/-!
# Reading patterns

The rules take the reader of expressions as an argument.  An expression that it
refuses is reported, and reading goes on behind it.
-/

namespace TreeQuery

namespace Pattern

open Reading

/-- Reads the text of an expression, which can then be searched for, or tells
what is wrong with it. -/
abbrev RegexReader : Type := String → Except String (String → Bool)

/-- An expression between slashes. -/
def regexRule (readRegex : RegexReader) : Rule RegexPattern :=
  ((Rule.token .regex).map Token.body).located.inspect fun (body, start) =>
    match readRegex body with
    | .ok expression => (⟨body, some expression⟩, [])
    | .error message => (⟨body, none⟩, [(start, .invalidRegex body message)])

/-- The field name that a pattern spells when an equals sign follows it. -/
def fieldName? : Pattern → Option NamePattern
  | regex expression => some (.regex expression)
  | text part => some (.text part)
  | _ => none

/-- The name of a constructor. -/
def nameRule (readRegex : RegexReader) : Rule NamePattern :=
  .firstOf (Rule.identifier.map .identifier)
    [(Rule.quoted .string).map fun name => .quoted name.plain,
    (regexRule readRegex).map .regex,
    (Rule.quoted .text).map .text]

/-- A pattern without repetition and alternation around it, given the rule for
the patterns inside. -/
def atomRule (readRegex : RegexReader) (item : Rule Pattern) : Rule Pattern :=
  .firstOf
    (((Rule.token .underscore).orElse (Rule.token .dot)).map fun _ => any)
    [((nameRule readRegex).andThen
        (Rule.arguments (Rule.identifier.map .identifier) item fieldName?)).map
      fun (name, positional, named) => constr name positional named,
    (Rule.quoted .string).map string,
    (regexRule readRegex).map regex,
    (Rule.quoted .text).map text,
    (Rule.delimitedList .openParen .closeParen item.entry).map map,
    (Rule.delimitedList .openBrace .closeBrace item).map set,
    (Rule.delimitedList .openBracket .closeBracket item).map list,
    (Rule.delimitedList .openAngle .closeAngle item).map tuple,
    Rule.number.map number,
    Rule.boolean.map boolean,
    Rule.location.map location]

/-- An atom with a star before or behind it, or without one. -/
def termRule (atom : Rule Pattern) : Rule Pattern :=
  .firstOf (((Rule.token .star).skipThen atom).map star)
    [(atom.andThen (Rule.token .star).optional).map fun (inner, mark) =>
      match mark with
      | some _ => star inner
      | none => inner]

/-- One pattern whose items lie at most `depth` levels deep. -/
def rule (readRegex : RegexReader) : (depth : Nat) → Rule Pattern
  | 0 => fun cursor => .refuse (cursor.unexpected [])
  | depth + 1 =>
      ((termRule (atomRule readRegex (rule readRegex depth))).separatedChain
        (Rule.token .alternation)).map alternatives

/-- Read the text of one pattern with a given reader of expressions. -/
def readWith (readRegex : RegexReader) (source : String) :
    Except SyntaxFailure Pattern :=
  readAll false (fun tokens => rule readRegex (tokens.length + 1)) source

/-- The usual expressions. -/
def regexReader : RegexReader := fun source =>
  (Regex.compile source).map Regex.search

/-- Read the text of one pattern. -/
def read (source : String) : Except SyntaxFailure Pattern :=
  readWith regexReader source

end Pattern

end TreeQuery
