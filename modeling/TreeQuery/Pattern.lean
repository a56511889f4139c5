import TreeQuery.Value

/-!
# Patterns

A pattern is written like a value and adds wildcards, repetition, alternation
and searches in strings.  Expressions are read once, when the pattern is, and
from then on a pattern knows of an expression only where it is found.
-/

namespace TreeQuery

/-- An expression with the text it was read from. -/
structure RegexPattern where
  source : String
  /-- Is it found in a text?  Missing when the text is no expression; then nothing
  matches. -/
  regex : Option (String → Bool)
  deriving Inhabited

namespace RegexPattern

/-- Does the expression match some part of the text? -/
def search (pattern : RegexPattern) (text : String) : Bool :=
  pattern.regex.any fun regex => regex text

/-- Expressions are the same when they are spelled alike. -/
instance : BEq RegexPattern :=
  ⟨fun left right => left.source == right.source⟩

end RegexPattern

/-- Does `part` stand somewhere in `whole`? -/
def isInfix (part : List Char) : (whole : List Char) → Bool
  | [] => part.isEmpty
  | char :: rest => part.isPrefixOf (char :: rest) || isInfix part rest

/-- Is the plain text of `part` somewhere in `whole`? -/
def Text.isWithin (part : Text) (whole : String) : Bool :=
  isInfix part.plain.toList whole.toList

/-- How a pattern names constructors and named children. -/
inductive NamePattern where
  | identifier (name : String)
  | quoted (name : String)
  | regex (expression : RegexPattern)
  | text (part : Text)
  deriving Inhabited

namespace NamePattern

/-- Literal names fit constructors of their own kind only. -/
def matchesConstructor (pattern : NamePattern) (kind : ConstructorKind)
    (name : String) : Bool :=
  match pattern with
  | identifier expected => kind == .identifier && expected == name
  | quoted expected => kind == .node && expected == name
  | regex expression => expression.search name
  | text part => part.isWithin name

def matchesField (pattern : NamePattern) (name : String) : Bool :=
  match pattern with
  | identifier expected => expected == name
  | quoted expected => expected == name
  | regex expression => expression.search name
  | text part => part.isWithin name

def equal : NamePattern → NamePattern → Bool
  | identifier name, identifier name' => name == name'
  | quoted name, quoted name' => name == name'
  | regex expression, regex expression' => expression == expression'
  | text part, text part' => part == part'
  | _, _ => false

end NamePattern

inductive Pattern where
  | any
  | or (options : List Pattern)
  /-- A run of values, where values stand in an order. -/
  | repeated (inner : Pattern)
  | regex (expression : RegexPattern)
  /-- Strings that contain the text. -/
  | text (part : Text)
  | map (pairs : List (Pattern × Pattern))
  | list (items : List Pattern)
  | set (items : List Pattern)
  | tuple (items : List Pattern)
  | constr (name : NamePattern) (positional : List Pattern)
      (named : List (NamePattern × Pattern))
  | string (body : Text)
  | number (digits : String)
  | boolean (truth : Bool)
  | location (place : Location)
  deriving Inhabited

namespace Pattern

/-- The repetition of a pattern; a repetition is not repeated again. -/
def star : Pattern → Pattern
  | repeated inner => repeated inner
  | other => repeated other

/-- A single option stands for itself. -/
def alternatives : List Pattern → Pattern
  | [only] => only
  | options => or options

mutual

/-- Equality of patterns; expressions are compared by how they are spelled. -/
def equal : Pattern → Pattern → Bool
  | any, any => true
  | or options, or options' => equalItems options options'
  | repeated inner, repeated inner' => equal inner inner'
  | regex expression, regex expression' => expression == expression'
  | text part, text part' => part == part'
  | map pairs, map pairs' => equalPairs pairs pairs'
  | list items, list items' => equalItems items items'
  | set items, set items' => equalItems items items'
  | tuple items, tuple items' => equalItems items items'
  | constr name positional named, constr name' positional' named' =>
      name.equal name' && equalItems positional positional' &&
        equalFields named named'
  | string body, string body' => body == body'
  | number digits, number digits' => digits == digits'
  | boolean truth, boolean truth' => truth == truth'
  | location place, location place' => place == place'
  | _, _ => false

def equalItems : List Pattern → List Pattern → Bool
  | [], [] => true
  | item :: items, item' :: items' => equal item item' && equalItems items items'
  | _, _ => false

def equalPairs : List (Pattern × Pattern) → List (Pattern × Pattern) → Bool
  | [], [] => true
  | (key, value) :: pairs, (key', value') :: pairs' =>
      equal key key' && equal value value' && equalPairs pairs pairs'
  | _, _ => false

def equalFields :
    List (NamePattern × Pattern) → List (NamePattern × Pattern) → Bool
  | [], [] => true
  | (name, item) :: fields, (name', item') :: fields' =>
      name.equal name' && equal item item' && equalFields fields fields'
  | _, _ => false

end

end Pattern

end TreeQuery
