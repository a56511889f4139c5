/-!
# Text with its spelling

A text is the body of a quoted token: runs of characters that stand for
themselves and characters written behind a backslash.  `Text.plain` is what the
body stands for, `Text.escaped` is the body as it is written.
-/

namespace TreeQuery

/-- One piece of a quoted body. -/
inductive Segment where
  | raw (run : List Char)
  | escaped (char : Char)
  deriving DecidableEq, Repr, Inhabited

/-- The character that a backslash and `char` stand for. -/
def unescape (char : Char) : Char :=
  match char with
  | 'n' => '\n'
  | 't' => '\t'
  | 'r' => '\r'
  | other => other

/-- The character to write behind a backslash for `char`, if it needs one. -/
def escapeCode (char : Char) : Option Char :=
  match char with
  | '"' => some '"'
  | '\'' => some '\''
  | '\\' => some '\\'
  | '\n' => some 'n'
  | '\t' => some 't'
  | '\r' => some 'r'
  | _ => none

namespace Segment

def plain : Segment → List Char
  | raw run => run
  | escaped char => [unescape char]

def written : Segment → List Char
  | raw run => run
  | escaped char => ['\\', char]

instance : Hashable Segment where
  hash segment :=
    segment.written.foldl (fun code char => mixHash code char.val.toUInt64) 7

/-- Put one raw character before a body, extending a raw run that starts it. -/
def consRaw (char : Char) : List Segment → List Segment
  | raw run :: rest => raw (char :: run) :: rest
  | segments => raw [char] :: segments

/-- The segments of a written body.  A backslash at its very end is dropped. -/
def ofBody : List Char → List Segment
  | [] => []
  | '\\' :: char :: rest => escaped char :: ofBody rest
  | ['\\'] => []
  | char :: rest => consRaw char (ofBody rest)

/-- The segments that spell a plain text, with a backslash only where needed. -/
def ofPlain : List Char → List Segment
  | [] => []
  | char :: rest =>
      match escapeCode char with
      | some code => escaped code :: ofPlain rest
      | none => consRaw char (ofPlain rest)

end Segment

/-- A quoted body.  Two texts are equal when they are spelled alike. -/
structure Text where
  segments : List Segment
  deriving DecidableEq, Hashable, Repr, Inhabited

namespace Text

/-- Read a quoted body, its delimiters already removed. -/
def decode (body : String) : Text :=
  ⟨Segment.ofBody body.toList⟩

/-- Spell a plain text so that either kind of quote can hold it. -/
def ofPlain (plain : String) : Text :=
  ⟨Segment.ofPlain plain.toList⟩

/-- The characters that the text stands for. -/
def plain (text : Text) : String :=
  String.ofList (text.segments.flatMap Segment.plain)

/-- The body as it is written between quotes. -/
def escaped (text : Text) : String :=
  String.ofList (text.segments.flatMap Segment.written)

end Text

end TreeQuery
