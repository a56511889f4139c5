import TreeQuery.Regex.Term
import TreeQuery.Unicode.Folding
import TreeQuery.Unicode.Word

/-!
# Flags in expressions

Letters set and clear the flags that decide what the parts behind them match.
-/

namespace TreeQuery.Regex

/-- What the flags in force ask for. -/
structure Flags where
  caseless : Bool
  multiLine : Bool
  dotAll : Bool
  unicode : Bool
  returnLines : Bool
  deriving DecidableEq, Repr, Inhabited

def asciiDigits : CharSet := .range '0' '9'

def asciiLetters : CharSet := .union (.range 'A' 'Z') (.range 'a' 'z')

def asciiWordChars : CharSet :=
  .unions [asciiDigits, asciiLetters, .single '_']

def asciiBlanks : CharSet :=
  .union (.range '\t' '\r') (.single ' ')

namespace Flags

def standard : Flags :=
  { caseless := false
    multiLine := false
    dotAll := false
    unicode := true
    returnLines := false }

/-- Set the flag of a letter.  Preferring short matches changes nothing here,
and ignoring blanks nothing but how an expression is read. -/
def set (flags : Flags) (letter : Char) (value : Bool) : Flags :=
  match letter with
  | 'i' => { flags with caseless := value }
  | 'm' => { flags with multiLine := value }
  | 's' => { flags with dotAll := value }
  | 'u' => { flags with unicode := value }
  | 'R' => { flags with returnLines := value }
  | _ => flags

/-- Set the flags of all letters; those behind the minus are cleared. -/
def setAll (flags : Flags) : (value : Bool) → List Char → Flags
  | _, [] => flags
  | value, letter :: rest =>
      if letter = '-' then setAll flags false rest
      else setAll (flags.set letter value) value rest

def digits (flags : Flags) : CharSet :=
  if flags.unicode then Unicode.digits else asciiDigits

def blanks (flags : Flags) : CharSet :=
  if flags.unicode then Unicode.blanks else asciiBlanks

def wordChars (flags : Flags) : CharSet :=
  if flags.unicode then Unicode.wordChars else asciiWordChars

/-- The set with what differs in case only, if that is asked for. -/
def fold (flags : Flags) (set : CharSet) : CharSet :=
  if !flags.caseless then set
  else if flags.unicode then set.caseless
  else
    set.union (asciiLetters.intersection (asciiLetters.intersection set).caseless)

/-- Any character, or any that ends no line. -/
def dot (flags : Flags) : CharSet :=
  if flags.dotAll then .full
  else if flags.returnLines then
    (CharSet.union (.single '\n') (.single '\r')).complement
  else (CharSet.single '\n').complement

def assertion (flags : Flags) : Anchor → Assertion
  | .textStart => .textStart
  | .textEnd => .textEnd
  | .lineStart =>
      if !flags.multiLine then .textStart
      else if flags.returnLines then .returnLineStart
      else .lineStart
  | .lineEnd =>
      if !flags.multiLine then .textEnd
      else if flags.returnLines then .returnLineEnd
      else .lineEnd
  | .word edge => .word edge flags.wordChars

end Flags

end TreeQuery.Regex
