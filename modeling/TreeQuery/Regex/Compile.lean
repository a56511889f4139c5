import TreeQuery.Regex.Meaning
import TreeQuery.Regex.Nesting
import TreeQuery.Regex.Reader
import TreeQuery.Regex.Size

/-!
# From text to expressions

An expression is read, found not to be nested too deep, given its meaning and
found not to be too large, in that order.
-/

namespace TreeQuery.Regex

/-- Why the text of an expression is refused. -/
inductive Refusal where
  | fault (found : Fault)
  | tooLarge (limit : Nat)
  deriving DecidableEq, Repr, Inhabited

def Refusal.describe (source : String) : Refusal → String
  | fault found => found.describe source
  | tooLarge limit =>
      "Compiled regex exceeds size limit of " ++ toString limit ++ " bytes."

/-- The expression that a text stands for. -/
def read (source : String) : Except Refusal Regex :=
  match Term.read source >>= Term.withinDepth >>= Term.regex with
  | .error found => .error (.fault found)
  | .ok regex =>
      if regex.tooLarge then .error (.tooLarge sizeLimit) else .ok regex

/-- The expression that a text stands for, or what is wrong with it. -/
def compile (source : String) : Except String Regex :=
  match read source with
  | .ok regex => .ok regex
  | .error refusal => .error (refusal.describe source)

end TreeQuery.Regex
