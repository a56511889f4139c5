import TreeQuery.Unicode.Alphabetic
import TreeQuery.Unicode.Property.Format
import TreeQuery.Unicode.Recent

/-!
# Words and digits in expressions

What `\w` and `\d` stand for in an expression.
-/

namespace TreeQuery

namespace Unicode

/-- Letters, marks, decimal digits, connectors and the two joiners. -/
def wordChars : CharSet :=
  earlier (.unions [alphabetic, marks, decimalDigits, connectors, joinControls])

/-- The decimal digits of all scripts. -/
def digits : CharSet :=
  earlier decimalDigits

end Unicode

end TreeQuery
