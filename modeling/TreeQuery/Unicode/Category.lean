import TreeQuery.Unicode.Category.Invisible
import TreeQuery.Unicode.Category.Letter
import TreeQuery.Unicode.Category.Mark
import TreeQuery.Unicode.Category.Number
import TreeQuery.Unicode.Category.Punctuation
import TreeQuery.Unicode.Category.Symbol

/-!
# Groups of general categories

Every character that has been given a meaning belongs to one category, and the
categories to a few groups.
-/

namespace TreeQuery

namespace Unicode

def casedLetters : CharSet :=
  .unions [uppercaseLetters, lowercaseLetters, titlecaseLetters]

def letters : CharSet :=
  .unions [casedLetters, modifierLetters, otherLetters]

def marks : CharSet :=
  .unions [nonspacingMarks, spacingMarks, enclosingMarks]

def numbers : CharSet :=
  .unions [decimalDigits, letterNumbers, otherNumbers]

def punctuation : CharSet :=
  .unions [connectors, dashPunctuation, openPunctuation, closePunctuation,
    initialQuotes, finalQuotes, otherPunctuation]

def symbols : CharSet :=
  .unions [mathSymbols, currencySymbols, modifierSymbols, otherSymbols]

def separators : CharSet :=
  .unions [spaceSeparators, lineSeparators, paragraphSeparators]

/-- The characters that have been given a meaning. -/
def assigned : CharSet :=
  .unions [letters, marks, numbers, punctuation, symbols, separators, controls,
    formatCharacters, privateUse]

end Unicode

end TreeQuery
