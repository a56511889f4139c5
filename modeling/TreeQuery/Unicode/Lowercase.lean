import TreeQuery.Unicode.Alphabetic
import TreeQuery.Unicode.Folding

/-!
# Lower case

A character that is no small letter has the lower case that it folds to, with
three exceptions: the capital Cherokee letters fold to themselves, the letters
that are too recent for the folding table are listed here, and a capital I with
a dot above keeps the dot as a character of its own.  A capital sigma at the end
of a word becomes the final small sigma.
-/

namespace TreeQuery

namespace Unicode

def lowerChar (char : Char) : List Char :=
  let code := char.toNat
  if code < 0x80 then [char.toLower]
  else if lowercase.contains char then [char]
  else if code = 0x130 then ['i', '\u0307']
  else if 0x13A0 ≤ code && code ≤ 0x13EF then [Char.ofNat (code + 0x97D0)]
  else if 0x13F0 ≤ code && code ≤ 0x13F5 then [Char.ofNat (code + 8)]
  else if code = 0xA7CE || code = 0xA7D2 || code = 0xA7D4 then
    [Char.ofNat (code + 1)]
  else if 0x16EA0 ≤ code && code ≤ 0x16EB8 then [Char.ofNat (code + 27)]
  else [Char.ofNat (foldCode code)]

/-- Punctuation that may stand inside a word. -/
def wordInnerPunctuation : CharSet := ⟨#[
  (0x27, 0x27), (0x2E, 0x2E), (0x3A, 0x3A), (0xB7, 0xB7), (0x387, 0x387),
  (0x55F, 0x55F), (0x5F4, 0x5F4), (0x2018, 0x2019), (0x2024, 0x2024), (0x2027, 0x2027),
  (0xFE13, 0xFE13), (0xFE52, 0xFE52), (0xFE55, 0xFE55), (0xFF07, 0xFF07),
  (0xFF0E, 0xFF0E), (0xFF1A, 0xFF1A)]⟩

/-- Characters that are passed over when one looks for a neighbour with case. -/
def caseIgnorable : CharSet :=
  .unions [nonspacingMarks, enclosingMarks, formatCharacters, modifierLetters,
    modifierSymbols, wordInnerPunctuation]

/-- Does the first character that counts have case? -/
def startsCased (chars : List Char) : Bool :=
  (chars.dropWhile caseIgnorable.contains).head?.any cased.contains

/-- The lower case of `rest` behind the characters `before`, which are in
reverse order. -/
def lowerAfter : (before : List Char) → (rest : List Char) → List Char
  | _, [] => []
  | before, char :: rest =>
      let here :=
        if char = 'Σ' then
          if startsCased before && !startsCased rest then ['ς'] else ['σ']
        else lowerChar char
      here ++ lowerAfter (char :: before) rest

/-- The text in lower case. -/
def lower (text : String) : String :=
  String.ofList (lowerAfter [] text.toList)

end Unicode

end TreeQuery
