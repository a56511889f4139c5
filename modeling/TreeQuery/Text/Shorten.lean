/-!
# Shortened labels

A label that is too long keeps its first characters and ends with three dots.
-/

namespace TreeQuery

/-- Cut `text` to `limit` characters and mark the cut with three dots. -/
def shorten (text : String) (limit : Nat) : String :=
  if text.length > limit then
    String.ofList (text.toList.take limit ++ ['.', '.', '.'])
  else
    text

end TreeQuery
