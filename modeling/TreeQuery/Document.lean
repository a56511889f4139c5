/-!
# Documents

What a list of records is turned into before it is written in one of the two
machine-readable formats.
-/

namespace TreeQuery

inductive Document where
  | null
  | nat (value : Nat)
  | text (value : String)
  | list (items : List Document)
  /-- Named fields, in the order in which they are written. -/
  | fields (fields : List (String × Document))
  /-- A value with the name of the case it belongs to. -/
  | tagged (tag : String) (content : Document)
  deriving Repr, Inhabited

end TreeQuery
