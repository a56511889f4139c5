import TreeQuery.Unicode.Hidden

/-!
# Source text made visible

A piece of source is shown in a message between double quotes, with everything
that could not be seen there spelled out.
-/

namespace TreeQuery

/-- A code point in braces, in hexadecimal without leading zeros. -/
def codePointEscape (char : Char) : List Char :=
  ['\\', 'u', '{'] ++ Nat.toDigits 16 char.toNat ++ ['}']

def visibleChar (char : Char) : List Char :=
  match char with
  | '\x00' => ['\\', '0']
  | '\t' => ['\\', 't']
  | '\r' => ['\\', 'r']
  | '\n' => ['\\', 'n']
  | '"' => ['\\', '"']
  | '\\' => ['\\', '\\']
  | _ => if Unicode.isHidden char then codePointEscape char else [char]

/-- `chars` between double quotes, unseen characters spelled out. -/
def visible (chars : List Char) : String :=
  String.ofList ('"' :: chars.flatMap visibleChar ++ ['"'])

end TreeQuery
