import TreeQuery.Flat

/-!
# Drawing records

Each record is drawn on a line of its own, and the records that it names as its
children follow.  Lines connect a record to the one it lies in; those without a
parent start without any.
-/

namespace TreeQuery

namespace NodeKind

def icon : NodeKind → String
  | map => "⊞"
  | entry => "↦"
  | list => "[]"
  | set => "\x7b\x7d"
  | tuple => "⟨⟩"
  | constructor => "ƒ"
  | node => "◇"
  | string => "\""
  | number => "#"
  | boolean => "✓"
  | location => "⌖"

end NodeKind

namespace Role

/-- How a role is shown before the icon. -/
def lead : Role → String
  | root => ""
  | key => "key "
  | value => "value "
  | index position => "[" ++ toString position ++ "] "
  | field name => name ++ "= "

end Role

namespace Caption

/-- The role if wanted, the icon and the label. -/
def line (showRoles : Bool) (caption : Caption) : List Char :=
  (if showRoles then caption.role.lead.toList else []) ++
    caption.kind.icon.toList ++ [' '] ++ caption.name.toList

end Caption

/-- The connector before the line of a record below the top level. -/
def connector (isLast : Bool) : List Char :=
  if isLast then ['└', '─', ' '] else ['├', '─', ' ']

/-- What stands before the connectors of all that lies below a record. -/
def trunk (isLast : Bool) : List Char :=
  if isLast then [' ', ' '] else ['│', ' ']

namespace Flat

/-- Draw the records with these numbers, and tell of each whether it is the last
one.  A number without a record is passed over. -/
def drawEach (flat : Flat) (draw : (isLast : Bool) → Record → List Char) :
    List Nat → List Char
  | [] => []
  | id :: ids =>
      (match flat.get? id with
      | some record => draw ids.isEmpty record
      | none => []) ++ flat.drawEach draw ids

/-- The lines of a record below the top level and of all that lies in it, at most
`bound` levels down. -/
def drawWithin (flat : Flat) (showRoles : Bool) :
    (bound : Nat) → (lead : List Char) → (isLast : Bool) → Record → List Char
  | 0, _, _, _ => []
  | bound + 1, lead, isLast, record =>
      lead ++ connector isLast ++ record.caption.line showRoles ++ ['\n'] ++
        flat.drawEach (flat.drawWithin showRoles bound (lead ++ trunk isLast))
          record.children

/-- The lines of a record at the top level and of all that lies in it. -/
def drawRoot (flat : Flat) (showRoles : Bool) (root : Record) : List Char :=
  root.caption.line showRoles ++ ['\n'] ++
    flat.drawEach (flat.drawWithin showRoles flat.size []) root.children

/-- The drawing of all records at the top level, one after the other. -/
def drawing (showRoles : Bool) (flat : Flat) : String :=
  String.ofList (flat.roots.flatMap (flat.drawRoot showRoles))

end Flat

end TreeQuery
