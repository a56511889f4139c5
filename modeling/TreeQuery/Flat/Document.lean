import TreeQuery.Document
import TreeQuery.Flat

/-!
# Records as documents
-/

namespace TreeQuery

namespace NodeKind

/-- The word for a kind in a document. -/
def word : NodeKind → String
  | map => "map"
  | entry => "entry"
  | list => "list"
  | set => "set"
  | tuple => "tuple"
  | constructor => "constructor"
  | node => "node"
  | string => "string"
  | number => "number"
  | boolean => "boolean"
  | location => "location"

end NodeKind

def Target.document : Target → Document
  | value id =>
      .fields [("kind", .text "value"), ("id", .nat id.index.toNat)]
  | entry id =>
      .fields [("kind", .text "entry"), ("id", .nat id.index.toNat)]

def Role.document : Role → Document
  | root => .text "root"
  | key => .text "key"
  | value => .text "value"
  | index position => .tagged "index" (.nat position)
  | field name => .tagged "field" (.text name)

namespace Record

/-- The fields of a record, in the order in which they are written. -/
def fields (record : Record) : List (String × Document) :=
  [("id", .nat record.id),
    ("name", .text record.caption.name),
    ("parent",
      match record.parent with
      | some parent => .nat parent
      | none => .null),
    ("target", record.caption.target.document),
    ("kind", .text record.caption.kind.word),
    ("children", .list (record.children.map .nat)),
    ("range", .nat record.range),
    ("role", record.caption.role.document)]

def document (record : Record) : Document :=
  .fields record.fields

end Record

end TreeQuery
