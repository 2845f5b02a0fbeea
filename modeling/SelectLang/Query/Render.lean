import SelectLang.Json.Basic
import SelectLang.Query.Text

namespace SelectLang

def Condition.json (c : Condition) : Json := .object [
  ("path",  .string c.path),
  ("op",    .string c.comparison.symbol),
  ("value", .string c.value)
]

def SortKey.json (k : SortKey) : Json := .object [
  ("path",      .string k.path),
  ("direction", .string k.direction.name)
]

def Query.json (q : Query) : Json := .object [
  ("selects", .array (q.fields.map .string)),
  ("coll",    .string q.collection),
  ("wheres",  .array (q.conditions.map Condition.json)),
  ("orders",  .array (q.sortKeys.map SortKey.json)),
  ("limit",   q.limit.elim .null fun n => .number n.toNat)
]

-- The ways to print a query: JSON on one line, indented JSON, or a statement.
inductive Format
  | json
  | pretty
  | text
  deriving DecidableEq, Repr

def Query.render (q : Query) : Format → String
  | .json   => q.json.compact
  | .pretty => q.json.pretty
  | .text   => q.text

end SelectLang
