import SelectLang.Query.Basic
import SelectLang.Text.Quoted

namespace SelectLang

def Condition.text (c : Condition) : String :=
  s!"{c.path} {c.comparison.symbol} {c.value}"

-- Ascending order goes without saying.
def SortKey.text (k : SortKey) : String :=
  match k.direction with
  | .ascending  => k.path
  | .descending => k.path ++ " desc"

namespace Query

def fieldsText (q : Query) : String :=
  if q.selectsAll then "*" else ", ".intercalate q.fields

-- The entries of a clause behind its keyword. Without entries there is no clause.
def clauseText (keyword between : String) : List String → String
  | []      => ""
  | entries => s!" {keyword} " ++ between.intercalate entries

def limitText (q : Query) : String :=
  q.limit.elim "" fun n => s!" limit {n.toNat}"

-- The statement that asks for the query.
def text (q : Query) : String :=
  s!"select {q.fieldsText} from {q.collection}"
    ++ clauseText "where" " and " (q.conditions.map Condition.text)
    ++ clauseText "order by" ", " (q.sortKeys.map SortKey.text)
    ++ q.limitText

end Query

-- Queries and their parts as messages show them.
def Comparison.quoted : Comparison → String
  | eqEq => "EqEq"
  | eq   => "Eq"
  | gt   => "Gt"
  | gtEq => "GtEq"
  | lt   => "Lt"
  | ltEq => "LtEq"

def Direction.quoted : Direction → String
  | ascending  => "Asc"
  | descending => "Desc"

def Condition.quoted (c : Condition) : String := Quoted.record "Where" [
  ("path",  Quoted.string c.path),
  ("op",    c.comparison.quoted),
  ("value", Quoted.string c.value)
]

def SortKey.quoted (k : SortKey) : String := Quoted.record "Order" [
  ("path",      Quoted.string k.path),
  ("direction", k.direction.quoted)
]

def Query.quoted (q : Query) : String := Quoted.record "Query" [
  ("selects", Quoted.list (q.fields.map Quoted.string)),
  ("coll",    Quoted.string q.collection),
  ("wheres",  Quoted.list (q.conditions.map Condition.quoted)),
  ("orders",  Quoted.list (q.sortKeys.map SortKey.quoted)),
  ("limit",   Quoted.option (q.limit.map fun n => toString n.toNat))
]

end SelectLang
