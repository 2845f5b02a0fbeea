import SelectLang.Proofs.Number.Integer
import SelectLang.Proofs.Parser.Separated
import SelectLang.Query.Statement

namespace SelectLang.Statement

-- The forms of a statement and of its parts: which tokens spell what. Keywords are not
-- reserved, so nothing is said here about what a name must not be, except that `all` as
-- the first name stands for every field.

inductive NameForm : List Token → String → Prop
  | name {t : Token} (name : Word.isIdentifier t.text) : NameForm [t] t.text

inductive FieldsForm : List Token → List String → Prop
  | every {t u : Token} (keyword : t.text = "select") (mark : u.text = "*" ∨ u.text = "all") :
    FieldsForm [t, u] []
  | named {t ts names} (keyword : t.text = "select") (row : Separated NameForm "," ts names)
    (first : names.head? ≠ some "all") : FieldsForm (t :: ts) names

inductive SourceForm : List Token → String → Prop
  | source {t p : Token} (keyword : t.text = "from") (path : Word.isPath p.text) :
    SourceForm [t, p] p.text

-- A comparison has to be of the kind of operators. The value may be any token at all.
inductive ConditionForm : List Token → Condition → Prop
  | condition {p o v : Token} {c : Comparison} (path : Word.isIdentifier p.text)
    (kind : o.kind = .operator) (symbol : o.text = c.symbol) :
    ConditionForm [p, o, v] ⟨p.text, c, v.text⟩

inductive FilterForm : List Token → List Condition → Prop
  | absent : FilterForm [] []
  | filter {t ts cs} (keyword : t.text = "where") (row : Separated ConditionForm "and" ts cs) :
    FilterForm (t :: ts) cs

-- A key without a direction is ascending.
inductive SortKeyForm : List Token → SortKey → Prop
  | plain {p : Token} (path : Word.isIdentifier p.text) : SortKeyForm [p] ⟨p.text, .ascending⟩
  | directed {p d : Token} {direction : Direction} (path : Word.isIdentifier p.text)
    (name : d.text = direction.name) : SortKeyForm [p, d] ⟨p.text, direction⟩

inductive OrderForm : List Token → List SortKey → Prop
  | absent : OrderForm [] []
  | order {t u ts ks} (order : t.text = "order") (by' : u.text = "by")
    (row : Separated SortKeyForm "," ts ks) : OrderForm (t :: u :: ts) ks

inductive LimitForm : List Token → Option UInt64 → Prop
  | absent : LimitForm [] none
  | limit {t u : Token} {n : Nat} (keyword : t.text = "limit") (count : Number.IsNumeral u.text n)
    (bound : n < 2 ^ 64) : LimitForm [t, u] (some (.ofNat n))

inductive Form : List Token → Query → Prop
  | statement {fs ss ws os ls fields collection conditions sortKeys limit}
    (hf : FieldsForm fs fields) (hs : SourceForm ss collection)
    (hw : FilterForm ws conditions) (ho : OrderForm os sortKeys)
    (hl : LimitForm ls limit) :
    Form (fs ++ (ss ++ (ws ++ (os ++ ls)))) { fields, collection, conditions, sortKeys, limit }

end SelectLang.Statement
