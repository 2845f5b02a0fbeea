import SelectLang.Number.Integer
import SelectLang.Json.Double
import SelectLang.Query.Basic

namespace SelectLang

-- The value of a condition, ready to be compared with a stored field.
inductive Literal
  | integer (n : Int64)
  | float (x : Binary64)
  | text (s : String)
  deriving DecidableEq, Repr

namespace Literal

-- The names of doubles are field values, unless there is a minus sign in front.
def opensFloat (text : String) : Bool :=
  text.toList.head?.any fun c => c.isDigit || c == '-' || c == '.'

-- An integer if the text is one, then a float, and else the text itself.
def ofText (s : String) : Literal :=
  match Number.readInt64? s with
  | some n => integer n
  | none   =>
    if opensFloat s then (Binary64.ofText? s).elim (text s) float else text s

def json : Literal → String
  | integer n => toString n.toInt
  | float x   => x.json
  | text s    => Json.quote s

end Literal

def Condition.literal (c : Condition) : Literal :=
  .ofText c.value

end SelectLang
