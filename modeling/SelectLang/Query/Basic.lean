namespace SelectLang

-- How a condition compares a field with its value. Both spellings of equality are
-- kept apart, so that a reader sees what was written.
inductive Comparison
  | eqEq
  | eq
  | gt
  | gtEq
  | lt
  | ltEq
  deriving DecidableEq, Repr

namespace Comparison

def all : List Comparison :=
  [eqEq, eq, gt, gtEq, lt, ltEq]

def symbol : Comparison → String
  | eqEq => "=="
  | eq   => "="
  | gt   => ">"
  | gtEq => ">="
  | lt   => "<"
  | ltEq => "<="

def ofSymbol? (symbol : String) : Option Comparison :=
  all.find? (·.symbol == symbol)

end Comparison

inductive Direction
  | ascending
  | descending
  deriving DecidableEq, Repr, Inhabited

def Direction.name : Direction → String
  | ascending  => "asc"
  | descending => "desc"

-- A comparison of a field with a value. The value is the text as it was written.
structure Condition where
  path       : String
  comparison : Comparison
  value      : String
  deriving DecidableEq, Repr

structure SortKey where
  path      : String
  direction : Direction
  deriving DecidableEq, Repr

-- A select statement. No fields means every field; conditions must all hold; the
-- first sort key weighs most.
structure Query where
  fields     : List String    := []
  collection : String         := ""
  conditions : List Condition := []
  sortKeys   : List SortKey   := []
  limit      : Option UInt64  := none
  deriving DecidableEq, Repr

def Query.selectsAll (q : Query) : Bool :=
  q.fields.isEmpty

end SelectLang
