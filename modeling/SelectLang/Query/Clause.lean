import SelectLang.Number.Integer
import SelectLang.Parser.Value
import SelectLang.Query.Text
import SelectLang.Token.Basic

namespace SelectLang

-- The pieces that a statement is put together from.
inductive Clause
  | fields (names : List String)
  | collection (path : String)
  | condition (c : Condition)
  | conditions (cs : List Condition)
  | sortKey (k : SortKey)
  | sortKeys (ks : List SortKey)
  | limit (n : UInt64)
  | query (q : Query)
  deriving Repr

namespace Clause

-- A piece as a message shows it.
def quoted : Clause → String
  | fields names    => Quoted.variant "Selects" (Quoted.list (names.map Quoted.string))
  | collection path => Quoted.variant "Collection" (Quoted.string path)
  | condition c     => Quoted.variant "Where" c.quoted
  | conditions cs   => Quoted.variant "Wheres" (Quoted.list (cs.map Condition.quoted))
  | sortKey k       => Quoted.variant "Order" k.quoted
  | sortKeys ks     => Quoted.variant "Orders" (Quoted.list (ks.map SortKey.quoted))
  | limit n         => Quoted.variant "Limit" (toString n.toNat)
  | query q         => Quoted.variant "Query" q.quoted

-- A clause, or why there is none. Each reading below makes a clause of what the
-- parser of that clause yields, and refuses values of any other shape.
abbrev Reading := Except String (Value Clause)

def accept (c : Clause) : Reading :=
  .ok (.node c)

-- A refusal shows what was there instead.
def malformed (what shown : String) : String :=
  s!"malformed {what}: {shown}"

def shown (v : Value Clause) : String :=
  v.quoted quoted

def shownAll (vs : List (Value Clause)) : String :=
  Quoted.list (Value.quotedItems quoted vs)

def asCondition : Value Clause → Except String Condition
  | .node (condition c) => .ok c
  | v                   => .error (malformed "where term" (shown v))

def asSortKey : Value Clause → Except String SortKey
  | .node (sortKey k) => .ok k
  | v                 => .error (malformed "order key" (shown v))

-- One token in the place of the names stands for every field.
def readFields (v : Value Clause) : Reading :=
  match v.toList with
  | [_, .token _] => accept (fields [])
  | [_, .list vs] =>
    match vs.mapM Value.token? with
    | some names => accept (fields names)
    | none       => .error (malformed "field list" (shownAll vs))
  | vs => .error (malformed "select clause" (shownAll vs))

def readSource (v : Value Clause) : Reading :=
  match v.toList.getLast?.bind Value.token? with
  | some path => accept (collection path)
  | none      => .error "malformed from clause"

def readCondition (v : Value Clause) : Reading :=
  match v.toList with
  | [.token path, .token symbol, .token value] =>
    match Comparison.ofSymbol? symbol with
    | some c => accept (condition ⟨path, c, value⟩)
    | none   => .error s!"unknown comparison operator {Quoted.string symbol}"
  | vs => .error (malformed "where term" (shownAll vs))

def readFilter (v : Value Clause) : Reading :=
  match v.toList.getLast? with
  | some vs => do accept (conditions (← vs.toList.mapM asCondition))
  | none    => .error "malformed where clause"

def readDirection (v : Value Clause) : Direction :=
  if v.token? = some "desc" then .descending else .ascending

def readSortKey (v : Value Clause) : Reading :=
  match v.toList with
  | [.token path, direction] => accept (sortKey ⟨path, readDirection direction⟩)
  | vs                       => .error (malformed "order key" (shownAll vs))

def readOrder (v : Value Clause) : Reading :=
  match v.toList.getLast? with
  | some vs => do accept (sortKeys (← vs.toList.mapM asSortKey))
  | none    => .error "malformed order clause"

def readCount (ts : List Token) : Reading :=
  let text := ts.head?.elim "" Token.text
  match Number.readUInt64 text with
  | .ok n    => accept (limit n)
  | .error r => .error s!"invalid limit {Quoted.string text}: {r.message}"

def readLimit (v : Value Clause) : Reading :=
  match v.toList.getLast? with
  | some (.node (limit n)) => accept (limit n)
  | v                      => .error (malformed "limit clause" (Quoted.option (v.map shown)))

-- Enters a clause into a query. A clause that is left out leaves the query as it is.
def enter (q : Query) : Value Clause → Except String Query
  | .node (fields names)    => .ok { q with fields := names }
  | .node (collection path) => .ok { q with collection := path }
  | .node (conditions cs)   => .ok { q with conditions := cs }
  | .node (sortKeys ks)     => .ok { q with sortKeys := ks }
  | .node (limit n)         => .ok { q with limit := n }
  | .empty                  => .ok q
  | v                       => .error (malformed "statement" (shown v))

def readQuery (v : Value Clause) : Reading := do
  accept (query (← v.toList.foldlM enter {}))

end Clause

end SelectLang
