import SelectLang.Parser.Run
import SelectLang.Query.Clause

namespace SelectLang

-- The grammar of statements:
--
--   statement := fields source [filter] [order] [limit]
--   fields    := "select" ("*" | "all" | identifier ("," identifier)*)
--   source    := "from" path
--   filter    := "where" condition ("and" condition)*
--   condition := identifier comparison value
--   order     := "order" "by" key ("," key)*
--   key       := identifier ["asc" | "desc"]
--   limit     := "limit" number
--
-- Behind its first keyword an optional clause is committed: nothing else can
-- start like it, so what is wrong there is wrong with the clause.
namespace Statement

abbrev Grammar := Parser Clause

-- A clause from what its parts yield.
def clause (read : Value Clause → Clause.Reading) (parts : List Grammar) : Grammar :=
  .action (fun _ => read) (.seq parts)

def identifier : Grammar :=
  .predicate "identifier" (Word.isIdentifier ·.text)

def path : Grammar :=
  .predicate "path" (Word.isPath ·.text)

def comparison : Grammar :=
  .predicate "comparison operator" fun t =>
    t.kind == .operator && (Comparison.ofSymbol? t.text).isSome

-- Any token will do. It is for the reader of the query to make sense of it.
def value : Grammar :=
  .predicate "value" fun _ => true

def fields : Grammar :=
  clause Clause.readFields [
    .literal "select",
    .choice [.literal "*", .literal "all", .sepBy identifier (.literal ",")]
  ]

def source : Grammar :=
  clause Clause.readSource [.literal "from", path]

def condition : Grammar :=
  clause Clause.readCondition [identifier, comparison, value]

def filter : Grammar :=
  clause Clause.readFilter [.literal "where", .commit, .sepBy condition (.literal "and")]

def sortKey : Grammar :=
  clause Clause.readSortKey [identifier, .choice [.literal "asc", .literal "desc", .empty]]

def order : Grammar :=
  clause Clause.readOrder [
    .literal "order", .commit, .literal "by", .sepBy sortKey (.literal ",")
  ]

def count : Grammar :=
  .action (fun ts _ => Clause.readCount ts) .any

def limit : Grammar :=
  clause Clause.readLimit [.literal "limit", .commit, count]

def statement : Grammar :=
  clause Clause.readQuery [fields, source, .optional filter, .optional order, .optional limit]

end Statement

namespace Query

-- Reads a statement that is split into tokens.
def ofTokens (ts : List Token) : Except ParseError Query :=
  match Statement.statement.parse ts with
  | some (.ok (.node (.query q))) => .ok q
  | some (.ok v)                  =>
    let shown := Quoted.option (v.node?.map Clause.quoted)
    .error (.domain (Clause.malformed "statement" shown) .endOfInput)
  | some (.error e)               => .error e
  -- The grammar comes to an end on all tokens, so that there always is a reply.
  | none                          => .error (.domain "malformed statement" .endOfInput)

-- Reads a statement.
def ofText (text : String) : Except ParseError Query :=
  match tokenize text with
  | .ok ts   => ofTokens ts
  | .error e => .error (.lex e)

end Query

end SelectLang
