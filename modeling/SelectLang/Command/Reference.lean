namespace SelectLang.Command

def referenceLines : List String := [
  "SELECTQL STATEMENT SYNTAX",
  "",
  "The smallest statement is",
  "",
  "  select FIELDS from COLLECTION",
  "",
  "where FIELDS is a comma-separated list of field names or \"*\" (also written",
  "\"all\" to avoid shell glob expansion), and COLLECTION is a collection name or",
  "a slash-separated path such as Namespaces/dev/Updates.",
  "",
  "Optional clauses follow, in this order:",
  "",
  "  where FIELD OP VALUE [and FIELD OP VALUE]...",
  "      OP is one of ==, =, >, >=, < or <=.",
  "      VALUE is any single token; numbers compare as numbers.",
  "",
  "  order by FIELD [asc|desc] [, FIELD [asc|desc]]...",
  "      Keys sort ascending unless marked desc.",
  "",
  "  limit N",
  "      N is a non-negative integer.",
  "",
  "EXAMPLES",
  "",
  "  selectql select '*' from cities",
  "  selectql select pop, nick from cities where pop '>' 3000",
  "  selectql select all from cities order by pop desc limit 5",
  "  selectql check \"select StartedAt from Namespaces/dev/Updates order by StartedAt desc\""
]

-- The reference that the command prints for the syntax of statements.
def reference : String :=
  String.join (referenceLines.map (· ++ "\n"))

end SelectLang.Command
