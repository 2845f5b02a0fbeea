import SelectLang.Query.Render
import SelectLang.Query.Statement
import SelectLang.Token.Json

namespace SelectLang

-- Why a command gives no answer.
inductive CommandError
  | parse (error : ParseError)
  | lex (error : LexError)
  | invalidInput
  | noInput
  deriving DecidableEq, Repr

def CommandError.message : CommandError → String
  | parse e      => s!"Parse error: {e.message}"
  | lex e        => s!"Lex error: {e.message}"
  | invalidInput => "IO error: stream did not contain valid UTF-8"
  | noInput      => "No statement provided. Pass it as arguments or pipe it to stdin."

namespace Command

-- Joins words to a statement, behind the lead if there is one. Blank words are no
-- statement, whatever the lead.
def statementOf? (words : List String) (lead : Option String) : Option String :=
  if words.all isBlank then none
  else some (" ".intercalate (lead.toList ++ words))

-- What to check: a statement, whether its query is of no interest, and how to
-- print it otherwise.
structure Check where
  statement  : String
  syntaxOnly : Bool   := false
  format     : Format := .json

inductive Finding
  | valid
  | parsed (query : Query) (rendered : String)
  deriving DecidableEq, Repr

def Check.run (c : Check) : Except CommandError Finding :=
  if isBlank c.statement then .error .noInput
  else match Query.ofText c.statement with
    | .error e => .error (.parse e)
    | .ok q    => .ok (if c.syntaxOnly then .valid else .parsed q (q.render c.format))

-- The listing of the tokens of a statement.
def describe (statement : String) : Except CommandError String :=
  match tokenize statement with
  | .ok ts   => .ok (Token.listing ts)
  | .error e => .error (.lex e)

end Command

end SelectLang
