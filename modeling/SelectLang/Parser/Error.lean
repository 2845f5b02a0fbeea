import SelectLang.Token.Lexer

namespace SelectLang

-- What stood where a parser failed.
inductive Found
  | token (text : String) (position : Position)
  | endOfInput
  deriving DecidableEq, Repr

namespace Found

def ofToken (t : Token) : Found :=
  token t.text t.position

def ofToken? (t : Option Token) : Found :=
  t.elim endOfInput ofToken

def position? : Found → Option Position
  | token _ p  => some p
  | endOfInput => none

def text : Found → String
  | token text _ => Quoted.string text
  | endOfInput   => "end of input"

end Found

inductive ParseError
  -- The statement does not split into tokens.
  | lex (error : LexError)
  -- A token is not the one that is called for.
  | expected (what : String) (found : Found)
  -- None of the alternatives of a choice fits.
  | noAlternative (found : Found)
  -- The tokens fit, but an action refuses them.
  | domain (message : String) (found : Found)
  -- Tokens are left behind the last one that fits.
  | trailing (found : Found)
  deriving DecidableEq, Repr

namespace ParseError

def found? : ParseError → Option Found
  | lex _           => none
  | expected _ f    => some f
  | noAlternative f => some f
  | domain _ f      => some f
  | trailing f      => some f

def position? : ParseError → Option Position
  | lex e => some e.position
  | e     => e.found?.bind Found.position?

def isDomain : ParseError → Bool
  | domain _ _ => true
  | _          => false

def message : ParseError → String
  | lex e           => e.message
  | expected what f => s!"expected {what}, got {f.text}"
  | noAlternative f => s!"parse failed at {f.text}"
  | domain text _   => text
  | trailing f      => s!"unconsumed input starting at {f.text}"

end ParseError

-- A failed attempt. Behind a commit it is fatal, and no choice tries anything
-- else after it.
structure Failure where
  error : ParseError
  fatal : Bool
  deriving DecidableEq, Repr

namespace Failure

def ofError (e : ParseError) : Failure where
  error := e
  fatal := false

def toFatal (f : Failure) : Failure :=
  { f with fatal := true }

end Failure

end SelectLang
