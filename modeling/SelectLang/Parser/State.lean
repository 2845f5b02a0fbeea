import SelectLang.Parser.Error
import SelectLang.Parser.Value

namespace SelectLang

-- A parse under way: all tokens, the number of those that are consumed, and
-- whether the running alternative of the innermost choice is committed.
@[ext]
structure State where
  tokens    : List Token
  cursor    : Nat
  committed : Bool
  deriving DecidableEq, Repr

namespace State

def start (tokens : List Token) : State where
  tokens    := tokens
  cursor    := 0
  committed := false

def atEnd (s : State) : Bool :=
  s.tokens.length ≤ s.cursor

def current? (s : State) : Option Token :=
  s.tokens[s.cursor]?

def found (s : State) : Found :=
  .ofToken? s.current?

def remaining (s : State) : List Token :=
  s.tokens.drop s.cursor

-- The tokens that are consumed between two states of one parse.
def span (s s' : State) : List Token :=
  s.remaining.take (s'.cursor - s.cursor)

def advance (s : State) : State :=
  { s with cursor := s.cursor + 1 }

end State

-- How a run ends: with a result or a failure, and in some state either way.
@[ext]
structure Reply (α : Type) where
  outcome : Except Failure α
  state   : State

namespace Reply

variable {α β : Type}

def success (a : α) (s : State) : Reply α where
  outcome := .ok a
  state   := s

def failure (e : ParseError) (s : State) : Reply α where
  outcome := .error (.ofError e)
  state   := s

def map (f : α → β) (r : Reply α) : Reply β where
  outcome := r.outcome.map f
  state   := r.state

-- Restores the commit flag that a choice has cleared for its alternatives.
def withFlag (committed : Bool) (r : Reply α) : Reply α :=
  { r with state := { r.state with committed } }

end Reply

end SelectLang
