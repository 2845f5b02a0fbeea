import SelectLang.Parser.Basic

namespace SelectLang

variable {ν : Type}

-- The fix parsers around a running parser, innermost first.
abbrev Scope (ν : Type) := List (Label × Parser ν)

-- The body behind a label and the scope that it runs in: its own fix and all
-- those around that one.
def Scope.resolve? (label : Label) : Scope ν → Option (Parser ν × Scope ν)
  | []                => none
  | (l, body) :: rest =>
    if l = label then some (body, (l, body) :: rest) else resolve? label rest

namespace State

variable {α : Type}

-- Consumes the current token if it passes the test.
def accept (what : String) (test : Token → Bool) (s : State) : Reply (Value ν) :=
  match s.current?.filter test with
  | some t => .success (.token t.text) s.advance
  | none   => .failure (.expected what s.found) s

def noAlternative (s : State) : Reply α :=
  .failure (.noAlternative s.found) s

-- Ends an action on what was consumed since the state `s`. A refusal is about the
-- first consumed token, or about the current one if there is none.
def conclude (f : Action ν) (s : State) (r : Reply (Value ν)) : Reply (Value ν) :=
  match r.outcome with
  | .error _ => r
  | .ok v    =>
    let span := s.span r.state
    match f span v with
    | .ok v'   => .success v' r.state
    | .error m => .failure (.domain m (.ofToken? (span.head?.or r.state.current?))) r.state

end State

namespace Parser

-- A way to run parsers. There is no reply if a run is cut off before its end.
abbrev Runner (ν : Type) := Parser ν → State → Option (Reply (Value ν))

-- Runs all parts, each from where the one before it ended, up to the first failure.
def inOrder (run : Runner ν) : List (Parser ν) → State → Option (Reply (List (Value ν)))
  | [],      s => some (.success [] s)
  | p :: ps, s => do
    let r ← run p s
    match r.outcome with
    | .error e => return ⟨.error e, r.state⟩
    | .ok v    => return (← inOrder run ps r.state).map (v :: ·)

-- Tries the alternatives, each from the state `s` with the flag cleared. A failure
-- that is fatal or behind a commit ends the choice where it stopped. The flag is
-- the caller's again on every way out.
def firstOf (run : Runner ν) (s : State) : List (Parser ν) → Option (Reply (Value ν))
  | []      => some s.noAlternative
  | p :: ps => do
    let r ← run p { s with committed := false }
    match r.outcome with
    | .ok v    => return .withFlag s.committed ⟨.ok v, r.state⟩
    | .error e =>
      if e.fatal || r.state.committed
      then return .withFlag s.committed ⟨.error e.toFatal, r.state⟩
      else firstOf run s ps

-- Runs a parser that stands in the scope, and cuts off what goes deeper than so many
-- parsers inside each other.
def runWithin : Nat → Scope ν → Runner ν
  | 0,         _,     _, _ => none
  | depth + 1, scope, p, s =>
    match p with
    | literal text        => some (s.accept (Quoted.string text) (·.text == text))
    | predicate name test => some (s.accept name test)
    | any                 => some (s.accept "any token" fun _ => true)
    | empty               => some (.success .empty s)
    | commit              => some (.success .empty { s with committed := true })
    | fail message        => some (.failure (.domain message s.found) s)
    | seq ps              => return (← inOrder (runWithin depth scope) ps s).map .list
    | choice ps           => firstOf (runWithin depth scope) s ps
    | map f p             => return (← runWithin depth scope p s).map f
    | action f p          => return s.conclude f (← runWithin depth scope p s)
    | fix label body      => runWithin depth ((label, body) :: scope) body s
    | standIn label       =>
      match scope.resolve? label with
      | some (body, around) => runWithin depth around body s
      | none                => some s.noAlternative
    | dangling            => some s.noAlternative

-- A run that ends never enters a parser again, while it is still inside of it, without
-- having consumed a token in between. So it goes at most this deep.
def depthBound (p : Parser ν) (s : State) : Nat :=
  p.size * (s.remaining.length + 1)

-- Runs a parser from a state. There is no reply if the parser never ends.
def run (p : Parser ν) (s : State) : Option (Reply (Value ν)) :=
  p.runWithin (p.depthBound s) [] s

-- Runs a parser over all of the tokens. To leave some of them over is an error.
def parse (p : Parser ν) (tokens : List Token) : Option (Except ParseError (Value ν)) := do
  let r ← p.run (.start tokens)
  match r.outcome with
  | .error e => return .error e.error
  | .ok v    => return if r.state.atEnd then .ok v else .error (.trailing r.state.found)

def parseText (p : Parser ν) (text : String) : Option (Except ParseError (Value ν)) :=
  match tokenize text with
  | .ok tokens => p.parse tokens
  | .error e   => some (.error (.lex e))

end Parser

end SelectLang
