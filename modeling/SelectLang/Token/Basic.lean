namespace SelectLang

-- Where a character stands in a statement. The offset counts characters from 0;
-- lines and columns count from 1.
@[ext]
structure Position where
  offset : Nat
  line   : Nat
  column : Nat
  deriving DecidableEq, Repr

namespace Position

def start : Position where
  offset := 0
  line   := 1
  column := 1

-- The position behind one character: only a line feed starts a new line.
def advance (p : Position) (c : Char) : Position where
  offset := p.offset + 1
  line   := if c = '\n' then p.line + 1 else p.line
  column := if c = '\n' then 1 else p.column + 1

def after (p : Position) (cs : List Char) : Position :=
  cs.foldl advance p

def text (p : Position) : String :=
  s!"{p.line}:{p.column}"

end Position

namespace Token

inductive Kind
  | identifier
  | path
  | number
  | operator
  | punctuation
  deriving DecidableEq, Repr

def Kind.name : Kind → String
  | identifier  => "identifier"
  | path        => "path"
  | number      => "number"
  | operator    => "operator"
  | punctuation => "punctuation"

end Token

-- A classified piece of a statement and the position of its first character.
@[ext]
structure Token where
  kind     : Token.Kind
  text     : String
  position : Position
  deriving DecidableEq, Repr

end SelectLang
