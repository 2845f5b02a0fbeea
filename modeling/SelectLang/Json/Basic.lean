namespace SelectLang

-- The part of JSON that the answers of this library are made of. The members of
-- an object keep their order.
inductive Json
  | null
  | number (n : Nat)
  | string (s : String)
  | array (items : List Json)
  | object (members : List (String × Json))
  deriving Repr

namespace Json

def hexDigit (n : Nat) : Char :=
  Nat.digitChar (n % 16)

-- Quotes, backslashes and control characters are escaped. All else stands for itself.
def escape (c : Char) : List Char :=
  if c = '"' ∨ c = '\\' then ['\\', c]
  else if c = '\x08' then ['\\', 'b']
  else if c = '\x0c' then ['\\', 'f']
  else if c = '\n' then ['\\', 'n']
  else if c = '\r' then ['\\', 'r']
  else if c = '\t' then ['\\', 't']
  else if c.toNat < 0x20 then ['\\', 'u', '0', '0', hexDigit (c.toNat / 16), hexDigit c.toNat]
  else [c]

def quote (s : String) : String :=
  String.ofList ('"' :: s.toList.flatMap escape ++ ['"'])

-- JSON on one line, without blanks.
mutual

def compact : Json → String
  | null      => "null"
  | number n  => toString n
  | string s  => quote s
  | array js  => "[" ++ ",".intercalate (compactItems js) ++ "]"
  | object ms => "\x7b" ++ ",".intercalate (compactMembers ms) ++ "\x7d"

def compactItems : List Json → List String
  | []      => []
  | j :: js => compact j :: compactItems js

def compactMembers : List (String × Json) → List String
  | []           => []
  | (k, j) :: ms => (quote k ++ ":" ++ compact j) :: compactMembers ms

end

def newline (depth : Nat) : String :=
  String.ofList ('\n' :: List.replicate (2 * depth) ' ')

-- Puts each entry on a line of its own, one step further in than the brackets.
-- Brackets around nothing stay together.
def block (depth : Nat) («open» close : String) : List String → String
  | []      => «open» ++ close
  | entries =>
    let line := newline (depth + 1)
    «open» ++ line ++ ("," ++ line).intercalate entries ++ newline depth ++ close

-- JSON over several lines, indented by two blanks a level.
mutual

def prettyAt (depth : Nat) : Json → String
  | null      => "null"
  | number n  => toString n
  | string s  => quote s
  | array js  => block depth "[" "]" (prettyItems (depth + 1) js)
  | object ms => block depth "\x7b" "\x7d" (prettyMembers (depth + 1) ms)

def prettyItems (depth : Nat) : List Json → List String
  | []      => []
  | j :: js => prettyAt depth j :: prettyItems depth js

def prettyMembers (depth : Nat) : List (String × Json) → List String
  | []           => []
  | (k, j) :: ms => (quote k ++ ": " ++ prettyAt depth j) :: prettyMembers depth ms

end

def pretty (j : Json) : String :=
  j.prettyAt 0

end Json

end SelectLang
