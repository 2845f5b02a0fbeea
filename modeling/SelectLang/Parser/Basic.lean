import SelectLang.Parser.State

namespace SelectLang

-- Names the parser that a stand-in stands for. Loops have labels of their own, so
-- that no name of a grammar can clash with them.
inductive Label
  | named (name : String)
  | loop (level : Nat)
  deriving DecidableEq, Repr

-- The first loop level above a label.
def Label.above : Label → Nat
  | named _    => 0
  | loop level => level + 1

-- Makes a result of the consumed tokens and the result so far, or refuses them.
abbrev Action (ν : Type) := List Token → Value ν → Except String (Value ν)

-- A backtracking parser over tokens, with results over the nodes `ν`.
inductive Parser (ν : Type)
  -- One token with exactly this text.
  | literal (text : String)
  -- One token that passes the test. Errors call it by the name.
  | predicate (name : String) (test : Token → Bool)
  -- One token, whichever it is.
  | any
  -- Nothing, always.
  | empty
  -- Nothing, and the running alternative becomes the only viable one.
  | commit
  -- Always a failure, with this message.
  | fail (message : String)
  -- All parts in order. Yields the list of their results.
  | seq (parts : List (Parser ν))
  -- The first alternative that fits, each tried from the same place.
  | choice (alternatives : List (Parser ν))
  -- Another result for the same tokens.
  | map (f : Value ν → Value ν) (p : Parser ν)
  -- Another result that depends on the consumed tokens, or a refusal of them.
  | action (f : Action ν) (p : Parser ν)
  -- A parser that may use itself: in the body, the label stands for the whole.
  | fix (label : Label) (body : Parser ν)
  -- The parser of the innermost `fix` around that has this label.
  | standIn (label : Label)
  -- A stand-in whose parser no longer exists.
  | dangling

namespace Parser

variable {ν : Type}

mutual

-- The number of parsers that a parser is built of.
def size : Parser ν → Nat
  | seq ps     => sizes ps + 1
  | choice ps  => sizes ps + 1
  | map _ p    => p.size + 1
  | action _ p => p.size + 1
  | fix _ p    => p.size + 1
  | _          => 1

def sizes : List (Parser ν) → Nat
  | []      => 0
  | p :: ps => p.size + sizes ps

end

mutual

-- The first loop level above all that occur in a parser.
def freeLevel : Parser ν → Nat
  | seq ps     => freeLevels ps
  | choice ps  => freeLevels ps
  | map _ p    => p.freeLevel
  | action _ p => p.freeLevel
  | fix l p    => max (l.above) p.freeLevel
  | standIn l  => l.above
  | _          => 0

def freeLevels : List (Parser ν) → Nat
  | []      => 0
  | p :: ps => max p.freeLevel (freeLevels ps)

end

-- The parser or nothing.
def optional (p : Parser ν) : Parser ν :=
  choice [p, empty]

-- The parser as often as it fits. Yields the flat list of the results.
def many (p : Parser ν) : Parser ν :=
  let loop := Label.loop p.freeLevel
  fix loop <| choice [
    map Value.joined <| seq [p, standIn loop],
    map (fun _ => .list []) empty
  ]

-- One or more items with separators between them. Yields the results of the items.
def sepBy (item separator : Parser ν) : Parser ν :=
  map Value.joined <| seq [item, many <| map Value.second <| seq [separator, item]]

end Parser

end SelectLang
