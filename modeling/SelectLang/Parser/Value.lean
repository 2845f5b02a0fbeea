import SelectLang.Text.Quoted

namespace SelectLang

-- What a parser yields: nothing, the text of a token, a list of results, or a
-- node of the grammar's own. The engine never looks into a node.
inductive Value (ν : Type)
  | empty
  | token (text : String)
  | list (items : List (Value ν))
  | node (n : ν)
  deriving Repr

namespace Value

variable {ν : Type}

def isEmpty : Value ν → Bool
  | empty   => true
  | list vs => vs.isEmpty
  | _       => false

def length : Value ν → Nat
  | empty   => 0
  | list vs => vs.length
  | _       => 1

def token? : Value ν → Option String
  | token text => some text
  | _          => none

def node? : Value ν → Option ν
  | node n => some n
  | _      => none

-- The entries of a list. A token or a node is its own only entry.
def toList : Value ν → List (Value ν)
  | empty   => []
  | list vs => vs
  | v       => [v]

-- Puts the first of two results in front of the list that the second one holds.
def joined (pair : Value ν) : Value ν :=
  match pair.toList with
  | v :: vs :: _ => list (v :: vs.toList)
  | vs           => list vs

def second (pair : Value ν) : Value ν :=
  pair.toList[1]?.getD empty

-- A value as a message shows it, given how to show a node.
mutual

def quoted (shown : ν → String) : Value ν → String
  | empty      => "Empty"
  | token text => Quoted.variant "Token" (Quoted.string text)
  | list vs    => Quoted.variant "List" (Quoted.list (quotedItems shown vs))
  | node n     => Quoted.variant "Node" (shown n)

def quotedItems (shown : ν → String) : List (Value ν) → List String
  | []      => []
  | v :: vs => quoted shown v :: quotedItems shown vs

end

end Value

end SelectLang
