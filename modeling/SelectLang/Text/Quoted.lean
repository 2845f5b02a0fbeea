import SelectLang.Unicode.ExtendingMarks
import SelectLang.Unicode.Invisible

namespace SelectLang.Quoted

-- A character that shows by itself, in any place of a text.
def isVisible (c : Char) : Bool :=
  !Unicode.invisible.covers c.toNat && !Unicode.extendingMarks.covers c.toNat

-- A character by its number, in lower case hexadecimal digits.
def numbered (c : Char) : List Char :=
  ['\\', 'u', '\x7b'] ++ Nat.toDigits 16 c.toNat ++ ['\x7d']

-- The form of a character between two quotes of the given kind. The other kind
-- of quote needs no escape.
def escape (quote c : Char) : List Char :=
  if c = quote ∨ c = '\\' then ['\\', c]
  else if c = '\x00' then ['\\', '0']
  else if c = '\t' then ['\\', 't']
  else if c = '\n' then ['\\', 'n']
  else if c = '\r' then ['\\', 'r']
  else if isVisible c then [c]
  else numbered c

def enclose (quote : Char) (cs : List Char) : String :=
  String.ofList (quote :: cs.flatMap (escape quote) ++ [quote])

def string (text : String) : String :=
  enclose '"' text.toList

def char (c : Char) : String :=
  enclose '\'' [c]

-- What has parts shows its name, and the parts in their order or by their own names.
def variant (name part : String) : String :=
  name ++ "(" ++ part ++ ")"

def record (name : String) (fields : List (String × String)) : String :=
  name ++ " \x7b " ++ ", ".intercalate (fields.map fun f => f.1 ++ ": " ++ f.2) ++ " \x7d"

def list (items : List String) : String :=
  "[" ++ ", ".intercalate items ++ "]"

def option : Option String → String
  | none      => "None"
  | some item => variant "Some" item

end SelectLang.Quoted
