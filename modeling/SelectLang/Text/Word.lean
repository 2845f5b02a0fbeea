import SelectLang.Unicode.Alphabetic

namespace SelectLang

def isAlphabetic (c : Char) : Bool :=
  Unicode.alphabetic.covers c.toNat

def isNumeric (c : Char) : Bool :=
  Unicode.numeric.covers c.toNat

def isSpace (c : Char) : Bool :=
  Unicode.whiteSpace.covers c.toNat

def isBlank (text : String) : Bool :=
  text.toList.all isSpace

def trimStart (cs : List Char) : List Char :=
  cs.dropWhile isSpace

def trimEnd (cs : List Char) : List Char :=
  (trimStart cs.reverse).reverse

-- A text without the white space at its two ends.
def trim (text : String) : String :=
  String.ofList (trimEnd (trimStart text.toList))

namespace Word

-- The characters of words: one that opens a word, one that goes on in an
-- identifier, and one that goes on in a path.
def opens (c : Char) : Bool :=
  isAlphabetic c || c == '_'

def continues (c : Char) : Bool :=
  isAlphabetic c || isNumeric c || c == '_'

-- The marks that make a path of a word.
def isPathMark (c : Char) : Bool :=
  c == '-' || c == '/'

def continuesPath (c : Char) : Bool :=
  continues c || isPathMark c

-- Words may have any character of Unicode 17.0, but names keep to Unicode 16.0. So
-- there are words that are no names.
def isSettled (c : Char) : Bool :=
  !Unicode.newcomers.covers c.toNat

-- A text that as a whole is one name over the given characters.
def isName (part : Char → Bool) (text : String) : Bool :=
  match text.toList with
  | []      => false
  | c :: cs => opens c && cs.all part && (c :: cs).all isSettled

def isIdentifier (text : String) : Bool :=
  isName continues text

def isPath (text : String) : Bool :=
  isName continuesPath text

end Word

end SelectLang
