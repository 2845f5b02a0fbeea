import SelectLang.Query.Render

namespace SelectLang

def Format.ofName? : String → Option Format
  | "json"   => some .json
  | "pretty" => some .pretty
  | "text"   => some .text
  | _        => none

namespace Command

-- An argument of the command line, with the value of an option that takes one.
inductive Argument
  | word (text : String)
  -- A word behind the double dash, which never names a subcommand.
  | plain (text : String)
  | format (value : String)
  | syntaxOnly
  | version
  -- An unknown option, or a format option without a value.
  | unusable
  deriving DecidableEq, Repr

namespace Argument

-- The characters of a number behind its minus sign: digits, at most one point, not
-- in front, and behind that at most one exponent, not in front nor at the end.
def isNumber (cs : List Char) : Bool :=
  let whole := cs.takeWhile fun c => c.isDigit || c == '.'
  let exponent := cs.drop whole.length
  whole.head?.all Char.isDigit && whole.count '.' ≤ 1 &&
    match exponent with
    | []      => true
    | e :: ds => e == 'e' && whole ≠ [] && ds ≠ [] && ds.all Char.isDigit

-- A dash by itself and negative numbers are words, though they start with a dash.
def isWord (text : String) : Bool :=
  match text.toList with
  | '-' :: cs => isNumber cs
  | _         => true

-- The text behind a lead.
def behind? (lead text : String) : Option String :=
  (lead.toList.isPrefixOf? text.toList).map String.ofList

-- The value that is written in one argument with its format option.
def attachedFormat? (text : String) : Option String :=
  behind? "--format=" text <|> behind? "-f=" text <|> behind? "-f" text

def ofText (text : String) : Argument :=
  if isWord text then word text
  else if text = "--syntax-only" then syntaxOnly
  else if text = "--version" ∨ (behind? "-V" text).isSome then version
  else (attachedFormat? text).elim unusable format

-- The arguments one by one. A format option alone takes the next argument for its
-- value, and the double dash makes all arguments behind it words.
def ofList : List String → List Argument
  | []           => []
  | text :: rest =>
    if text = "--" then rest.map plain
    else if text = "-f" ∨ text = "--format" then
      match rest with
      | []            => [unusable]
      | value :: rest => format value :: ofList rest
    else ofText text :: ofList rest

end Argument

inductive Subcommand
  | select
  | check
  | tokens
  | reference
  deriving DecidableEq, Repr

namespace Subcommand

def ofName? : String → Option Subcommand
  | "select" => some select
  | "check"  => some check
  | "tokens" => some tokens
  | "syntax" => some reference
  | _        => none

def takesWords (s : Subcommand) : Bool :=
  s != reference

def takesSyntaxOnly (s : Subcommand) : Bool :=
  s == select || s == check

end Subcommand

-- A subcommand with its words and options.
structure Invocation where
  subcommand : Subcommand
  words      : List String   := []
  format     : Option Format := none
  syntaxOnly : Bool          := false
  deriving DecidableEq, Repr

namespace Invocation

def addWord (i : Invocation) (text : String) : Option Invocation :=
  if i.subcommand.takesWords then some { i with words := i.words ++ [text] } else none

-- An option may be given once.
def setFormat (i : Invocation) (value : String) : Option Invocation :=
  match i.format, Format.ofName? value with
  | none, some f => some { i with format := f }
  | _,    _      => none

def setSyntaxOnly (i : Invocation) : Option Invocation :=
  if i.subcommand.takesSyntaxOnly && !i.syntaxOnly
  then some { i with syntaxOnly := true }
  else none

def add (i : Invocation) : Argument → Option Invocation
  | .word text    => i.addWord text
  | .plain text   => i.addWord text
  | .format value => i.setFormat value
  | .syntaxOnly   => i.setSyntaxOnly
  | .version      => none
  | .unusable     => none

end Invocation

-- What a command line asks for.
inductive Request
  | version
  | invoke (i : Invocation)
  deriving DecidableEq, Repr

namespace Request

-- The arguments up to the subcommand, of which only options make sense, and from
-- there on. A format behind the subcommand goes before one in front of it. There
-- is no request if the command line is of no use.
def read? (outer : Option Format) : List Argument → Option Request
  | .version :: _           => some .version
  | .format value :: rest   =>
    match outer, Format.ofName? value with
    | none, some f => read? (some f) rest
    | _,    _      => none
  | .word name :: rest      => do
    let i ← rest.foldlM Invocation.add { subcommand := ← Subcommand.ofName? name }
    return .invoke { i with format := i.format <|> outer }
  | _                       => none

def ofArguments? (arguments : List String) : Option Request :=
  read? none (Argument.ofList arguments)

end Request

end Command

end SelectLang
