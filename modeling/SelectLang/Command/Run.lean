import SelectLang.Command.Argument
import SelectLang.Command.Check
import SelectLang.Command.Reference

namespace SelectLang.Command

-- What a command leaves behind.
structure Report where
  code   : UInt8
  stdout : String
  stderr : String
  deriving DecidableEq, Repr

namespace Report

def output (text : String) : Report where
  code   := 0
  stdout := text
  stderr := ""

def failure (e : CommandError) : Report where
  code   := 1
  stdout := ""
  stderr := e.message ++ "\n"

def usage : Report where
  code   := 2
  stdout := ""
  stderr := "Usage: selectql [--format json|pretty|text] select|check|tokens|syntax [WORDS]...\n"

def ofOutcome : Except CommandError String → Report
  | .ok text => output (text ++ "\n")
  | .error e => failure e

end Report

-- The statement of the words, or else of the input.
def readStatement (words : List String) (lead : Option String) (input : ByteArray) :
    Except CommandError String :=
  match statementOf? words lead with
  | some statement => .ok statement
  | none           =>
    match String.fromUTF8? input with
    | none      => .error .invalidInput
    | some text => (statementOf? [trim text] lead).elim (.error .noInput) .ok

def Finding.text : Finding → String
  | valid             => "Syntax is valid"
  | parsed _ rendered => rendered

namespace Invocation

-- Only a subcommand that gets no statement in its words reads the input.
def readsInput (i : Invocation) : Bool :=
  i.subcommand.takesWords && i.words.all isBlank

def check (i : Invocation) (lead : Option String) (format : Format) (input : ByteArray) :
    Except CommandError String := do
  let statement ← readStatement i.words lead input
  return (← { statement, syntaxOnly := i.syntaxOnly, format : Check }.run).text

-- The format is the one of the arguments, or else the default.
def run (i : Invocation) (byDefault : Format) (input : ByteArray) : Report :=
  let format := i.format.getD byDefault
  match i.subcommand with
  | .select    => .ofOutcome (i.check (some "select") format input)
  | .check     => .ofOutcome (i.check none format input)
  | .tokens    => .ofOutcome (readStatement i.words none input >>= describe)
  | .reference => .output reference

end Invocation

-- The format that the environment asks for. A wrong one is an error, even if it is
-- not needed.
def environmentFormat? : Option String → Option Format
  | none      => some .json
  | some name => Format.ofName? name

-- What a command line and the format setting of the environment ask for, with the
-- format to use by default.
def request? (arguments : List String) (setting : Option String) : Option (Request × Format) := do
  match ← Request.ofArguments? arguments with
  | .version  => return (.version, .json)
  | .invoke i => return (.invoke i, ← environmentFormat? setting)

def readsInput (arguments : List String) (setting : Option String) : Bool :=
  match request? arguments setting with
  | some (.invoke i, _) => i.readsInput
  | _                   => false

-- Runs a command line, given the format setting of the environment and the input.
def run (arguments : List String) (setting : Option String) (input : ByteArray) : Report :=
  match request? arguments setting with
  | none                        => .usage
  | some (.version, _)          => .output "selectql 0.1.0\n"
  | some (.invoke i, byDefault) => i.run byDefault input

end SelectLang.Command
