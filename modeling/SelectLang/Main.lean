import SelectLang.Command.Run

open SelectLang

-- A terminal counts as empty input: nobody has piped a statement.
def readPiped : IO ByteArray := do
  let stdin ← IO.getStdin
  if ← stdin.isTty then return .empty else stdin.readBinToEnd

def main (arguments : List String) : IO UInt32 := do
  let setting ← IO.getEnv "SELECTQL_FORMAT"
  let input ← if Command.readsInput arguments setting then readPiped else pure .empty
  let report := Command.run arguments setting input
  IO.print report.stdout
  IO.eprint report.stderr
  return report.code.toUInt32
