import SelectLang.Json.Basic
import SelectLang.Token.Basic

namespace SelectLang

def Position.json (p : Position) : Json :=
  .object [("offset", .number p.offset), ("line", .number p.line), ("column", .number p.column)]

def Token.json (t : Token) : Json :=
  .object [("kind", .string t.kind.name), ("text", .string t.text), ("position", t.position.json)]

-- Tokens as a listing, with a line for each.
namespace Token

-- Fills a column up with spaces. A text that is wider than its column stays whole.
def column (width : Nat) (text : String) : String :=
  String.ofList (text.toList.rightpad width ' ')

-- Position, kind and text.
def listingLine (t : Token) : String :=
  s!"{column 6 t.position.text} {column 12 t.kind.name} {t.text}"

def listing (ts : List Token) : String :=
  "\n".intercalate (ts.map listingLine)

end Token

end SelectLang
