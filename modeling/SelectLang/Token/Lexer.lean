import SelectLang.Text.Quoted
import SelectLang.Token.Lexeme

namespace SelectLang

-- A character that no token starts with.
structure LexError where
  character : Char
  position  : Position
  deriving DecidableEq, Repr

def LexError.message (e : LexError) : String :=
  s!"unexpected character {Quoted.char e.character} at {e.position.text}"

-- A statement that is read up to some character: the position of that character
-- and the text from there on.
@[ext]
structure Lexer where
  position : Position
  rest     : List Char
  deriving DecidableEq, Repr

namespace Lexer

def ofString (text : String) : Lexer where
  position := .start
  rest     := text.toList

def skip (l : Lexer) (n : Nat) : Lexer where
  position := l.position.after (l.rest.take n)
  rest     := l.rest.drop n

def skipSpace (l : Lexer) : Lexer :=
  l.skip (l.rest.takeWhile isSpace).length

-- The token right here, or none at the end of the text. Nothing behind an error is
-- worth reading, so an error leaves an exhausted lexer.
def scan (l : Lexer) : Except LexError (Option Token) × Lexer :=
  match l.rest with
  | []     => (.ok none, l)
  | c :: _ =>
    match Lexeme.read? l.rest with
    | none        => (.error ⟨c, l.position⟩, { l with rest := [] })
    | some lexeme => (.ok (some (lexeme.token l.position)), l.skip lexeme.text.length)

def next (l : Lexer) : Except LexError (Option Token) × Lexer :=
  l.skipSpace.scan

-- A result as an item of a sequence, which ends where there is no token left.
def item? : Except LexError (Option Token) → Option (Except LexError Token)
  | .ok none     => none
  | .ok (some t) => some (.ok t)
  | .error e     => some (.error e)

def nextItem? (l : Lexer) : Option (Except LexError Token) × Lexer :=
  (item? l.next.1, l.next.2)

theorem skip_rest_length (l : Lexer) (n : Nat) : (l.skip n).rest.length = l.rest.length - n :=
  List.length_drop

theorem scan_rest_length_lt {l l' : Lexer} {t : Token} (h : l.scan = (.ok (some t), l')) :
    l'.rest.length < l.rest.length := by
  unfold scan at h
  split at h
  case h_1 => simp at h
  case h_2 hr =>
    split at h
    case h_1 => simp at h
    case h_2 hl =>
      have hn := List.length_pos_iff.mpr <| Lexeme.read?_ne_nil hl
      have hp : 0 < l.rest.length := by simp [hr]
      simp only [Prod.mk.injEq] at h
      rw [← h.2, skip_rest_length]
      omega

-- Every token shortens the text that is left.
theorem next_rest_length_lt {l l' : Lexer} {t : Token} (h : l.next = (.ok (some t), l')) :
    l'.rest.length < l.rest.length := by
  have hs := l.skip_rest_length (l.rest.takeWhile isSpace).length
  have hn := scan_rest_length_lt h
  simp only [skipSpace] at hn
  omega

-- All tokens up to the end of the text.
def tokens (l : Lexer) : Except LexError (List Token) :=
  match _h : l.next with
  | (.ok none, _)      => .ok []
  | (.ok (some t), l') => do return t :: (← l'.tokens)
  | (.error e, _)      => .error e
termination_by l.rest.length
decreasing_by exact next_rest_length_lt ‹_›

end Lexer

def tokenize (text : String) : Except LexError (List Token) :=
  (Lexer.ofString text).tokens

end SelectLang
