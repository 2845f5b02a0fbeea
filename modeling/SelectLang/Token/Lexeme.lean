import SelectLang.Text.Word
import SelectLang.Token.Basic

namespace SelectLang

-- The characters of a token at the head of a text, with the token's kind.
structure Lexeme where
  kind : Token.Kind
  text : List Char
  deriving DecidableEq, Repr

namespace Lexeme

def token (l : Lexeme) (p : Position) : Token where
  kind     := l.kind
  text     := String.ofList l.text
  position := p

def isPunctuation (c : Char) : Bool :=
  [',', '.', '(', ')', '*', '+', '-'].contains c

def isComparison (c : Char) : Bool :=
  c == '>' || c == '<' || c == '='

-- A word runs as far as path characters go. A path mark in it makes it a path.
def word (cs : List Char) : Lexeme :=
  let text := cs.takeWhile Word.continuesPath
  ⟨if text.any Word.isPathMark then .path else .identifier, text⟩

-- A decimal point belongs to a number only if a digit follows it.
def fraction : List Char → List Char
  | '.' :: c :: cs => if c.isDigit then '.' :: (c :: cs).takeWhile Char.isDigit else []
  | _              => []

def numeral (cs : List Char) : List Char :=
  cs.takeWhile Char.isDigit ++ fraction (cs.dropWhile Char.isDigit)

def comparison (c : Char) : List Char → Lexeme
  | '=' :: _ => ⟨.operator, [c, '=']⟩
  | _        => ⟨.operator, [c]⟩

def opensNumber : List Char → Bool
  | '-' :: c :: _ => c.isDigit
  | c :: _        => c.isDigit
  | []            => false

def number : List Char → Lexeme
  | '-' :: cs => ⟨.number, '-' :: numeral cs⟩
  | cs        => ⟨.number, numeral cs⟩

-- Reads the token that the text starts with, if there is one. A minus sign is
-- part of a number if a digit follows it, and punctuation otherwise.
def read? : List Char → Option Lexeme
  | []      => none
  | c :: cs =>
    if Word.opens c then some (word (c :: cs))
    else if opensNumber (c :: cs) then some (number (c :: cs))
    else if isComparison c then some (comparison c cs)
    else if isPunctuation c then some ⟨.punctuation, [c]⟩
    else none

theorem word_ne_nil {c : Char} (h : Word.opens c) (cs : List Char) :
    (word (c :: cs)).text ≠ [] := by
  have : Word.continuesPath c := by
    simp_all [Word.opens, Word.continuesPath, Word.continues, or_assoc]
    grind
  simp [word, this]

theorem numeral_ne_nil {c : Char} (h : c.isDigit) (cs : List Char) : numeral (c :: cs) ≠ [] := by
  simp [numeral, h]

theorem number_ne_nil {cs : List Char} (h : opensNumber cs) : (number cs).text ≠ [] := by
  fun_cases number cs with
  | case1 => simp
  | case2 h' =>
    match cs with
    | []      => simp [opensNumber] at h
    | c :: cs =>
      refine numeral_ne_nil (c := c) ?_ cs
      fun_cases opensNumber (c :: cs) <;> simp_all [opensNumber]

theorem comparison_ne_nil (c : Char) (cs : List Char) : (comparison c cs).text ≠ [] := by
  fun_cases comparison c cs <;> simp

-- No token is empty: this is what ends the reading of a text.
theorem read?_ne_nil {cs : List Char} {l : Lexeme} (h : read? cs = some l) : l.text ≠ [] := by
  fun_cases read? cs with
  | case1 => simp [read?] at h
  | case2 c cs hw => simp_all [read?]; exact h ▸ word_ne_nil hw cs
  | case3 c cs _ hn => simp_all [read?]; exact h ▸ number_ne_nil hn
  | case4 c cs => simp_all [read?]; exact h ▸ comparison_ne_nil c cs
  | case5 => simp_all [read?]; simp [← h]
  | case6 => simp_all [read?]

end Lexeme

end SelectLang
