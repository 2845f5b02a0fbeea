import SelectLang.Number.Integer

namespace SelectLang.Number

-- The number ± coefficient · 10 ^ exponent.
structure Scientific where
  negative    : Bool
  coefficient : Nat
  exponent    : Int
  deriving DecidableEq, Repr

-- Takes a sign off a text and tells whether it is a minus.
def splitSign : List Char → Bool × List Char
  | '-' :: cs => (true, cs)
  | '+' :: cs => (false, cs)
  | cs        => (false, cs)

-- The exponent behind a coefficient: nothing, or the letter e with a number.
def readExponent? : List Char → Option Int
  | []      => some 0
  | e :: cs =>
    let (negative, digits) := splitSign cs
    if (e = 'e' ∨ e = 'E') ∧ digits ≠ [] ∧ digits.all Char.isDigit
    then some (if negative then -(valueOf digits) else valueOf digits)
    else none

-- The digits behind a decimal point, and what is left behind them.
def splitFraction : List Char → List Char × List Char
  | '.' :: cs => (cs.takeWhile Char.isDigit, cs.dropWhile Char.isDigit)
  | cs        => ([], cs)

-- Reads a decimal numeral: a sign or none, digits with at most one point before,
-- between or behind them, and an exponent or none.
def Scientific.ofChars? (cs : List Char) : Option Scientific := do
  let (negative, cs) := splitSign cs
  let whole := cs.takeWhile Char.isDigit
  let (fraction, cs) := splitFraction (cs.dropWhile Char.isDigit)
  if whole = [] ∧ fraction = [] then none
  let exponent ← readExponent? cs
  return ⟨negative, valueOf (whole ++ fraction), exponent - fraction.length⟩

end SelectLang.Number
