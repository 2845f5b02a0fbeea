import SelectLang.Number.Shortest
import SelectLang.Json.Basic

namespace SelectLang.Binary64

-- Where JSON writes a double without an exponent: by the power of ten of its first
-- digit.
def positional (power : Int) : Bool :=
  -5 ≤ power ∧ power ≤ 15

def zeros (n : Int) : List Char :=
  List.replicate n.toNat '0'

-- Digits with the decimal point in its place, and with a fraction in any case.
def positionalText (digits : List Char) (grid : Int) : List Char :=
  let whole := digits.length + grid
  if 0 ≤ grid then digits ++ zeros grid ++ ".0".toList
  else if 0 < whole then digits.take whole.toNat ++ '.' :: digits.drop whole.toNat
  else "0.".toList ++ zeros (-whole) ++ digits

-- One digit, the others behind a point, and the power of ten with its sign.
def exponentText (digits : List Char) (power : Int) : List Char :=
  let fraction := digits.drop 1
  digits.take 1 ++ (if fraction = [] then [] else '.' :: fraction)
    ++ 'e' :: (if power < 0 then '-' else '+') :: Nat.toDigits 10 power.natAbs

-- The JSON text of a double: the fewest digits that read back. JSON has no infinite
-- numbers.
def json (x : Binary64) : String :=
  if !x.isFinite then "null"
  else
    let (number, grid) := shortest x.significand x.exponent
    let digits := Nat.toDigits 10 number
    let power := digits.length + grid - 1
    let text := if positional power then positionalText digits grid else exponentText digits power
    String.ofList (if x.negative then '-' :: text else text)

end SelectLang.Binary64

