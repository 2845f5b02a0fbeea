import SelectLang.Number.Scientific

namespace SelectLang

-- A floating point number of double precision, by its bits: a sign, eleven bits of
-- exponent, and 52 bits of fraction.
structure Binary64 where
  bits : UInt64
  deriving DecidableEq, Repr

namespace Binary64

def negative (x : Binary64) : Bool :=
  1 <<< 63 ≤ x.bits.toNat

def magnitude (x : Binary64) : Nat :=
  x.bits.toNat % 1 <<< 63

def infiniteMagnitude : Nat :=
  2047 <<< 52

def isNaN (x : Binary64) : Bool :=
  infiniteMagnitude < x.magnitude

def isFinite (x : Binary64) : Bool :=
  x.magnitude < infiniteMagnitude

-- A finite number is ± significand · 2 ^ exponent. The smallest exponent serves
-- the numbers with a leading one and those without alike.
def significand (x : Binary64) : Nat :=
  if x.magnitude < 1 <<< 52 then x.magnitude else 1 <<< 52 + x.magnitude % 1 <<< 52

def exponent (x : Binary64) : Int :=
  max (x.magnitude >>> 52 : Nat) 1 - 1075

def ofMagnitude (negative : Bool) (magnitude : Nat) : Binary64 where
  bits := .ofNat (if negative then 1 <<< 63 + magnitude else magnitude)

def infinity (negative : Bool) : Binary64 :=
  ofMagnitude negative infiniteMagnitude

def nan : Binary64 :=
  ofMagnitude false (infiniteMagnitude + 1 <<< 51)

-- The natural number next to a quotient. Halfway between two, it is the even one.
def roundHalfEven (num den : Nat) : Nat :=
  let q := num / den
  let r := 2 * (num % den)
  if den < r ∨ (r = den ∧ q % 2 = 1) then q + 1 else q

-- A quotient divided by a power of two.
def scaled (num den : Nat) (exponent : Int) : Nat × Nat :=
  (num <<< (-exponent).toNat, den <<< exponent.toNat)

-- The exponent that leaves 53 bits in front of the binary point of a positive
-- quotient, or the smallest one.
def exponentFor (num den : Nat) : Int :=
  let least := (num.log2 : Int) - den.log2 - 53
  let (n, d) := scaled num den least
  max (if n / d < 1 <<< 53 then least else least + 1) (-1074)

-- The bits of the double next to a quotient. A significand that is rounded up to
-- 54 bits carries into the exponent, which is just the next double.
def nearestMagnitude (num den : Nat) : Nat :=
  if num = 0 then 0 else
    let e := exponentFor num den
    let (n, d) := scaled num den e
    min infiniteMagnitude ((e + 1074).toNat <<< 52 + roundHalfEven n d)

-- The double next to a decimal number. What is beyond all doubles, or nearer to
-- zero than to the first of them, is told by the number of digits alone.
def ofScientific (s : Number.Scientific) : Binary64 :=
  let top := (Nat.toDigits 10 s.coefficient).length + s.exponent
  if s.coefficient = 0 ∨ top < -330 then ofMagnitude s.negative 0
  else if 310 < top then infinity s.negative
  else ofMagnitude s.negative <|
    nearestMagnitude (s.coefficient * Nat.pow 10 s.exponent.toNat) (Nat.pow 10 (-s.exponent).toNat)

-- The doubles that have a name instead of digits.
def ofName? (name : String) : Option (Bool → Binary64) :=
  if name = "inf" ∨ name = "infinity" then some infinity
  else if name = "nan" then some fun _ => nan
  else none

-- Reads a decimal numeral or the name of a double, in any letter case and with a
-- sign or none.
def ofText? (text : String) : Option Binary64 :=
  let (negative, name) := Number.splitSign text.toList
  match ofName? (String.ofList (name.map Char.toLower)) with
  | some named => some (named negative)
  | none       => (Number.Scientific.ofChars? text.toList).map ofScientific

end Binary64

end SelectLang
