import SelectLang.Number.Binary64

namespace SelectLang.Binary64

-- The real numbers that read back as significand · 2 ^ exponent, in quarters of
-- the last place. A power of two is nearer to its lower neighbour. The ends read
-- back if the significand is even.
structure Interval where
  low    : Nat
  high   : Nat
  closed : Bool

def interval (significand : Nat) (exponent : Int) : Interval where
  low    := 4 * significand - (if significand = 1 <<< 52 ∧ -1074 < exponent then 1 else 2)
  high   := 4 * significand + 2
  closed := significand % 2 = 0

def below (closed : Bool) (a b : Nat) : Bool :=
  if closed then a ≤ b else a < b

-- The multiple of 10 ^ grid that reads back and is next to the number, if there is
-- one. Only the two multiples around the number come into question; between two
-- equally near ones it is the even one.
def nextOn? (significand : Nat) (exponent grid : Int) : Option Nat :=
  let i := interval significand exponent
  let quarter := Nat.pow 10 (-grid).toNat <<< (exponent - 2).toNat
  let step := Nat.pow 10 grid.toNat <<< (2 - exponent).toNat
  let q := 4 * significand * quarter / step
  let r := 4 * significand * quarter % step
  let lower := below i.closed (i.low * quarter) (q * step)
  let upper := below i.closed ((q + 1) * step) (i.high * quarter)
  if lower ∧ upper then some (if 2 * r < step ∨ (2 * r = step ∧ q % 2 = 0) then q else q + 1)
  else if lower then some q
  else if upper then some (q + 1)
  else none

-- The powers of ten from beyond the greatest double down to below the smallest.
def grids : List Int :=
  (List.range 640).map (310 - Int.ofNat ·)

-- The fewest digits that read back as the number, and the power of ten that they
-- count: a number on the coarsest decimal grid that has one.
def shortest (significand : Nat) (exponent : Int) : Nat × Int :=
  if significand = 0 then (0, 0)
  else (grids.findSome? fun grid => (nextOn? significand exponent grid).map (·, grid)).getD (0, 0)

end SelectLang.Binary64
