namespace SelectLang.Number

def digitValue (c : Char) : Nat :=
  c.toNat - '0'.toNat

-- The value of a row of decimal digits, most significant first.
def valueOf (digits : List Char) : Nat :=
  digits.foldl (fun n c => 10 * n + digitValue c) 0

-- Why a text is no numeral of the wanted range.
inductive Refusal
  | empty
  | invalidDigit
  | tooLarge
  deriving DecidableEq, Repr

def Refusal.message : Refusal → String
  | empty        => "cannot parse integer from empty string"
  | invalidDigit => "invalid digit found in string"
  | tooLarge     => "number too large to fit in target type"

-- Goes on reading digits behind a numeral with the value `n`. The first character
-- that is no digit, or that leads to the bound, decides the refusal.
def readDigits (bound n : Nat) : List Char → Except Refusal Nat
  | []      => .ok n
  | c :: cs =>
    if !c.isDigit then .error .invalidDigit
    else if bound ≤ 10 * n + digitValue c then .error .tooLarge
    else readDigits bound (10 * n + digitValue c) cs

-- Reads a number below the bound. There may be a plus sign in front, but no minus
-- sign, and a sign alone is no numeral.
def readNatural (bound : Nat) (text : String) : Except Refusal Nat :=
  match text.toList with
  | []             => .error .empty
  | '+' :: c :: cs => readDigits bound 0 (c :: cs)
  | cs             => readDigits bound 0 cs

def readUInt64 (text : String) : Except Refusal UInt64 :=
  (readNatural (1 <<< 64) text).map .ofNat

-- Reads a signed number of 64 bits. There is one more below zero than above.
def readInt64? (text : String) : Option Int64 :=
  match text.toList with
  | '-' :: c :: cs => (readDigits (1 <<< 63 + 1) 0 (c :: cs)).toOption.map fun n => .ofInt (-n)
  | _              => (readNatural (1 <<< 63) text).toOption.map fun n => .ofInt n

end SelectLang.Number
