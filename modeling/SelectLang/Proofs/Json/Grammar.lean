import Mathlib.Algebra.Order.Field.Rat
import SelectLang.Proofs.Number.Decimal

namespace SelectLang

open Lexeme (IsDigits)
open Number (Scientific IsSign IsExponent valueOf)

def Number.Scientific.value (s : Scientific) : ℚ :=
  (if s.negative then -1 else 1) * s.coefficient * 10 ^ s.exponent

namespace Json

-- What a JSON text stands for. All members of an object count, in their order.
inductive Datum
  | null
  | bool (b : Bool)
  | number (x : ℚ)
  | string (s : String)
  | array (items : List Datum)
  | object (members : List (String × Datum))

def isGap (c : Char) : Bool :=
  [' ', '\t', '\n', '\r'].contains c

-- The grammar of JSON. Each of its relations takes something off the front of a text and leaves
-- the rest, beginning with white space.
inductive Gap : List Char → List Char → Prop
  | nil {rest} : Gap rest rest
  | cons {c cs rest} (first : isGap c) (others : Gap cs rest) : Gap (c :: cs) rest

-- Digits without a zero in front, unless it is the only one.
inductive IsWhole : List Char → Prop
  | zero : IsWhole ['0']
  | positive {d ds} (digits : IsDigits (d :: ds)) (first : d ≠ '0') : IsWhole (d :: ds)

inductive IsFraction : List Char → List Char → Prop
  | absent : IsFraction [] []
  | present {ds} (digits : IsDigits ds) : IsFraction ('.' :: ds) ds

inductive IsNumber : List Char → Scientific → Prop
  | parts {sign whole fraction exponent negative places e} (signed : IsSign sign negative)
    (unmarked : sign ≠ ['+']) (integral : IsWhole whole) (fractional : IsFraction fraction places)
    (scaled : IsExponent exponent e) :
    IsNumber (sign ++ (whole ++ fraction ++ exponent))
      ⟨negative, valueOf (whole ++ places), e - places.length⟩

-- The value of a row of hexadecimal digits, in either letter case.
def hexValue? (digits : List Char) : Option Nat :=
  digits.foldlM (fun n c => ("0123456789abcdef".toList.idxOf? c.toLower).map (16 * n + ·)) 0

inductive IsUnit : List Char → Nat → List Char → Prop
  | hex {a b c d n rest} (value : hexValue? [a, b, c, d] = some n) :
    IsUnit ('\\' :: 'u' :: a :: b :: c :: d :: rest) n rest

def shortEscapes : List (Char × Char) :=
  [('"', '"'), ('\\', '\\'), ('/', '/'), ('b', '\x08'), ('f', '\x0c'), ('n', '\n'), ('r', '\r'),
    ('t', '\t')]

-- The halves of a pair of units that make one character, and the number of that character.
def IsHigh (n : Nat) : Prop :=
  0xd800 ≤ n ∧ n < 0xdc00

def IsLow (n : Nat) : Prop :=
  0xdc00 ≤ n ∧ n < 0xe000

def joined (high low : Nat) : Nat :=
  0x10000 + (high - 0xd800) * 0x400 + (low - 0xdc00)

-- A character of a string. One beyond the first 2 ^ 16 takes two units, if it is escaped.
inductive IsChar : List Char → Char → List Char → Prop
  | plain {c rest} (visible : 0x20 ≤ c.toNat) (inside : c ≠ '"') (unmarked : c ≠ '\\') :
    IsChar (c :: rest) c rest
  | short {k c rest} (escape : shortEscapes.lookup k = some c) : IsChar ('\\' :: k :: rest) c rest
  | unit {cs c rest} (unit : IsUnit cs c.toNat rest) : IsChar cs c rest
  | pair {cs cs' m n c rest} (first : IsUnit cs m cs') (second : IsUnit cs' n rest)
    (high : IsHigh m) (low : IsLow n) (eq : c.toNat = joined m n) : IsChar cs c rest

-- A string from behind its first quote on.
inductive IsString : List Char → List Char → List Char → Prop
  | nil {rest} : IsString ('"' :: rest) [] rest
  | cons {cs c cs' text rest} (first : IsChar cs c cs') (others : IsString cs' text rest) :
    IsString cs (c :: text) rest

-- What the rules of the grammar are about: a value, a member, and rows of them.
inductive Part
  | value (d : Datum)
  | member (m : String × Datum)
  | items (ds : List Datum)
  | members (ms : List (String × Datum))

inductive Denotes : List Char → Part → List Char → Prop
  | null {rest} : Denotes ('n' :: 'u' :: 'l' :: 'l' :: rest) (.value .null) rest
  | true {rest} : Denotes ('t' :: 'r' :: 'u' :: 'e' :: rest) (.value (.bool true)) rest
  | false {rest} : Denotes ('f' :: 'a' :: 'l' :: 's' :: 'e' :: rest) (.value (.bool false)) rest
  | number {cs s rest} (number : IsNumber cs s) :
    Denotes (cs ++ rest) (.value (.number s.value)) rest
  | string {cs text rest} (string : IsString cs text rest) :
    Denotes ('"' :: cs) (.value (.string (.ofList text))) rest
  | emptyArray {cs rest} (gap : Gap cs (']' :: rest)) : Denotes ('[' :: cs) (.value (.array [])) rest
  | array {cs ds rest} (items : Denotes cs (.items ds) (']' :: rest)) :
    Denotes ('[' :: cs) (.value (.array ds)) rest
  | emptyObject {cs rest} (gap : Gap cs ('\x7d' :: rest)) :
    Denotes ('\x7b' :: cs) (.value (.object [])) rest
  | object {cs ms rest} (members : Denotes cs (.members ms) ('\x7d' :: rest)) :
    Denotes ('\x7b' :: cs) (.value (.object ms)) rest
  | member {cs cs₁ cs₂ cs₃ rest text d} (key : IsString cs text cs₁) (mark : Gap cs₁ (':' :: cs₂))
    (gap : Gap cs₂ cs₃) (value : Denotes cs₃ (.value d) rest) :
    Denotes ('"' :: cs) (.member (.ofList text, d)) rest
  | lastItem {cs cs₁ cs₂ rest d} (before : Gap cs cs₁) (value : Denotes cs₁ (.value d) cs₂)
    (after : Gap cs₂ rest) : Denotes cs (.items [d]) rest
  | nextItem {cs cs₁ cs₂ cs₃ rest d ds} (before : Gap cs cs₁) (value : Denotes cs₁ (.value d) cs₂)
    (after : Gap cs₂ (',' :: cs₃)) (others : Denotes cs₃ (.items ds) rest) :
    Denotes cs (.items (d :: ds)) rest
  | lastMember {cs cs₁ cs₂ rest m} (before : Gap cs cs₁) (member : Denotes cs₁ (.member m) cs₂)
    (after : Gap cs₂ rest) : Denotes cs (.members [m]) rest
  | nextMember {cs cs₁ cs₂ cs₃ rest m ms} (before : Gap cs cs₁)
    (member : Denotes cs₁ (.member m) cs₂) (after : Gap cs₂ (',' :: cs₃))
    (others : Denotes cs₃ (.members ms) rest) : Denotes cs (.members (m :: ms)) rest

-- What arrays and objects have in common: a row of entries between brackets, or nothing.
structure IsBlock {α : Type} (start close : Char) (one : α → Part) (row : List α → Part)
    (whole : List α → Datum) : Prop where
  last   : ∀ {cs cs₁ cs₂ rest a}, Gap cs cs₁ → Denotes cs₁ (one a) cs₂ → Gap cs₂ rest →
    Denotes cs (row [a]) rest
  next   : ∀ {cs cs₁ cs₂ cs₃ rest a as}, Gap cs cs₁ → Denotes cs₁ (one a) cs₂ →
    Gap cs₂ (',' :: cs₃) → Denotes cs₃ (row as) rest → Denotes cs (row (a :: as)) rest
  empty  : ∀ {cs rest}, Gap cs (close :: rest) → Denotes (start :: cs) (.value (whole [])) rest
  filled : ∀ {cs rest as}, Denotes cs (row as) (close :: rest) →
    Denotes (start :: cs) (.value (whole as)) rest

theorem isBlock_array : IsBlock '[' ']' .value .items .array :=
  ⟨.lastItem, .nextItem, .emptyArray, .array⟩

theorem isBlock_object : IsBlock '\x7b' '\x7d' .member .members .object :=
  ⟨.lastMember, .nextMember, .emptyObject, .object⟩

-- A value as a whole text, with white space around it.
def IsText (text : String) (d : Datum) : Prop :=
  ∃ cs rest, Gap text.toList cs ∧ Denotes cs (.value d) rest ∧ Gap rest []

end Json

end SelectLang
