import SelectLang.Proofs.Json.Grammar

namespace SelectLang

open Lexeme (IsDigits)
open Number (Scientific IsDecimal IsSign IsMantissa IsExponent valueOf)

variable {c : Char} {cs ds rest whole fraction places exponent mantissa digits : List Char}
variable {s : Scientific} {e : Int} {n : Nat}

namespace Json

-- The characters of numbers.
def isNumberPart (c : Char) : Bool :=
  c.isDigit || ['+', '-', '.', 'e', 'E'].contains c

def isWhole (ds : List Char) : Bool :=
  ds == ['0'] || ds.head?.any (· != '0')

-- Behind a point there is a digit.
def isPointed : List Char → Bool
  | '.' :: cs => cs.head?.any Char.isDigit
  | _         => true

-- Whether a numeral keeps to the form that it has in JSON.
def isUnsigned (cs : List Char) : Bool :=
  isWhole (cs.takeWhile Char.isDigit) && isPointed (cs.dropWhile Char.isDigit)

def isPlain : List Char → Bool
  | '-' :: cs => isUnsigned cs
  | cs        => isUnsigned cs

def readNumber? (cs : List Char) : Option (Scientific × List Char) :=
  let number := cs.takeWhile isNumberPart
  if isPlain number then (Scientific.ofChars? number).map (·, cs.dropWhile isNumberPart) else none

theorem IsWhole.isDigits (h : IsWhole ds) : IsDigits ds := by
  cases h with
  | zero          => exact ⟨nofun, List.all_eq_true.mp rfl⟩
  | positive hd _ => exact hd

theorem isWhole_iff (hd : ∀ c ∈ ds, c.isDigit) : isWhole ds ↔ IsWhole ds := by
  constructor
  case mp =>
    intro h
    cases ds with
    | nil => cases h
    | cons d ds =>
      obtain ⟨rfl, rfl⟩ | hz : (d = '0' ∧ ds = []) ∨ d ≠ '0' := by simpa [isWhole] using h
      · exact .zero
      · exact .positive ⟨nofun, hd⟩ hz
  case mpr =>
    intro h
    cases h with
    | zero          => rfl
    | positive _ hf => simp [isWhole, hf]

theorem isUnsigned_append (hd : ∀ c ∈ ds, c.isDigit) (hr : rest.takeWhile Char.isDigit = []) :
    isUnsigned (ds ++ rest) = (isWhole ds && isPointed rest) := by
  have hr' : rest.dropWhile Char.isDigit = rest := by
    have h := List.takeWhile_append_dropWhile (p := Char.isDigit) (l := rest)
    rwa [hr, List.nil_append] at h
  rw [isUnsigned, List.takeWhile_append_of_pos hd, List.dropWhile_append_of_pos hd, hr, hr',
    List.append_nil]

theorem isPointed_of_isExponent (he : IsExponent exponent e) : isPointed exponent := by
  cases he with
  | absent => rfl
  | present hl _ _ => obtain rfl | rfl := hl <;> rfl

theorem isPointed_append (he : IsExponent exponent e) (hd : ∀ c ∈ ds, c.isDigit) :
    isPointed ('.' :: (ds ++ exponent)) ↔ ds ≠ [] := by
  cases ds with
  | cons d ds => simp [isPointed, hd d List.mem_cons_self]
  | nil =>
    cases he with
    | absent         => simp [isPointed]
    | present hl _ _ => obtain rfl | rfl := hl <;> simp [isPointed]

theorem isUnsigned_of_parts (hw : IsWhole whole) (hf : IsFraction fraction places)
    (he : IsExponent exponent e) : isUnsigned (whole ++ fraction ++ exponent) := by
  have hd := hw.isDigits.2
  rw [List.append_assoc]
  cases hf with
  | absent =>
    rw [List.nil_append, isUnsigned_append hd he.not_continues.1, (isWhole_iff hd).mpr hw,
      isPointed_of_isExponent he, Bool.and_self]
  | present hp =>
    rw [List.cons_append, isUnsigned_append hd rfl, (isWhole_iff hd).mpr hw,
      (isPointed_append he hp.2).mpr hp.1, Bool.and_self]

theorem exists_parts_of_isUnsigned (hm : IsMantissa mantissa digits n) (he : IsExponent exponent e)
    (hu : isUnsigned (mantissa ++ exponent)) :
    ∃ whole fraction places, mantissa = whole ++ fraction ∧ IsWhole whole ∧
      IsFraction fraction places ∧ digits = whole ++ places ∧ n = places.length := by
  cases hm with
  | whole hd =>
    rw [isUnsigned_append hd.2 he.not_continues.1, Bool.and_eq_true, isWhole_iff hd.2] at hu
    exact ⟨_, [], [], (List.append_nil _).symm, hu.1, .absent, (List.append_nil _).symm, rfl⟩
  | @pointed ds es hd =>
    have ⟨hds, hes⟩ := List.forall_mem_append.mp hd.2
    rw [List.append_assoc, List.cons_append, isUnsigned_append hds rfl, Bool.and_eq_true,
      isWhole_iff hds, isPointed_append he hes] at hu
    exact ⟨ds, _, es, rfl, hu.1, .present ⟨hu.2, hes⟩, rfl, rfl⟩

theorem IsNumber.isDecimal (h : IsNumber cs s) : IsDecimal cs s := by
  cases h with
  | @parts _ whole _ _ _ _ _ hs _ hw hf he =>
    cases hf with
    | absent =>
      have hm : IsMantissa (whole ++ []) (whole ++ []) 0 := by
        rw [List.append_nil]
        exact .whole hw.isDigits
      exact .parts hs hm he
    | present hp =>
      have hd := List.forall_mem_append.mpr ⟨hw.isDigits.2, hp.2⟩
      exact .parts hs (.pointed ⟨List.append_ne_nil_of_left_ne_nil hw.isDigits.1 _, hd⟩) he

theorem isPlain_of_isDigit (h : c.isDigit) : isPlain (c :: cs) = isUnsigned (c :: cs) := by
  rw [isPlain]
  rintro cs ⟨⟩
  contradiction

theorem IsNumber.isPlain (h : IsNumber cs s) : isPlain cs := by
  cases h with
  | @parts _ whole _ _ _ _ _ hs hn hw hf he =>
    have hu := isUnsigned_of_parts hw hf he
    cases hs with
    | plus  => contradiction
    | minus => exact hu
    | absent =>
      obtain ⟨d, ds, rfl, hd⟩ := hw.isDigits.exists_cons
      exact (isPlain_of_isDigit hd).trans hu

theorem isNumber_of_isPlain (hp : isPlain cs) (h : IsDecimal cs s) : IsNumber cs s := by
  cases h with
  | @parts sign mantissa exponent negative digits places e hs hm he =>
    have hu : sign ≠ ['+'] ∧ isUnsigned (mantissa ++ exponent) := by
      cases hs with
      | plus   => cases hp
      | minus  => exact ⟨by decide, hp⟩
      | absent =>
        refine ⟨nofun, ?_⟩
        obtain ⟨c, cs, rfl, hc | rfl⟩ := hm.exists_cons
        · exact (isPlain_of_isDigit hc).symm.trans hp
        · exact hp
    obtain ⟨whole, fraction, ds, rfl, hw, hf, rfl, rfl⟩ := exists_parts_of_isUnsigned hm he hu.2
    exact .parts hs hu.1 hw hf he

theorem isNumberPart_of_isDigit (h : c.isDigit) : isNumberPart c := by
  simp [isNumberPart, h]

theorem isNumberPart_of_isSign {sign : List Char} {negative : Bool} (h : IsSign sign negative) :
    ∀ c ∈ sign, isNumberPart c := by
  cases h <;> exact List.all_eq_true.mp rfl

theorem isNumberPart_of_isDecimal (h : IsDecimal cs s) : ∀ c ∈ cs, isNumberPart c := by
  have hd {ds : List Char} (h : ∀ c ∈ ds, c.isDigit) : ∀ c ∈ ds, isNumberPart c :=
    fun c hc => isNumberPart_of_isDigit (h c hc)
  cases h with
  | parts hs hm he =>
    rw [List.forall_mem_append, List.forall_mem_append]
    refine ⟨isNumberPart_of_isSign hs, ?_, ?_⟩
    case refine_1 =>
      cases hm with
      | whole h => exact hd h.2
      | pointed h =>
        have ⟨h, h'⟩ := List.forall_mem_append.mp h.2
        exact List.forall_mem_append.mpr ⟨hd h, List.forall_mem_cons.mpr ⟨by decide, hd h'⟩⟩
    case refine_2 =>
      cases he with
      | absent => exact nofun
      | present hl hs h =>
        have h := List.forall_mem_append.mpr ⟨isNumberPart_of_isSign hs, hd h.2⟩
        obtain rfl | rfl := hl
        · exact List.forall_mem_cons.mpr ⟨by decide, h⟩
        · exact List.forall_mem_cons.mpr ⟨by decide, h⟩

-- The text ends here or goes on with something that no number goes on with.
def Stops (rest : List Char) : Prop :=
  ∀ c ∈ rest.head?, isNumberPart c = false

theorem stops_cons (h : isNumberPart c = false) : Stops (c :: cs) :=
  fun _ hc => Option.some.inj hc ▸ h

theorem Stops.not_continues (h : Stops rest) :
    rest.takeWhile isNumberPart = [] ∧ rest.dropWhile isNumberPart = rest := by
  cases rest with
  | nil      => exact ⟨rfl, rfl⟩
  | cons c _ => simp [h c rfl]

theorem readNumber?_append (h : IsNumber cs s) (hr : Stops rest) :
    readNumber? (cs ++ rest) = some (s, rest) := by
  have hp := isNumberPart_of_isDecimal h.isDecimal
  have ⟨ht, hd⟩ := hr.not_continues
  simp only [readNumber?, List.takeWhile_append_of_pos hp, List.dropWhile_append_of_pos hp, ht, hd,
    List.append_nil, h.isPlain, Scientific.ofChars?_eq_some_iff.mpr h.isDecimal]
  rfl

theorem exists_isNumber (h : readNumber? cs = some (s, rest)) :
    ∃ ds, IsNumber ds s ∧ cs = ds ++ rest := by
  simp only [readNumber?] at h
  split at h
  case isFalse   => cases h
  case isTrue hp =>
    cases hs : Scientific.ofChars? (cs.takeWhile isNumberPart) <;> rw [hs] at h <;> cases h
    have hd := Scientific.ofChars?_eq_some_iff.mp hs
    exact ⟨_, isNumber_of_isPlain hp hd, List.takeWhile_append_dropWhile.symm⟩

end Json

end SelectLang
