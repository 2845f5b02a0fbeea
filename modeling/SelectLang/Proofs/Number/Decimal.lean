import SelectLang.Proofs.Number.Scientific
import SelectLang.Proofs.Token.Longest

namespace SelectLang.Number

open Lexeme (IsDigits)

-- A sign or none, and whether it is a minus.
inductive IsSign : List Char → Bool → Prop
  | absent : IsSign [] false
  | plus   : IsSign ['+'] false
  | minus  : IsSign ['-'] true

-- Digits with at most one point before, between or behind them, with the number of places
-- behind the point.
inductive IsMantissa : List Char → List Char → Nat → Prop
  | whole {ds} (digits : IsDigits ds) : IsMantissa ds ds 0
  | pointed {ds es} (digits : IsDigits (ds ++ es)) :
    IsMantissa (ds ++ '.' :: es) (ds ++ es) es.length

inductive IsExponent : List Char → Int → Prop
  | absent : IsExponent [] 0
  | present {e sign negative ds} (letter : e = 'e' ∨ e = 'E') (signed : IsSign sign negative)
    (digits : IsDigits ds) :
    IsExponent (e :: (sign ++ ds)) (if negative then -valueOf ds else valueOf ds)

-- A decimal numeral, and the number that it stands for.
inductive IsDecimal : List Char → Scientific → Prop
  | parts {sign mantissa exponent negative digits places e} (signed : IsSign sign negative)
    (significant : IsMantissa mantissa digits places) (scaled : IsExponent exponent e) :
    IsDecimal (sign ++ (mantissa ++ exponent)) ⟨negative, valueOf digits, e - places⟩

variable {c : Char} {cs ds sign mantissa exponent digits fraction rest : List Char}
variable {negative : Bool}
variable {places : Nat} {e : Int} {s : Scientific}

theorem exists_isSign (hs : splitSign cs = (negative, ds)) :
    ∃ sign, IsSign sign negative ∧ cs = sign ++ ds := by
  simp only [splitSign] at hs
  split at hs <;> cases hs
  case h_1 => exact ⟨_, .minus, rfl⟩
  case h_2 => exact ⟨_, .plus, rfl⟩
  case h_3 => exact ⟨_, .absent, rfl⟩

theorem IsSign.splitSign_append (h : IsSign sign negative) (hm : c ≠ '-') (hp : c ≠ '+') :
    splitSign (sign ++ c :: cs) = (negative, c :: cs) := by
  cases h with
  | absent => simp [splitSign, hm, hp]
  | plus   => rfl
  | minus  => rfl

theorem ne_sign_of_isDigit (h : c.isDigit) : c ≠ '-' ∧ c ≠ '+' :=
  ⟨fun hc => absurd (hc ▸ h) (by decide), fun hc => absurd (hc ▸ h) (by decide)⟩

theorem readExponent?_eq_some_iff : readExponent? cs = some e ↔ IsExponent cs e := by
  constructor
  case mp =>
    intro h
    cases cs with
    | nil =>
      cases h
      exact .absent
    | cons c cs =>
      cases hs : splitSign cs with
      | mk negative ds =>
        simp only [readExponent?, hs, List.all_eq_true] at h
        split at h
        case isFalse => cases h
        case isTrue hc =>
          cases h
          obtain ⟨sign, hg, rfl⟩ := exists_isSign hs
          exact .present hc.1 hg hc.2
  case mpr =>
    intro h
    cases h with
    | absent => rfl
    | present hl hs hd =>
      obtain ⟨d, ds, rfl, hc⟩ := hd.exists_cons
      obtain ⟨hm, hp⟩ := ne_sign_of_isDigit hc
      simp only [readExponent?, hs.splitSign_append hm hp, List.all_eq_true]
      exact if_pos ⟨hl, hd⟩

-- No exponent goes on with the digits in front of it.
theorem IsExponent.not_continues (h : IsExponent exponent e) :
    exponent.takeWhile Char.isDigit = [] ∧ exponent.dropWhile Char.isDigit = exponent ∧
      splitFraction exponent = ([], exponent) := by
  cases h with
  | absent => exact ⟨rfl, rfl, rfl⟩
  | present hl _ _ => obtain rfl | rfl := hl <;> exact ⟨rfl, rfl, rfl⟩

theorem IsMantissa.exists_cons (h : IsMantissa mantissa digits places) :
    ∃ c cs, mantissa = c :: cs ∧ (c.isDigit ∨ c = '.') := by
  cases h with
  | whole hd =>
    obtain ⟨d, ds, rfl, hc⟩ := hd.exists_cons
    exact ⟨d, ds, rfl, .inl hc⟩
  | @pointed ds es hd =>
    cases ds with
    | nil      => exact ⟨_, _, rfl, .inr rfl⟩
    | cons d _ => exact ⟨_, _, rfl, .inl (hd.2 d List.mem_cons_self)⟩

theorem IsMantissa.digits_ne_nil (h : IsMantissa mantissa digits places) : digits ≠ [] := by
  cases h with
  | whole hd   => exact hd.1
  | pointed hd => exact hd.1

theorem IsMantissa.exists_split (h : IsMantissa mantissa digits places)
    (he : IsExponent exponent e) :
    ∃ whole fraction, (mantissa ++ exponent).takeWhile Char.isDigit = whole ∧
      splitFraction ((mantissa ++ exponent).dropWhile Char.isDigit) = (fraction, exponent) ∧
      digits = whole ++ fraction ∧ places = fraction.length := by
  have ⟨ht, hd, hf⟩ := he.not_continues
  cases h with
  | whole h =>
    refine ⟨mantissa, [], ?_, ?_, (List.append_nil _).symm, rfl⟩
    case refine_1 => rw [h.takeWhile_append, ht, List.append_nil]
    case refine_2 => rw [h.dropWhile_append, hd, hf]
  | @pointed ds es h =>
    have ⟨hds, hes⟩ := List.forall_mem_append.mp h.2
    refine ⟨ds, es, ?_, ?_, rfl, rfl⟩
    case refine_1 =>
      rw [List.append_assoc, List.takeWhile_append_of_pos hds]
      simp
    case refine_2 =>
      rw [List.append_assoc, List.dropWhile_append_of_pos hds]
      simp [splitFraction, List.takeWhile_append_of_pos hes, List.dropWhile_append_of_pos hes, ht,
        hd]

-- What is split off has the parts of a numeral, if there is any digit at all.
theorem exists_isMantissa (hf : splitFraction (cs.dropWhile Char.isDigit) = (fraction, rest))
    (hn : cs.takeWhile Char.isDigit ++ fraction ≠ []) :
    ∃ mantissa, IsMantissa mantissa (cs.takeWhile Char.isDigit ++ fraction) fraction.length ∧
      cs = mantissa ++ rest := by
  have hc := List.takeWhile_append_dropWhile (p := Char.isDigit) (l := cs)
  have hd : ∀ c ∈ cs.takeWhile Char.isDigit, c.isDigit := fun _ => List.mem_takeWhile_imp
  generalize cs.takeWhile Char.isDigit = whole at *
  generalize cs.dropWhile Char.isDigit = behind at *
  fun_cases splitFraction behind with
  | case1 ds =>
    cases hf
    have hd' : ∀ c ∈ ds.takeWhile Char.isDigit, c.isDigit := fun _ => List.mem_takeWhile_imp
    refine ⟨_, .pointed ⟨hn, List.forall_mem_append.mpr ⟨hd, hd'⟩⟩, ?_⟩
    rw [List.append_assoc, List.cons_append, List.takeWhile_append_dropWhile, hc]
  | case2 =>
    simp only [splitFraction] at hf
    cases hf
    rw [List.append_nil] at hn ⊢
    exact ⟨whole, .whole ⟨hn, hd⟩, hc.symm⟩

namespace Scientific

theorem ofChars?_eq_some (hs : splitSign cs = (negative, ds))
    (hf : splitFraction (ds.dropWhile Char.isDigit) = (fraction, rest)) :
    ofChars? cs = some s ↔ ds.takeWhile Char.isDigit ++ fraction ≠ [] ∧
      ∃ e, readExponent? rest = some e ∧
        s = ⟨negative, valueOf (ds.takeWhile Char.isDigit ++ fraction), e - fraction.length⟩ := by
  simp only [ofChars?, hs, hf]
  split
  case isTrue hn => simp [hn]
  case isFalse hn =>
    simp only [List.append_eq_nil_iff, ne_eq, hn, not_false_eq_true, true_and]
    cases readExponent? rest <;> simp [eq_comm]

theorem ofChars?_eq_some_iff : ofChars? cs = some s ↔ IsDecimal cs s := by
  constructor
  case mp =>
    intro h
    cases hs : splitSign cs with
    | mk negative ds =>
      cases hf : splitFraction (ds.dropWhile Char.isDigit) with
      | mk fraction rest =>
        obtain ⟨hn, e, he, rfl⟩ := (ofChars?_eq_some hs hf).mp h
        obtain ⟨sign, hg, rfl⟩ := exists_isSign hs
        obtain ⟨mantissa, hm, hd⟩ := exists_isMantissa hf hn
        have h := IsDecimal.parts hg hm (readExponent?_eq_some_iff.mp he)
        rwa [← hd] at h
  case mpr =>
    intro h
    cases h with
    | @parts sign mantissa exponent negative digits places e hs hm he =>
      obtain ⟨_, fraction, rfl, hf, hd, rfl⟩ := hm.exists_split he
      obtain ⟨c, cs, rfl, hc⟩ := hm.exists_cons
      have ⟨hc, hc'⟩ : c ≠ '-' ∧ c ≠ '+' := by
        obtain hc | rfl := hc
        · exact ne_sign_of_isDigit hc
        · decide
      refine (ofChars?_eq_some (hs.splitSign_append hc hc') hf).mpr ⟨?_, e, ?_, ?_⟩
      case refine_1 => exact hd ▸ hm.digits_ne_nil
      case refine_2 => exact readExponent?_eq_some_iff.mpr he
      case refine_3 =>
        rw [hd]
        rfl

end Scientific

end SelectLang.Number
