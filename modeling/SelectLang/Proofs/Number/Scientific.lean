import Mathlib.Data.List.TakeWhile
import SelectLang.Number.Binary64
import SelectLang.Proofs.Number.Integer

namespace SelectLang

namespace Number

variable {cs ds es : List Char} {negative : Bool}

theorem splitSign_of_isDigit {c : Char} (h : c.isDigit) :
    splitSign (c :: cs) = (false, c :: cs) := by
  have hm : c ≠ '-' := fun hc => absurd (hc ▸ h) (by decide)
  have hp : c ≠ '+' := fun hc => absurd (hc ▸ h) (by decide)
  simp [splitSign, hm, hp]

namespace Scientific

-- What stands for a number without a point in it.
theorem ofChars?_digits (hs : splitSign cs = (negative, ds)) (hn : ds ≠ [])
    (hd : ∀ c ∈ ds, c.isDigit) : ofChars? cs = some ⟨negative, valueOf ds, 0⟩ := by
  have ht : ds.takeWhile Char.isDigit = ds := List.takeWhile_eq_self_iff.mpr hd
  have hr : ds.dropWhile Char.isDigit = [] := List.dropWhile_eq_nil_iff.mpr hd
  simp [ofChars?, hs, ht, hr, hn, splitFraction, readExponent?]

-- What stands for a number with digits on both sides of the point.
theorem ofChars?_decimal (hs : splitSign cs = (negative, ds ++ '.' :: es)) (hn : ds ≠ [])
    (hd : ∀ c ∈ ds, c.isDigit) (he : ∀ c ∈ es, c.isDigit) :
    ofChars? cs = some ⟨negative, valueOf (ds ++ es), -es.length⟩ := by
  have ht : (ds ++ '.' :: es).takeWhile Char.isDigit = ds := by
    rw [List.takeWhile_append_of_pos hd]
    simp
  have hr : (ds ++ '.' :: es).dropWhile Char.isDigit = '.' :: es := by
    rw [List.dropWhile_append_of_pos hd]
    simp
  have ht' : es.takeWhile Char.isDigit = es := List.takeWhile_eq_self_iff.mpr he
  have hr' : es.dropWhile Char.isDigit = [] := List.dropWhile_eq_nil_iff.mpr he
  simp [ofChars?, hs, ht, hr, ht', hr', hn, splitFraction, readExponent?]

end Scientific

end Number

namespace Binary64

open Number

theorem isSome_ofText? {text : String} (h : (Scientific.ofChars? text.toList).isSome) :
    (ofText? text).isSome := by
  simp only [ofText?]
  split
  case h_1 => rfl
  case h_2 => simpa using h

end Binary64

end SelectLang
