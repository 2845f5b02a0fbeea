import SelectLang.Proofs.Number.Decimal
import SelectLang.Proofs.Query.Literal

namespace SelectLang

open Number

variable {c : Char} {cs name : List Char} {text : String} {s : Scientific} {z : Int}

theorem toLower_of_isDigit (h : c.isDigit) : c.toLower = c := by
  have ⟨_, h⟩ := Char.isDigit_iff_toNat.mp h
  refine dif_neg fun ⟨hc, _⟩ => ?_
  have hc : 'A'.toNat ≤ c.toNat := UInt32.le_iff_toNat_le.mp hc
  exact absurd (hc.trans h) (by decide)

-- A text that is a decimal numeral as a whole.
def Number.IsDecimalText (text : String) : Prop :=
  ∃ s, IsDecimal text.toList s

instance : Decidable (IsDecimalText text) :=
  decidable_of_iff (Scientific.ofChars? text.toList).isSome <| by
    simp only [Option.isSome_iff_exists, Scientific.ofChars?_eq_some_iff, IsDecimalText]

namespace Binary64

def names : List String :=
  ["inf", "infinity", "nan"]

-- The name of a double that is not finite, in any letter case.
def IsName (name : List Char) : Prop :=
  String.ofList (name.map Char.toLower) ∈ names

instance : Decidable (IsName name) :=
  inferInstanceAs (Decidable (_ ∈ names))

theorem isSome_ofName?_iff {name : String} : (ofName? name).isSome ↔ name ∈ names := by
  simp only [ofName?, names, List.mem_cons, List.not_mem_nil, or_false, ← or_assoc]
  split
  case isTrue h => simp [h]
  case isFalse h =>
    split
    case isTrue h'  => simp [h']
    case isFalse h' => simp [h, h']

-- No numeral and no name of a double start alike.
theorem IsName.not_opens (h : IsName (c :: cs)) : ¬(c.isDigit ∨ c = '.') := by
  intro hc
  have hl : c.toLower = c := by
    obtain hc | rfl := hc
    · exact toLower_of_isDigit hc
    · rfl
  have hn : ∀ name ∈ names, name.toList.head?.all fun d => !(d.isDigit || d == '.') := by decide
  have hn : c.isDigit = false ∧ c ≠ '.' := by simpa [hl] using hn _ h
  exact hc.elim (by simp [hn.1]) hn.2

theorem isSome_ofText?_iff {negative : Bool} (hs : splitSign text.toList = (negative, name)) :
    (ofText? text).isSome ↔ IsName name ∨ IsDecimalText text := by
  rw [IsName, ← isSome_ofName?_iff]
  simp only [ofText?, hs, IsDecimalText, ← Scientific.ofChars?_eq_some_iff,
    ← Option.isSome_iff_exists]
  cases ofName? (String.ofList (name.map Char.toLower)) <;> simp

end Binary64

namespace Number

theorem IsDecimal.exists_cons (h : IsDecimal cs s) :
    ∃ d ds, cs = d :: ds ∧ (d = '+' ∨ (d.isDigit ∨ d = '-' ∨ d = '.')) := by
  cases h with
  | parts hs hm _ =>
    obtain ⟨c, cs, rfl, hc⟩ := hm.exists_cons
    cases hs with
    | absent => exact ⟨_, _, rfl, .inr (hc.imp_right .inr)⟩
    | plus   => exact ⟨_, _, rfl, .inl rfl⟩
    | minus  => exact ⟨_, _, rfl, .inr (.inr (.inl rfl))⟩

theorem IsDecimal.not_isName (h : IsDecimal ('-' :: name) s) : ¬Binary64.IsName name := by
  intro hn
  generalize ht : '-' :: name = cs at h
  cases h with
  | parts hs hm _ =>
    obtain ⟨c, cs, rfl, hc⟩ := hm.exists_cons
    cases hs with
    | plus   => cases ht
    | absent =>
      cases ht
      exact absurd hc (by decide)
    | minus =>
      cases ht
      exact hn.not_opens hc

theorem IsInteger.isDecimalText (h : IsInteger text z) : IsDecimalText text := by
  cases h with
  | negative hn hd ht =>
    have h := IsDecimal.parts .minus (.whole ⟨hn, hd⟩) .absent
    exact ⟨_, by simpa [ht] using h⟩
  | unsigned h =>
    have ⟨ds, hn, hd, ht, _⟩ := h
    cases ht with
    | inl ht =>
      have h := IsDecimal.parts .absent (.whole ⟨hn, hd⟩) .absent
      exact ⟨_, by simpa [ht] using h⟩
    | inr ht =>
      have h := IsDecimal.parts .plus (.whole ⟨hn, hd⟩) .absent
      exact ⟨_, by simpa [ht] using h⟩

end Number

namespace Literal

theorem opensFloat_iff : opensFloat text ↔
    ∃ c cs, text.toList = c :: cs ∧ (c.isDigit ∨ c = '-' ∨ c = '.') := by
  cases h : text.toList <;> simp [opensFloat, h, or_assoc]

-- Why a text is numeric or not, gate by gate.
theorem isNumeric_iff_gates : (ofText text).IsNumeric ↔
    (∃ n, readInt64? text = some n) ∨ opensFloat text ∧ (Binary64.ofText? text).isSome := by
  rw [ofText]
  cases hi : readInt64? text with
  | some n => simp [IsNumeric]
  | none =>
    by_cases ho : opensFloat text
    case neg => simp [IsNumeric, ho]
    case pos => cases Binary64.ofText? text <;> simp [IsNumeric, ho]

theorem ofText_of_not_isNumeric (h : ¬(ofText text).IsNumeric) : ofText text = .text text := by
  cases hl : ofText text with
  | integer n => exact absurd (.inl ⟨n, hl⟩) h
  | float x   => exact absurd (.inr ⟨x, hl⟩) h
  | text t    =>
    rw [ofText] at hl
    cases hi : readInt64? text with
    | some n => simp [hi] at hl
    | none =>
      by_cases ho : opensFloat text
      case neg => simpa [hi, ho] using hl.symm
      case pos =>
        cases hf : Binary64.ofText? text <;> simp [hi, ho, hf] at hl
        exact hl ▸ rfl

-- A decimal numeral with a plus sign that is no integer of 64 bits.
def IsOverlooked (text : String) : Prop :=
  IsDecimalText text ∧ text.toList.head? = some '+' ∧
    ∀ z, IsInteger text z → ¬(-2 ^ 63 ≤ z ∧ z < 2 ^ 63)

-- The name of a double with a minus sign.
def IsNegatedName (text : String) : Prop :=
  ∃ name, text.toList = '-' :: name ∧ Binary64.IsName name

theorem exists_readInt64?_iff :
    (∃ n, readInt64? text = some n) ↔ ∃ z, IsInteger text z ∧ -2 ^ 63 ≤ z ∧ z < 2 ^ 63 := by
  simp only [readInt64?_eq_some_iff]
  constructor
  case mp  => exact fun ⟨n, z, hz, hb, _⟩ => ⟨z, hz, hb⟩
  case mpr => exact fun ⟨z, hz, hb⟩ => ⟨.ofInt z, z, hz, hb, Int64.toInt_ofInt_of_le hb.1 hb.2⟩

theorem opensFloat_iff_of_isDecimalText (h : IsDecimalText text) :
    opensFloat text ↔ text.toList.head? ≠ some '+' := by
  have ⟨s, h⟩ := h
  have ⟨c, cs, ht, hc⟩ := h.exists_cons
  rw [opensFloat_iff, ht, List.head?_cons]
  obtain rfl | hc := hc
  · simp
  · have hp : c ≠ '+' := fun hp => absurd (hp ▸ hc) (by decide)
    simp [hc, hp]

theorem isNegatedName_iff :
    IsNegatedName text ↔ opensFloat text ∧ Binary64.IsName (splitSign text.toList).2 := by
  constructor
  case mp =>
    intro ⟨name, ht, hn⟩
    rw [opensFloat_iff, ht]
    exact ⟨⟨_, _, rfl, by simp⟩, hn⟩
  case mpr =>
    intro ⟨ho, hn⟩
    have ⟨c, cs, ht, hc⟩ := opensFloat_iff.mp ho
    rw [ht] at hn
    obtain hc | rfl | rfl := hc
    · rw [splitSign_of_isDigit hc] at hn
      exact absurd (.inl hc) hn.not_opens
    · exact ⟨cs, ht, hn⟩
    · have hn : Binary64.IsName ('.' :: cs) := hn
      exact absurd (.inr rfl) hn.not_opens

-- What passes the gates is a decimal numeral that is not overlooked, or the name of a double that
-- has slipped in.
theorem isNumeric_iff : (ofText text).IsNumeric ↔
    (IsDecimalText text ∧ ¬IsOverlooked text) ∨ IsNegatedName text := by
  have hi : (∃ n, readInt64? text = some n) → IsDecimalText text := by
    intro ⟨n, hn⟩
    have ⟨z, hz, _⟩ := readInt64?_eq_some_iff.mp hn
    exact hz.isDecimalText
  have ho : IsDecimalText text → (opensFloat text ↔ text.toList.head? ≠ some '+') :=
    opensFloat_iff_of_isDecimalText
  have hl : IsOverlooked text ↔ IsDecimalText text ∧ text.toList.head? = some '+' ∧
      ¬∃ n, readInt64? text = some n := by
    simp only [IsOverlooked, exists_readInt64?_iff, not_exists, not_and]
  rw [isNumeric_iff_gates, Binary64.isSome_ofText?_iff rfl, isNegatedName_iff, hl]
  constructor
  case mp =>
    rintro (hr | ⟨hf, hn | hd⟩)
    · exact .inl ⟨hi hr, fun ho => ho.2.2 hr⟩
    · exact .inr ⟨hf, hn⟩
    · exact .inl ⟨hd, fun hl => (ho hd).mp hf hl.2.1⟩
  case mpr =>
    rintro (⟨hd, hn⟩ | ⟨hf, hn⟩)
    · by_cases hp : text.toList.head? = some '+'
      case pos => exact .inl (by_contra fun hr => hn ⟨hd, hp, hr⟩)
      case neg => exact .inr ⟨(ho hd).mpr hp, .inr hd⟩
    · exact .inr ⟨hf, .inl hn⟩

-- A numeral is numeric unless it is overlooked, and all else is text unless it is the name of a
-- double with a minus sign.
theorem isNumeric_ofText_iff (text : String) :
    ((ofText text).IsNumeric ↔
      (IsDecimalText text ∧ ¬IsOverlooked text) ∨ IsNegatedName text) ∧
    (¬(ofText text).IsNumeric → ofText text = .text text) ∧
    (((ofText text).IsNumeric ↔ IsDecimalText text) ↔
      ¬IsOverlooked text ∧ ¬IsNegatedName text) := by
  refine ⟨isNumeric_iff, ofText_of_not_isNumeric, ?_⟩
  have ho : IsOverlooked text → IsDecimalText text := fun h => h.1
  have hn : IsNegatedName text → ¬IsDecimalText text := by
    intro ⟨name, ht, hn⟩ ⟨s, hs⟩
    exact (ht ▸ hs).not_isName hn
  rw [isNumeric_iff]
  tauto

-- A minus sign lets the name of a double pass, and a plus sign hides a numeral.
theorem not_forall_isNumeric_iff :
    (¬∀ text, ((ofText text).IsNumeric ↔ IsDecimalText text) ∧
      (¬IsDecimalText text → ofText text = .text text)) ∧
    IsNegatedName "-inf" ∧ ofText "-inf" = .float (.infinity true) ∧
    IsDecimalText "+5.5" ∧ ofText "+5.5" = .text "+5.5" := by
  have hf : ofText "-inf" = .float (.infinity true) := by decide +kernel
  refine ⟨fun h => ?_, ⟨"inf".toList, by decide, by decide⟩, hf, by decide, by decide⟩
  have ht := (h "-inf").2 (by decide)
  cases hf.symm.trans ht

end Literal

end SelectLang
