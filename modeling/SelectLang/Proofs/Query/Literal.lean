import SelectLang.Proofs.Number.Scientific
import SelectLang.Proofs.Query.RoundTrip
import SelectLang.Proofs.Query.Vocabulary
import SelectLang.Query.Literal

namespace SelectLang

open Number

variable {c : Char} {cs ds : List Char} {text : String} {k : Token.Kind} {t : Token} {z : Int}

-- A number as the lexer takes it, behind a sign or not, is a decimal numeral.
theorem Lexeme.Unsigned.isSome_ofChars? (h : Unsigned cs) {negative : Bool}
    (hs : splitSign ds = (negative, cs)) : (Scientific.ofChars? ds).isSome := by
  cases h with
  | integer h    => simp [Scientific.ofChars?_digits hs h.1 h.2]
  | decimal h h' => simp [Scientific.ofChars?_decimal hs h.1 h.2 h'.2]

theorem Statement.Form.exists_value {ts : List Token} {q : Query} (h : Form ts q) {c : Condition}
    (hc : c ∈ q.conditions) : ∃ t ∈ ts, t.text = c.value := by
  cases h with
  | statement _ _ hw _ _ =>
    have ⟨_, t, ht, hv⟩ := hw.exists_value hc
    exact ⟨t, by simp [ht], hv⟩

namespace Literal

theorem ofText_eq_integer_iff {n : Int64} : ofText text = integer n ↔ readInt64? text = some n := by
  rw [ofText]
  cases readInt64? text with
  | some m => simp
  | none =>
    simp only [reduceCtorEq, iff_false]
    split
    case isTrue  => cases Binary64.ofText? text <;> simp
    case isFalse => simp

theorem exists_ofText_eq_float (hi : readInt64? text = none) (ho : opensFloat text)
    (hf : (Binary64.ofText? text).isSome) : ∃ x, ofText text = float x := by
  have ⟨x, hx⟩ := Option.isSome_iff_exists.mp hf
  exact ⟨x, by simp [ofText, hi, ho, hx]⟩

theorem opensFloat_of_number (h : Lexeme.Valid .number text.toList) :
    opensFloat text ∧ (Binary64.ofText? text).isSome := by
  generalize ht : text.toList = cs at h
  cases h with
  | number h =>
    obtain ⟨d, ds, rfl, hd⟩ := h.exists_cons
    have hs := h.isSome_ofChars? (splitSign_of_isDigit hd)
    exact ⟨by simp [opensFloat, ht, hd], Binary64.isSome_ofText? (ht ▸ hs)⟩
  | @negative cs h =>
    have hs : (Scientific.ofChars? ('-' :: cs)).isSome := h.isSome_ofChars? rfl
    exact ⟨by simp [opensFloat, ht], Binary64.isSome_ofText? (ht ▸ hs)⟩

-- A number without a point stands for an integer.
theorem exists_isInteger (h : Lexeme.Valid .number text.toList) (hp : '.' ∉ text.toList) :
    ∃ z, IsInteger text z := by
  generalize ht : text.toList = cs at h hp
  cases h with
  | number h =>
    cases h with
    | integer h   => exact ⟨_, .unsigned ⟨_, h.1, h.2, .inl ht, rfl⟩⟩
    | decimal _ _ => simp at hp
  | negative h =>
    cases h with
    | integer h   => exact ⟨_, .negative h.1 h.2 ht⟩
    | decimal _ _ => simp at hp

-- A word starts like no number does, so that the names of doubles are texts.
theorem ofText_of_opens (ht : text.toList = c :: cs) (hc : Word.opens c) :
    ofText text = .text text := by
  have hd : c.isDigit = false := by
    apply Bool.eq_false_iff.mpr
    intro hd
    simp [Word.not_opens_of_isDigit hd] at hc
  have hm : c ≠ '-' := fun h => absurd (h ▸ hc) (by decide)
  have hp : c ≠ '+' := fun h => absurd (h ▸ hc) (by decide)
  have hq : c ≠ '.' := fun h => absurd (h ▸ hc) (by decide)
  have hi : readInt64? text = none := by
    apply Option.eq_none_iff_forall_ne_some.mpr
    intro n hn
    have ⟨z, hz, _⟩ := readInt64?_eq_some_iff.mp hn
    have ⟨c', cs', ht', hc'⟩ := hz.exists_cons
    cases ht.symm.trans ht'
    simp [hd, hm, hp] at hc'
  simp [ofText, hi, opensFloat, ht, hd, hm, hq]

theorem ofText_of_mark :
    ∀ cs ∈ [['>'], ['>', '='], ['<'], ['<', '='], ['='], ['=', '='], [','], ['.'], ['('], [')'],
      ['*'], ['+'], ['-']], ofText (.ofList cs) = .text (.ofList cs) := by
  decide

theorem ofText_of_ne_number (h : Lexeme.Valid k text.toList) (hk : k ≠ .number) :
    ofText text = .text text := by
  generalize ht : text.toList = cs at h
  cases h with
  | identifier hc _ => exact ofText_of_opens ht hc
  | path hc _ _     => exact ofText_of_opens ht hc
  | number _        => contradiction
  | negative _      => contradiction
  | operator hm     =>
    rw [← String.ofList_toList (s := text), ht]
    exact ofText_of_mark cs (by simp at hm ⊢; tauto)
  | punctuation hm  =>
    rw [← String.ofList_toList (s := text), ht]
    exact ofText_of_mark _ (by simp at hm ⊢; tauto)

def IsNumeric (l : Literal) : Prop :=
  (∃ n, l = integer n) ∨ ∃ x, l = float x

-- What the lexer takes for a number and what stands for one are the same. An integer is read
-- exactly, as far as it has 64 bits, and all other numbers are floats.
structure Classifies (t : Token) (l : Literal) : Prop where
  numeric : l.IsNumeric ↔ t.kind = .number
  integer : ∀ n, l = .integer n ↔ t.kind = .number ∧ '.' ∉ t.text.toList ∧
    ∃ z, IsInteger t.text z ∧ (-2 ^ 63 ≤ z ∧ z < 2 ^ 63) ∧ n.toInt = z
  float   : (∃ x, l = .float x) ↔ t.kind = .number ∧ ('.' ∈ t.text.toList ∨
    ∃ z, IsInteger t.text z ∧ ¬(-2 ^ 63 ≤ z ∧ z < 2 ^ 63))
  text    : t.kind ≠ .number → l = .text t.text

theorem classifies_text (hk : t.kind ≠ .number) : Classifies t (.text t.text) where
  numeric := by simp [IsNumeric, hk]
  integer := by simp [hk]
  float   := by simp [hk]
  text _  := rfl

theorem classifies_integer {n : Int64} (hk : t.kind = .number) (h : readInt64? t.text = some n) :
    Classifies t (.integer n) := by
  have ⟨z, hz, hb, hn⟩ := readInt64?_eq_some_iff.mp h
  have hp := hz.point_not_mem
  constructor
  case numeric => simp [IsNumeric, hk]
  case text    => exact fun h => absurd hk h
  case integer =>
    intro m
    rw [← readInt64?_eq_some_iff, h]
    simp [hk, hp]
  case float =>
    simp only [reduceCtorEq, exists_false, false_iff]
    intro ⟨_, hf⟩
    cases hf with
    | inl hf => exact hp hf
    | inr hf =>
      have ⟨z', hz', hb'⟩ := hf
      exact hb' (hz.unique hz' ▸ hb)

theorem classifies_float {x : Binary64} (hk : t.kind = .number) (h : readInt64? t.text = none)
    (hv : Lexeme.Valid .number t.text.toList) : Classifies t (.float x) := by
  have hn (z : Int) (hz : IsInteger t.text z) : ¬(-2 ^ 63 ≤ z ∧ z < 2 ^ 63) := by
    intro hb
    have hr := readInt64?_eq_some_iff.mpr ⟨z, hz, hb, Int64.toInt_ofInt_of_le hb.1 hb.2⟩
    cases h.symm.trans hr
  constructor
  case numeric => simp [IsNumeric, hk]
  case text    => exact fun h => absurd hk h
  case integer =>
    intro m
    simp only [reduceCtorEq, false_iff]
    intro ⟨_, _, z, hz, hb, _⟩
    exact hn z hz hb
  case float =>
    simp only [float.injEq, exists_eq', true_iff]
    refine ⟨hk, ?_⟩
    by_cases hp : '.' ∈ t.text.toList
    case pos => exact .inl hp
    case neg =>
      have ⟨z, hz⟩ := exists_isInteger hv hp
      exact .inr ⟨z, hz, hn z hz⟩

theorem classifies_of_valid (h : Lexeme.Valid t.kind t.text.toList) :
    Classifies t (ofText t.text) := by
  by_cases hk : t.kind = .number
  case neg => exact ofText_of_ne_number h hk ▸ classifies_text hk
  case pos =>
    rw [hk] at h
    cases hr : readInt64? t.text with
    | some n => exact ofText_eq_integer_iff.mpr hr ▸ classifies_integer hk hr
    | none =>
      have ⟨ho, hf⟩ := opensFloat_of_number h
      have ⟨x, hx⟩ := exists_ofText_eq_float hr ho hf
      exact hx ▸ classifies_float hk hr h

-- Every token of a text, and so every value that a query compares a field with, is classified.
theorem classifies_tokens (text : String) :
    (∀ ts, tokenize text = .ok ts → ∀ t ∈ ts, Classifies t (ofText t.text)) ∧
    ∀ q, Query.ofText text = .ok q → ∀ c ∈ q.conditions, ∃ ts t, tokenize text = .ok ts ∧ t ∈ ts ∧
      t.text = c.value ∧ Classifies t c.literal := by
  have ht (ts) (h : tokenize text = .ok ts) (t) (ht : t ∈ ts) : Classifies t (ofText t.text) :=
    classifies_of_valid (valid_of_mem_tokenize h ht)
  refine ⟨ht, fun q hq c hc => ?_⟩
  have ⟨ts, h, hf⟩ := Query.ofText_eq_ok_iff.mp hq
  have ⟨t, hm, hv⟩ := hf.exists_value hc
  have hl : c.literal = ofText t.text := by rw [hv, Condition.literal]
  exact ⟨ts, t, h, hm, hv, hl ▸ ht ts h t hm⟩

theorem classifies_tokens_least :
    let text := "select * from a where b = -9223372036854775808 and c = inf"
    ∃ ts q, tokenize text = .ok ts ∧ Query.ofText text = .ok q ∧
      q.conditions.map Condition.literal = [.integer Int64.minValue, .text "inf"] ∧
      (∀ t ∈ ts, Classifies t (ofText t.text)) ∧
      ∀ c ∈ q.conditions, ∃ ts t, tokenize text = .ok ts ∧ t ∈ ts ∧ t.text = c.value ∧
        Classifies t c.literal := by
  intro text
  have hq : Query.ofText text = .ok { collection := "a", conditions := [⟨"b", .eq,
      "-9223372036854775808"⟩, ⟨"c", .eq, "inf"⟩] } := by
    decide +kernel
  have ⟨ts, h, _⟩ := Query.ofText_eq_ok_iff.mp hq
  have ⟨ht, hc⟩ := classifies_tokens text
  exact ⟨ts, _, h, hq, by decide +kernel, ht ts h, hc _ hq⟩

-- A number that is one too great, and zeros in front of one that is not.
example : (ofText "9223372036854775808").IsNumeric ∧ ofText "-00" = .integer 0 :=
  ⟨.inr ⟨⟨0x43e0000000000000⟩, by decide +kernel⟩, by decide⟩

end Literal

end SelectLang
