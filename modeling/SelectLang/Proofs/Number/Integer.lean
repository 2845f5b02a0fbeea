import Mathlib.Algebra.Group.Int.Defs
import Mathlib.Algebra.Group.Nat.Defs
import SelectLang.Number.Integer

namespace SelectLang.Number

-- A row of decimal digits, with a plus sign in front of it or without, and the number that
-- it stands for.
def IsNumeral (text : String) (n : Nat) : Prop :=
  ∃ digits : List Char, digits ≠ [] ∧ (∀ c ∈ digits, c.isDigit) ∧
    (text.toList = digits ∨ text.toList = '+' :: digits) ∧ n = valueOf digits

variable {bound m n : Nat} {cs : List Char}

theorem le_foldl_digits (n : Nat) (cs : List Char) :
    n ≤ cs.foldl (fun n c => 10 * n + digitValue c) n := by
  induction cs generalizing n with
  | nil => exact Nat.le_refl n
  | cons c cs ih =>
    have := ih (10 * n + digitValue c)
    simp only [List.foldl_cons]
    omega

-- Values only grow, so that a numeral leads to the bound if one of its beginnings does.
theorem readDigits_eq_ok_iff :
    readDigits bound m cs = .ok n ↔
      (∀ c ∈ cs, c.isDigit) ∧ n = cs.foldl (fun n c => 10 * n + digitValue c) m ∧
        (cs ≠ [] → n < bound) := by
  induction cs generalizing m with
  | nil =>
    simp only [readDigits, Except.ok.injEq, List.foldl_nil]
    grind
  | cons c cs ih =>
    have hm := le_foldl_digits (10 * m + digitValue c) cs
    simp only [readDigits]
    split
    case isTrue hc => simp_all
    case isFalse hc =>
      simp only [Bool.not_eq_true', Bool.not_eq_false] at hc
      split
      case isTrue hb =>
        simp only [List.forall_mem_cons, List.foldl_cons]
        grind
      case isFalse hb =>
        rw [ih]
        simp only [List.forall_mem_cons, List.foldl_cons]
        grind

theorem readDigits_zero_eq_ok_iff (h : cs ≠ []) :
    readDigits bound 0 cs = .ok n ↔ (∀ c ∈ cs, c.isDigit) ∧ n = valueOf cs ∧ n < bound := by
  rw [readDigits_eq_ok_iff, valueOf, imp_iff_right h]

theorem readNatural_eq_ok_iff {text : String} :
    readNatural bound text = .ok n ↔ IsNumeral text n ∧ n < bound := by
  rw [readNatural]
  split
  case h_1 ht =>
    simp only [reduceCtorEq, false_iff, IsNumeral, ht]
    grind
  case h_2 c cs ht =>
    rw [readDigits_zero_eq_ok_iff (by simp)]
    constructor
    case mp => exact fun ⟨hd, hn, hb⟩ => ⟨⟨c :: cs, by simp, hd, .inr ht, hn⟩, hb⟩
    case mpr =>
      rintro ⟨⟨ds, -, hd, he | he, hn⟩, hb⟩
      · -- A plus sign is no digit.
        have := hd '+' (he ▸ ht ▸ List.mem_cons_self)
        contradiction
      · cases he.symm.trans ht
        exact ⟨hd, hn, hb⟩
  case h_3 hn hp =>
    rw [readDigits_zero_eq_ok_iff hn]
    constructor
    case mp => exact fun ⟨hd, hm, hb⟩ => ⟨⟨_, hn, hd, .inl rfl, hm⟩, hb⟩
    case mpr =>
      rintro ⟨⟨ds, hne, hd, he | he, hm⟩, hb⟩
      · exact he ▸ ⟨hd, hm, hb⟩
      · obtain ⟨c, cs, rfl⟩ := List.exists_cons_of_ne_nil hne
        exact absurd he (hp c cs)

theorem readUInt64_eq_ok_iff {text : String} {n : UInt64} :
    readUInt64 text = .ok n ↔ ∃ m, IsNumeral text m ∧ m < 2 ^ 64 ∧ n = .ofNat m := by
  have hb : 1 <<< 64 = 2 ^ 64 := by decide
  simp only [← and_assoc, ← readNatural_eq_ok_iff, readUInt64, hb]
  cases readNatural (2 ^ 64) text with
  | error e => simp [Except.map]
  | ok m    => simp [Except.map, eq_comm]

theorem isNumeral_toString (n : Nat) : IsNumeral (toString n) n := by
  refine ⟨Nat.toDigits 10 n, Nat.toDigits_ne_nil, fun c hc => ?_, .inl Nat.toList_repr, ?_⟩
  · exact Nat.isDigit_of_mem_toDigits (by decide) (by decide) hc
  · exact (Nat.ofDigitChars_ten_toDigits.symm.trans Nat.ofDigitChars_eq_foldl)

-- A numeral, or a row of decimal digits with a minus sign in front of it, and the number that it
-- stands for.
inductive IsInteger (text : String) : Int → Prop
  | unsigned {n : Nat} (numeral : IsNumeral text n) : IsInteger text n
  | negative {ds} (nonempty : ds ≠ []) (digits : ∀ c ∈ ds, c.isDigit)
    (text_eq : text.toList = '-' :: ds) : IsInteger text (-valueOf ds)

section

variable {text : String} {ds : List Char} {i : Int64} {z : Int}

theorem eq_ofInt_iff (hm : -2 ^ 63 ≤ z ∧ z < 2 ^ 63) : i = .ofInt z ↔ i.toInt = z := by
  constructor
  case mp  => exact fun h => h ▸ Int64.toInt_ofInt_of_le hm.1 hm.2
  case mpr => exact fun h => h ▸ (Int64.ofInt_toInt i).symm

theorem map_toOption_eq_some_iff {x : Except Refusal Nat} {f : Int → Int64} :
    (x.toOption.bind fun k => some (k : Int)).map f = some i ↔ ∃ k : Nat, x = .ok k ∧ i = f k := by
  cases x <;> simp [Except.toOption, eq_comm]

theorem readInt64?_of_minus (ht : text.toList = '-' :: ds) (hd : ds ≠ []) :
    readInt64? text = some i ↔
      (∀ c ∈ ds, c.isDigit) ∧ valueOf ds < 2 ^ 63 + 1 ∧ i = .ofInt (-valueOf ds) := by
  obtain ⟨c, cs, rfl⟩ := List.exists_cons_of_ne_nil hd
  have hb : 1 <<< 63 + 1 = 2 ^ 63 + 1 := by decide
  rw [readInt64?, ht, hb]
  refine map_toOption_eq_some_iff.trans ?_
  simp only [readDigits_zero_eq_ok_iff hd]
  constructor
  case mp =>
    intro ⟨k, ⟨hc, hk, hl⟩, hn⟩
    exact ⟨hc, hk ▸ hl, hk ▸ hn⟩
  case mpr => exact fun ⟨hc, hl, hn⟩ => ⟨_, ⟨hc, rfl, hl⟩, hn⟩

theorem readInt64?_of_not_minus (hm : ∀ c cs, text.toList ≠ '-' :: c :: cs) :
    readInt64? text = some i ↔ ∃ k : Nat, (IsNumeral text k ∧ k < 2 ^ 63) ∧ i = .ofInt k := by
  have hb : 1 <<< 63 = 2 ^ 63 := by decide
  rw [readInt64?]
  split
  case h_1 c cs ht => exact absurd ht (hm c cs)
  case h_2 =>
    rw [hb]
    refine map_toOption_eq_some_iff.trans ?_
    simp only [readNatural_eq_ok_iff]

theorem IsNumeral.ne_minus {k : Nat} (h : IsNumeral text k) : text.toList ≠ '-' :: ds := by
  intro hm
  have ⟨_, _, hd, ht, _⟩ := h
  cases ht with
  | inr ht => cases hm.symm.trans ht
  | inl ht =>
    have := hd '-' (ht ▸ hm ▸ List.mem_cons_self)
    contradiction

theorem IsNumeral.unique {k k' : Nat} (h : IsNumeral text k) (h' : IsNumeral text k') : k = k' := by
  have ⟨ds, _, hd, ht, hk⟩ := h
  have ⟨ds', _, hd', ht', hk'⟩ := h'
  -- A plus sign is no digit.
  have hp {cs cs' : List Char} (hc : ∀ c ∈ cs, c.isDigit) : cs ≠ '+' :: cs' :=
    fun h => absurd (hc '+' (h ▸ List.mem_cons_self)) (by decide)
  cases ht with
  | inl ht =>
    cases ht' with
    | inl ht' => rw [hk, hk', ← ht, ← ht']
    | inr ht' => exact absurd (ht.symm.trans ht') (hp hd)
  | inr ht =>
    cases ht' with
    | inl ht' => exact absurd (ht'.symm.trans ht) (hp hd')
    | inr ht' =>
      cases ht.symm.trans ht'
      rw [hk, hk']

theorem readInt64?_eq_some_iff :
    readInt64? text = some i ↔
      ∃ z, IsInteger text z ∧ (-2 ^ 63 ≤ z ∧ z < 2 ^ 63) ∧ i.toInt = z := by
  constructor
  case mp =>
    intro h
    by_cases hm : ∃ c cs, text.toList = '-' :: c :: cs
    case pos =>
      have ⟨c, cs, ht⟩ := hm
      have ⟨hd, hb, hn⟩ := (readInt64?_of_minus ht (List.cons_ne_nil c cs)).mp h
      have hb : -2 ^ 63 ≤ -(valueOf (c :: cs) : Int) ∧ -(valueOf (c :: cs) : Int) < 2 ^ 63 := by
        omega
      exact ⟨_, .negative (List.cons_ne_nil c cs) hd ht, hb, (eq_ofInt_iff hb).mp hn⟩
    case neg =>
      have ⟨k, ⟨hk, hb⟩, hn⟩ := (readInt64?_of_not_minus fun c cs ht => hm ⟨c, cs, ht⟩).mp h
      have hb : -2 ^ 63 ≤ (k : Int) ∧ (k : Int) < 2 ^ 63 := by omega
      exact ⟨k, .unsigned hk, hb, (eq_ofInt_iff hb).mp hn⟩
  case mpr =>
    intro ⟨z, hm, hb, hn⟩
    have hn := (eq_ofInt_iff hb).mpr hn
    cases hm with
    | negative hd hc ht => exact (readInt64?_of_minus ht hd).mpr ⟨hc, by omega, hn⟩
    | unsigned hk =>
      exact (readInt64?_of_not_minus fun _ _ => hk.ne_minus).mpr ⟨_, ⟨hk, by omega⟩, hn⟩

end

namespace IsInteger

variable {text : String} {z z' : Int}

-- An integer starts with a digit, or with a sign and something behind it.
theorem exists_cons (h : IsInteger text z) :
    ∃ c cs, text.toList = c :: cs ∧ (c.isDigit ∨ (c = '+' ∨ c = '-') ∧ cs ≠ []) := by
  cases h with
  | negative hn _ ht => exact ⟨_, _, ht, .inr ⟨.inr rfl, hn⟩⟩
  | unsigned h =>
    have ⟨ds, hn, hd, ht, _⟩ := h
    cases ht with
    | inr ht => exact ⟨_, _, ht, .inr ⟨.inl rfl, hn⟩⟩
    | inl ht =>
      obtain ⟨c, cs, rfl⟩ := List.exists_cons_of_ne_nil hn
      exact ⟨c, cs, ht, .inl (hd c List.mem_cons_self)⟩

theorem point_not_mem (h : IsInteger text z) : '.' ∉ text.toList := by
  have hp {ds : List Char} (hd : ∀ c ∈ ds, c.isDigit) : '.' ∉ ds :=
    fun hm => absurd (hd '.' hm) (by decide)
  cases h with
  | negative _ hd ht => simp [ht, hp hd]
  | unsigned h =>
    have ⟨ds, _, hd, ht, _⟩ := h
    cases ht with
    | inl ht => simp [ht, hp hd]
    | inr ht => simp [ht, hp hd]

theorem unique (h : IsInteger text z) (h' : IsInteger text z') : z = z' := by
  cases h with
  | unsigned h =>
    cases h' with
    | unsigned h'      => rw [h.unique h']
    | negative _ _ ht' => exact absurd ht' h.ne_minus
  | negative _ _ ht =>
    cases h' with
    | unsigned h'      => exact absurd ht h'.ne_minus
    | negative _ _ ht' =>
      cases ht.symm.trans ht'
      rfl

end IsInteger

end SelectLang.Number
