import SelectLang.Proofs.Json.Grammar

namespace SelectLang.Json

variable {c : Char} {cs cs' rest text : List Char} {m n : Nat}

def readUnit? : List Char → Option (Nat × List Char)
  | '\\' :: 'u' :: a :: b :: c :: d :: rest => (hexValue? [a, b, c, d]).map (·, rest)
  | _                                       => none

theorem readUnit?_eq_some_iff : readUnit? cs = some (n, rest) ↔ IsUnit cs n rest := by
  constructor
  case mp =>
    intro h
    simp only [readUnit?] at h
    split at h
    case h_1 a b c d _ =>
      cases hv : hexValue? [a, b, c, d] <;> rw [hv] at h <;> cases h
      exact .hex hv
    case h_2 => cases h
  case mpr =>
    intro ⟨h⟩
    simp only [readUnit?, h, Option.map_some]

instance : Decidable (IsHigh n) :=
  inferInstanceAs (Decidable (_ ∧ _))

instance : Decidable (IsLow n) :=
  inferInstanceAs (Decidable (_ ∧ _))

-- A character by its unit or, if the unit is no character, by its two units.
def readUnits? (cs : List Char) : Option (Char × List Char) :=
  match readUnit? cs with
  | none          => none
  | some (m, cs') =>
    if m.isValidChar then some (.ofNat m, cs')
    else match readUnit? cs' with
      | none           => none
      | some (n, rest) => if IsHigh m ∧ IsLow n then some (.ofNat (joined m n), rest) else none

-- The first character of a string behind its opening quote.
def readChar? : List Char → Option (Char × List Char)
  | []                => none
  | '\\' :: 'u' :: cs => readUnits? ('\\' :: 'u' :: cs)
  | '\\' :: k :: cs   => (shortEscapes.lookup k).map (·, cs)
  | c :: cs           => if 0x20 ≤ c.toNat ∧ c ≠ '"' ∧ c ≠ '\\' then some (c, cs) else none

theorem isValidChar_joined (hm : IsHigh m) (hn : IsLow n) : (joined m n).isValidChar := by
  unfold IsHigh at hm
  unfold IsLow at hn
  unfold Nat.isValidChar joined
  omega

theorem IsHigh.not_isValidChar (h : IsHigh m) : ¬m.isValidChar := by
  unfold IsHigh at h
  unfold Nat.isValidChar
  omega

theorem toNat_ofNat (h : n.isValidChar) : (Char.ofNat n).toNat = n := by
  rw [Char.ofNat, dif_pos h]
  rfl

theorem readUnits?_eq_some_iff : readUnits? cs = some (c, rest) ↔
    IsUnit cs c.toNat rest ∨ ∃ m cs' n, IsUnit cs m cs' ∧ IsUnit cs' n rest ∧ IsHigh m ∧ IsLow n ∧
      c.toNat = joined m n := by
  constructor
  case mp =>
    intro h
    rw [readUnits?] at h
    split at h
    case h_1 => cases h
    case h_2 m cs' hm =>
      have hm := readUnit?_eq_some_iff.mp hm
      split at h
      case isTrue hv =>
        cases h
        exact .inl ((toNat_ofNat hv).symm ▸ hm)
      case isFalse =>
        split at h
        case h_1 => cases h
        case h_2 n rest' hn =>
          have hn := readUnit?_eq_some_iff.mp hn
          split at h
          case isFalse => cases h
          case isTrue hp =>
            obtain ⟨rfl, rfl⟩ := Prod.mk.inj (Option.some.inj h)
            exact .inr ⟨m, cs', n, hm, hn, hp.1, hp.2, toNat_ofNat (isValidChar_joined hp.1 hp.2)⟩
  case mpr =>
    rintro (hc | ⟨m, cs', n, hm, hn, hh, hl, hc⟩)
    · rw [readUnits?, readUnit?_eq_some_iff.mpr hc]
      have hv : c.toNat.isValidChar := c.valid
      simp only [if_pos hv, Char.ofNat_toNat]
    · rw [readUnits?, readUnit?_eq_some_iff.mpr hm]
      simp only [if_neg hh.not_isValidChar, readUnit?_eq_some_iff.mpr hn, if_pos (And.intro hh hl),
        ← hc, Char.ofNat_toNat]

theorem readChar?_of_isUnit (h : IsUnit cs n cs') : readChar? cs = readUnits? cs := by
  cases h
  rfl

theorem readChar?_eq_some_iff : readChar? cs = some (c, rest) ↔ IsChar cs c rest := by
  constructor
  case mp =>
    intro h
    simp only [readChar?] at h
    split at h
    case h_1 => cases h
    case h_2 =>
      obtain hu | ⟨m, cs', n, hm, hn, hh, hl, hc⟩ := readUnits?_eq_some_iff.mp h
      · exact .unit hu
      · exact .pair hm hn hh hl hc
    case h_3 k _ _ =>
      cases hl : shortEscapes.lookup k <;> rw [hl] at h <;> cases h
      exact .short hl
    case h_4 =>
      split at h
      case isFalse   => cases h
      case isTrue hc =>
        obtain ⟨rfl, rfl⟩ := Prod.mk.inj (Option.some.inj h)
        exact .plain hc.1 hc.2.1 hc.2.2
  case mpr =>
    intro h
    cases h with
    | plain hv hi hu =>
      simp [readChar?, hv, hi, hu]
    | @short k _ _ he =>
      have hu : k ≠ 'u' := by
        rintro rfl
        cases he
      simp [readChar?, he]
    | unit hu =>
      exact (readChar?_of_isUnit hu).trans (readUnits?_eq_some_iff.mpr (.inl hu))
    | pair hm hn hh hl hc =>
      have h := readUnits?_eq_some_iff.mpr (.inr ⟨_, _, _, hm, hn, hh, hl, hc⟩)
      exact (readChar?_of_isUnit hm).trans h

theorem IsUnit.length_lt (h : IsUnit cs n rest) : rest.length < cs.length := by
  cases h
  simp only [List.length_cons]
  omega

theorem IsChar.length_lt (h : IsChar cs c rest) : rest.length < cs.length := by
  cases h with
  | plain _ _ _     => exact Nat.lt_succ_self _
  | short _         => exact Nat.lt_succ_of_lt (Nat.lt_succ_self _)
  | unit h          => exact h.length_lt
  | pair h h' _ _ _ => exact h'.length_lt.trans h.length_lt

-- The characters of a string up to its closing quote.
def readString? (cs : List Char) : Option (List Char × List Char) :=
  match cs with
  | '"' :: rest => some ([], rest)
  | cs          =>
    match _h : readChar? cs with
    | none          => none
    | some (c, cs') => (readString? cs').map fun (text, rest) => (c :: text, rest)
termination_by cs.length
decreasing_by exact (readChar?_eq_some_iff.mp ‹_›).length_lt

theorem IsChar.ne_quote (h : IsChar cs c rest) (ds : List Char) : cs ≠ '"' :: ds := by
  cases h with
  | plain _ hi _   => exact fun h => hi (List.cons.inj h).1
  | short _        => exact nofun
  | unit h         => cases h; exact nofun
  | pair h _ _ _ _ => cases h; exact nofun

theorem readString?_eq_some_iff : readString? cs = some (text, rest) ↔ IsString cs text rest := by
  constructor
  case mp =>
    intro h
    fun_induction readString? cs generalizing text with
    | case1 rest =>
      cases h
      exact .nil
    | case2 => cases h
    | case3 cs _ c cs' hc ih =>
      cases ht : readString? cs' with
      | none      => simp [ht] at h
      | some pair =>
        rw [ht] at h
        obtain ⟨rfl, rfl⟩ := Prod.mk.inj (Option.some.inj h)
        exact .cons (readChar?_eq_some_iff.mp hc) (ih ht)
  case mpr =>
    intro h
    induction h with
    | nil => rw [readString?]
    | @cons cs c cs' text rest hc _ ih =>
      have hr := readChar?_eq_some_iff.mpr hc
      rw [readString?.eq_def]
      split
      case h_1 => exact absurd rfl (hc.ne_quote _)
      case h_2 =>
        split
        case h_1 hn => cases hn.symm.trans hr
        case h_2 hs =>
          cases hs.symm.trans hr
          rw [ih]
          rfl

theorem IsString.length_lt (h : IsString cs text rest) : rest.length < cs.length := by
  induction h with
  | nil         => exact Nat.lt_succ_self _
  | cons hc _ h => exact h.trans hc.length_lt

end SelectLang.Json
