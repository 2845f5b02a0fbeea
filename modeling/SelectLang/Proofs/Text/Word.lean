import SelectLang.Text.Word

namespace SelectLang

namespace Unicode.Ranges

variable {rs rs' : Ranges} {n : Nat}

theorem exists_of_covers (h : rs.covers n) : ∃ r ∈ rs, r.1 ≤ n ∧ n ≤ r.2 := by
  induction rs with
  | nil => simp [covers] at h
  | cons r rs ih =>
    simp only [covers] at h
    split at h
    case isTrue hn  => exact ⟨r, List.mem_cons_self, of_decide_eq_true h, hn⟩
    case isFalse hn =>
      have ⟨r', hr, h⟩ := ih h
      exact ⟨r', List.mem_cons_of_mem _ hr, h⟩

-- No range of the one set meets a range of the other one.
def Apart (rs rs' : Ranges) : Prop :=
  ∀ r ∈ rs, ∀ r' ∈ rs', r.2 < r'.1 ∨ r'.2 < r.1

instance : Decidable (Apart rs rs') :=
  inferInstanceAs (Decidable (∀ r ∈ rs, ∀ r' ∈ rs', _))

theorem Apart.covers_eq_false (h : Apart rs rs') (hn : rs.covers n) : rs'.covers n = false := by
  refine Bool.eq_false_iff.mpr fun hn' => ?_
  have ⟨r, hr, _, _⟩ := exists_of_covers hn
  have ⟨r', hr', _, _⟩ := exists_of_covers hn'
  have := h r hr r' hr'
  omega

end Unicode.Ranges

theorem Unicode.whiteSpace_apart_alphabetic : Ranges.Apart whiteSpace alphabetic := by
  decide +kernel

theorem Unicode.whiteSpace_apart_numeric : Ranges.Apart whiteSpace numeric := by
  decide +kernel

theorem Unicode.digits_apart_alphabetic : Ranges.Apart [('0'.toNat, '9'.toNat)] alphabetic := by
  decide +kernel

theorem not_isDigit_of_isSpace {c : Char} (h : isSpace c) : c.isDigit = false := by
  refine Bool.eq_false_iff.mpr fun hd => ?_
  have ⟨r, hr, _, _⟩ := Unicode.Ranges.exists_of_covers h
  have ⟨_, _⟩ := Char.isDigit_iff_toNat.mp hd
  have : ∀ r ∈ Unicode.whiteSpace, r.2 < '0'.toNat ∨ '9'.toNat < r.1 := by decide
  have := this r hr
  omega

namespace Word

variable {c : Char} {text : String}

theorem continuesPath_of_isSpace (h : isSpace c) : continuesPath c = false := by
  have ha : isAlphabetic c = false := Unicode.whiteSpace_apart_alphabetic.covers_eq_false h
  have hn : isNumeric c = false := Unicode.whiteSpace_apart_numeric.covers_eq_false h
  have hm (m : Char) (hm : isSpace m = false) : (c == m) = false :=
    beq_eq_false_iff_ne.mpr fun hc => absurd (hc ▸ h) (by simp [hm])
  simp [continuesPath, continues, isPathMark, ha, hn, hm '_' (by decide), hm '-' (by decide),
    hm '/' (by decide)]

theorem continuesPath_of_continues (h : continues c) : continuesPath c := by
  simp [continuesPath, h]

theorem continuesPath_of_opens (h : opens c) : continuesPath c := by
  refine continuesPath_of_continues ?_
  simp only [opens, Bool.or_eq_true] at h
  simp only [continues, Bool.or_eq_true]
  exact h.imp_left .inl

theorem not_opens_of_isDigit (h : c.isDigit) : opens c = false := by
  have ⟨_, _⟩ := Char.isDigit_iff_toNat.mp h
  have hd : Unicode.Ranges.covers [('0'.toNat, '9'.toNat)] c.toNat := by
    simp_all [Unicode.Ranges.covers]
  have ha : isAlphabetic c = false := Unicode.digits_apart_alphabetic.covers_eq_false hd
  have hm : c ≠ '_' := by
    rintro rfl
    contradiction
  simp [opens, ha, hm]

-- The characters of a name are those of a word.
theorem exists_toList_of_isPath (h : isPath text) :
    ∃ c cs, text.toList = c :: cs ∧ opens c ∧ ∀ d ∈ c :: cs, continuesPath d := by
  simp only [isPath, isName] at h
  split at h
  case h_1 => contradiction
  case h_2 c cs ht =>
    simp only [Bool.and_eq_true, List.all_eq_true] at h
    have ⟨⟨hc, hcs⟩, _⟩ := h
    exact ⟨c, cs, ht, hc, List.forall_mem_cons.mpr ⟨continuesPath_of_opens hc, hcs⟩⟩

theorem isPath_of_isIdentifier (h : isIdentifier text) : isPath text := by
  simp only [isIdentifier, isPath, isName] at h ⊢
  split at h
  case h_1 => contradiction
  case h_2 =>
    simp only [Bool.and_eq_true, List.all_eq_true] at h ⊢
    exact ⟨⟨h.1.1, fun c hc => continuesPath_of_continues (h.1.2 c hc)⟩, h.2⟩

end Word

end SelectLang
