import Mathlib.Data.List.TakeWhile
import SelectLang.Proofs.Text.Word
import SelectLang.Token.Lexeme

namespace SelectLang

-- The text ends here or goes on with white space or a comma. No token reaches beyond that.
def Closes (cs : List Char) : Prop :=
  ∀ c, cs.head? = some c → isSpace c ∨ c = ','

namespace Closes

variable {c : Char} {cs ds : List Char} {p : Char → Bool}

theorem nil : Closes [] :=
  fun _ h => nomatch h

theorem space (cs : List Char) : Closes (' ' :: cs) :=
  fun _ h => .inl (Option.some.inj h ▸ by decide)

theorem comma (cs : List Char) : Closes (',' :: cs) :=
  fun _ h => .inr (Option.some.inj h).symm

theorem append (h : Closes cs) (h' : Closes ds) : Closes (cs ++ ds) := by
  cases cs with
  | nil      => exact h'
  | cons c _ => exact h

theorem not_continuesPath (h : Closes (c :: cs)) : Word.continuesPath c = false := by
  obtain h | rfl := h c rfl
  · exact Word.continuesPath_of_isSpace h
  · decide

theorem ne_of_head (h : Closes (c :: cs)) {m : Char} (hm : (isSpace m || m == ',') = false) :
    c ≠ m := by
  rintro rfl
  have := h c rfl
  simp_all

theorem not_isDigit (h : Closes (c :: cs)) : c.isDigit = false := by
  obtain h | rfl := h c rfl
  · exact not_isDigit_of_isSpace h
  · decide

theorem takeWhile_append (hp : ∀ c cs, Closes (c :: cs) → p c = false) (h : Closes ds) :
    (cs ++ ds).takeWhile p = cs.takeWhile p := by
  induction cs with
  | nil =>
    cases ds with
    | nil      => rfl
    | cons d _ => simp [hp d _ h]
  | cons c cs ih => simp [List.takeWhile_cons, ih]

theorem takeWhile_isDigit (h : Closes ds) (cs : List Char) :
    (cs ++ ds).takeWhile Char.isDigit = cs.takeWhile Char.isDigit :=
  h.takeWhile_append fun _ _ => not_isDigit

theorem dropWhile_append (hp : ∀ c cs, Closes (c :: cs) → p c = false) (h : Closes ds) :
    (cs ++ ds).dropWhile p = cs.dropWhile p ++ ds := by
  induction cs with
  | nil =>
    cases ds with
    | nil      => rfl
    | cons d _ => simp [hp d _ h]
  | cons c cs ih =>
    simp only [List.cons_append, List.dropWhile_cons, ih]
    split <;> rfl

end Closes

namespace Lexeme

variable {c : Char} {cs rest : List Char} {l : Lexeme}

theorem word_append (h : Closes rest) : word (cs ++ rest) = word cs := by
  simp only [word, h.takeWhile_append fun _ _ => Closes.not_continuesPath]

theorem fraction_of_ne (h : c ≠ '.') : fraction (c :: cs) = [] := by
  rw [fraction]
  rintro c cs ⟨⟩
  contradiction

theorem fraction_append (h : Closes rest) : fraction (cs ++ rest) = fraction cs := by
  match cs with
  | [] =>
    cases rest with
    | nil      => rfl
    | cons d _ => exact fraction_of_ne (h.ne_of_head (by decide))
  | [c] =>
    by_cases hc : c = '.'
    case neg => rw [List.cons_append, fraction_of_ne hc, fraction_of_ne hc]
    case pos =>
      cases rest with
      | nil      => rfl
      | cons d _ => simp [hc, fraction, h.not_isDigit]
  | c :: d :: cs =>
    by_cases hc : c = '.'
    case neg => rw [List.cons_append, fraction_of_ne hc, fraction_of_ne hc]
    case pos =>
      have ht := h.takeWhile_isDigit (d :: cs)
      simp only [hc, fraction, List.cons_append] at ht ⊢
      rw [ht]

theorem numeral_append (h : Closes rest) : numeral (cs ++ rest) = numeral cs := by
  rw [numeral, h.takeWhile_isDigit, h.dropWhile_append fun _ _ => Closes.not_isDigit,
    fraction_append h, numeral]

theorem number_of_ne (h : c ≠ '-') (cs : List Char) :
    number (c :: cs) = ⟨.number, numeral (c :: cs)⟩ := by
  rw [number]
  rintro cs ⟨⟩
  contradiction

theorem number_append (h : Closes rest) : number (c :: cs ++ rest) = number (c :: cs) := by
  by_cases hc : c = '-'
  case pos => simp only [hc, List.cons_append, number, numeral_append h]
  case neg =>
    rw [List.cons_append, number_of_ne hc, number_of_ne hc, ← List.cons_append, numeral_append h]

theorem opensNumber_of_ne (h : c ≠ '-') : opensNumber (c :: cs) = c.isDigit := by
  rw [opensNumber]
  rintro d cs ⟨⟩
  contradiction

theorem opensNumber_append (h : Closes rest) :
    opensNumber (c :: cs ++ rest) = opensNumber (c :: cs) := by
  by_cases hc : c = '-'
  case neg => rw [List.cons_append, opensNumber_of_ne hc, opensNumber_of_ne hc]
  case pos =>
    subst hc
    cases cs with
    | cons d cs => rfl
    | nil =>
      cases rest with
      | nil      => rfl
      | cons d _ => exact h.not_isDigit

theorem comparison_of_ne {d : Char} (h : d ≠ '=') : comparison c (d :: cs) = ⟨.operator, [c]⟩ := by
  rw [comparison]
  rintro cs ⟨⟩
  contradiction

theorem comparison_append (h : Closes rest) : comparison c (cs ++ rest) = comparison c cs := by
  cases cs with
  | nil =>
    cases rest with
    | nil      => rfl
    | cons d _ => exact comparison_of_ne (h.ne_of_head (by decide))
  | cons d cs =>
    by_cases hd : d = '='
    case pos => rw [hd]; rfl
    case neg => rw [List.cons_append, comparison_of_ne hd, comparison_of_ne hd]

-- A token does not depend on what is behind white space or a comma.
theorem read?_append (h : Closes rest) (hc : cs ≠ []) : read? (cs ++ rest) = read? cs := by
  cases cs with
  | nil       => contradiction
  | cons c cs =>
    simp only [read?, List.cons_append]
    rw [← List.cons_append, word_append h, opensNumber_append h, number_append h,
      comparison_append h]

theorem word_text (cs : List Char) : word (word cs).text = word cs := by
  simp only [word, List.takeWhile_idem]

theorem fraction_cases (cs : List Char) :
    fraction cs = [] ∨
      ∃ d ds, d.isDigit ∧ fraction cs = '.' :: (d :: ds).takeWhile Char.isDigit := by
  fun_cases fraction cs with
  | case1 d ds hd => exact .inr ⟨d, ds, hd, rfl⟩
  | case2         => exact .inl rfl
  | case3         => exact .inl rfl

theorem fraction_fraction (cs : List Char) : fraction (fraction cs) = fraction cs := by
  obtain h | ⟨d, ds, hd, h⟩ := fraction_cases cs
  · rw [h, fraction]
    simp
  · rw [h, List.takeWhile_cons_of_pos hd, fraction, if_pos hd, List.takeWhile_cons_of_pos hd,
      List.takeWhile_idem]

theorem takeWhile_fraction (cs : List Char) : (fraction cs).takeWhile Char.isDigit = [] := by
  obtain h | ⟨d, ds, hd, h⟩ := fraction_cases cs <;> simp [h]

theorem dropWhile_fraction (cs : List Char) :
    (fraction cs).dropWhile Char.isDigit = fraction cs := by
  obtain h | ⟨d, ds, hd, h⟩ := fraction_cases cs <;> simp [h]

theorem numeral_numeral (cs : List Char) : numeral (numeral cs) = numeral cs := by
  have hd : ∀ c ∈ cs.takeWhile Char.isDigit, c.isDigit := fun _ => List.mem_takeWhile_imp
  rw [numeral, numeral, List.takeWhile_append_of_pos hd, List.dropWhile_append_of_pos hd,
    takeWhile_fraction, dropWhile_fraction, fraction_fraction, List.append_nil]

theorem numeral_cons (h : c.isDigit) (cs : List Char) : numeral (c :: cs) = c :: numeral cs := by
  simp [numeral, h]

theorem number_text (h : opensNumber (c :: cs)) :
    ∃ ds, (number (c :: cs)).text = c :: ds ∧ opensNumber (c :: ds) ∧
      number (c :: ds) = number (c :: cs) := by
  by_cases hc : c = '-'
  case pos =>
    subst hc
    cases cs with
    | nil => simp [opensNumber] at h
    | cons d ds =>
      have hd : d.isDigit := h
      refine ⟨numeral (d :: ds), rfl, ?_, ?_⟩
      · rw [numeral_cons hd]
        exact hd
      · rw [number, number, numeral_numeral]
  case neg =>
    have hd : c.isDigit := by rwa [opensNumber_of_ne hc] at h
    have hn := number_of_ne hc cs
    refine ⟨numeral cs, ?_, ?_, ?_⟩
    · rw [hn, numeral_cons hd]
    · rwa [opensNumber_of_ne hc]
    · rw [number_of_ne hc, hn, ← numeral_cons hd, numeral_numeral]

theorem numeral_of_isDigit (h : ∀ c ∈ cs, c.isDigit) : numeral cs = cs := by
  rw [numeral, List.takeWhile_eq_self_iff.mpr h, List.dropWhile_eq_nil_iff.mpr h, fraction]
  · exact List.append_nil cs
  · simp

theorem read?_of_isDigit (hc : cs ≠ []) (h : ∀ c ∈ cs, c.isDigit) :
    read? cs = some ⟨.number, cs⟩ := by
  obtain ⟨c, cs, rfl⟩ := List.exists_cons_of_ne_nil hc
  have hd : c.isDigit := h c List.mem_cons_self
  have hm : c ≠ '-' := by
    rintro rfl
    contradiction
  rw [read?, if_neg (by simp [Word.not_opens_of_isDigit hd]), opensNumber_of_ne hm, if_pos hd,
    number_of_ne hm, numeral_of_isDigit h]

theorem comparison_text (c : Char) (cs : List Char) :
    ∃ ds, (comparison c cs).text = c :: ds ∧ comparison c ds = comparison c cs := by
  fun_cases comparison c cs with
  | case1 => exact ⟨['='], rfl, rfl⟩
  | case2 => exact ⟨[], rfl, rfl⟩

theorem read?_word (h : Word.opens c) : read? (c :: cs) = some (word (c :: cs)) := by
  rw [read?, if_pos h]

theorem read?_comparison (h : isComparison c) : read? (c :: cs) = some (comparison c cs) := by
  have hc : c = '>' ∨ c = '<' ∨ c = '=' := by simpa [isComparison, or_assoc] using h
  have hw : Word.opens c = false := by obtain rfl | rfl | rfl := hc <;> decide
  have hn : opensNumber (c :: cs) = false := by
    obtain rfl | rfl | rfl := hc <;> rw [opensNumber_of_ne (by decide)] <;> decide
  simp [read?, hw, hn, h]

theorem opensNumber_singleton (h : opensNumber (c :: cs) = false) : opensNumber [c] = false := by
  by_cases hc : c = '-'
  case pos => rw [hc]; rfl
  case neg => rwa [opensNumber_of_ne hc] at h ⊢

-- A token that stands alone is read as it was read from the text around it.
theorem read?_text (h : read? cs = some l) : read? l.text = some l := by
  fun_cases read? cs with
  | case1 => simp [read?] at h
  | case2 c cs hw =>
    have ht : (word (c :: cs)).text = c :: cs.takeWhile Word.continuesPath :=
      List.takeWhile_cons_of_pos (Word.continuesPath_of_opens hw)
    cases (read?_word hw).symm.trans h
    rw [ht, read?_word hw, ← ht, word_text]
  | case3 c cs hw hn =>
    obtain ⟨ds, ht, hn', he⟩ := number_text hn
    simp only [read?, hw, hn, if_true, if_false, Bool.false_eq_true] at h
    cases h
    simp [ht, read?, hw, hn', he]
  | case4 c cs hw hn hc =>
    obtain ⟨ds, ht, he⟩ := comparison_text c cs
    cases (read?_comparison hc).symm.trans h
    rw [ht, read?_comparison hc, he]
  | case5 c cs hw hn hc hp =>
    have hn' := opensNumber_singleton (Bool.eq_false_iff.mpr hn)
    simp only [read?, hw, hn, hc, hp, if_true, if_false, Bool.false_eq_true] at h
    cases h
    simp [read?, hw, hn', hc, hp]
  | case6 => simp_all [read?]

end Lexeme

end SelectLang
