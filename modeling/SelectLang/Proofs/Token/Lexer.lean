import SelectLang.Proofs.Token.Lexeme
import SelectLang.Token.Lexer

namespace SelectLang

theorem Lexeme.read?_of_isSpace {c : Char} (h : isSpace c) (cs : List Char) :
    read? (c :: cs) = none := by
  have hc (m : Char) (hm : isSpace m = false) : c ≠ m := by
    rintro rfl
    simp [h] at hm
  have hw : Word.opens c = false := by
    refine Bool.eq_false_iff.mpr fun hw => ?_
    have := Word.continuesPath_of_opens hw
    simp [Word.continuesPath_of_isSpace h] at this
  have hn : opensNumber (c :: cs) = false := by
    rw [opensNumber_of_ne (hc '-' (by decide))]
    exact not_isDigit_of_isSpace h
  have hs : isComparison c = false := by
    simp [isComparison, hc '>' (by decide), hc '<' (by decide), hc '=' (by decide)]
  have hp : isPunctuation c = false := by
    simp [isPunctuation, hc ',' (by decide), hc '.' (by decide), hc '(' (by decide),
      hc ')' (by decide), hc '*' (by decide), hc '+' (by decide), hc '-' (by decide)]
  simp [read?, hw, hn, hs, hp]

namespace Lexer

variable {l l' : Lexer} {p : Position} {c : Char} {cs rest : List Char} {k : Token.Kind}
variable {t : Token} {ts : List Token}

theorem tokens_congr (h : l.next = l'.next) : l.tokens = l'.tokens := by
  rw [tokens, tokens]
  split <;> split <;> simp_all

theorem tokens_nil (p : Position) : (⟨p, []⟩ : Lexer).tokens = .ok [] := by
  rw [tokens]
  split <;> simp_all [next, skipSpace, skip, scan]

theorem tokens_of_isSpace (h : isSpace c) :
    (⟨p, c :: cs⟩ : Lexer).tokens = (⟨p.advance c, cs⟩ : Lexer).tokens := by
  refine tokens_congr ?_
  simp [next, skipSpace, skip, h, Position.after]

theorem tokens_of_blank {gap : List Char} (h : ∀ c ∈ gap, isSpace c) :
    (⟨p, gap ++ cs⟩ : Lexer).tokens = (⟨p.after gap, cs⟩ : Lexer).tokens := by
  induction gap generalizing p with
  | nil => rfl
  | cons c gap ih =>
    have ⟨hc, hg⟩ := List.forall_mem_cons.mp h
    exact (tokens_of_isSpace hc).trans (ih hg)

theorem next_of_read? (h : Lexeme.read? (cs ++ rest) = some ⟨k, cs⟩) :
    (⟨p, cs ++ rest⟩ : Lexer).next = (.ok (some ⟨k, .ofList cs, p⟩), ⟨p.after cs, rest⟩) := by
  obtain ⟨c, cs, rfl⟩ := List.exists_cons_of_ne_nil (Lexeme.read?_ne_nil h)
  have hc : isSpace c = false := by
    refine Bool.eq_false_iff.mpr fun hc => ?_
    cases (Lexeme.read?_of_isSpace hc _).symm.trans h
  have hs : (⟨p, c :: cs ++ rest⟩ : Lexer).skipSpace = ⟨p, c :: cs ++ rest⟩ := by
    simp [skipSpace, skip, hc, Position.after]
  simp only [next, hs, scan, h]
  simp [Lexeme.token, skip]

theorem tokens_of_read? (h : Lexeme.read? (cs ++ rest) = some ⟨k, cs⟩) :
    (⟨p, cs ++ rest⟩ : Lexer).tokens =
      (⟨p.after cs, rest⟩ : Lexer).tokens.map (⟨k, .ofList cs, p⟩ :: ·) := by
  have hn := next_of_read? (p := p) h
  rw [tokens]
  split
  case h_1 he => cases he.symm.trans hn
  case h_2 he => cases he.symm.trans hn; rfl
  case h_3 he => cases he.symm.trans hn

theorem exists_read?_of_next (h : l.next = (.ok (some t), l')) :
    ∃ cs, Lexeme.read? cs = some ⟨t.kind, t.text.toList⟩ := by
  simp only [next, scan] at h
  split at h
  case h_1 => cases h
  case h_2 =>
    split at h
    case h_1 => cases h
    case h_2 lexeme hr =>
      cases h
      exact ⟨_, by simpa [Lexeme.token] using hr⟩

-- Every token was read from some text.
theorem exists_read?_of_mem (h : l.tokens = .ok ts) (ht : t ∈ ts) :
    ∃ cs, Lexeme.read? cs = some ⟨t.kind, t.text.toList⟩ := by
  fun_induction tokens l generalizing ts with
  | case1 l l' hn =>
    cases h
    cases ht
  | case2 l u l' hn ih =>
    cases hs : l'.tokens with
    | error e => rw [hs] at h; cases h
    | ok us =>
      rw [hs] at h
      cases h
      cases ht with
      | head        => exact exists_read?_of_next hn
      | tail _ ht   => exact ih hs ht
  | case3 l e l' hn => cases h

end Lexer

end SelectLang
