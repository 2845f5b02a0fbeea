import SelectLang.Proofs.Token.Longest

namespace SelectLang

-- How a text splits into tokens, told without a lexer: from the position on, the text
-- yields the tokens, or the error about the first character that no token starts with. White
-- space is passed over as far as it goes, and then the longest token there is comes next.
inductive Splits : Position → List Char → Except LexError (List Token) → Prop
  | done {p cs} (blank : cs.dropWhile isSpace = []) : Splits p cs (.ok [])
  | token {p cs k text rest result} (solid : cs.dropWhile isSpace = text ++ rest)
    (longest : Lexeme.Longest (text ++ rest) k text)
    (others : Splits ((p.after (cs.takeWhile isSpace)).after text) rest result) :
    Splits p cs (result.map (⟨k, .ofList text, p.after (cs.takeWhile isSpace)⟩ :: ·))
  | stuck {p cs c rest} (solid : cs.dropWhile isSpace = c :: rest)
    (foreign : ∀ k text, text ≠ [] → text <+: c :: rest → ¬Lexeme.Valid k text) :
    Splits p cs (.error ⟨c, p.after (cs.takeWhile isSpace)⟩)

namespace Lexer

variable {p : Position} {c : Char} {cs text rest : List Char} {k : Token.Kind}

theorem tokens_eq (l : Lexer) :
    l.tokens = match l.next with
      | (.ok none, _)      => .ok []
      | (.ok (some t), l') => l'.tokens.map (t :: ·)
      | (.error e, _)      => .error e := by
  rw [tokens]
  split
  case h_1 h => rw [h]
  case h_2 h => rw [h]; rfl
  case h_3 h => rw [h]

theorem skip_append (p : Position) (cs rest : List Char) :
    (⟨p, cs ++ rest⟩ : Lexer).skip cs.length = ⟨p.after cs, rest⟩ := by
  simp [skip]

theorem skipSpace_eq (p : Position) (cs : List Char) :
    (⟨p, cs⟩ : Lexer).skipSpace = ⟨p.after (cs.takeWhile isSpace), cs.dropWhile isSpace⟩ := by
  have h := skip_append p (cs.takeWhile isSpace) (cs.dropWhile isSpace)
  rwa [List.takeWhile_append_dropWhile] at h

theorem scan_of_read? (h : Lexeme.read? (text ++ rest) = some ⟨k, text⟩) :
    (⟨p, text ++ rest⟩ : Lexer).scan =
      (.ok (some ⟨k, .ofList text, p⟩), ⟨p.after text, rest⟩) := by
  obtain ⟨c, cs, rfl⟩ := List.exists_cons_of_ne_nil (Lexeme.read?_ne_nil h)
  simp only [scan, h, skip_append]
  rfl

theorem scan_of_read?_none (h : Lexeme.read? (c :: rest) = none) :
    (⟨p, c :: rest⟩ : Lexer).scan = (.error ⟨c, p⟩, ⟨p, []⟩) := by
  simp only [scan, h]

-- All tokens of a text are read as its longest tokens, one after the other.
theorem splits_tokens (l : Lexer) : Splits l.position l.rest l.tokens := by
  induction hn : l.rest.length using Nat.strongRecOn generalizing l with
  | ind n ih =>
    obtain ⟨p, cs⟩ := l
    subst hn
    rw [tokens_eq, next, skipSpace_eq]
    cases hs : cs.dropWhile isSpace with
    | nil => exact .done hs
    | cons c rest =>
      cases hr : Lexeme.read? (c :: rest) with
      | none =>
        rw [scan_of_read?_none hr]
        exact .stuck hs fun k text _ => Lexeme.read?_eq_none_iff.mp hr k text
      | some lexeme =>
        obtain ⟨k, text⟩ := lexeme
        have hl : Lexeme.Longest (c :: rest) k text := Lexeme.longest_of_read? hr
        obtain ⟨rest', he⟩ := hl.isPrefix
        rw [← he] at hs hr hl ⊢
        rw [scan_of_read? hr]
        refine .token hs hl (ih _ ?_ ⟨_, rest'⟩ rfl)
        -- The token is not empty, so that less is left behind it.
        have hd := (List.dropWhile_suffix isSpace (l := cs)).length_le
        have hn := List.length_pos_iff.mpr hl.valid.ne_nil
        rw [hs, List.length_append] at hd
        change rest'.length < cs.length
        omega

end Lexer

theorem Splits.tokens_eq {p : Position} {cs : List Char} {result : Except LexError (List Token)}
    (h : Splits p cs result) : (⟨p, cs⟩ : Lexer).tokens = result := by
  induction h with
  | done hs =>
    rw [Lexer.tokens_eq, Lexer.next, Lexer.skipSpace_eq, hs]
    rfl
  | token hs hl _ ih =>
    have hr := Lexeme.read?_eq_some_iff_longest.mpr hl
    rw [Lexer.tokens_eq, Lexer.next, Lexer.skipSpace_eq, hs, Lexer.scan_of_read? hr, ← ih]
  | stuck hs hf =>
    have hr := Lexeme.read?_eq_none_iff.mpr fun k text hp hv => hf k text hv.ne_nil hp hv
    rw [Lexer.tokens_eq, Lexer.next, Lexer.skipSpace_eq, hs, Lexer.scan_of_read?_none hr]

theorem tokenize_splits (text : String) : Splits .start text.toList (tokenize text) :=
  (Lexer.ofString text).splits_tokens

-- Maximal munch: the longest token is always the next one, and its kind is never in doubt.
theorem tokenize_eq_iff_splits :
    (∀ k k' cs, Lexeme.Valid k cs → Lexeme.Valid k' cs → k = k') ∧
      ∀ text result, tokenize text = result ↔ Splits .start text.toList result := by
  refine ⟨fun _ _ _ => Lexeme.Valid.kind_eq, fun text result => ⟨?_, Splits.tokens_eq⟩⟩
  rintro rfl
  exact tokenize_splits text

end SelectLang
