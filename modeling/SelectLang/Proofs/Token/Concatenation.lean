import SelectLang.Proofs.Token.Placement

namespace SelectLang

namespace Position

variable {before cs : List Char} {p : Position}

-- Where a position of a text gets to, if the text is put behind some other characters. Their
-- last line goes on in the first line of the text, so that the columns of no other line change.
def shift (before : List Char) (p : Position) : Position where
  offset := before.length + p.offset
  line   := before.count '\n' + p.line
  column :=
    if p.line = 1 then (before.reverse.takeWhile (· ≠ '\n')).length + p.column else p.column

theorem line_le_advance (p : Position) (c : Char) : p.line ≤ (p.advance c).line := by
  simp only [advance]
  split <;> omega

theorem line_le_after (p : Position) (cs : List Char) : p.line ≤ (p.after cs).line := by
  induction cs generalizing p with
  | nil          => exact Nat.le_refl _
  | cons c cs ih => exact (p.line_le_advance c).trans (ih (p.advance c))

-- Lines count from 1, and therefore no line feed leads to the first line.
theorem shift_advance (h : 0 < p.line) (c : Char) :
    (p.shift before).advance c = (p.advance c).shift before := by
  by_cases hc : c = '\n'
  case pos =>
    ext <;> simp [shift, advance, hc, h.ne', Nat.add_assoc]
  case neg => ext <;> simp [shift, advance, hc, Nat.add_assoc, apply_ite (· + 1)]

theorem shift_after (h : 0 < p.line) (cs : List Char) :
    (p.shift before).after cs = (p.after cs).shift before := by
  induction cs generalizing p with
  | nil => rfl
  | cons c cs ih =>
    change ((p.shift before).advance c).after cs = ((p.advance c).after cs).shift before
    rw [shift_advance h, ih (h.trans_le (p.line_le_advance c))]

theorem after_start (before : List Char) : start.after before = start.shift before := by
  have h : start.after before = behind before := after_behind [] before
  rw [h]
  ext <;> simp [behind, shift, start, Nat.add_comm]

end Position

def Token.shift (before : List Char) (t : Token) : Token :=
  { t with position := t.position.shift before }

def LexError.shift (before : List Char) (e : LexError) : LexError :=
  { e with position := e.position.shift before }

-- What a text is read as, if the text is put behind some other characters.
def shiftResult (before : List Char) :
    Except LexError (List Token) → Except LexError (List Token)
  | .ok ts   => .ok (ts.map (·.shift before))
  | .error e => .error (e.shift before)

namespace Splits

variable {p : Position} {before cs rest : List Char} {result : Except LexError (List Token)}

theorem shift (h : Splits p cs result) (hp : 0 < p.line) :
    Splits (p.shift before) cs (shiftResult before result) := by
  induction h with
  | done hb => exact .done hb
  | @token p cs k text rest result hs hl _ ih =>
    have hg : 0 < (p.after (cs.takeWhile isSpace)).line := hp.trans_le (p.line_le_after _)
    have ih := ih (hg.trans_le (Position.line_le_after _ text))
    rw [← Position.shift_after hg, ← Position.shift_after hp] at ih
    have h := Splits.token hs hl ih
    cases result with
    | ok ts   => simpa [shiftResult, Token.shift, Except.map, Position.shift_after hp] using h
    | error e => exact h
  | @stuck p cs c rest hs hf =>
    have h := Splits.stuck (p := p.shift before) hs hf
    rwa [Position.shift_after hp] at h

-- What is behind white space or a comma does not change the tokens in front of it, and no
-- error either.
theorem append (h : Splits p cs result) (hr : Closes rest) :
    (⟨p, cs ++ rest⟩ : Lexer).tokens =
      result.bind fun ts => (⟨p.after cs, rest⟩ : Lexer).tokens.map (ts ++ ·) := by
  induction h with
  | done hb =>
    rw [Lexer.tokens_of_blank (List.dropWhile_eq_nil_iff.mp hb)]
    cases (Lexer.tokens _) <;> rfl
  | @token p cs k text others result hs hl _ ih =>
    have hg : ∀ c ∈ cs.takeWhile isSpace, isSpace c := fun _ => List.mem_takeWhile_imp
    have hc := takeWhile_append hs
    have ht : Lexeme.read? (text ++ (others ++ rest)) = some ⟨k, text⟩ := by
      rw [← List.append_assoc, Lexeme.read?_append hr (by simp [hl.valid.ne_nil])]
      exact Lexeme.read?_eq_some_iff_longest.mpr hl
    have ha : ((p.after (cs.takeWhile isSpace)).after text).after others = p.after cs := by
      rw [← Position.after_append, ← Position.after_append, ← List.append_assoc, hc]
    calc (⟨p, cs ++ rest⟩ : Lexer).tokens
      _ = (⟨p, cs.takeWhile isSpace ++ (text ++ (others ++ rest))⟩ : Lexer).tokens := by
        rw [← List.append_assoc, ← List.append_assoc, hc]
      _ = (⟨(p.after (cs.takeWhile isSpace)).after text, others ++ rest⟩ : Lexer).tokens.map _ := by
        rw [Lexer.tokens_of_blank hg, Lexer.tokens_of_read? ht]
      _ = _ := by
        rw [ih, ha]
        cases result <;> cases (⟨p.after cs, rest⟩ : Lexer).tokens <;> rfl
  | @stuck p cs c others hs hf =>
    have hn : Lexeme.read? (c :: others ++ rest) = none := by
      rw [Lexeme.read?_append hr (by simp)]
      exact Lexeme.read?_eq_none_iff.mpr fun k text hp hv => hf k text hv.ne_nil hp hv
    have hd : (cs ++ rest).dropWhile isSpace = c :: (others ++ rest) := by
      simp [List.dropWhile_append, hs]
    have ht : (cs ++ rest).takeWhile isSpace = cs.takeWhile isSpace := by
      have hl := congrArg List.length (List.takeWhile_append_dropWhile (p := isSpace) (l := cs))
      simp only [List.length_append, hs, List.length_cons] at hl
      rw [List.takeWhile_append, if_neg (by omega)]
    have h := stuck (p := p) hd fun k text _ => Lexeme.read?_eq_none_iff.mp hn k text
    rw [h.tokens_eq, ht]
    rfl

end Splits

-- White space behind a text makes no difference at all.
theorem tokenize_append_blank {gap : String} (hg : ∀ c ∈ gap.toList, isSpace c) (text : String) :
    tokenize (text ++ gap) = tokenize text := by
  have hn (p : Position) : (⟨p, gap.toList⟩ : Lexer).tokens = .ok [] := by
    rw [← List.append_nil gap.toList, Lexer.tokens_of_blank hg, Lexer.tokens_nil]
  have h := (tokenize_splits text).append fun _ hc => .inl (hg _ (List.mem_of_mem_head? hc))
  rw [hn] at h
  rw [tokenize, Lexer.ofString, String.toList_append, h]
  cases tokenize text <;> simp [Except.bind, Except.map]

-- White space in front of a text changes only the positions.
theorem tokenize_blank_append {before : String} (hb : ∀ c ∈ before.toList, isSpace c)
    (text : String) :
    tokenize (before ++ text) = shiftResult before.toList (tokenize text) := by
  have h : Splits (Position.start.shift before.toList) text.toList
      (shiftResult before.toList (tokenize text)) := (tokenize_splits text).shift Nat.one_pos
  rw [tokenize, Lexer.ofString, String.toList_append, Lexer.tokens_of_blank hb,
    Position.after_start, h.tokens_eq]

-- White space keeps the texts around it apart. The second one is read as it is alone, but for
-- the positions, and only if there is nothing wrong with the first one.
theorem tokenize_append {text gap text' : String} (hg : gap ≠ "")
    (hs : ∀ c ∈ gap.toList, isSpace c) :
    tokenize (text ++ gap ++ text') =
      match tokenize text, tokenize text' with
      | .error e, _        => .error e
      | .ok _,    .error e => .error (e.shift (text ++ gap).toList)
      | .ok ts,   .ok us   => .ok (ts ++ us.map (·.shift (text ++ gap).toList)) := by
  have hr : Closes (gap.toList ++ text'.toList) := by
    cases hc : gap.toList with
    | nil      => exact absurd (String.toList_eq_nil_iff.mp hc) hg
    | cons c _ => exact fun _ h => .inl (Option.some.inj h ▸ hs c (hc ▸ List.mem_cons_self))
  have hf : (⟨(Position.start.after text.toList).after gap.toList, text'.toList⟩ : Lexer).tokens =
      shiftResult (text ++ gap).toList (tokenize text') := by
    rw [← Position.after_append, ← String.toList_append, Position.after_start]
    exact ((tokenize_splits text').shift Nat.one_pos).tokens_eq
  have h := (tokenize_splits text).append hr
  rw [Lexer.tokens_of_blank hs, hf] at h
  have ht : tokenize (text ++ gap ++ text') =
      (⟨.start, text.toList ++ (gap.toList ++ text'.toList)⟩ : Lexer).tokens := by
    simp only [tokenize, Lexer.ofString, String.toList_append, List.append_assoc]
  rw [ht, h]
  cases tokenize text <;> cases tokenize text' <;> rfl

-- Operators that would be one without the line feed between them.
theorem tokenize_append_operators :
    "\n " ≠ "" ∧ (∀ c ∈ "\n ".toList, isSpace c) ∧
      tokenize ("a >" ++ "\n " ++ "=\n-5") = .ok [
        ⟨.identifier, "a", ⟨0, 1, 1⟩⟩, ⟨.operator, ">", ⟨2, 1, 3⟩⟩,
        ⟨.operator, "=", ⟨5, 2, 2⟩⟩, ⟨.number, "-5", ⟨7, 3, 1⟩⟩
      ] := by
  have hg : "\n " ≠ "" := by decide
  have hs : ∀ c ∈ "\n ".toList, isSpace c := List.all_eq_true.mp (by decide)
  refine ⟨hg, hs, (tokenize_append hg hs).trans ?_⟩
  decide +kernel

end SelectLang
