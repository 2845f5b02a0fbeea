import SelectLang.Proofs.Parser.Agreement
import SelectLang.Proofs.Statement.Reading
import SelectLang.Proofs.Token.Spelling

namespace SelectLang

-- Tokens that a statement cannot tell apart: it looks at the kind of a token only to see
-- whether it is an operator, and never at the position.
structure Token.Agrees (t u : Token) : Prop where
  text_eq      : t.text = u.text
  operator_iff : t.kind = .operator ↔ u.kind = .operator

-- A token without its position.
def Token.lexeme (t : Token) : Lexeme where
  kind := t.kind
  text := t.text.toList

-- The texts in order, with white space between each two of them, and maybe behind the last one.
inductive Spaced : List String → String → Prop
  | nil : Spaced [] ""
  | cons {texts row gap} (text : String) (blank : isBlank gap) (apart : texts ≠ [] → gap ≠ "")
    (others : Spaced texts row) : Spaced (text :: texts) (text ++ gap ++ row)

namespace Token.Agrees

variable {t u v : Token} {ts us vs : List Token}

theorem refl (t : Token) : t.Agrees t where
  text_eq      := rfl
  operator_iff := Iff.rfl

theorem symm (h : t.Agrees u) : u.Agrees t where
  text_eq      := h.text_eq.symm
  operator_iff := h.operator_iff.symm

theorem trans (h : t.Agrees u) (h' : u.Agrees v) : t.Agrees v where
  text_eq      := h.text_eq.trans h'.text_eq
  operator_iff := h.operator_iff.trans h'.operator_iff

theorem of_lexeme_eq (h : t.lexeme = u.lexeme) : t.Agrees u where
  text_eq      := String.toList_inj.mp (congrArg Lexeme.text h)
  operator_iff := by rw [show t.kind = u.kind from congrArg Lexeme.kind h]

theorem forall₂_of_map_lexeme_eq (h : ts.map lexeme = us.map lexeme) :
    List.Forall₂ Token.Agrees ts us := by
  rw [← List.forall₂_eq_eq_eq, List.forall₂_map_left_iff, List.forall₂_map_right_iff] at h
  exact h.imp fun _ _ => of_lexeme_eq

theorem forall₂_refl (ts : List Token) : List.Forall₂ Token.Agrees ts ts :=
  List.forall₂_same.mpr fun t _ => refl t

theorem forall₂_trans (h : List.Forall₂ Token.Agrees ts us)
    (h' : List.Forall₂ Token.Agrees us vs) : List.Forall₂ Token.Agrees ts vs := by
  induction h generalizing vs with
  | nil => exact h'
  | cons ht _ ih =>
    cases h' with
    | cons hu hs => exact .cons (ht.trans hu) (ih hs)

theorem forall₂_symm (h : List.Forall₂ Token.Agrees ts us) : List.Forall₂ Token.Agrees us ts :=
  h.flip.imp fun _ _ => symm

end Token.Agrees

namespace Parser

variable {ν : Type} {R : Token → Token → Prop} {p q : Parser ν}

theorem Respects.optional (h : p.Respects R) : p.optional.Respects R :=
  .choice (by simp [h, Respects.empty])

theorem Respects.many (h : p.Respects R) : p.many.Respects R := by
  have hl : Respects R (.standIn (.loop p.freeLevel) : Parser ν) := .standIn _
  have hs : Respects R (.seq [p, .standIn (.loop p.freeLevel)]) := .seq (by simp [h, hl])
  have he : Respects R (.empty : Parser ν) := .empty
  exact .fix _ (.choice (by simp [hs.map, he.map]))

theorem Respects.sepBy (h : p.Respects R) (h' : q.Respects R) : (p.sepBy q).Respects R := by
  have ht : Respects R (.map Value.second (.seq [q, p])) := .map _ (.seq (by simp [h, h']))
  exact .map _ (.seq (by simp [h, ht.many]))

end Parser

open SelectLang.Parser (Respects SameAnswer)

namespace Statement

theorem respects_clause {read : Value Clause → Clause.Reading} {parts : List Grammar}
    (h : ∀ p ∈ parts, p.Respects Token.Agrees) : (clause read parts).Respects Token.Agrees :=
  .action (fun _ _ _ => rfl) (.seq h)

theorem respects_text (name : String) (test : String → Bool) :
    Respects Token.Agrees (.predicate name (test ·.text) : Grammar) :=
  .predicate name fun _ _ h => congrArg test h.text_eq

theorem respects_comparison : comparison.Respects Token.Agrees := by
  refine .predicate _ fun t u h => ?_
  have hk : (t.kind == .operator) = (u.kind == .operator) := by
    rw [Bool.eq_iff_iff, beq_iff_eq, beq_iff_eq, h.operator_iff]
  rw [hk, h.text_eq]

theorem respects_count : count.Respects Token.Agrees := by
  refine .action (fun ts us h => ?_) .any
  cases h with
  | nil         => rfl
  | cons ht hts => simp only [Clause.readCount, List.head?_cons, Option.elim_some, ht.text_eq]

theorem respects_statement : statement.Respects Token.Agrees := by
  have hl (text : String) : Respects Token.Agrees (.literal text : Grammar) := .literal text
  have hc : Respects Token.Agrees (.commit : Grammar) := .commit
  have he : Respects Token.Agrees (.empty : Grammar) := .empty
  have hi : identifier.Respects Token.Agrees := respects_text ..
  have hp : path.Respects Token.Agrees := respects_text ..
  have hv : value.Respects Token.Agrees := respects_text _ fun _ => true
  have hf : fields.Respects Token.Agrees :=
    respects_clause (by simp [hl, Respects.choice, hi.sepBy (hl ",")])
  have hs : source.Respects Token.Agrees := respects_clause (by simp [hl, hp])
  have hw : condition.Respects Token.Agrees :=
    respects_clause (by simp [hi, respects_comparison, hv])
  have hk : sortKey.Respects Token.Agrees :=
    respects_clause (by simp [hi, hl, he, Respects.choice])
  have hw : filter.Respects Token.Agrees :=
    respects_clause (by simp [hl, hc, hw.sepBy (hl "and")])
  have ho : order.Respects Token.Agrees :=
    respects_clause (by simp [hl, hc, hk.sepBy (hl ",")])
  have hm : limit.Respects Token.Agrees := respects_clause (by simp [hl, hc, respects_count])
  exact respects_clause (by simp [hf, hs, hw.optional, ho.optional, hm.optional])

end Statement

namespace Query

variable {ts us : List Token}

theorem ofTokens_sameAnswer (h : List.Forall₂ Token.Agrees ts us) :
    SameAnswer ts us (ofTokens ts) (ofTokens us) := by
  have hp {ts us} (h : List.Forall₂ Token.Agrees ts us) {a}
      (ha : Statement.statement.parse ts = some a) :=
    Parser.parse_sameAnswer (fun _ _ => Token.Agrees.text_eq) Statement.respects_statement h ha
  have hm (message : String) :
      SameAnswer ts us (.error (.domain message .endOfInput) : Except _ Query)
        (.error (.domain message .endOfInput)) :=
    .endOfInput h (.domain message)
  cases ha : Statement.statement.parse ts with
  | none =>
    have hu : Statement.statement.parse us = none := by
      refine Option.eq_none_iff_forall_ne_some.mpr fun a' ha' => ?_
      obtain ⟨a, hs, _⟩ := hp (Token.Agrees.forall₂_symm h) ha'
      cases ha.symm.trans hs
    simpa only [ofTokens, ha, hu] using hm _
  | some a =>
    obtain ⟨a', ha', hs⟩ := hp h ha
    simp only [ofTokens, ha, ha']
    cases hs with
    | error he hw => exact .error he hw
    | ok v =>
      split
      case h_1    => exact .ok _
      case h_2 he =>
        cases he
        exact hm _
      case h_3 he => cases he
      case h_4 he => cases he

end Query

namespace Spaced

variable {texts : List String} {ts : List Token} {row gap text before : String}

theorem forall_isSpace (h : isBlank gap) : ∀ c ∈ gap.toList, isSpace c :=
  List.all_eq_true.mp h

-- What follows a text closes it off: white space, or nothing if the text is the last one.
theorem closes (h : Spaced texts row) (hb : isBlank gap) (ha : texts ≠ [] → gap ≠ "") :
    Closes (gap ++ row).toList := by
  rw [String.toList_append]
  cases hg : gap.toList with
  | cons c _ => exact fun _ hc => .inl (Option.some.inj hc ▸ forall_isSpace hb c (hg ▸ .head _))
  | nil =>
    cases h with
    | nil    => exact .nil
    | cons _ => exact absurd (String.toList_eq_nil_iff.mp hg) (ha (List.cons_ne_nil _ _))

-- Texts that are one token each stay so with white space between them.
theorem exists_tokens (h : Spaced (ts.map Token.text) row)
    (hl : ∀ t ∈ ts, Lexeme.read? t.text.toList = some ⟨t.kind, t.text.toList⟩) (p : Position) :
    ∃ us, (⟨p, row.toList⟩ : Lexer).tokens = .ok us ∧
      us.map Token.lexeme = ts.map Token.lexeme := by
  induction ts generalizing row p with
  | nil =>
    cases h
    exact ⟨[], Lexer.tokens_nil p, rfl⟩
  | cons t ts ih =>
    cases h with
    | @cons _ row gap _ hb ha h =>
      have ⟨ht, hts⟩ := List.forall_mem_cons.mp hl
      have ⟨us, hu, hm⟩ := ih h hts ((p.after t.text.toList).after gap.toList)
      have hr := (Lexeme.read?_append (h.closes hb ha) (Lexeme.read?_ne_nil ht)).trans ht
      refine ⟨⟨t.kind, t.text, p⟩ :: us, ?_, ?_⟩
      · rw [String.append_assoc, String.toList_append, Lexer.tokens_of_read? hr,
          String.toList_append, Lexer.tokens_of_blank (forall_isSpace hb), hu, String.ofList_toList]
        rfl
      · rw [List.map_cons, List.map_cons, hm]
        rfl

-- So the tokens of a text are still its tokens when they are pulled apart.
theorem exists_tokenize (h : Spaced (ts.map Token.text) row) (ht : tokenize text = .ok ts)
    (hb : isBlank before) :
    ∃ us, tokenize (before ++ row) = .ok us ∧ us.map Token.lexeme = ts.map Token.lexeme := by
  have hl : ∀ t ∈ ts, Lexeme.read? t.text.toList = some ⟨t.kind, t.text.toList⟩ := fun t hm =>
    have ⟨_, hr⟩ := Lexer.exists_read?_of_mem ht hm
    Lexeme.read?_text hr
  have ⟨us, hu, hm⟩ := h.exists_tokens hl (Position.start.after before.toList)
  refine ⟨us, ?_, hm⟩
  rw [tokenize, Lexer.ofString, String.toList_append, Lexer.tokens_of_blank (forall_isSpace hb), hu]

end Spaced

-- Layout never matters. Tokens that agree are read alike, whatever their positions are, and a
-- text is read like any other one with the same tokens and more or other white space between
-- them.
theorem Query.sameAnswer :
    (∀ ⦃ts us : List Token⦄, List.Forall₂ Token.Agrees ts us →
      SameAnswer ts us (ofTokens ts) (ofTokens us)) ∧
    (∀ ⦃text before row : String⦄ ⦃ts : List Token⦄, tokenize text = .ok ts →
      isBlank before → Spaced (ts.map Token.text) row →
        ∃ us, tokenize (before ++ row) = .ok us ∧ us.map Token.lexeme = ts.map Token.lexeme ∧
          SameAnswer ts us (ofText text) (ofText (before ++ row))) := by
  refine ⟨fun ts us => ofTokens_sameAnswer, fun text before row ts ht hb hs => ?_⟩
  have ⟨us, hu, hm⟩ := hs.exists_tokenize ht hb
  refine ⟨us, hu, hm, ?_⟩
  rw [ofText, ofText, ht, hu]
  exact ofTokens_sameAnswer (Token.Agrees.forall₂_of_map_lexeme_eq hm.symm)

-- A comparison stays in one piece, and is as wrong on the next line as it was on the first one.
theorem Query.sameAnswer_comparison :
    let ts : List Token := [
      ⟨.identifier, "select", ⟨0, 1, 1⟩⟩, ⟨.identifier, "a", ⟨7, 1, 8⟩⟩,
      ⟨.operator, "<=", ⟨8, 1, 9⟩⟩, ⟨.number, "-5", ⟨10, 1, 11⟩⟩
    ]
    let us : List Token := [
      ⟨.path, "select", ⟨0, 1, 1⟩⟩, ⟨.identifier, "a", ⟨7, 1, 8⟩⟩,
      ⟨.operator, "<=", ⟨9, 2, 1⟩⟩, ⟨.punctuation, "-5", ⟨0, 1, 1⟩⟩
    ]
    List.Forall₂ Token.Agrees ts us ∧ SameAnswer ts us (ofTokens ts) (ofTokens us) ∧
      tokenize "select a<=-5" = .ok ts ∧ isBlank " " ∧
      Spaced (ts.map Token.text) "select a\n<= -5 " ∧
      ofText "select a<=-5" = .error (.expected "\"from\"" (.token "<=" ⟨8, 1, 9⟩)) ∧
      ofText (" " ++ "select a\n<= -5 ") = .error (.expected "\"from\"" (.token "<=" ⟨10, 2, 1⟩)) ∧
      ∃ us, tokenize (" " ++ "select a\n<= -5 ") = .ok us ∧
        us.map Token.lexeme = ts.map Token.lexeme ∧
        SameAnswer ts us (ofText "select a<=-5") (ofText (" " ++ "select a\n<= -5 ")) := by
  intro ts us
  have ha : List.Forall₂ Token.Agrees ts us :=
    .cons ⟨rfl, by decide⟩ <| .cons ⟨rfl, by decide⟩ <| .cons ⟨rfl, by decide⟩ <|
      .cons ⟨rfl, by decide⟩ .nil
  have ht : tokenize "select a<=-5" = .ok ts := by decide +kernel
  have hb : isBlank " " := by decide
  have h₁ : Spaced ["-5"] ("-5" ++ " " ++ "") := .cons _ (by decide) (by decide) .nil
  have h₂ : Spaced ["<=", "-5"] ("<=" ++ " " ++ "-5 ") := .cons _ (by decide) (by decide) h₁
  have h₃ : Spaced ["a", "<=", "-5"] ("a" ++ "\n" ++ "<= -5 ") := .cons _ (by decide) (by decide) h₂
  have hs : Spaced (ts.map Token.text) ("select" ++ " " ++ "a\n<= -5 ") :=
    .cons _ (by decide) (by decide) h₃
  exact ⟨ha, Query.sameAnswer.1 ha, ht, hb, hs, by decide +kernel, by decide +kernel,
    Query.sameAnswer.2 ht hb hs⟩

end SelectLang
