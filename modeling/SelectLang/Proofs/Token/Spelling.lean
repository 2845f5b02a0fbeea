import SelectLang.Proofs.Token.Lexer

namespace SelectLang

theorem Position.after_append (p : Position) (cs ds : List Char) :
    p.after (cs ++ ds) = (p.after cs).after ds :=
  List.foldl_append

variable {cs ds : List Char} {ts us : List Token} {p : Position} {k : Token.Kind} {t : Token}
variable {text text' : String}

-- From the position on, the characters are read as the tokens, if they are closed off behind.
def Spells (p : Position) (cs : List Char) (ts : List Token) : Prop :=
  ∀ ⦃rest⦄, Closes rest →
    (⟨p, cs ++ rest⟩ : Lexer).tokens = (⟨p.after cs, rest⟩ : Lexer).tokens.map (ts ++ ·)

namespace Spells

theorem nil (p : Position) : Spells p [] [] := by
  intro rest _
  cases h : (⟨p, rest⟩ : Lexer).tokens <;> simp [Position.after, h, Except.map]

theorem of_read? (h : Lexeme.read? cs = some ⟨k, cs⟩) : Spells p cs [⟨k, .ofList cs, p⟩] := by
  intro rest hr
  have := Lexeme.read?_append hr (Lexeme.read?_ne_nil h)
  exact Lexer.tokens_of_read? (this.trans h)

theorem space (h : Spells (p.advance ' ') cs ts) : Spells p (' ' :: cs) ts := by
  intro rest hr
  exact (Lexer.tokens_of_isSpace (by decide)).trans (h hr)

theorem append (h : Spells p cs ts) (hc : Closes ds) (h' : Spells (p.after cs) ds us) :
    Spells p (cs ++ ds) (ts ++ us) := by
  intro rest hr
  rw [List.append_assoc, h (hc.append hr), h' hr, Position.after_append]
  cases (⟨(p.after cs).after ds, rest⟩ : Lexer).tokens <;> simp [Except.map]

theorem tokenize_eq (h : Spells .start text.toList ts) : tokenize text = .ok ts := by
  have ht := h .nil
  rwa [Lexer.tokens_nil, Except.map, List.append_nil, List.append_nil] at ht

end Spells

-- A text that is one token as a whole.
def Lone (text : String) : Prop :=
  ∃ t, tokenize text = .ok [t] ∧ t.text = text

theorem lone_iff : Lone text ↔ ∃ k, Lexeme.read? text.toList = some ⟨k, text.toList⟩ := by
  constructor
  case mp =>
    rintro ⟨t, h, rfl⟩
    have ⟨cs, hr⟩ := Lexer.exists_read?_of_mem h List.mem_cons_self
    exact ⟨t.kind, Lexeme.read?_text hr⟩
  case mpr =>
    intro ⟨k, h⟩
    exact ⟨_, (Spells.of_read? h).tokenize_eq, String.ofList_toList⟩

-- Tokens can be told apart from the text around them.
theorem lone_of_mem (h : tokenize text = .ok ts) (ht : t ∈ ts) : Lone t.text := by
  have ⟨cs, hr⟩ := Lexer.exists_read?_of_mem h ht
  exact lone_iff.mpr ⟨t.kind, Lexeme.read?_text hr⟩

theorem lone_of_isPath (h : Word.isPath text) : Lone text := by
  have ⟨c, cs, ht, hc, hcs⟩ := Word.exists_toList_of_isPath h
  have hw : (Lexeme.word (c :: cs)).text = c :: cs := List.takeWhile_eq_self_iff.mpr hcs
  refine lone_iff.mpr ⟨(Lexeme.word (c :: cs)).kind, ?_⟩
  rw [ht, Lexeme.read?_word hc, ← hw, Lexeme.word_text]

theorem lone_toString (n : Nat) : Lone (toString n) := by
  have hd : ∀ c ∈ (toString n).toList, c.isDigit := fun c hc =>
    Nat.isDigit_of_mem_toDigits (n := n) (by decide) (by decide) (Nat.toList_repr ▸ hc)
  have hn : (toString n).toList ≠ [] := Nat.toList_repr ▸ Nat.toDigits_ne_nil
  exact lone_iff.mpr ⟨.number, Lexeme.read?_of_isDigit hn hd⟩

-- One token with the property.
def Single (P : Token → Prop) (ts : List Token) : Prop :=
  ∃ t, ts = [t] ∧ P t

-- Tokens of the one form in front of tokens of the other one.
def Joined (F G : List Token → Prop) (ts : List Token) : Prop :=
  ∃ us vs, ts = us ++ vs ∧ F us ∧ G vs

-- Wherever the text stands, it is read as tokens of the form.
def Spelled (text : String) (F : List Token → Prop) : Prop :=
  ∀ p, ∃ ts, Spells p text.toList ts ∧ F ts

namespace Spelled

variable {F G : List Token → Prop}

theorem empty : Spelled "" (· = []) :=
  fun p => ⟨[], .nil p, rfl⟩

theorem lone (h : Lone text) : Spelled text (Single (·.text = text)) := by
  intro p
  have ⟨k, hk⟩ := lone_iff.mp h
  exact ⟨_, .of_read? hk, _, rfl, String.ofList_toList⟩

theorem mono (h : Spelled text F) (hf : ∀ ⦃ts⦄, F ts → G ts) : Spelled text G := by
  intro p
  have ⟨ts, hs, h⟩ := h p
  exact ⟨ts, hs, hf h⟩

theorem space (h : Spelled text F) : Spelled (" " ++ text) F := by
  intro p
  have ⟨ts, hs, h⟩ := h (p.advance ' ')
  exact ⟨ts, by simpa using hs.space, h⟩

theorem append (h : Spelled text F) (hc : Closes text'.toList) (h' : Spelled text' G) :
    Spelled (text ++ text') (Joined F G) := by
  intro p
  have ⟨ts, hs, h⟩ := h p
  have ⟨us, hs', h'⟩ := h' (p.after text.toList)
  exact ⟨ts ++ us, String.toList_append ▸ hs.append hc hs', ts, us, rfl, h, h'⟩

theorem spaced (h : Spelled text F) (h' : Spelled text' G) :
    Spelled (text ++ " " ++ text') (Joined F G) := by
  rw [String.append_assoc]
  exact h.append (by simpa using .space _) h'.space

theorem exists_tokenize (h : Spelled text F) : ∃ ts, tokenize text = .ok ts ∧ F ts := by
  have ⟨ts, hs, h⟩ := h .start
  exact ⟨ts, hs.tokenize_eq, h⟩

end Spelled

end SelectLang
