import SelectLang.Proofs.Token.Lexer

namespace SelectLang

theorem Word.continues_of_opens {c : Char} (h : opens c) : continues c := by
  simp only [opens, Bool.or_eq_true] at h
  simp only [continues, Bool.or_eq_true]
  exact h.imp_left .inl

theorem Word.not_isPathMark_of_continues {c : Char} (h : continues c) : isPathMark c = false := by
  refine Bool.eq_false_iff.mpr fun hm => ?_
  have hm : c = '-' ∨ c = '/' := by simpa [isPathMark] using hm
  obtain rfl | rfl := hm <;> exact absurd h (by decide)

theorem Word.continues_of_continuesPath {c : Char} (h : continuesPath c)
    (hm : isPathMark c = false) : continues c := by
  simpa [continuesPath, hm] using h

namespace Lexeme

def IsDigits (cs : List Char) : Prop :=
  cs ≠ [] ∧ ∀ c ∈ cs, c.isDigit

-- An integer, or a decimal number with digits on both sides of the point.
inductive Unsigned : List Char → Prop
  | integer {ds} (digits : IsDigits ds) : Unsigned ds
  | decimal {ds es} (digits : IsDigits ds) (places : IsDigits es) : Unsigned (ds ++ '.' :: es)

-- The languages of tokens, each with the kind of its tokens.
inductive Valid : Token.Kind → List Char → Prop
  | identifier {c cs} (first : Word.opens c) (others : ∀ d ∈ cs, Word.continues d) :
    Valid .identifier (c :: cs)
  | path {c cs} (first : Word.opens c) (others : ∀ d ∈ cs, Word.continuesPath d)
    (mark : ∃ d ∈ cs, Word.isPathMark d) : Valid .path (c :: cs)
  | number {cs} (unsigned : Unsigned cs) : Valid .number cs
  | negative {cs} (unsigned : Unsigned cs) : Valid .number ('-' :: cs)
  | operator {cs} (mem : cs ∈ [['>'], ['>', '='], ['<'], ['<', '='], ['='], ['=', '=']]) :
    Valid .operator cs
  | punctuation {c} (mem : c ∈ [',', '.', '(', ')', '*', '+', '-']) : Valid .punctuation [c]

-- Of all tokens that the text starts with, the longest one.
structure Longest (cs : List Char) (k : Token.Kind) (text : List Char) : Prop where
  valid    : Valid k text
  isPrefix : text <+: cs
  longest  : ∀ ⦃k' text'⦄, text' ≠ [] → Valid k' text' → text' <+: cs → text'.length ≤ text.length

variable {c : Char} {cs ds rest text : List Char} {k k' : Token.Kind} {l : Lexeme}

namespace IsDigits

theorem exists_cons (h : IsDigits cs) : ∃ d ds, cs = d :: ds ∧ d.isDigit := by
  have ⟨hn, hd⟩ := h
  obtain ⟨d, ds, rfl⟩ := List.exists_cons_of_ne_nil hn
  exact ⟨d, ds, rfl, hd d List.mem_cons_self⟩

theorem toDigits (n : Nat) : IsDigits (Nat.toDigits 10 n) :=
  ⟨Nat.toDigits_ne_nil, fun _ => Nat.isDigit_of_mem_toDigits (by decide) (by decide)⟩

theorem takeWhile (h : c.isDigit) (cs : List Char) : IsDigits ((c :: cs).takeWhile Char.isDigit) :=
  ⟨by simp [h], fun _ => List.mem_takeWhile_imp⟩

theorem takeWhile_append (h : IsDigits cs) (rest : List Char) :
    (cs ++ rest).takeWhile Char.isDigit = cs ++ rest.takeWhile Char.isDigit :=
  List.takeWhile_append_of_pos h.2

theorem dropWhile_append (h : IsDigits cs) (rest : List Char) :
    (cs ++ rest).dropWhile Char.isDigit = rest.dropWhile Char.isDigit :=
  List.dropWhile_append_of_pos h.2

theorem fraction_append (h : IsDigits cs) (rest : List Char) :
    fraction ('.' :: (cs ++ rest)) = '.' :: (cs ++ rest.takeWhile Char.isDigit) := by
  obtain ⟨d, ds, rfl, hd⟩ := h.exists_cons
  rw [← h.takeWhile_append]
  exact if_pos hd

end IsDigits

namespace Unsigned

theorem exists_cons (h : Unsigned cs) : ∃ d ds, cs = d :: ds ∧ d.isDigit := by
  cases h with
  | integer h => exact h.exists_cons
  | decimal h _ =>
    obtain ⟨d, ds, rfl, hd⟩ := h.exists_cons
    exact ⟨d, _, rfl, hd⟩

-- What is read as a number is one, and no longer one could be read.
theorem numeral (h : c.isDigit) (cs : List Char) : Unsigned (numeral (c :: cs)) := by
  have hd := IsDigits.takeWhile h cs
  obtain hf | ⟨d, ds, hd', hf⟩ := fraction_cases ((c :: cs).dropWhile Char.isDigit)
  · rw [Lexeme.numeral, hf, List.append_nil]
    exact .integer hd
  · rw [Lexeme.numeral, hf]
    exact .decimal hd (.takeWhile hd' ds)

theorem isPrefix_numeral (h : Unsigned cs) (rest : List Char) :
    cs <+: Lexeme.numeral (cs ++ rest) := by
  cases h with
  | integer h =>
    rw [Lexeme.numeral, h.takeWhile_append, List.append_assoc]
    exact List.prefix_append ..
  | @decimal ds es h h' =>
    have ht : ('.' :: (es ++ rest)).takeWhile Char.isDigit = [] := rfl
    have hd : ('.' :: (es ++ rest)).dropWhile Char.isDigit = '.' :: (es ++ rest) := rfl
    rw [Lexeme.numeral, List.append_assoc, List.cons_append, h.takeWhile_append,
      h.dropWhile_append, ht, hd, h'.fraction_append, List.append_nil, ← List.cons_append,
      ← List.append_assoc]
    exact List.prefix_append ..

end Unsigned

theorem fraction_isPrefix (cs : List Char) : fraction cs <+: cs := by
  fun_cases fraction cs with
  | case1 => exact List.cons_prefix_cons.mpr ⟨rfl, List.takeWhile_prefix _⟩
  | case2 => exact List.nil_prefix
  | case3 => exact List.nil_prefix

theorem numeral_isPrefix (cs : List Char) : numeral cs <+: cs := by
  have h := fraction_isPrefix (cs.dropWhile Char.isDigit)
  have h := (List.prefix_append_right_inj (cs.takeWhile Char.isDigit)).mpr h
  rwa [List.takeWhile_append_dropWhile] at h

theorem read?_number (hw : Word.opens c = false) (hn : opensNumber (c :: cs)) :
    read? (c :: cs) = some (number (c :: cs)) := by
  simp [read?, hw, hn]

theorem valid_word (h : Word.opens c) (cs : List Char) :
    Valid (word (c :: cs)).kind (word (c :: cs)).text := by
  have ht : (c :: cs).takeWhile Word.continuesPath = c :: cs.takeWhile Word.continuesPath :=
    List.takeWhile_cons_of_pos (Word.continuesPath_of_opens h)
  have hc := Word.not_isPathMark_of_continues (Word.continues_of_opens h)
  simp only [word, ht, List.any_cons, hc, Bool.false_or]
  split
  case isTrue hm =>
    exact .path h (fun _ => List.mem_takeWhile_imp) (List.any_eq_true.mp hm)
  case isFalse hm' =>
    refine .identifier h fun d hd => ?_
    refine Word.continues_of_continuesPath (List.mem_takeWhile_imp hd) ?_
    exact Bool.eq_false_iff.mpr fun hm => hm' (List.any_eq_true.mpr ⟨d, hd, hm⟩)

theorem valid_number (h : opensNumber (c :: cs)) :
    Valid (number (c :: cs)).kind (number (c :: cs)).text ∧ (number (c :: cs)).text <+: c :: cs := by
  by_cases hc : c = '-'
  case pos =>
    subst hc
    refine ⟨.negative ?_, List.cons_prefix_cons.mpr ⟨rfl, numeral_isPrefix cs⟩⟩
    cases cs with
    | nil      => contradiction
    | cons d _ => exact .numeral h _
  case neg =>
    rw [number_of_ne hc]
    exact ⟨.number (.numeral (opensNumber_of_ne hc ▸ h) cs), numeral_isPrefix _⟩

theorem valid_comparison (h : isComparison c) (cs : List Char) :
    Valid (comparison c cs).kind (comparison c cs).text ∧ (comparison c cs).text <+: c :: cs := by
  have hc : c = '>' ∨ c = '<' ∨ c = '=' := by simpa [isComparison, or_assoc] using h
  fun_cases comparison c cs with
  | case1 cs =>
    refine ⟨.operator ?_, List.prefix_append [c, '='] cs⟩
    obtain rfl | rfl | rfl := hc <;> decide
  | case2 =>
    refine ⟨.operator ?_, List.prefix_append [c] cs⟩
    obtain rfl | rfl | rfl := hc <;> decide

-- What is read as a token is one.
theorem valid_of_read? (h : read? cs = some l) : Valid l.kind l.text ∧ l.text <+: cs := by
  fun_cases read? cs with
  | case1 => cases h
  | case2 c cs hw =>
    cases (read?_word hw).symm.trans h
    exact ⟨valid_word hw cs, List.takeWhile_prefix _⟩
  | case3 c cs hw hn =>
    cases (read?_number (Bool.eq_false_iff.mpr hw) hn).symm.trans h
    exact valid_number hn
  | case4 c cs hw hn hc =>
    cases (read?_comparison hc).symm.trans h
    exact valid_comparison hc cs
  | case5 c cs hw hn hc hp =>
    simp only [read?, hw, hn, hc, hp, if_true, if_false, Bool.false_eq_true] at h
    cases h
    exact ⟨.punctuation (List.contains_iff_mem.mp hp), List.prefix_append [c] cs⟩
  | case6 => simp_all [read?]

-- A word that the text starts with goes on as far as it can.
theorem isPrefix_word (h : ∀ d ∈ cs, Word.continuesPath d) (rest : List Char) :
    cs <+: (word (cs ++ rest)).text := by
  simp only [word, List.takeWhile_append_of_pos h]
  exact List.prefix_append ..

theorem word_kind (cs : List Char) :
    (word cs).kind = if (word cs).text.any Word.isPathMark then .path else .identifier :=
  rfl

theorem comparison_kind (c : Char) (cs : List Char) : (comparison c cs).kind = .operator := by
  fun_cases comparison c cs <;> rfl

theorem exists_cons_of_mem_operators
    (h : cs ∈ [['>'], ['>', '='], ['<'], ['<', '='], ['='], ['=', '=']]) :
    ∃ c ds, cs = c :: ds ∧ isComparison c ∧ (ds = [] ∨ ds = ['=']) := by
  simp only [List.mem_cons, List.not_mem_nil, or_false] at h
  obtain rfl | rfl | rfl | rfl | rfl | rfl := h <;> exact ⟨_, _, rfl, by decide, by decide⟩

theorem of_mem_punctuation (h : c ∈ [',', '.', '(', ')', '*', '+', '-']) :
    Word.opens c = false ∧ isComparison c = false ∧ isPunctuation c ∧ opensNumber [c] = false := by
  simp only [List.mem_cons, List.not_mem_nil, or_false] at h
  obtain rfl | rfl | rfl | rfl | rfl | rfl | rfl := h <;> decide

-- A token that the text starts with is read, or a longer one.
theorem Valid.exists_read? (h : Valid k text) (rest : List Char) :
    ∃ l, read? (text ++ rest) = some l ∧ text <+: l.text ∧ (l.text = text → l.kind = k) := by
  cases h with
  | @identifier c cs hc hcs =>
    have hcs : ∀ d ∈ c :: cs, Word.continues d :=
      List.forall_mem_cons.mpr ⟨Word.continues_of_opens hc, hcs⟩
    have hp := fun d hd => Word.continuesPath_of_continues (hcs d hd)
    refine ⟨_, read?_word hc, isPrefix_word hp rest, fun ht => ?_⟩
    rw [word_kind, ht, if_neg]
    simpa using fun d hd => Word.not_isPathMark_of_continues (hcs d hd)
  | @path c cs hc hcs hm =>
    have hp : ∀ d ∈ c :: cs, Word.continuesPath d :=
      List.forall_mem_cons.mpr ⟨Word.continuesPath_of_opens hc, hcs⟩
    refine ⟨_, read?_word hc, isPrefix_word hp rest, fun ht => ?_⟩
    rw [word_kind, ht, if_pos]
    have ⟨d, hd, hm⟩ := hm
    exact List.any_eq_true.mpr ⟨d, List.mem_cons_of_mem c hd, hm⟩
  | number h =>
    have hp := h.isPrefix_numeral rest
    obtain ⟨d, ds, rfl, hd⟩ := h.exists_cons
    have hm : d ≠ '-' := by
      rintro rfl
      contradiction
    have hn : opensNumber (d :: (ds ++ rest)) := opensNumber_of_ne hm ▸ hd
    have hr := read?_number (Word.not_opens_of_isDigit hd) hn
    rw [number_of_ne hm] at hr
    exact ⟨_, hr, hp, fun _ => rfl⟩
  | negative h =>
    have hp := h.isPrefix_numeral rest
    obtain ⟨d, ds, rfl, hd⟩ := h.exists_cons
    have hn : opensNumber ('-' :: (d :: ds ++ rest)) := hd
    exact ⟨_, read?_number (by decide) hn, List.cons_prefix_cons.mpr ⟨rfl, hp⟩, fun _ => rfl⟩
  | operator h =>
    obtain ⟨c, ds, rfl, hc, hds⟩ := exists_cons_of_mem_operators h
    refine ⟨_, read?_comparison hc, ?_, fun _ => comparison_kind ..⟩
    obtain rfl | rfl := hds
    · obtain ⟨es, ht, -⟩ := comparison_text c rest
      exact ht ▸ List.prefix_append [c] es
    · exact List.prefix_refl _
  | @punctuation c h =>
    have ⟨hw, hs, hp, ho⟩ := of_mem_punctuation h
    cases hn : opensNumber (c :: rest) with
    | true =>
      obtain ⟨ds, ht, hn', -⟩ := number_text hn
      refine ⟨_, read?_number hw hn, ht ▸ List.prefix_append [c] ds, fun he => ?_⟩
      obtain ⟨-, rfl⟩ := List.cons.inj (ht.symm.trans he)
      cases ho.symm.trans hn'
    | false =>
      refine ⟨⟨.punctuation, [c]⟩, ?_, List.prefix_refl _, fun _ => rfl⟩
      simp [read?, hw, hn, hs, hp]

theorem Valid.ne_nil (h : Valid k text) : text ≠ [] := by
  rintro rfl
  obtain ⟨l, hl, -⟩ := h.exists_read? []
  cases hl

-- The languages of two kinds have nothing in common: what is read of a token alone is the
-- token, so that it has the kind that is read.
theorem Valid.kind_eq (h : Valid k text) (h' : Valid k' text) : k = k' := by
  obtain ⟨l, hl, hp, hk⟩ := h.exists_read? []
  obtain ⟨l', hl', -, hk'⟩ := h'.exists_read? []
  cases hl.symm.trans hl'
  have ht := List.append_nil text ▸ (valid_of_read? hl).2
  have ht := hp.eq_of_length_le ht.length_le
  exact (hk ht.symm).symm.trans (hk' ht.symm)

theorem longest_of_read? (h : read? cs = some l) : Longest cs l.kind l.text where
  valid    := (valid_of_read? h).1
  isPrefix := (valid_of_read? h).2
  longest k text _ hv hp := by
    obtain ⟨rest, rfl⟩ := hp
    obtain ⟨l', hl', hp, -⟩ := hv.exists_read? rest
    cases h.symm.trans hl'
    exact hp.length_le

theorem Longest.eq (h : Longest cs k text) (h' : Longest cs k' ds) : k = k' ∧ text = ds := by
  have hl := h'.longest h.valid.ne_nil h.valid h.isPrefix
  have hl' := h.longest h'.valid.ne_nil h'.valid h'.isPrefix
  have ht : text = ds :=
    (List.prefix_of_prefix_length_le h.isPrefix h'.isPrefix hl).eq_of_length_le hl'
  exact ⟨h.valid.kind_eq (ht ▸ h'.valid), ht⟩

theorem read?_eq_some_iff_longest : read? cs = some ⟨k, text⟩ ↔ Longest cs k text := by
  constructor
  case mp  => exact longest_of_read?
  case mpr =>
    intro h
    obtain ⟨rest, rfl⟩ := h.isPrefix
    obtain ⟨⟨k', text'⟩, hl, -⟩ := h.valid.exists_read? rest
    obtain ⟨rfl, rfl⟩ := h.eq (longest_of_read? hl)
    exact hl

theorem read?_eq_none_iff : read? cs = none ↔ ∀ k text, text <+: cs → ¬Valid k text := by
  constructor
  case mp =>
    rintro h k text ⟨rest, rfl⟩ hv
    obtain ⟨l, hl, -⟩ := hv.exists_read? rest
    cases h.symm.trans hl
  case mpr =>
    intro h
    cases hr : read? cs with
    | none   => rfl
    | some l =>
      have ⟨hv, hp⟩ := valid_of_read? hr
      exact absurd hv (h _ _ hp)

end Lexeme

theorem valid_of_mem_tokenize {text : String} {t : Token} {ts : List Token}
    (h : tokenize text = .ok ts) (ht : t ∈ ts) : Lexeme.Valid t.kind t.text.toList :=
  have ⟨_, hr⟩ := Lexer.exists_read?_of_mem h ht
  (Lexeme.valid_of_read? hr).1

end SelectLang
