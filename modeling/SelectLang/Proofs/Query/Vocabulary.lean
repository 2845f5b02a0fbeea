import SelectLang.Proofs.Statement.Reading
import SelectLang.Proofs.Token.Placement

namespace SelectLang

variable {c : Char} {cs : List Char} {text : String} {k : Token.Kind} {t : Token} {ts : List Token}

namespace Word

-- The letters and the digits of names, which are those of an earlier edition of Unicode.
def isNameLetter (c : Char) : Bool :=
  isAlphabetic c && isSettled c

def isNameDigit (c : Char) : Bool :=
  isNumeric c && isSettled c

def opensName (c : Char) : Bool :=
  isNameLetter c || c == '_'

def continuesName (c : Char) : Bool :=
  isNameLetter c || isNameDigit c || c == '_'

def continuesNamePath (c : Char) : Bool :=
  continuesName c || isPathMark c

-- Both editions of Unicode take the character for the same.
def Agreed (c : Char) : Prop :=
  isNameLetter c = isAlphabetic c ∧ isNameDigit c = isNumeric c

instance : Decidable (Agreed c) :=
  inferInstanceAs (Decidable (_ ∧ _))

-- The marks of words are as old as words, so that only letters and digits can be too new.
theorem settled_mark {m : Char} (hm : isSettled m) : (c == m && isSettled c) = (c == m) := by
  cases h : c == m
  case false => rfl
  case true  => simp [beq_iff_eq.mp h, hm]

theorem opensName_eq : opensName c = (opens c && isSettled c) := by
  have hu := settled_mark (c := c) (m := '_') (by decide)
  simp [opensName, opens, isNameLetter, Bool.and_or_distrib_right, hu]

theorem continuesName_eq : continuesName c = (continues c && isSettled c) := by
  have hu := settled_mark (c := c) (m := '_') (by decide)
  simp [continuesName, continues, isNameLetter, isNameDigit, Bool.and_or_distrib_right, hu]

theorem continuesNamePath_eq : continuesNamePath c = (continuesPath c && isSettled c) := by
  have hd := settled_mark (c := c) (m := '-') (by decide)
  have hs := settled_mark (c := c) (m := '/') (by decide)
  simp [continuesNamePath, continuesPath, continuesName_eq, isPathMark, Bool.and_or_distrib_right,
    hd, hs]

theorem Agreed.opensName (h : Agreed c) : opensName c = opens c := by
  rw [Word.opensName, opens, h.1]

theorem Agreed.continuesName (h : Agreed c) : continuesName c = continues c := by
  rw [Word.continuesName, continues, h.1, h.2]

theorem Agreed.continuesNamePath (h : Agreed c) : continuesNamePath c = continuesPath c := by
  rw [Word.continuesNamePath, continuesPath, h.continuesName]

-- A name has nothing but letters and digits of names, and marks.
theorem isName_iff {part partOfName : Char → Bool}
    (hp : ∀ c, partOfName c = (part c && isSettled c)) :
    isName part text ↔
      ∃ c cs, text.toList = c :: cs ∧ opensName c ∧ ∀ d ∈ cs, partOfName d := by
  simp only [isName]
  cases text.toList with
  | nil       => simp
  | cons c cs =>
    simp only [List.all_cons, Bool.and_eq_true, List.all_eq_true, List.cons.injEq, hp,
      opensName_eq]
    constructor
    case mp =>
      rintro ⟨⟨hc, hcs⟩, hs, hss⟩
      exact ⟨c, cs, ⟨rfl, rfl⟩, ⟨hc, hs⟩, fun d hd => ⟨hcs d hd, hss d hd⟩⟩
    case mpr =>
      rintro ⟨_, _, ⟨rfl, rfl⟩, ⟨hc, hs⟩, h⟩
      exact ⟨⟨hc, fun d hd => (h d hd).1⟩, hs, fun d hd => (h d hd).2⟩

-- Where the editions agree, these are all letters and digits.
theorem isName_iff_of_agreed {part partOfName : Char → Bool}
    (hp : ∀ c, partOfName c = (part c && isSettled c))
    (hpart : ∀ c, Agreed c → partOfName c = part c) (h : ∀ c ∈ text.toList, Agreed c) :
    isName part text ↔ ∃ c cs, text.toList = c :: cs ∧ opens c ∧ ∀ d ∈ cs, part d := by
  rw [isName_iff hp]
  refine exists_congr fun c => exists_congr fun cs => and_congr_right fun ht => ?_
  rw [ht] at h
  obtain ⟨hc, hcs⟩ := List.forall_mem_cons.mp h
  rw [hc.opensName]
  exact and_congr_right fun _ => forall₂_congr fun d hd => by rw [hpart d (hcs d hd)]

end Word

namespace Lexeme

theorem valid_identifier_iff :
    Valid .identifier cs ↔ ∃ c ds, cs = c :: ds ∧ Word.opens c ∧ ∀ d ∈ ds, Word.continues d where
  mp h := by
    cases h with
    | identifier hc hds => exact ⟨_, _, rfl, hc, hds⟩
  mpr := by
    rintro ⟨c, ds, rfl, hc, hds⟩
    exact .identifier hc hds

-- A word with a mark in it is a path, and a word without one is an identifier.
theorem valid_word_iff :
    Valid .identifier cs ∨ Valid .path cs ↔
      ∃ c ds, cs = c :: ds ∧ Word.opens c ∧ ∀ d ∈ ds, Word.continuesPath d := by
  constructor
  case mp =>
    rintro (h | h)
    · cases h with
      | identifier hc hds =>
        exact ⟨_, _, rfl, hc, fun d hd => Word.continuesPath_of_continues (hds d hd)⟩
    · cases h with
      | path hc hds _ => exact ⟨_, _, rfl, hc, hds⟩
  case mpr =>
    rintro ⟨c, ds, rfl, hc, hds⟩
    by_cases hm : ∃ d ∈ ds, Word.isPathMark d
    case pos => exact .inr (.path hc hds hm)
    case neg =>
      refine .inl (.identifier hc fun d hd => ?_)
      exact Word.continues_of_continuesPath (hds d hd) (Bool.eq_false_iff.mpr fun h => hm ⟨d, hd, h⟩)

-- What is read of a token alone is the token.
theorem Valid.read?_eq (h : Valid k cs) : read? cs = some ⟨k, cs⟩ := by
  obtain ⟨⟨k', ds⟩, hl, hp, hk⟩ := h.exists_read? []
  rw [List.append_nil] at hl
  have ht : ds = cs := (hp.eq_of_length_le (valid_of_read? hl).2.length_le).symm
  subst ht
  exact hk rfl ▸ hl

end Lexeme

theorem Word.isIdentifier_iff_valid (h : ∀ c ∈ text.toList, Agreed c) :
    isIdentifier text ↔ Lexeme.Valid .identifier text.toList := by
  rw [Lexeme.valid_identifier_iff]
  exact isName_iff_of_agreed (fun _ => continuesName_eq) (fun _ => Agreed.continuesName) h

theorem Word.isPath_iff_valid (h : ∀ c ∈ text.toList, Agreed c) :
    isPath text ↔ Lexeme.Valid .identifier text.toList ∨ Lexeme.Valid .path text.toList := by
  rw [Lexeme.valid_word_iff]
  exact isName_iff_of_agreed (fun _ => continuesNamePath_eq) (fun _ => Agreed.continuesNamePath) h

theorem Comparison.isSome_ofSymbol?_iff_valid :
    (ofSymbol? text).isSome ↔ Lexeme.Valid .operator text.toList := by
  rw [Option.isSome_iff_exists]
  simp only [ofSymbol?_eq_some_iff]
  constructor
  case mp =>
    rintro ⟨c, rfl⟩
    cases c <;> exact .operator (by decide)
  case mpr =>
    intro h
    cases h with
    | operator hm =>
      have hs : ∀ cs ∈ [['>'], ['>', '='], ['<'], ['<', '='], ['='], ['=', '=']],
          ∃ c ∈ all, cs = c.symbol.toList := by decide
      have ⟨c, _, hc⟩ := hs _ hm
      exact ⟨c, String.toList_inj.mp hc⟩

-- A text that as a whole is one token of the kind.
def LoneOf (k : Token.Kind) (text : String) : Prop :=
  ∃ t, tokenize text = .ok [t] ∧ t.kind = k ∧ t.text = text

theorem loneOf_iff_valid : LoneOf k text ↔ Lexeme.Valid k text.toList where
  mp := by
    rintro ⟨t, h, rfl, rfl⟩
    exact valid_of_mem_tokenize h List.mem_cons_self
  mpr h := ⟨_, (Spells.of_read? h.read?_eq).tokenize_eq, rfl, String.ofList_toList⟩

-- No text has two kinds.
theorem valid_iff_kind_eq (h : Lexeme.Valid t.kind t.text.toList) :
    Lexeme.Valid k t.text.toList ↔ t.kind = k :=
  ⟨h.kind_eq, fun hk => hk ▸ h⟩

-- The tests that the grammar makes of a text ask what token it is, as far as the editions of
-- Unicode agree. A comparison is one in either edition.
theorem names_iff_loneOf :
    (∀ text : String, (∀ c ∈ text.toList, Word.Agreed c) →
      (Word.isIdentifier text ↔ LoneOf .identifier text) ∧
      (Word.isPath text ↔ LoneOf .identifier text ∨ LoneOf .path text)) ∧
    (∀ text : String,
      ((Comparison.ofSymbol? text).isSome ↔ LoneOf .operator text) ∧
      ∀ c, Comparison.ofSymbol? text = some c → c.symbol = text) ∧
    ∀ text ts, tokenize text = .ok ts → ∀ t ∈ ts,
      ((∀ c ∈ t.text.toList, Word.Agreed c) →
        (Word.isIdentifier t.text ↔ t.kind = .identifier) ∧
        (Word.isPath t.text ↔ t.kind = .identifier ∨ t.kind = .path)) ∧
      ((Comparison.ofSymbol? t.text).isSome ↔ t.kind = .operator) := by
  refine ⟨fun text h => ?_, fun text => ?_, fun text ts hs t ht => ?_⟩
  case refine_1 =>
    simp only [loneOf_iff_valid]
    exact ⟨Word.isIdentifier_iff_valid h, Word.isPath_iff_valid h⟩
  case refine_2 =>
    rw [loneOf_iff_valid]
    exact ⟨Comparison.isSome_ofSymbol?_iff_valid,
      fun c h => (Comparison.ofSymbol?_eq_some_iff.mp h).symm⟩
  case refine_3 =>
    have hv := valid_of_mem_tokenize hs ht
    simp only [← valid_iff_kind_eq hv]
    exact ⟨fun h => ⟨Word.isIdentifier_iff_valid h, Word.isPath_iff_valid h⟩,
      Comparison.isSome_ofSymbol?_iff_valid⟩

-- A path with a letter and a digit beyond those of ASCII.
theorem names_iff_loneOf_path :
    let text := "naïve/x²"
    let t : Token := ⟨.path, text, .start⟩
    (∀ c ∈ text.toList, Word.Agreed c) ∧ tokenize text = .ok [t] ∧
      (Word.isIdentifier text ↔ LoneOf .identifier text) ∧
      (Word.isPath text ↔ LoneOf .identifier text ∨ LoneOf .path text) ∧
      (Word.isIdentifier t.text ↔ t.kind = .identifier) ∧
      (Word.isPath t.text ↔ t.kind = .identifier ∨ t.kind = .path) := by
  intro text t
  have hall : text.toList.all (Word.Agreed ·) := by decide +kernel
  have ha : ∀ c ∈ text.toList, Word.Agreed c := fun c hc =>
    of_decide_eq_true (List.all_eq_true.mp hall c hc)
  have ht : tokenize text = .ok [t] := by decide +kernel
  have ⟨hi, hp⟩ := names_iff_loneOf.1 text ha
  exact ⟨ha, ht, hi, hp, (names_iff_loneOf.2.2 text [t] ht t List.mem_cons_self).1 ha⟩

-- A letter that is too new for a name.
example : ¬Word.Agreed '\u088f' := by
  decide +kernel

end SelectLang
