import SelectLang.Command.Check
import SelectLang.Proofs.Query.Layout
import SelectLang.Proofs.Token.Concatenation

namespace SelectLang

variable {text text' word lead statement before : String} {words : List String}
variable {ls ls' : List Lexeme}

theorem tokenize_eq_nil_iff : tokenize text = .ok [] ↔ isBlank text := by
  rw [isBlank, List.all_eq_true, ← List.dropWhile_eq_nil_iff]
  constructor
  case mp =>
    intro h
    generalize hr : tokenize text = result at h
    cases hr ▸ tokenize_splits text with
    | done hb                           => exact hb
    | @token _ _ _ _ _ others _ _ _     => cases others <;> cases h
    | stuck                             => cases h
  case mpr => exact fun h => (Splits.done h).tokens_eq

-- A text is read as tokens of these kinds and texts, wherever they stand.
def LexesAs (text : String) (ls : List Lexeme) : Prop :=
  ∃ ts, tokenize text = .ok ts ∧ ts.map Token.lexeme = ls

instance : Decidable (LexesAs text ls) :=
  decidable_of_iff ((tokenize text).map (·.map Token.lexeme) = .ok ls) <| by
    cases h : tokenize text <;> simp [LexesAs, h, Except.map]

namespace LexesAs

theorem nil_iff : LexesAs text [] ↔ isBlank text := by
  simp [LexesAs, tokenize_eq_nil_iff]

theorem unique (h : LexesAs text ls) (h' : LexesAs text ls') : ls = ls' := by
  have ⟨ts, ht, hm⟩ := h
  have ⟨ts', ht', hm'⟩ := h'
  cases ht.symm.trans ht'
  exact hm.symm.trans hm'

theorem exists_error (h : ¬ ∃ ls, LexesAs text ls) : ∃ e, tokenize text = .error e := by
  cases ht : tokenize text with
  | ok ts   => exact absurd ⟨_, ts, ht, rfl⟩ h
  | error e => exact ⟨e, rfl⟩

theorem blank_append_iff (hb : ∀ c ∈ before.toList, isSpace c) :
    LexesAs (before ++ text) ls ↔ LexesAs text ls := by
  have hm : Token.lexeme ∘ Token.shift before.toList = Token.lexeme := rfl
  rw [LexesAs, LexesAs, tokenize_blank_append hb]
  cases tokenize text <;> simp [shiftResult, hm]

-- A space keeps texts apart that are joined.
theorem append_iff :
    LexesAs (text ++ " " ++ text') ls ↔
      ∃ us vs, LexesAs text us ∧ LexesAs text' vs ∧ ls = us ++ vs := by
  have hs : ∀ c ∈ " ".toList, isSpace c := List.all_eq_true.mp (by decide)
  have hm (before) : Token.lexeme ∘ Token.shift before = Token.lexeme := rfl
  simp only [LexesAs, tokenize_append (by decide) hs]
  cases tokenize text <;> cases tokenize text' <;> simp [hm, eq_comm]

-- So words that are joined are read one by one.
theorem intercalate_iff :
    LexesAs (" ".intercalate words) ls ↔
      ∃ parts, List.Forall₂ LexesAs words parts ∧ ls = parts.flatten := by
  induction words generalizing ls with
  | nil =>
    have hb : LexesAs "" [] := nil_iff.mpr (by decide)
    simp only [String.intercalate_nil, List.forall₂_nil_left_iff, exists_eq_left, List.flatten_nil]
    exact ⟨fun h => h.unique hb, fun h => h ▸ hb⟩
  | cons word words ih =>
    simp only [List.forall₂_cons_left_iff]
    cases words with
    | nil => simp
    | cons _ _ =>
      rw [String.intercalate_cons_cons, append_iff]
      simp only [ih]
      constructor
      case mp  =>
        intro ⟨us, vs, hu, ⟨parts, hp, hv⟩, hl⟩
        exact ⟨us :: parts, ⟨us, parts, hu, hp, rfl⟩, hl.trans (hv ▸ rfl)⟩
      case mpr =>
        intro ⟨_, ⟨us, parts, hu, hp, he⟩, hl⟩
        exact ⟨us, _, hu, ⟨parts, hp, rfl⟩, hl.trans (he ▸ rfl)⟩

theorem exists_forall₂_iff :
    (∃ parts, List.Forall₂ LexesAs words parts) ↔ ∀ word ∈ words, ∃ ls, LexesAs word ls := by
  induction words with
  | nil => simp
  | cons word words ih =>
    rw [List.forall_mem_cons, ← ih]
    simp only [List.forall₂_cons_left_iff]
    constructor
    case mp  => exact fun ⟨_, ls, parts, hw, hp, _⟩ => ⟨⟨ls, hw⟩, parts, hp⟩
    case mpr => exact fun ⟨⟨ls, hw⟩, parts, hp⟩ => ⟨_, ls, parts, hw, hp, rfl⟩

theorem exists_intercalate_iff :
    (∃ ls, LexesAs (" ".intercalate words) ls) ↔ ∀ word ∈ words, ∃ ls, LexesAs word ls := by
  simp only [intercalate_iff, ← exists_forall₂_iff]
  exact ⟨fun ⟨_, parts, h, _⟩ => ⟨parts, h⟩, fun ⟨parts, h⟩ => ⟨_, parts, h, rfl⟩⟩

end LexesAs

theorem isBlank_append : isBlank (text ++ text') = (isBlank text && isBlank text') := by
  simp [isBlank]

theorem isBlank_intercalate_iff :
    isBlank (" ".intercalate words) ↔ ∀ word ∈ words, isBlank word := by
  have hs : isBlank " " := by decide
  induction words with
  | nil => simp [isBlank]
  | cons word words ih =>
    cases words with
    | nil      => simp
    | cons _ _ =>
      rw [List.forall_mem_cons, String.intercalate_cons_cons]
      refine Iff.trans ?_ (and_congr_right' ih)
      simp [isBlank_append, hs]

namespace Command

theorem statementOf?_eq_none_iff {lead : Option String} :
    statementOf? words lead = none ↔ ∀ word ∈ words, isBlank word := by
  simp [statementOf?]

theorem statementOf?_eq_some {lead : Option String} (h : statementOf? words lead = some statement) :
    (∃ word ∈ words, isBlank word = false) ∧ statement = " ".intercalate (lead.toList ++ words) := by
  simp only [statementOf?] at h
  split at h
  case isTrue     => cases h
  case isFalse hb =>
    cases h
    simpa using hb

theorem Check.run_eq_noInput_iff (c : Check) :
    c.run = .error .noInput ↔ tokenize c.statement = .ok [] := by
  rw [tokenize_eq_nil_iff, Check.run]
  split
  case isTrue hb  => simp [hb]
  case isFalse hb => cases Query.ofText c.statement <;> simp [hb]

-- Blank words are no statement. All others are joined to one in which each word, and the lead in
-- front of them, is read as if it stood alone, and of which there is something to check.
theorem statementOf?_lexesAs (words : List String) {lead : Option String}
    (hl : ∀ text ∈ lead, ∃ ls, LexesAs text ls) :
    (statementOf? words lead = none ↔ tokenize (" ".intercalate words) = .ok []) ∧
    (∀ statement, statementOf? words lead = some statement →
      ((∃ ls, LexesAs statement ls) ↔ ∀ word ∈ words, ∃ ls, LexesAs word ls) ∧
      (∀ ls, LexesAs statement ls ↔
        ∃ parts, List.Forall₂ LexesAs (lead.toList ++ words) parts ∧ ls = parts.flatten) ∧
      ∀ syntaxOnly format, Check.run { statement, syntaxOnly, format } ≠ .error .noInput) ∧
    ∀ c : Check, c.run = .error .noInput ↔ tokenize c.statement = .ok [] := by
  refine ⟨?_, fun statement hs => ?_, Check.run_eq_noInput_iff⟩
  case refine_1 => rw [statementOf?_eq_none_iff, tokenize_eq_nil_iff, isBlank_intercalate_iff]
  case refine_2 =>
    have ⟨⟨word, hw, hb⟩, he⟩ := statementOf?_eq_some hs
    refine ⟨?_, fun ls => he ▸ LexesAs.intercalate_iff, fun syntaxOnly format hn => ?_⟩
    case refine_1 =>
      rw [he, LexesAs.exists_intercalate_iff, List.forall_mem_append]
      exact and_iff_right fun text ht => hl text (Option.mem_toList.mp ht)
    case refine_2 =>
      have hn := tokenize_eq_nil_iff.mp <| (Check.run_eq_noInput_iff _).mp hn
      have hn := isBlank_intercalate_iff.mp (he ▸ hn) word (List.mem_append_right _ hw)
      cases hb.symm.trans hn

-- Neither an operator nor a number goes on in the next word.
theorem statementOf?_lexesAs_apart :
    let words := ["a>", "", "=", " \n-", "5"]
    let statement := "select a>  =  \n- 5"
    let parts : List (List Lexeme) := [
      [⟨.identifier, "select".toList⟩], [⟨.identifier, ['a']⟩, ⟨.operator, ['>']⟩], [],
      [⟨.operator, ['=']⟩], [⟨.punctuation, ['-']⟩], [⟨.number, ['5']⟩]
    ]
    (∀ text ∈ some "select", ∃ ls, LexesAs text ls) ∧
      statementOf? words (some "select") = some statement ∧
      List.Forall₂ LexesAs ("select" :: words) parts ∧ LexesAs statement parts.flatten ∧
      Check.run { statement } ≠ .error .noInput := by
  intro words statement parts
  have hl : ∀ text ∈ some "select", ∃ ls, LexesAs text ls := by
    rintro _ ⟨⟩
    exact ⟨[⟨.identifier, "select".toList⟩], by decide +kernel⟩
  have hs : statementOf? words (some "select") = some statement := by decide +kernel
  have hp : List.Forall₂ LexesAs ("select" :: words) parts := by decide +kernel
  have ⟨_, hr, hn⟩ := (statementOf?_lexesAs words hl).2.1 statement hs
  exact ⟨hl, hs, hp, (hr _).mpr ⟨parts, hp, rfl⟩, hn false .json⟩

end Command

end SelectLang
