import SelectLang.Proofs.Statement.Reading
import SelectLang.Proofs.Token.Spelling
import SelectLang.Query.Text

namespace SelectLang

variable {α : Type} {ts : List Token} {q : Query}

-- The queries that a statement can ask for. A first field with the name `all` would ask for
-- every field.
structure Query.Readable (q : Query) : Prop where
  fields     : ∀ name ∈ q.fields, Word.isIdentifier name
  first      : q.fields.head? ≠ some "all"
  collection : Word.isPath q.collection
  conditions : ∀ c ∈ q.conditions, Word.isIdentifier c.path ∧ Lone c.value
  sortKeys   : ∀ k ∈ q.sortKeys, Word.isIdentifier k.path

namespace Statement

theorem FieldsForm.isIdentifier {names : List String} (h : FieldsForm ts names) :
    (∀ name ∈ names, Word.isIdentifier name) ∧ names.head? ≠ some "all" := by
  cases h with
  | every => simp
  | named _ row first =>
    refine ⟨fun name hn => ?_, first⟩
    have ⟨_, item, _⟩ := row.exists_item hn
    cases item with
    | name h => exact h

theorem FilterForm.exists_value {cs : List Condition} (h : FilterForm ts cs) {c : Condition}
    (hc : c ∈ cs) : Word.isIdentifier c.path ∧ ∃ t ∈ ts, t.text = c.value := by
  cases h with
  | absent => cases hc
  | filter _ row =>
    have ⟨_, item, hs⟩ := row.exists_item hc
    cases item with
    | @condition p o v c path =>
      exact ⟨path, v, List.mem_cons_of_mem _ (hs (by simp)), rfl⟩

theorem OrderForm.isIdentifier {ks : List SortKey} (h : OrderForm ts ks) :
    ∀ k ∈ ks, Word.isIdentifier k.path := by
  intro k hk
  cases h with
  | absent => cases hk
  | order _ _ row =>
    have ⟨_, item, _⟩ := row.exists_item hk
    cases item with
    | plain path      => exact path
    | directed path _ => exact path

theorem Form.readable (h : Form ts q) (hl : ∀ t ∈ ts, Lone t.text) : q.Readable := by
  cases h with
  | statement hf hs hw ho _ =>
    have ⟨hn, hh⟩ := hf.isIdentifier
    refine ⟨hn, hh, ?_, fun c hc => ?_, ho.isIdentifier⟩
    case refine_1 => cases hs with | source _ path => exact path
    case refine_2 =>
      have ⟨hp, t, ht, hv⟩ := hw.exists_value hc
      exact ⟨hp, hv ▸ hl t (by simp [ht])⟩

end Statement

namespace Spelled

open Statement

-- A row of spelled items is spelled, if what stands between two of them is read as a separator,
-- whatever follows.
theorem intercalate {Item : List Token → α → Prop} {print : α → String}
    {between separator : String}
    (hb : ∀ {text F}, Spelled text F →
      Spelled (between ++ text) (Joined (Single (·.text = separator)) F))
    (hc : ∀ text, Closes (between ++ text).toList) {as : List α} (hne : as ≠ [])
    (h : ∀ a ∈ as, Spelled (print a) (Item · a)) :
    Spelled (between.intercalate (as.map print)) (Separated Item separator · as) := by
  induction as with
  | nil => contradiction
  | cons a as ih =>
    have ha := h a List.mem_cons_self
    cases as with
    | nil => exact ha.mono fun _ => .last
    | cons b as =>
      have hs := ih (List.cons_ne_nil b as) fun c hc => h c (List.mem_cons_of_mem a hc)
      rw [List.map_cons, List.map_cons, String.intercalate_cons_cons, String.append_assoc]
      refine (ha.append (hc _) (hb hs)).mono ?_
      rintro _ ⟨us, _, rfl, hu, _, vs, rfl, ⟨t, rfl, ht⟩, hv⟩
      exact .more hu ht hv

theorem closes_comma (text : String) : Closes (", " ++ text).toList := by
  simpa using .comma _

theorem comma {F : List Token → Prop} {text : String} (h : Spelled text F) :
    Spelled (", " ++ text) (Joined (Single (·.text = ",")) F) := by
  have hl : Lone "," := lone_iff.mpr ⟨.punctuation, by decide⟩
  have hs : ", " = "," ++ " " := by decide
  rw [hs, String.append_assoc]
  exact (lone hl).append (by simpa using .space _) h.space

theorem and {F : List Token → Prop} {text : String} (h : Spelled text F) :
    Spelled (" and " ++ text) (Joined (Single (·.text = "and")) F) := by
  have hl : Lone "and" := lone_of_isPath (by decide)
  have hs : " and " = " " ++ "and" ++ " " := by decide
  have ht : " and " ++ text = " " ++ ("and" ++ " " ++ text) := by
    simp only [hs, String.append_assoc]
  exact ht ▸ ((lone hl).spaced h).space

theorem identifier {name : String} (h : Word.isIdentifier name) :
    Spelled name (NameForm · name) := by
  refine (lone (lone_of_isPath (Word.isPath_of_isIdentifier h))).mono ?_
  rintro _ ⟨t, rfl, rfl⟩
  exact .name h

theorem symbol (c : Comparison) :
    Spelled c.symbol (Single fun t => t.kind = .operator ∧ t.text = c.symbol) := by
  intro p
  have hr : Lexeme.read? c.symbol.toList = some ⟨.operator, c.symbol.toList⟩ := by
    cases c <;> decide
  exact ⟨_, .of_read? hr, _, rfl, rfl, String.ofList_toList⟩

theorem condition {c : Condition} (hp : Word.isIdentifier c.path) (hv : Lone c.value) :
    Spelled c.text (ConditionForm · c) := by
  have ⟨path, comparison, value⟩ := c
  have h := ((identifier hp).spaced (symbol comparison)).spaced (lone hv)
  refine h.mono ?_
  rintro _ ⟨_, _, rfl, ⟨_, _, rfl, ⟨_⟩, o, rfl, hk, hs⟩, v, rfl, rfl⟩
  exact .condition hp hk hs

theorem sortKey {k : SortKey} (hp : Word.isIdentifier k.path) :
    Spelled k.text (SortKeyForm · k) := by
  have ⟨path, direction⟩ := k
  cases direction with
  | ascending =>
    refine (identifier hp).mono ?_
    rintro _ ⟨_⟩
    exact .plain hp
  | descending =>
    have hd : Lone "desc" := lone_of_isPath (by decide)
    have hs : " desc" = " " ++ "desc" := by decide
    rw [SortKey.text, hs, ← String.append_assoc]
    refine ((identifier hp).spaced (lone hd)).mono ?_
    rintro _ ⟨_, _, rfl, ⟨_⟩, d, rfl, hd⟩
    exact .directed hp hd

theorem fields (h : ∀ name ∈ q.fields, Word.isIdentifier name) (hf : q.fields.head? ≠ some "all") :
    Spelled ("select" ++ " " ++ q.fieldsText) (FieldsForm · q.fields) := by
  have hs : Lone "select" := lone_of_isPath (by decide)
  rw [Query.fieldsText, Query.selectsAll]
  split
  case isTrue he =>
    have hm : Lone "*" := lone_iff.mpr ⟨.punctuation, by decide⟩
    refine ((lone hs).spaced (lone hm)).mono ?_
    rintro _ ⟨_, _, rfl, ⟨t, rfl, ht⟩, u, rfl, hu⟩
    rw [List.isEmpty_iff.mp he]
    exact .every ht (.inl hu)
  case isFalse he =>
    have hr := intercalate comma closes_comma (mt List.isEmpty_iff.mpr he) fun a ha =>
      identifier (h a ha)
    rw [List.map_id'] at hr
    refine ((lone hs).spaced hr).mono ?_
    rintro _ ⟨_, _, rfl, ⟨t, rfl, ht⟩, hx⟩
    exact .named ht hx hf

theorem source {path : String} (h : Word.isPath path) :
    Spelled ("from" ++ " " ++ path) (SourceForm · path) := by
  have hs : Lone "from" := lone_of_isPath (by decide)
  refine ((lone hs).spaced (lone (lone_of_isPath h))).mono ?_
  rintro _ ⟨_, _, rfl, ⟨t, rfl, ht⟩, p, rfl, rfl⟩
  exact .source ht h

theorem filter {cs : List Condition}
    (h : ∀ c ∈ cs, Word.isIdentifier c.path ∧ Lone c.value) :
    Spelled (Query.clauseText "where" " and " (cs.map Condition.text)) (FilterForm · cs) := by
  have hw : Lone "where" := lone_of_isPath (by decide)
  have hc (text : String) : Closes (" and " ++ text).toList := by simpa using .space _
  cases cs with
  | nil => exact empty.mono fun _ ht => ht ▸ .absent
  | cons c cs =>
    have hr := intercalate and hc (List.cons_ne_nil c cs) fun a ha =>
      condition (h a ha).1 (h a ha).2
    have ht := ((lone hw).spaced hr).space
    rw [← String.append_assoc, ← String.append_assoc] at ht
    refine ht.mono ?_
    rintro _ ⟨_, _, rfl, ⟨t, rfl, ht⟩, hx⟩
    exact .filter ht hx

theorem order {ks : List SortKey} (h : ∀ k ∈ ks, Word.isIdentifier k.path) :
    Spelled (Query.clauseText "order by" ", " (ks.map SortKey.text)) (OrderForm · ks) := by
  have ho : Lone "order" := lone_of_isPath (by decide)
  have hb : Lone "by" := lone_of_isPath (by decide)
  have hs : "order by" = "order" ++ " " ++ "by" := by decide
  cases ks with
  | nil => exact empty.mono fun _ ht => ht ▸ .absent
  | cons k ks =>
    have hr := intercalate comma closes_comma (List.cons_ne_nil k ks) fun a ha => sortKey (h a ha)
    have ht := (((lone ho).spaced (lone hb)).spaced hr).space
    rw [← hs, ← String.append_assoc, ← String.append_assoc] at ht
    refine ht.mono ?_
    rintro _ ⟨_, _, rfl, ⟨_, _, rfl, ⟨t, rfl, ht⟩, u, rfl, hu⟩, hx⟩
    exact .order ht hu hx

theorem limit (n : Option UInt64) :
    Spelled (n.elim "" fun n => s!" limit {n.toNat}") (LimitForm · n) := by
  cases n with
  | none => exact empty.mono fun _ ht => ht ▸ .absent
  | some n =>
    have hl : Lone "limit" := lone_of_isPath (by decide)
    have hn : UInt64.ofNat n.toNat = n := UInt64.ofNat_toNat
    refine ((lone hl).spaced (lone (lone_toString n.toNat))).space.mono ?_
    rintro _ ⟨_, _, rfl, ⟨t, rfl, ht⟩, u, rfl, hu⟩
    exact hn ▸ .limit ht (hu ▸ Number.isNumeral_toString _) n.toNat_lt

theorem closes_clauseText (keyword between : String) (entries : List String) :
    Closes (Query.clauseText keyword between entries).toList := by
  cases entries with
  | nil      => exact .nil
  | cons _ _ => simpa [Query.clauseText] using .space _

theorem closes_limitText (q : Query) : Closes q.limitText.toList := by
  rw [Query.limitText]
  cases q.limit with
  | none   => exact .nil
  | some _ => simpa using .space _

-- No clause reaches into the next one, because each starts with a space.
theorem statement (h : q.Readable) : Spelled q.text (Form · q) := by
  have h₁ := fields h.fields h.first
  have h₂ := (source h.collection).space
  have h₃ := filter h.conditions
  have h₄ := order h.sortKeys
  have h₅ : Spelled q.limitText (LimitForm · q.limit) := limit q.limit
  have hs : Closes (" " ++ ("from" ++ " " ++ q.collection)).toList := by simpa using .space _
  have hw := closes_clauseText "where" " and " (q.conditions.map Condition.text)
  have ho := closes_clauseText "order by" ", " (q.sortKeys.map SortKey.text)
  have h := (((h₁.append hs h₂).append hw h₃).append ho h₄).append (closes_limitText q) h₅
  have ht : q.text = "select" ++ " " ++ q.fieldsText ++ (" " ++ ("from" ++ " " ++ q.collection))
      ++ Query.clauseText "where" " and " (q.conditions.map Condition.text)
      ++ Query.clauseText "order by" ", " (q.sortKeys.map SortKey.text) ++ q.limitText := by
    have hs : "select " = "select" ++ " " := by decide
    have hf : " from " = " " ++ "from" ++ " " := by decide
    simp only [Query.text, toString, hs, hf, String.append_assoc]
  rw [ht]
  refine h.mono ?_
  rintro _ ⟨_, _, rfl, ⟨_, _, rfl, ⟨_, _, rfl, ⟨_, _, rfl, hf, hs⟩, hw⟩, ho⟩, hl⟩
  simpa using Form.statement hf hs hw ho hl

end Spelled

namespace Query

variable {text : String}

theorem ofText_eq_ok_iff :
    ofText text = .ok q ↔ ∃ ts, tokenize text = .ok ts ∧ Statement.Form ts q := by
  rw [ofText]
  cases tokenize text with
  | error e => simp
  | ok ts   => simp [ofTokens_eq_ok_iff_reads, Statement.reads_statement]

theorem Readable.ofText_text (h : q.Readable) : ofText q.text = .ok q :=
  ofText_eq_ok_iff.mpr (Spelled.statement h).exists_tokenize

theorem readable_of_ofText (h : ofText text = .ok q) : q.Readable := by
  have ⟨_, ht, hf⟩ := ofText_eq_ok_iff.mp h
  exact hf.readable fun _ => lone_of_mem ht

-- A query is read back from its own statement if and only if it is readable. What was read
-- from any statement always is.
theorem ofText_text_eq_ok_iff (q : Query) :
    (ofText q.text = .ok q ↔ q.Readable) ∧ ∀ text, ofText text = .ok q → ofText q.text = .ok q :=
  ⟨⟨readable_of_ofText, Readable.ofText_text⟩, fun _ h => (readable_of_ofText h).ofText_text⟩

theorem ofText_text_eq_ok_iff_keywords :
    ∃ q, ofText "select from,asc from where where and = = order by desc desc,limit limit 07" = .ok q ∧
      ofText q.text = .ok q := by
  have h : ofText "select from,asc from where where and = = order by desc desc,limit limit 07" =
      .ok ⟨["from", "asc"], "where", [⟨"and", .eq, "="⟩],
        [⟨"desc", .descending⟩, ⟨"limit", .ascending⟩], some 7⟩ := by
    decide +kernel
  exact ⟨_, h, (ofText_text_eq_ok_iff _).2 _ h⟩

-- The statement for a first field with the name `all` asks for something else.
example :
    ofText (Query.text { fields := ["all"], collection := "a" }) = .ok { collection := "a" } := by
  decide +kernel

end Query

end SelectLang
