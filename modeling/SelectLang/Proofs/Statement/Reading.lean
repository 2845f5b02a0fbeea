import SelectLang.Proofs.Statement.Form

namespace SelectLang

theorem Comparison.ofSymbol?_eq_some_iff {symbol : String} {c : Comparison} :
    ofSymbol? symbol = some c ↔ symbol = c.symbol := by
  constructor
  case mp =>
    intro h
    have h : all.find? (·.symbol == symbol) = some c := h
    have := List.find?_some h
    exact (beq_iff_eq.mp this).symm
  case mpr =>
    rintro rfl
    cases c <;> rfl

namespace Clause

variable {α : Type}

-- What an optional clause yields: nothing, if it has no entries.
def entered (clause : List α → Clause) : List α → Value Clause
  | []      => .empty
  | a :: as => .node (clause (a :: as))

theorem entered_eq_node {clause : List α → Clause} {as : List α} (h : as ≠ []) :
    entered clause as = .node (clause as) := by
  cases as with
  | nil      => contradiction
  | cons _ _ => rfl

-- What an optional limit yields.
def limited (limit : Option UInt64) : Value Clause :=
  limit.elim .empty fun n => .node (.limit n)

-- A row of values is read back as the entries that it was made of.
theorem mapM_values {m : Type → Type} [Monad m] [LawfulMonad m] (read : Value Clause → m α)
    (value : α → Value Clause) (h : ∀ a, read (value a) = pure a) (as : List α) :
    (as.map value).mapM read = pure as := by
  have hr : read ∘ value = fun a => pure (id a) := funext h
  rw [List.mapM_map, hr, List.mapM_pure, List.map_id]

theorem readQuery_eq (names : List String) (path : String) (cs : List Condition)
    (ks : List SortKey) (n : Option UInt64) :
    readQuery (.list [.node (.fields names), .node (.collection path), entered .conditions cs,
      entered .sortKeys ks, limited n]) = .ok (.node (.query ⟨names, path, cs, ks, n⟩)) := by
  cases cs <;> cases ks <;> cases n <;> rfl

end Clause

open SelectLang.Parser Clause

namespace Statement

variable {scope : Scope Clause} {ts rest : List Token} {v : Value Clause}

-- A clause is made of whatever its parts read, and so stands for what they are a form of.
def Made {α : Type} (read : Value Clause → Reading) (parts : List Grammar)
    (Form : List Token → α → Prop) (value : α → Value Clause) : Prop :=
  ∀ ⦃scope ts w rest⦄, Reads scope (.seq parts) ts w rest →
    ∃ xs a, ts = xs ++ rest ∧ Form xs a ∧ read w = .ok (value a)

theorem reads_clause {read : Value Clause → Reading} {parts : List Grammar} :
    Reads scope (clause read parts) ts v rest ↔
      ∃ w, Reads scope (.seq parts) ts w rest ∧ read w = .ok v := by
  rw [clause, reads_action]
  constructor
  case mp =>
    rintro ⟨w, _, -, h, hr⟩
    exact ⟨w, h, hr⟩
  case mpr =>
    intro ⟨w, h, hr⟩
    have ⟨xs, hx⟩ := h.suffix
    exact ⟨w, xs, hx.symm, h, hr⟩

namespace Made

variable {α : Type} {read : Value Clause → Reading} {parts : List Grammar}
variable {Form : List Token → α → Prop} {value : α → Value Clause} {out : α}

theorem sound (h : Made read parts Form value) : Sound (clause read parts) Form value := by
  intro scope ts v rest hv
  have ⟨_, hw, hr⟩ := reads_clause.mp hv
  have ⟨xs, a, hx, ha, hm⟩ := h hw
  cases hm.symm.trans hr
  exact ⟨xs, a, hx, ha, rfl⟩

theorem sound_optional (h : Made read parts Form value) (hf : Form [] out)
    (hv : value out = .empty) : Sound (optional (clause read parts)) Form value := by
  intro scope ts v rest hr
  obtain hr | ⟨-, rfl, rfl⟩ := reads_optional.mp hr
  · exact h.sound hr
  · exact ⟨[], out, rfl, hf, hv.symm⟩

end Made

-- What is committed behind a keyword.
theorem reads_seq_keyword {keyword : String} {parts : List Grammar} :
    Reads scope (seq (literal keyword :: commit :: parts)) ts v rest ↔
      ∃ t mid w, ts = t :: mid ∧ t.text = keyword ∧ Reads scope (.seq parts) mid w rest ∧
        v = .cons (.token keyword) (.cons .empty w) := by
  simp only [reads_seq_cons, reads_literal, reads_commit]
  constructor
  case mp =>
    rintro ⟨_, mid, _, ⟨t, rfl, ht, rfl⟩, ⟨_, _, w, ⟨rfl, rfl⟩, hw, rfl⟩, rfl⟩
    exact ⟨t, _, w, rfl, ht, hw, rfl⟩
  case mpr =>
    rintro ⟨t, mid, w, rfl, ht, hw, rfl⟩
    exact ⟨_, mid, _, ⟨t, rfl, ht, rfl⟩, ⟨_, _, w, ⟨rfl, rfl⟩, hw, rfl⟩, rfl⟩

theorem reads_keyword {read : Value Clause → Reading} {keyword : String} {parts : List Grammar} :
    Reads scope (clause read (literal keyword :: commit :: parts)) ts v rest ↔
      ∃ t mid w, ts = t :: mid ∧ t.text = keyword ∧ Reads scope (.seq parts) mid w rest ∧
        read (.cons (.token keyword) (.cons .empty w)) = .ok v := by
  rw [reads_clause]
  constructor
  case mp =>
    intro ⟨_, h, hr⟩
    obtain ⟨t, mid, w, hs, ht, hw, rfl⟩ := reads_seq_keyword.mp h
    exact ⟨t, mid, w, hs, ht, hw, hr⟩
  case mpr =>
    intro ⟨t, mid, w, hs, ht, hw, hr⟩
    exact ⟨_, reads_seq_keyword.mpr ⟨t, mid, w, hs, ht, hw, rfl⟩, hr⟩

theorem rejects_keyword {read : Value Clause → Reading} {keyword : String} {parts : List Grammar}
    (h : Avoids [keyword] ts) : Rejects scope (clause read (literal keyword :: parts)) ts :=
  .action (.seq (rejects_literal.mpr h)) _

theorem sound_identifier : Sound identifier NameForm .token := by
  intro scope ts v rest h
  obtain ⟨t, rfl, ht, rfl⟩ := reads_predicate.mp h
  exact ⟨[t], _, rfl, .name ht, rfl⟩

theorem complete_identifier : Complete identifier NameForm .token fun _ => True := by
  rintro scope _ _ rest ⟨ht⟩ -
  exact reads_predicate.mpr ⟨_, rfl, ht, rfl⟩

theorem reads_comparison :
    Reads scope comparison ts v rest ↔
      ∃ t, ∃ c : Comparison, ts = t :: rest ∧ t.kind = .operator ∧ t.text = c.symbol ∧
        v = .token c.symbol := by
  have hc (t : Token) : (t.kind == .operator && (Comparison.ofSymbol? t.text).isSome) = true ↔
      t.kind = .operator ∧ ∃ c : Comparison, t.text = c.symbol := by
    rw [Bool.and_eq_true, Option.isSome_iff_exists]
    simp only [Comparison.ofSymbol?_eq_some_iff]
    exact and_congr_left' beq_iff_eq
  simp only [comparison, reads_predicate, hc]
  constructor
  case mp =>
    rintro ⟨t, rfl, ⟨hk, c, hs⟩, rfl⟩
    exact ⟨t, c, rfl, hk, hs, by rw [hs]⟩
  case mpr =>
    rintro ⟨t, c, rfl, hk, hs, rfl⟩
    exact ⟨t, rfl, ⟨hk, c, hs⟩, by rw [hs]⟩

theorem readCondition_eq (path value : String) (c : Comparison) :
    readCondition (.list [.token path, .token c.symbol, .token value]) =
      .ok (.node (.condition ⟨path, c, value⟩)) := by
  simp only [readCondition, Value.toList, Comparison.ofSymbol?_eq_some_iff.mpr rfl, accept]

theorem made_condition :
    Made readCondition [identifier, comparison, value] ConditionForm (.node <| .condition ·) := by
  intro scope ts w rest h
  simp only [reads_seq_cons, reads_seq_nil] at h
  obtain ⟨_, _, _, h₁, ⟨_, _, _, h₂, ⟨_, _, _, h₃, ⟨rfl, rfl⟩, rfl⟩, rfl⟩, rfl⟩ := h
  obtain ⟨p, rfl, hp, rfl⟩ := reads_predicate.mp h₁
  obtain ⟨o, c, rfl, hk, hs, rfl⟩ := reads_comparison.mp h₂
  obtain ⟨u, rfl, -, rfl⟩ := reads_predicate.mp h₃
  exact ⟨[p, o, u], _, rfl, .condition hp hk hs, readCondition_eq ..⟩

theorem sound_condition : Sound condition ConditionForm (.node <| .condition ·) :=
  made_condition.sound

theorem complete_condition :
    Complete condition ConditionForm (.node <| .condition ·) fun _ => True := by
  intro scope _ _ rest h _
  cases h with
  | @condition p o u c hp hk hs =>
    have h₂ : Reads scope comparison (o :: u :: rest) _ _ :=
      reads_comparison.mpr ⟨o, c, rfl, hk, hs, rfl⟩
    have h₃ : Reads scope value (u :: rest) _ _ := .predicate rfl
    have hv := Reads.cons h₂ (.cons h₃ .nil)
    exact reads_clause.mpr ⟨_, .cons (.predicate hp) hv, readCondition_eq ..⟩

theorem reads_direction :
    Reads scope (choice [literal "asc", literal "desc", empty]) ts v rest ↔
      (∃ t, ∃ d : Direction, ts = t :: rest ∧ t.text = d.name ∧ v = .token d.name) ∨
        Avoids ["asc", "desc"] ts ∧ v = .empty ∧ rest = ts := by
  simp only [reads_choice_cons, reads_choice_nil, reads_literal, reads_empty, rejects_literal,
    Avoids.cons_cons_iff]
  constructor
  case mp =>
    rintro (⟨t, rfl, ht, rfl⟩ | ⟨ha, ⟨t, rfl, ht, rfl⟩ | ⟨hd, ⟨rfl, rfl⟩ | ⟨-, ⟨⟩⟩⟩⟩)
    · exact .inl ⟨t, .ascending, rfl, ht, rfl⟩
    · exact .inl ⟨t, .descending, rfl, ht, rfl⟩
    · exact .inr ⟨⟨ha, hd⟩, rfl, rfl⟩
  case mpr =>
    rintro (⟨t, d, rfl, ht, rfl⟩ | ⟨⟨ha, hd⟩, rfl, rfl⟩)
    · cases d with
      | ascending  => exact .inl ⟨t, rfl, ht, rfl⟩
      | descending => exact .inr ⟨.head (by simp [ht, Direction.name]), .inl ⟨t, rfl, ht, rfl⟩⟩
    · exact .inr ⟨ha, .inr ⟨hd, .inl ⟨rfl, rfl⟩⟩⟩

theorem readSortKey_name (path : String) (d : Direction) :
    readSortKey (.list [.token path, .token d.name]) = .ok (.node (.sortKey ⟨path, d⟩)) := by
  cases d <;> rfl

theorem made_sortKey :
    Made readSortKey [identifier, .choice [.literal "asc", .literal "desc", .empty]] SortKeyForm
      (.node <| .sortKey ·) := by
  intro scope ts w rest h
  obtain ⟨_, _, _, h₁, h₂, rfl⟩ := reads_seq_pair.mp h
  obtain ⟨p, rfl, hp, rfl⟩ := reads_predicate.mp h₁
  obtain ⟨t, d, rfl, ht, rfl⟩ | ⟨-, rfl, rfl⟩ := reads_direction.mp h₂
  · exact ⟨[p, t], _, rfl, .directed hp ht, readSortKey_name ..⟩
  · exact ⟨[p], _, rfl, .plain hp, rfl⟩

theorem sound_sortKey : Sound sortKey SortKeyForm (.node <| .sortKey ·) :=
  made_sortKey.sound

-- A direction that follows a key belongs to the key.
theorem complete_sortKey :
    Complete sortKey SortKeyForm (.node <| .sortKey ·) (Avoids ["asc", "desc"]) := by
  intro scope xs k rest h hr
  cases h with
  | @plain p hp =>
    have h₂ : Reads scope _ rest _ rest := reads_direction.mpr (.inr ⟨hr, rfl, rfl⟩)
    exact reads_clause.mpr ⟨_, .cons (.predicate hp) (.cons h₂ .nil), rfl⟩
  | @directed p t d hp ht =>
    have h₂ : Reads scope _ (t :: rest) _ rest := reads_direction.mpr (.inl ⟨t, d, rfl, ht, rfl⟩)
    exact reads_clause.mpr ⟨_, .cons (.predicate hp) (.cons h₂ .nil), readSortKey_name ..⟩

theorem exists_first_name {names : List String} (h : Separated NameForm "," ts names) :
    ∃ t ts', ts = t :: ts' ∧ names.head? = some t.text ∧ Word.isIdentifier t.text := by
  cases h with
  | last item     => cases item with | name ht => exact ⟨_, _, rfl, rfl, ht⟩
  | more item _ _ => cases item with | name ht => exact ⟨_, _, rfl, rfl, ht⟩

theorem readFields_tokens (names : List String) :
    readFields (.list [.token "select", .list (names.map .token)]) =
      .ok (.node (.fields names)) := by
  have hm := mapM_values Value.token? .token (fun _ => rfl) names
  simp only [readFields, Value.toList, hm]
  rfl

theorem made_fields :
    Made readFields
      [.literal "select", .choice [.literal "*", .literal "all", .sepBy identifier (.literal ",")]]
      FieldsForm (.node <| .fields ·) := by
  intro scope ts w rest h
  obtain ⟨_, _, w, h₁, h₂, rfl⟩ := reads_seq_pair.mp h
  obtain ⟨t, rfl, ht, rfl⟩ := reads_literal.mp h₁
  simp only [reads_choice_cons, reads_choice_nil, reads_literal, rejects_literal] at h₂
  obtain ⟨u, rfl, hu, rfl⟩ | ⟨-, ⟨u, rfl, hu, rfl⟩ | ⟨ha, h₂ | ⟨-, ⟨⟩⟩⟩⟩ := h₂
  · exact ⟨[t, u], [], rfl, .every ht (.inl hu), rfl⟩
  · exact ⟨[t, u], [], rfl, .every ht (.inr hu), rfl⟩
  · obtain ⟨xs, as, rfl, hx, rfl⟩ := sound_identifier.sepBy h₂
    have ⟨u, us, hu, hn, _⟩ := exists_first_name hx
    refine ⟨t :: xs, as, rfl, .named ht hx fun hf => ?_, readFields_tokens as⟩
    exact ha u (by simp [hu]) (by simpa [hn] using hf)

theorem sound_fields : Sound fields FieldsForm (.node <| .fields ·) :=
  made_fields.sound

theorem reads_every {t u : Token} (ht : t.text = "select") (hu : u.text = "*" ∨ u.text = "all")
    (rest : List Token) : Reads scope fields (t :: u :: rest) (.node (.fields [])) rest := by
  have h₂ : Reads scope (choice [literal "*", literal "all", sepBy identifier (literal ",")])
      (u :: rest) (.token u.text) rest := by
    simp only [reads_choice_cons, reads_literal, rejects_literal]
    obtain hu | hu := hu
    · exact .inl ⟨u, rfl, hu, by rw [hu]⟩
    · exact .inr ⟨.head (by simp [hu]), .inl ⟨u, rfl, hu, by rw [hu]⟩⟩
  exact reads_clause.mpr ⟨_, .cons (.literal ht) (.cons h₂ .nil), rfl⟩

theorem reads_names {t : Token} {xs : List Token} {names : List String} (ht : t.text = "select")
    (hx : Separated NameForm "," xs names) (hf : names.head? ≠ some "all")
    (h : Reads scope (sepBy identifier (literal ",")) (xs ++ rest) (.list (names.map .token)) rest) :
    Reads scope fields (t :: (xs ++ rest)) (.node (.fields names)) rest := by
  have ⟨u, us, hu, hn, hi⟩ := exists_first_name hx
  have h₂ : Reads scope (choice [literal "*", literal "all", sepBy identifier (literal ",")])
      (xs ++ rest) (.list (names.map .token)) rest := by
    simp only [reads_choice_cons, rejects_literal]
    refine .inr ⟨hu ▸ .head ?_, .inr ⟨hu ▸ .head ?_, .inl h⟩⟩
    · rw [List.mem_singleton]
      rintro hs
      rw [hs] at hi
      exact absurd hi (by decide)
    · simpa [hn] using hf
  exact reads_clause.mpr ⟨_, .cons (.literal ht) (.cons h₂ .nil), readFields_tokens names⟩

theorem complete_fields : Complete fields FieldsForm (.node <| .fields ·) (Avoids [","]) := by
  intro scope xs names rest h hr
  cases h with
  | every ht hu => exact reads_every ht hu rest
  | named ht hx hf =>
    exact reads_names ht hx hf (complete_identifier.sepBy (fun _ _ _ => trivial) hx ⟨trivial, hr⟩)

theorem made_source :
    Made readSource [.literal "from", path] SourceForm (.node <| .collection ·) := by
  intro scope ts w rest h
  obtain ⟨_, _, w, h₁, h₂, rfl⟩ := reads_seq_pair.mp h
  obtain ⟨t, rfl, ht, rfl⟩ := reads_literal.mp h₁
  obtain ⟨p, rfl, hp, rfl⟩ := reads_predicate.mp h₂
  exact ⟨[t, p], _, rfl, .source ht hp, rfl⟩

theorem sound_source : Sound source SourceForm (.node <| .collection ·) :=
  made_source.sound

theorem complete_source : Complete source SourceForm (.node <| .collection ·) fun _ => True := by
  rintro scope _ _ rest ⟨ht, hp⟩ -
  exact reads_clause.mpr ⟨_, .cons (.literal ht) (.cons (.predicate hp) .nil), rfl⟩

theorem readFilter_conditions (cs : List Condition) :
    readFilter (.list [.token "where", .empty, .list (cs.map (.node <| .condition ·))]) =
      .ok (.node (.conditions cs)) :=
  congrArg (Except.bind · (accept <| conditions ·)) <|
    mapM_values asCondition (.node <| .condition ·) (fun _ => rfl) cs

theorem made_filter :
    Made readFilter [.literal "where", .commit, .sepBy condition (.literal "and")] FilterForm
      (entered .conditions) := by
  intro scope ts w rest h
  obtain ⟨t, _, _, rfl, ht, h₁, rfl⟩ := reads_seq_keyword.mp h
  obtain ⟨_, h₂, rfl⟩ := reads_seq_singleton.mp h₁
  obtain ⟨xs, cs, rfl, hx, rfl⟩ := sound_condition.sepBy h₂
  exact ⟨t :: xs, cs, rfl, .filter ht hx, entered_eq_node hx.ne_nil ▸ readFilter_conditions cs⟩

theorem sound_filter : Sound (optional filter) FilterForm (entered .conditions) :=
  made_filter.sound_optional .absent rfl

theorem complete_filter :
    Complete (optional filter) FilterForm (entered .conditions) (Avoids ["where", "and"]) := by
  intro scope _ cs rest h hr
  have ⟨hw, ha⟩ := Avoids.cons_cons_iff.mp hr
  refine reads_optional.mpr ?_
  cases h with
  | absent => exact .inr ⟨rejects_keyword hw, rfl, rfl⟩
  | filter ht hx =>
    have h₂ : Reads scope (sepBy condition (literal "and")) _ _ rest :=
      complete_condition.sepBy (fun _ _ _ => trivial) hx ⟨trivial, ha⟩
    rw [entered_eq_node hx.ne_nil]
    exact .inl (reads_keyword.mpr ⟨_, _, _, rfl, ht, .cons h₂ .nil, readFilter_conditions cs⟩)

theorem readOrder_sortKeys (ks : List SortKey) :
    readOrder (.list [.token "order", .empty, .token "by", .list (ks.map (.node <| .sortKey ·))]) =
      .ok (.node (.sortKeys ks)) :=
  congrArg (Except.bind · (accept <| sortKeys ·)) <|
    mapM_values asSortKey (.node <| .sortKey ·) (fun _ => rfl) ks

theorem made_order :
    Made readOrder [.literal "order", .commit, .literal "by", .sepBy sortKey (.literal ",")]
      OrderForm (entered .sortKeys) := by
  intro scope ts w rest h
  obtain ⟨t, _, _, rfl, ht, h₀, rfl⟩ := reads_seq_keyword.mp h
  obtain ⟨_, _, _, h₁, h₂, rfl⟩ := reads_seq_pair.mp h₀
  obtain ⟨u, rfl, hu, rfl⟩ := reads_literal.mp h₁
  obtain ⟨xs, ks, rfl, hx, rfl⟩ := sound_sortKey.sepBy h₂
  exact ⟨t :: u :: xs, ks, rfl, .order ht hu hx, entered_eq_node hx.ne_nil ▸ readOrder_sortKeys ks⟩

theorem sound_order : Sound (optional order) OrderForm (entered .sortKeys) :=
  made_order.sound_optional .absent rfl

theorem complete_order :
    Complete (optional order) OrderForm (entered .sortKeys)
      (Avoids ["order", ",", "asc", "desc"]) := by
  intro scope _ ks rest h hr
  have ⟨ho, hr⟩ := Avoids.cons_cons_iff.mp hr
  have ⟨hc, hd⟩ := Avoids.cons_cons_iff.mp hr
  refine reads_optional.mpr ?_
  cases h with
  | absent => exact .inr ⟨rejects_keyword ho, rfl, rfl⟩
  | order ht hu hx =>
    have h₂ : Reads scope (sepBy sortKey (literal ",")) _ _ rest :=
      complete_sortKey.sepBy (fun _ _ hc => .head (by simp [hc])) hx ⟨hd, hc⟩
    have h := Reads.cons (.literal hu) (.cons h₂ .nil)
    rw [entered_eq_node hx.ne_nil]
    exact .inl (reads_keyword.mpr ⟨_, _, _, rfl, ht, h, readOrder_sortKeys ks⟩)

theorem readCount_singleton_eq_ok_iff {t : Token} :
    readCount [t] = .ok v ↔
      ∃ n, Number.IsNumeral t.text n ∧ n < 2 ^ 64 ∧ v = .node (.limit (.ofNat n)) := by
  have hr : readCount [t] = .ok v ↔
      ∃ m, Number.readUInt64 t.text = .ok m ∧ v = .node (.limit m) := by
    simp only [readCount, List.head?_cons, Option.elim_some]
    cases Number.readUInt64 t.text with
    | ok m    => simp [accept, eq_comm]
    | error e => simp
  rw [hr]
  constructor
  case mp =>
    rintro ⟨_, h, rfl⟩
    obtain ⟨n, hn, hb, rfl⟩ := Number.readUInt64_eq_ok_iff.mp h
    exact ⟨n, hn, hb, rfl⟩
  case mpr =>
    rintro ⟨n, hn, hb, rfl⟩
    exact ⟨_, Number.readUInt64_eq_ok_iff.mpr ⟨n, hn, hb, rfl⟩, rfl⟩

theorem reads_count :
    Reads scope count ts v rest ↔
      ∃ t n, ts = t :: rest ∧ Number.IsNumeral t.text n ∧ n < 2 ^ 64 ∧
        v = .node (.limit (.ofNat n)) := by
  simp only [count, reads_action, reads_any]
  constructor
  case mp =>
    rintro ⟨_, xs, hx, ⟨t, rfl, rfl⟩, hr⟩
    have hx : [t] ++ rest = xs ++ rest := hx
    cases List.append_cancel_right hx
    have ⟨n, hn⟩ := readCount_singleton_eq_ok_iff.mp hr
    exact ⟨t, n, rfl, hn⟩
  case mpr =>
    rintro ⟨t, n, rfl, hn⟩
    exact ⟨_, [t], rfl, ⟨t, rfl, rfl⟩, readCount_singleton_eq_ok_iff.mpr ⟨n, hn⟩⟩

theorem made_limit : Made readLimit [.literal "limit", .commit, count] LimitForm limited := by
  intro scope ts w rest h
  obtain ⟨t, _, _, rfl, ht, h₁, rfl⟩ := reads_seq_keyword.mp h
  obtain ⟨_, h₂, rfl⟩ := reads_seq_singleton.mp h₁
  obtain ⟨u, n, rfl, hu, hn, rfl⟩ := reads_count.mp h₂
  exact ⟨[t, u], some (.ofNat n), rfl, .limit ht hu hn, rfl⟩

theorem sound_limit : Sound (optional limit) LimitForm limited :=
  made_limit.sound_optional .absent rfl

theorem complete_limit : Complete (optional limit) LimitForm limited (Avoids ["limit"]) := by
  intro scope _ _ rest h hr
  refine reads_optional.mpr ?_
  cases h with
  | absent => exact .inr ⟨rejects_keyword hr, rfl, rfl⟩
  | @limit t u n ht hu hn =>
    have h₂ : Reads scope count (u :: rest) _ _ := reads_count.mpr ⟨u, n, rfl, hu, hn, rfl⟩
    exact .inl (reads_keyword.mpr ⟨_, _, _, rfl, ht, .cons h₂ .nil, rfl⟩)

section

variable (texts : List String)

theorem SourceForm.avoids {path : String} (h : SourceForm ts path) (hk : "from" ∉ texts) :
    Avoids texts (ts ++ rest) := by
  cases h with
  | source ht _ => exact .head (ht ▸ hk)

theorem OrderForm.avoids {ks : List SortKey} (h : OrderForm ts ks) (hk : "order" ∉ texts)
    (hr : Avoids texts rest) : Avoids texts (ts ++ rest) := by
  cases h with
  | absent       => exact hr
  | order ht _ _ => exact .head (ht ▸ hk)

theorem LimitForm.avoids {n : Option UInt64} (h : LimitForm ts n) (hk : "limit" ∉ texts)
    (hr : Avoids texts rest) : Avoids texts (ts ++ rest) := by
  cases h with
  | absent       => exact hr
  | limit ht _ _ => exact .head (ht ▸ hk)

end

theorem made_statement :
    Made readQuery [fields, source, .optional filter, .optional order, .optional limit] Form
      (.node <| .query ·) := by
  intro scope ts w rest h
  simp only [reads_seq_cons, reads_seq_nil] at h
  obtain ⟨_, _, _, h₁, ⟨_, _, _, h₂, ⟨_, _, _, h₃, ⟨_, _, _, h₄, ⟨_, _, _, h₅, ⟨rfl, rfl⟩,
    rfl⟩, rfl⟩, rfl⟩, rfl⟩, rfl⟩ := h
  obtain ⟨fs, names, rfl, hf, rfl⟩ := sound_fields h₁
  obtain ⟨ss, path, rfl, hs, rfl⟩ := sound_source h₂
  obtain ⟨ws, cs, rfl, hw, rfl⟩ := sound_filter h₃
  obtain ⟨os, ks, rfl, ho, rfl⟩ := sound_order h₄
  obtain ⟨ls, n, rfl, hl, rfl⟩ := sound_limit h₅
  exact ⟨_, _, by simp only [List.append_assoc], .statement hf hs hw ho hl, readQuery_eq ..⟩

-- No part goes on with what a later part starts with, so that each part ends where it should.
theorem reads_statement {q : Query} :
    Reads scope statement ts (.node (.query q)) [] ↔ Form ts q := by
  constructor
  case mp =>
    intro h
    obtain ⟨xs, q, rfl, hf, hq⟩ := made_statement.sound h
    cases hq
    rwa [List.append_nil]
  case mpr =>
    intro ⟨hf, hs, hw, ho, hl⟩
    have hn := hl.avoids ["order", ",", "asc", "desc"] (by decide) .nil
    have hm := ho.avoids ["where", "and"] (by decide) (hl.avoids _ (by decide) .nil)
    have h₄ : Reads scope (seq [optional order, optional limit]) _ _ [] :=
      .cons (complete_order ho hn) (.cons (complete_limit hl .nil) .nil)
    have h₂ := Reads.cons (complete_source hs trivial) (.cons (complete_filter hw hm) h₄)
    have h₁ := Reads.cons (complete_fields hf (hs.avoids _ (by decide))) h₂
    rw [List.append_nil] at h₁
    exact reads_clause.mpr ⟨_, h₁, readQuery_eq ..⟩

end Statement

namespace Query

variable {ts : List Token} {q : Query}

theorem ofTokens_eq_ok_iff_reads :
    ofTokens ts = .ok q ↔ Reads [] Statement.statement ts (.node (.query q)) [] := by
  rw [← parse_eq_ok_iff, ofTokens]
  split <;> simp_all

-- Tokens are read as a query if and only if they spell a statement that asks for it.
theorem ofTokens_eq_ok_iff_form : ofTokens ts = .ok q ↔ Statement.Form ts q :=
  ofTokens_eq_ok_iff_reads.trans Statement.reads_statement

end Query

end SelectLang
