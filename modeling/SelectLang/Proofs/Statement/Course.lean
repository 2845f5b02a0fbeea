import SelectLang.Proofs.Parser.Course
import SelectLang.Proofs.Statement.Reading

namespace SelectLang

open SelectLang.Parser Clause

namespace Statement

variable {α : Type} {scope : Scope Clause} {ts us rest : List Token} {t : Token}

-- The only count there is in a limit.
inductive CountForm : List Token → Option UInt64 → Prop
  | count {u : Token} {n : Nat} (count : Number.IsNumeral u.text n) (bound : n < 2 ^ 64) :
    CountForm [u] (some (.ofNat n))

-- A name, an operator and a direction, to complete tokens with.
def aName : Token := ⟨.identifier, "a", .start⟩

def anEquals : Token := ⟨.operator, "=", .start⟩

theorem greedy_identifier : Greedy identifier NameForm .token := by
  refine .of_complete complete_identifier fun ts => ?_
  obtain ⟨t, us, rfl, ht⟩ | h := exists_head_or ts (Word.isIdentifier ·.text)
  · exact .inl ⟨[t], _, us, rfl, .name ht⟩
  · have hb : Begins NameForm [] := ⟨[aName], _, .name (by decide)⟩
    exact .inr ⟨[], _, .expected _, hb, fun _ => fails_predicate h⟩

theorem greedy_condition : Greedy condition ConditionForm (.node <| .condition ·) := by
  have hi : Word.isIdentifier aName.text := by decide
  have he : anEquals.text = Comparison.eq.symbol := rfl
  refine .of_complete complete_condition fun ts => ?_
  obtain ⟨p, us, rfl, hp⟩ | h := exists_head_or ts (Word.isIdentifier ·.text)
  case inr =>
    have hb : Begins ConditionForm [] := ⟨[aName, anEquals, aName], _, .condition hi rfl he⟩
    exact .inr ⟨[], _, .expected _, hb, fun _ => (fails_predicate h).seq.action _⟩
  obtain ⟨o, vs, rfl, ho⟩ | h := exists_head_or us fun t =>
    t.kind == .operator && (Comparison.ofSymbol? t.text).isSome
  case inr =>
    have hb : Begins ConditionForm [p] := ⟨[anEquals, aName], _, .condition hp rfl he⟩
    exact .inr ⟨[p], _, .expected _, hb, fun _ => ((fails_predicate h).seq.predicate hp).action _⟩
  have ⟨_, c, hv, hk, hs, _⟩ :=
    reads_comparison.mp (Reads.predicate ho : Reads [] comparison (o :: vs) _ vs)
  cases hv
  obtain ⟨v, rest, rfl, -⟩ | h := exists_head_or vs fun _ => true
  case inl => exact .inl ⟨[p, o, v], _, rest, rfl, .condition hp hk hs⟩
  case inr =>
    have hb : Begins ConditionForm [p, o] := ⟨[aName], _, .condition hp hk hs⟩
    exact .inr ⟨[p, o], _, .expected _, hb, fun _ =>
      (((fails_predicate h).seq.predicate ho).predicate hp).action _⟩

theorem fits_directed {u : Token} {d : Direction} (ht : Word.isIdentifier t.text)
    (hu : u.text = d.name) (ts : List Token) :
    Fits sortKey SortKeyForm (.node <| .sortKey ·) (t :: u :: ts) ts := by
  refine ⟨[t, u], _, rfl, .directed ht hu, fun scope => ?_⟩
  have h₂ : Reads scope _ (u :: ts) _ ts := reads_direction.mpr (.inl ⟨u, d, rfl, hu, rfl⟩)
  exact reads_clause.mpr ⟨_, .cons (.predicate ht) (.cons h₂ .nil), readSortKey_name ..⟩

-- A key goes on with a direction, and with nothing else.
theorem exists_fits_sortKey (ht : Word.isIdentifier t.text) (us : List Token) :
    ∃ rest, rest <:+ us ∧ Fits sortKey SortKeyForm (.node <| .sortKey ·) (t :: us) rest := by
  obtain ⟨u, us, rfl, hu⟩ | ha := exists_head_or_avoids us ["asc", "desc"]
  case inr => exact ⟨us, List.suffix_refl us, .of_complete complete_sortKey (.plain ht) ha⟩
  case inl =>
    have ⟨d, hd⟩ : ∃ d : Direction, u.text = d.name := by
      simp only [List.mem_cons, List.not_mem_nil, or_false] at hu
      exact hu.elim (⟨.ascending, ·⟩) (⟨.descending, ·⟩)
    exact ⟨us, List.suffix_cons u us, fits_directed ht hd us⟩

theorem greedy_sortKey : Greedy sortKey SortKeyForm (.node <| .sortKey ·) where
  grows := by
    intro _ _ zs h
    cases h with
    | plain ht       => exact exists_fits_sortKey ht zs
    | directed ht hd => exact ⟨zs, List.suffix_refl zs, fits_directed ht hd zs⟩
  decides := by
    intro ts
    obtain ⟨t, us, rfl, ht⟩ | h := exists_head_or ts (Word.isIdentifier ·.text)
    · have ⟨rest, _, h⟩ := exists_fits_sortKey ht us
      exact .inl ⟨rest, h⟩
    · have hb : Begins SortKeyForm [] := ⟨[aName], _, .plain (by decide)⟩
      exact .inr ⟨[], _, .expected _, hb, fun _ => (fails_predicate h).seq.action _⟩

theorem complete_count : Complete count CountForm limited fun _ => True := by
  intro scope _ _ rest h _
  cases h with
  | @count u n hu hn => exact reads_count.mpr ⟨u, n, rfl, hu, hn, rfl⟩

theorem fails_count {u : Token} {m : String} (hm : readCount [u] = .error m) (us : List Token) :
    Fails scope count (u :: us) [] (.domain m) false := by
  have h : Runs scope any (.start (u :: us)) ⟨.ok (.token u.text), ⟨u :: us, 1, false⟩⟩ :=
    Runs.any_iff.mpr rfl
  exact fails_action h hm

theorem greedy_count : Greedy count CountForm limited := by
  have hb : Begins CountForm [] :=
    ⟨[⟨.number, toString 0, .start⟩], _, .count (Number.isNumeral_toString 0) (by decide)⟩
  refine .of_complete complete_count fun ts => ?_
  cases ts with
  | nil => exact .inr ⟨[], _, .expected _, hb, fun _ => fails_any.action _⟩
  | cons u us =>
    cases hr : readCount [u] with
    | ok v =>
      have ⟨n, hu, hn, _⟩ := readCount_singleton_eq_ok_iff.mp hr
      exact .inl ⟨[u], _, us, rfl, .count hu hn⟩
    | error m => exact .inr ⟨[], _, .domain m, hb, fun _ => fails_count hr us⟩

-- A committed clause, from what there is behind its keyword.
theorem isClause_clause {keyword : String} {texts : List String} {read : Value Clause → Reading}
    {parts : List Grammar} {Form Body : List Token → α → Prop} {value bodyValue : α → Value Clause}
    (out : α) (hb : Greedy (.seq parts) Body bodyValue)
    (hc : Complete (optional (clause read (.literal keyword :: .commit :: parts))) Form value
      (Avoids (keyword :: texts)))
    (hn : ∀ a, Form [] a ↔ a = out) (hv : value out = .empty) (ho : ∀ ts, ¬Body ts out)
    (hf : ∀ t ts a, Form (t :: ts) a ↔ t.text = keyword ∧ Body ts a)
    (hr : ∀ ts a, Body ts a →
      read (.cons (.token keyword) (.cons .empty (bodyValue a))) = .ok (value a)) :
    IsClause (clause read (.literal keyword :: .commit :: parts)) Form value keyword texts := by
  have hfits {t us rest} (ht : t.text = keyword) (h : Fits (.seq parts) Body bodyValue us rest) :
      ∃ xs a, us = xs ++ rest ∧ Form (t :: xs) a ∧ ∀ scope, Reads scope
        (optional (clause read (.literal keyword :: .commit :: parts))) (t :: us) (value a) rest :=
    have ⟨xs, a, he, hx, h⟩ := h
    ⟨xs, a, he, (hf t xs a).mpr ⟨ht, hx⟩, fun scope =>
      reads_optional.mpr (.inl (reads_keyword.mpr ⟨t, us, _, rfl, ht, h scope, hr xs a hx⟩))⟩
  exact {
    absent   := ⟨out, (hn out).mpr rfl⟩
    eq_nil   := by
      intro ts a h h'
      cases ts with
      | nil       => rfl
      | cons t ts =>
        cases (hn a).mp h'
        exact absurd ((hf t ts out).mp h).2 (ho ts)
    starts   := fun t ts a h => List.mem_singleton.mpr ((hf t ts a).mp h).1
    complete := hc
    skips    := by
      intro scope ts a ha hs
      cases (hn a).mp ha
      exact reads_optional.mpr (.inr ⟨rejects_keyword hs, hv, rfl⟩)
    fits     := by
      intro t xs a zs h
      have ⟨ht, hx⟩ := (hf t xs a).mp h
      have ⟨rest, hs, h⟩ := hb.grows zs hx
      have ⟨_, b, _, _, h⟩ := hfits ht h
      exact ⟨rest, hs, b, h⟩
    decides  := by
      intro t us ht
      obtain ⟨rest, h⟩ | ⟨seen, c, hl, ⟨more, a, hs⟩, h⟩ := hb.decides us
      · have ⟨xs, a, h⟩ := hfits ht h
        exact .inl ⟨xs, a, rest, h⟩
      · have hs : Begins Form (t :: seen) := ⟨more, a, (hf ..).mpr ⟨ht, hs⟩⟩
        refine .inr ⟨seen, c, hl, hs, fun scope => ?_⟩
        exact ((h scope).commit.literal ht).action _ |>.optional
  }

theorem filterForm_nil_iff {cs : List Condition} : FilterForm [] cs ↔ cs = [] :=
  ⟨fun h => by cases h; rfl, fun h => h ▸ .absent⟩

theorem orderForm_nil_iff {ks : List SortKey} : OrderForm [] ks ↔ ks = [] :=
  ⟨fun h => by cases h; rfl, fun h => h ▸ .absent⟩

theorem limitForm_nil_iff {n : Option UInt64} : LimitForm [] n ↔ n = none :=
  ⟨fun h => by cases h; rfl, fun h => h ▸ .absent⟩

theorem isClause_filter : IsClause filter FilterForm (entered .conditions) "where" ["and"] := by
  have hb : Greedy (sepBy condition (.literal "and")) (Separated ConditionForm "and") _ :=
    greedy_condition.sepBy complete_condition fun _ _ _ => trivial
  refine isClause_clause [] hb.seq_singleton complete_filter (fun _ => filterForm_nil_iff) rfl
    (fun _ h => h.ne_nil rfl) ?_ ?_
  case refine_1 =>
    intro t ts a
    constructor
    case mp =>
      intro h
      cases h with
      | filter ht h => exact ⟨ht, h⟩
    case mpr => exact fun ⟨ht, h⟩ => .filter ht h
  case refine_2 =>
    intro _ a h
    rw [entered_eq_node h.ne_nil]
    exact readFilter_conditions a

theorem isClause_order :
    IsClause order OrderForm (entered .sortKeys) "order" [",", "asc", "desc"] := by
  have hb : Greedy (sepBy sortKey (.literal ",")) (Separated SortKeyForm ",") _ :=
    greedy_sortKey.sepBy complete_sortKey fun _ _ hc => .head (by simp [hc])
  have hn : Begins (Separated SortKeyForm ",") [] := ⟨[aName], _, .last (.plain (by decide))⟩
  refine isClause_clause [] (hb.seq_literal hn "by") complete_order (fun _ => orderForm_nil_iff) rfl
    (fun _ ⟨_, _, _, _, h⟩ => h.ne_nil rfl) ?_ ?_
  case refine_1 =>
    intro t ts a
    constructor
    case mp =>
      intro h
      cases h with
      | order ht hu h => exact ⟨ht, _, _, rfl, hu, h⟩
    case mpr =>
      rintro ⟨ht, u, us, rfl, hu, h⟩
      exact .order ht hu h
  case refine_2 =>
    rintro _ a ⟨_, _, _, _, h⟩
    rw [entered_eq_node h.ne_nil]
    exact readOrder_sortKeys a

theorem isClause_limit : IsClause limit LimitForm limited "limit" [] := by
  refine isClause_clause none greedy_count.seq_singleton complete_limit (fun _ => limitForm_nil_iff)
    rfl (fun _ h => nomatch h) ?_ ?_
  case refine_1 =>
    intro t ts a
    constructor
    case mp =>
      intro h
      cases h with
      | limit ht hu hn => exact ⟨ht, .count hu hn⟩
    case mpr =>
      intro ⟨ht, h⟩
      cases h with
      | count hu hn => exact .limit ht hu hn
  case refine_2 =>
    intro _ _ h
    cases h with
    | count => rfl

-- The first two clauses have to be there, and the first one ends in front of the second one.
theorem decides_fields (ts : List Token) :
    (∃ us names rest, ts = us ++ rest ∧ FieldsForm us names ∧
      Reads scope fields ts (.node (.fields names)) rest) ∨
    ∃ seen c cut, c.Early ∧ Begins FieldsForm seen ∧ Fails scope fields ts seen c cut := by
  let mark : Token := ⟨.punctuation, "*", .start⟩
  obtain ⟨t, us, rfl, ht⟩ | h := exists_head_or_avoids ts ["select"]
  case inr =>
    have hb : Begins FieldsForm [] :=
      ⟨[⟨.identifier, "select", .start⟩, mark], _, .every rfl (.inl rfl)⟩
    exact .inr ⟨[], _, _, .expected _, hb, (fails_literal h).seq.action _⟩
  have ht := List.mem_singleton.mp ht
  obtain ⟨u, rest, rfl, hu⟩ | ha := exists_head_or_avoids us ["*", "all"]
  case inl =>
    have hu : u.text = "*" ∨ u.text = "all" := by simpa using hu
    exact .inl ⟨[t, u], [], rest, rfl, .every ht hu, reads_every ht hu rest⟩
  have ⟨hm, ha⟩ := Avoids.cons_cons_iff.mp ha
  have hrow : Greedy (sepBy identifier (.literal ",")) (Separated NameForm ",") _ :=
    greedy_identifier.sepBy complete_identifier fun _ _ _ => trivial
  obtain ⟨rest, xs, names, rfl, hx, hr⟩ | ⟨_, _, _, _, hf⟩ := hrow.decides us
  case inl =>
    have ⟨u, us, hu, hn, _⟩ := exists_first_name hx
    have hf : names.head? ≠ some "all" := fun hf => ha u (by simp [hu]) (by simpa [hn] using hf)
    exact .inl ⟨t :: xs, names, rest, rfl, .named ht hx hf, reads_names ht hx hf (hr scope)⟩
  case inr =>
    have hb : Begins FieldsForm [t] := ⟨[mark], _, .every ht (.inl rfl)⟩
    have hc : ∀ p ∈ [.literal "*", .literal "all", sepBy identifier (.literal ",")],
        Rejects scope p us := by
      simp [rejects_literal, hm, ha, (hf scope).rejects]
    exact .inr ⟨[t], _, _, .noAlternative, hb, ((fails_choice hc).seq.literal ht).action _⟩

theorem decides_source (ts : List Token) :
    (∃ us path rest, ts = us ++ rest ∧ SourceForm us path ∧
      Reads scope source ts (.node (.collection path)) rest) ∨
    ∃ seen c cut, c.Early ∧ Begins SourceForm seen ∧ Fails scope source ts seen c cut := by
  have hp : Word.isPath aName.text := by decide
  obtain ⟨t, us, rfl, ht⟩ | h := exists_head_or_avoids ts ["from"]
  case inr =>
    have hb : Begins SourceForm [] := ⟨[⟨.identifier, "from", .start⟩, aName], _, .source rfl hp⟩
    exact .inr ⟨[], _, _, .expected _, hb, (fails_literal h).seq.action _⟩
  have ht := List.mem_singleton.mp ht
  obtain ⟨p, rest, rfl, hp⟩ | h := exists_head_or us (Word.isPath ·.text)
  case inr =>
    have hb : Begins SourceForm [t] := ⟨[aName], _, .source ht hp⟩
    exact .inr ⟨[t], _, _, .expected _, hb, ((fails_predicate h).seq.literal ht).action _⟩
  have hs : SourceForm [t, p] p.text := .source ht hp
  exact .inl ⟨[t, p], p.text, rest, rfl, hs, complete_source hs trivial⟩

-- The forms of the clauses from one on, one behind the other.
abbrev LimitPart := Then LimitForm NoTokens
abbrev OrderPart := Then OrderForm LimitPart
abbrev FilterPart := Then FilterForm OrderPart
abbrev SourcePart := Then SourceForm FilterPart
abbrev Clauses := Then FieldsForm SourcePart

theorem clauses_iff {names : List String} {path : String} {cs : List Condition}
    {ks : List SortKey} {n : Option UInt64} :
    Clauses ts (names, path, cs, ks, n, ()) ↔ Form ts ⟨names, path, cs, ks, n⟩ := by
  constructor
  case mp =>
    rintro ⟨fs, _, rfl, hf, ss, _, rfl, hs, ws, _, rfl, hw, os, _, rfl, ho, ls, _, rfl, hl, rfl⟩
    exact ls.append_nil.symm ▸ .statement hf hs hw ho hl
  case mpr =>
    intro h
    cases h with
    | @statement fs ss ws os ls _ _ _ _ _ hf hs hw ho hl =>
      exact ⟨fs, _, rfl, hf, ss, _, rfl, hs, ws, _, rfl, hw, os, _, rfl, ho, ls, [],
        ls.append_nil.symm, hl, rfl⟩

-- The keywords that may follow what the clauses are read from.
abbrev Openings :=
  Opened "select" FieldsForm SourcePart <| Opened "from" SourceForm FilterPart <|
    Opened "where" FilterForm OrderPart <| Opened "order" OrderForm LimitPart <|
      Opened "limit" LimitForm NoTokens fun _ _ => False

theorem course_clauses (scope : Scope Clause) (ts : List Token) :
    Course scope [fields, source, optional filter, optional order, optional limit] Clauses
      (fun x => [.node (.fields x.1), .node (.collection x.2.1), entered .conditions x.2.2.1,
        entered .sortKeys x.2.2.2.1, limited x.2.2.2.2.1]) Openings ts := by
  have ho := isClause_limit.toOptional.then optional_noTokens
  have hw := isClause_order.toOptional.then ho
  have ⟨x, hx⟩ := (isClause_filter.toOptional.then hw).absent
  have hs : SourcePart ([⟨.identifier, "from", .start⟩, aName] ++ []) (aName.text, x) :=
    ⟨_, [], rfl, .source rfl (by decide), hx⟩
  -- From the last clause to the first one.
  have h (ts) : Course scope [] NoTokens _ _ ts := .nil ts
  have h := Course.optional isClause_limit optional_noTokens nofun h
  have h := Course.optional isClause_order ho (by decide) h
  have h := Course.optional isClause_filter hw (by decide) h
  have h := Course.required "from" nofun (fun _ _ _ _ _ hs _ => complete_source hs trivial)
    decides_source ⟨_, x, hx⟩ h
  refine Course.required "select" nofun ?_ decides_fields ⟨_, _, hs⟩ h ts
  rintro _ _ _ _ zs hf ⟨_, vs, rfl, hs, _⟩
  rw [List.append_assoc]
  exact complete_fields hf (hs.avoids _ (by decide))

end Statement

end SelectLang
