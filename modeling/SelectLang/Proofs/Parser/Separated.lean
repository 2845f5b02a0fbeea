import SelectLang.Proofs.Parser.Reading

namespace SelectLang

variable {ν α : Type}

-- One or more items with a separator between each two of them.
inductive Separated (Item : List Token → α → Prop) (separator : String) :
    List Token → List α → Prop
  | last {ts a} (item : Item ts a) : Separated Item separator ts [a]
  | more {ts t ts' a as} (item : Item ts a) (between : t.text = separator)
    (others : Separated Item separator ts' as) : Separated Item separator (ts ++ t :: ts') (a :: as)

theorem Separated.ne_nil {Item : List Token → α → Prop} {separator : String} {ts : List Token}
    {as : List α} (h : Separated Item separator ts as) : as ≠ [] := by
  cases h <;> simp

theorem Separated.exists_item {Item : List Token → α → Prop} {separator : String} {ts : List Token}
    {as : List α} (h : Separated Item separator ts as) {a : α} (ha : a ∈ as) :
    ∃ us, Item us a ∧ us ⊆ ts := by
  induction h with
  | @last us b item =>
    cases List.mem_singleton.mp ha
    exact ⟨us, item, List.Subset.refl _⟩
  | more item _ _ ih =>
    cases ha with
    | head      => exact ⟨_, item, List.subset_append_left ..⟩
    | tail _ ha =>
      have ⟨us, hu, hs⟩ := ih ha
      exact ⟨us, hu, fun t ht => by simp [hs ht]⟩

namespace Parser

variable {p : Parser ν} {Form : List Token → α → Prop} {value : α → Value ν}
variable {Next : List Token → Prop} {separator : String}
variable {scope : Scope ν} {ts xs rest : List Token} {v : Value ν} {as : List α}

-- What a parser reads is of a form, and its result is the value of what that form stands for.
def Sound (p : Parser ν) (Form : List Token → α → Prop) (value : α → Value ν) : Prop :=
  ∀ ⦃scope ts v rest⦄, Reads scope p ts v rest → ∃ xs a, ts = xs ++ rest ∧ Form xs a ∧ v = value a

-- A parser reads all that is of a form, if what comes behind it is allowed there.
def Complete (p : Parser ν) (Form : List Token → α → Prop) (value : α → Value ν)
    (Next : List Token → Prop) : Prop :=
  ∀ ⦃scope xs a rest⦄, Form xs a → Next rest → Reads scope p (xs ++ rest) (value a) rest

-- What follows the first item of a row: a separator and an item, as often as they come.
def tailOf (item : Parser ν) (separator : String) : Parser ν :=
  map Value.second <| seq [literal separator, item]

theorem reads_tailOf :
    Reads scope (tailOf p separator) ts v rest ↔
      ∃ t mid, ts = t :: mid ∧ t.text = separator ∧ Reads scope p mid v rest := by
  simp only [tailOf, reads_map, reads_seq_pair, reads_literal]
  constructor
  case mp =>
    rintro ⟨_, ⟨_, mid, v, ⟨t, rfl, ht, rfl⟩, hp, rfl⟩, rfl⟩
    exact ⟨t, mid, rfl, ht, hp⟩
  case mpr =>
    rintro ⟨t, mid, rfl, ht, hp⟩
    exact ⟨_, ⟨_, mid, v, ⟨t, rfl, ht, rfl⟩, hp, rfl⟩, rfl⟩

theorem reads_sepBy :
    Reads scope (sepBy p (literal separator)) ts v rest ↔
      ∃ w mid vs, Reads scope p ts w mid ∧ Reads scope (many (tailOf p separator)) mid vs rest ∧
        v = .cons w vs := by
  change Reads scope (map Value.joined <| seq [p, many (tailOf p separator)]) ts v rest ↔ _
  simp only [reads_map, reads_seq_pair]
  constructor
  case mp =>
    rintro ⟨_, ⟨w, mid, vs, hp, hm, rfl⟩, rfl⟩
    exact ⟨w, mid, vs, hp, hm, rfl⟩
  case mpr =>
    rintro ⟨w, mid, vs, hp, hm, rfl⟩
    exact ⟨_, ⟨w, mid, vs, hp, hm, rfl⟩, rfl⟩

theorem rejects_tailOf (h : Avoids [separator] ts) : Rejects scope (tailOf p separator) ts :=
  .map (.seq (rejects_literal.mpr h)) _

-- What a loop over the tail reads goes on a row behind any item.
theorem Sound.tail (hp : Sound p Form value)
    (h : Reads scope (many (tailOf p separator)) ts v rest) :
    ∃ xs as, ts = xs ++ rest ∧ v = .list (as.map value) ∧
      ∀ ⦃ys a⦄, Form ys a → Separated Form separator (ys ++ xs) (a :: as) := by
  induction hn : ts.length using Nat.strongRecOn generalizing ts v with
  | ind n ih =>
    subst hn
    obtain ⟨w, mid, vs, hw, hvs, rfl⟩ | ⟨-, rfl, rfl⟩ := reads_many.mp h
    case inl =>
      obtain ⟨t, ts, rfl, ht, hw⟩ := reads_tailOf.mp hw
      obtain ⟨ys, a, rfl, hy, rfl⟩ := hp hw
      have hl : mid.length < (t :: (ys ++ mid)).length := by
        simp only [List.length_cons, List.length_append]
        omega
      obtain ⟨xs, as, rfl, rfl, hx⟩ := ih _ hl hvs rfl
      refine ⟨t :: (ys ++ xs), a :: as, by simp, rfl, fun zs b hz => ?_⟩
      exact .more hz ht (hx hy)
    case inr =>
      exact ⟨[], [], rfl, rfl, fun ys a hy => ys.append_nil.symm ▸ .last hy⟩

theorem Sound.sepBy (hp : Sound p Form value) :
    Sound (sepBy p (literal separator)) (Separated Form separator) (.list <| ·.map value) := by
  intro scope ts v rest h
  obtain ⟨w, mid, vs, hw, hvs, rfl⟩ := reads_sepBy.mp h
  obtain ⟨ys, a, rfl, hy, rfl⟩ := hp hw
  obtain ⟨xs, as, rfl, rfl, hx⟩ := hp.tail hvs
  exact ⟨ys ++ xs, a :: as, by simp, hx hy, rfl⟩

-- A row is read item by item. In front of each separator, and behind the last item, there
-- must be something that may follow an item.
theorem Complete.exists_tail (hp : Complete p Form value Next) (scope : Scope ν)
    (hs : ∀ ⦃t ts⦄, t.text = separator → Next (t :: ts)) (h : Separated Form separator xs as)
    (hr : Next rest) (ha : Avoids [separator] rest) :
    ∃ ys a zs as', xs = ys ++ zs ∧ as = a :: as' ∧ Form ys a ∧ Next (zs ++ rest) ∧
      Reads scope (many (tailOf p separator)) (zs ++ rest) (.list (as'.map value)) rest := by
  induction h with
  | @last ys a hy =>
    refine ⟨ys, a, [], [], by simp, rfl, hy, hr, reads_many.mpr (.inr ⟨?_, rfl, rfl⟩)⟩
    exact .map (.seq (rejects_tailOf ha)) _
  | @more ys t ts a as hy ht _ ih =>
    obtain ⟨ys', a', zs, as', rfl, rfl, hy', hn, hm⟩ := ih
    have hw : Reads (manyScope scope (tailOf p separator)) p (ys' ++ zs ++ rest) _ _ :=
      List.append_assoc .. ▸ hp hy' hn
    refine ⟨ys, a, t :: (ys' ++ zs), a' :: as', rfl, rfl, hy, hs ht, ?_⟩
    exact reads_many.mpr (.inl ⟨_, _, _, reads_tailOf.mpr ⟨t, _, rfl, ht, hw⟩, hm, rfl⟩)

theorem Complete.sepBy (hp : Complete p Form value Next)
    (hs : ∀ ⦃t ts⦄, t.text = separator → Next (t :: ts)) :
    Complete (sepBy p (literal separator)) (Separated Form separator) (.list <| ·.map value)
      (fun ts => Next ts ∧ Avoids [separator] ts) := by
  rintro scope xs as rest h ⟨hr, ha⟩
  obtain ⟨ys, a, zs, as', rfl, rfl, hy, hn, hm⟩ := hp.exists_tail scope hs h hr ha
  exact reads_sepBy.mpr ⟨_, _, _, List.append_assoc .. ▸ hp hy hn, hm, rfl⟩

end Parser

end SelectLang
