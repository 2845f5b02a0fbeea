import SelectLang.Proofs.Parser.Failing

namespace SelectLang

variable {ν α : Type}

-- What may be wrong in front of the first thing that could be left out.
inductive Complaint.Early : Complaint → Prop
  | expected (what : String) : Early (.expected what)
  | noAlternative : Early .noAlternative

-- What may be wrong behind a keyword that has committed a clause.
inductive Complaint.Late : Complaint → Prop
  | expected (what : String) : Late (.expected what)
  | domain (message : String) : Late (.domain message)

-- More tokens make the tokens one of the form.
def Begins (Form : List Token → α → Prop) (ts : List Token) : Prop :=
  ∃ more a, Form (ts ++ more) a

-- A keyword in front of the form.
def Led (keyword : String) (Form : List Token → α → Prop) (ts : List Token) (a : α) : Prop :=
  ∃ t us, ts = t :: us ∧ t.text = keyword ∧ Form us a

-- What goes on a row behind any item.
def RowTail (Item : List Token → α → Prop) (separator : String) (ts : List Token) (as : List α) :
    Prop :=
  ∀ ⦃us a⦄, Item us a → Separated Item separator (us ++ ts) (a :: as)

namespace Parser

-- The parser reads something of the form, and leaves the rest over.
def Fits (p : Parser ν) (Form : List Token → α → Prop) (value : α → Value ν)
    (ts rest : List Token) : Prop :=
  ∃ xs a, ts = xs ++ rest ∧ Form xs a ∧ ∀ scope, Reads scope p ts (value a) rest

-- The same for what goes on a row.
abbrev FitsTail (p : Parser ν) (Form : List Token → α → Prop) (value : α → Value ν)
    (separator : String) : List Token → List Token → Prop :=
  Fits (many (tailOf p separator)) (RowTail Form separator) (.list <| ·.map value)

-- A parser that reads as much as there is of a form, whatever comes behind it, and that fails
-- inside of something of the form if it does not read anything.
structure Greedy (p : Parser ν) (Form : List Token → α → Prop) (value : α → Value ν) : Prop where
  grows   : ∀ ⦃xs a⦄ zs, Form xs a → ∃ rest, rest <:+ zs ∧ Fits p Form value (xs ++ zs) rest
  decides : ∀ ts, (∃ rest, Fits p Form value ts rest) ∨
    ∃ seen c, c.Late ∧ Begins Form seen ∧ ∀ scope, Fails scope p ts seen c false

variable {p : Parser ν} {Form : List Token → α → Prop} {value : α → Value ν} {a : α}
variable {Next : List Token → Prop} {separator : String} {t : Token}
variable {ts us xs mid rest : List Token}

namespace Fits

theorem suffix (h : Fits p Form value ts rest) : rest <:+ ts :=
  have ⟨xs, _, he, _⟩ := h
  ⟨xs, he.symm⟩

theorem of_complete (hp : Complete p Form value Next) (hx : Form xs a) (hn : Next rest) :
    Fits p Form value (xs ++ rest) rest :=
  ⟨xs, a, rfl, hx, fun _ => hp hx hn⟩

theorem seq_singleton (h : Fits p Form value ts rest) :
    Fits (.seq [p]) Form (fun a => .list [value a]) ts rest :=
  have ⟨xs, a, he, hx, hr⟩ := h
  ⟨xs, a, he, hx, fun scope => .cons (hr scope) .nil⟩

theorem seq_literal {keyword : String} (ht : t.text = keyword) (h : Fits p Form value ts rest) :
    Fits (.seq [literal keyword, p]) (Led keyword Form)
      (fun a => .list [.token keyword, value a]) (t :: ts) rest :=
  have ⟨xs, a, he, hx, hr⟩ := h
  ⟨t :: xs, a, congrArg (t :: ·) he, ⟨t, xs, rfl, ht, hx⟩,
    fun scope => .cons (.literal ht) (.cons (hr scope) .nil)⟩

theorem many_nil (h : ∀ scope, Rejects scope (tailOf p separator) ts) :
    FitsTail p Form value separator ts ts :=
  ⟨[], [], rfl, fun us _ hu => us.append_nil.symm ▸ .last hu,
    fun _ => reads_many.mpr (.inr ⟨.map (.seq (h _)) _, rfl, rfl⟩)⟩

theorem many_cons (ht : t.text = separator) (h : Fits p Form value ts mid)
    (h' : FitsTail p Form value separator mid rest) :
    FitsTail p Form value separator (t :: ts) rest := by
  obtain ⟨xs, a, he, hx, hr⟩ := h
  obtain ⟨ys, as, rfl, hy, hr'⟩ := h'
  refine ⟨t :: (xs ++ ys), a :: as, by simp [he], fun _ _ hu => .more hu ht (hy hx), fun _ => ?_⟩
  exact reads_many.mpr (.inl ⟨_, _, _, reads_tailOf.mpr ⟨t, ts, rfl, ht, hr _⟩, hr' _, rfl⟩)

theorem sepBy (h : Fits p Form value ts mid) (h' : FitsTail p Form value separator mid rest) :
    Fits (sepBy p (literal separator)) (Separated Form separator) (.list <| ·.map value) ts
      rest := by
  obtain ⟨xs, a, he, hx, hr⟩ := h
  obtain ⟨ys, as, rfl, hy, hr'⟩ := h'
  refine ⟨xs ++ ys, a :: as, by simp [he], hy hx, fun scope => ?_⟩
  exact reads_sepBy.mpr ⟨_, _, _, hr scope, hr' scope, rfl⟩

end Fits

namespace Greedy

-- Where anything may follow, there is nothing to go on with.
theorem of_complete (hp : Complete p Form value fun _ => True)
    (hd : ∀ ts, (∃ xs a rest, ts = xs ++ rest ∧ Form xs a) ∨
      ∃ seen c, c.Late ∧ Begins Form seen ∧ ∀ scope, Fails scope p ts seen c false) :
    Greedy p Form value where
  grows   := fun _ _ zs h => ⟨zs, List.suffix_refl zs, .of_complete hp h trivial⟩
  decides := fun ts => (hd ts).imp_left fun ⟨_, _, rest, he, h⟩ =>
    ⟨rest, he ▸ .of_complete hp h trivial⟩

theorem seq_singleton (hp : Greedy p Form value) :
    Greedy (.seq [p]) Form (fun a => .list [value a]) where
  grows   := fun _ _ zs h =>
    have ⟨rest, hs, h⟩ := hp.grows zs h
    ⟨rest, hs, h.seq_singleton⟩
  decides := fun ts => by
    refine (hp.decides ts).imp (fun ⟨rest, h⟩ => ⟨rest, h.seq_singleton⟩) ?_
    exact fun ⟨seen, c, hl, hb, hf⟩ => ⟨seen, c, hl, hb, fun scope => (hf scope).seq⟩

theorem seq_literal (hp : Greedy p Form value) (hb : Begins Form []) (keyword : String) :
    Greedy (.seq [literal keyword, p]) (Led keyword Form)
      (fun a => .list [.token keyword, value a]) where
  grows := by
    rintro _ a zs ⟨t, us, rfl, ht, hu⟩
    have ⟨rest, hs, h⟩ := hp.grows zs hu
    exact ⟨rest, hs, h.seq_literal ht⟩
  decides := by
    have hled {seen} (t : Token) (ht : t.text = keyword) (h : Begins Form seen) :
        Begins (Led keyword Form) (t :: seen) :=
      have ⟨more, a, h⟩ := h
      ⟨more, a, t, seen ++ more, rfl, ht, h⟩
    intro ts
    obtain ⟨t, us, rfl, ht⟩ | h := exists_head_or_avoids ts [keyword]
    case inl =>
      have ht := List.mem_singleton.mp ht
      obtain ⟨rest, h⟩ | ⟨seen, c, hl, hs, hf⟩ := hp.decides us
      · exact .inl ⟨rest, h.seq_literal ht⟩
      · exact .inr ⟨t :: seen, c, hl, hled t ht hs, fun scope => (hf scope).seq.literal ht⟩
    case inr =>
      have ⟨more, a, h'⟩ := hled ⟨.identifier, keyword, .start⟩ rfl hb
      exact .inr ⟨[], _, .expected _, ⟨_, a, h'⟩, fun _ => (fails_literal h).seq⟩

-- A row goes on for as long as there is one more item behind a separator.
theorem exists_fits_many (hp : Greedy p Form value) (separator : String) (ts : List Token) :
    ∃ rest, FitsTail p Form value separator ts rest := by
  induction hn : ts.length using Nat.strongRecOn generalizing ts with
  | ind n ih =>
    subst hn
    obtain ⟨t, us, rfl, ht⟩ | h := exists_head_or_avoids ts [separator]
    case inr => exact ⟨ts, .many_nil fun _ => rejects_tailOf h⟩
    case inl =>
      have ht := List.mem_singleton.mp ht
      obtain ⟨mid, h⟩ | ⟨seen, c, -, -, hf⟩ := hp.decides us
      · have hl := Nat.lt_succ_of_le h.suffix.length_le
        have ⟨rest, h'⟩ := ih _ hl mid rfl
        exact ⟨rest, .many_cons ht h h'⟩
      · exact ⟨_, .many_nil fun scope => (((hf scope).seq.literal ht).map _).rejects⟩

-- An item in front of a separator ends there, and the last item may go on.
theorem exists_fits_row (hp : Greedy p Form value) (hc : Complete p Form value Next)
    (hs : ∀ ⦃t ts⦄, t.text = separator → Next (t :: ts)) {as : List α}
    (h : Separated Form separator xs as) (zs : List Token) :
    ∃ mid rest, rest <:+ zs ∧ Fits p Form value (xs ++ zs) mid ∧
      FitsTail p Form value separator mid rest := by
  induction h with
  | last item =>
    have ⟨mid, hm, h⟩ := hp.grows zs item
    have ⟨rest, h'⟩ := hp.exists_fits_many separator mid
    exact ⟨mid, rest, h'.suffix.trans hm, h, h'⟩
  | more item between _ ih =>
    have ⟨mid, rest, hr, h, h'⟩ := ih
    rw [List.append_assoc]
    exact ⟨_, rest, hr, .of_complete hc item (hs between), .many_cons between h h'⟩

theorem sepBy (hp : Greedy p Form value) (hc : Complete p Form value Next)
    (hs : ∀ ⦃t ts⦄, t.text = separator → Next (t :: ts)) :
    Greedy (sepBy p (literal separator)) (Separated Form separator) (.list <| ·.map value) where
  grows   := fun _ _ zs h =>
    have ⟨_, rest, hr, h, h'⟩ := hp.exists_fits_row hc hs h zs
    ⟨rest, hr, h.sepBy h'⟩
  decides := fun ts => by
    obtain ⟨mid, h⟩ | ⟨seen, c, hl, ⟨more, a, hb⟩, hf⟩ := hp.decides ts
    · have ⟨rest, h'⟩ := hp.exists_fits_many separator mid
      exact .inl ⟨rest, h.sepBy h'⟩
    · exact .inr ⟨seen, c, hl, ⟨more, [a], .last hb⟩, fun scope => (hf scope).seq.map _⟩

end Greedy

end Parser

end SelectLang
