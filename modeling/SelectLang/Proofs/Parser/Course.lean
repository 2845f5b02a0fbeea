import SelectLang.Proofs.Parser.Greedy

namespace SelectLang

variable {ν α β : Type}

-- Tokens of the one form in front of tokens of the other one.
def Then (F : List Token → α → Prop) (G : List Token → β → Prop) (ts : List Token) (ab : α × β) :
    Prop :=
  ∃ us vs, ts = us ++ vs ∧ F us ab.1 ∧ G vs ab.2

def NoTokens (ts : List Token) (_ : Unit) : Prop :=
  ts = []

-- What may be left out, and otherwise starts with one of the keywords.
structure Optional (F : List Token → α → Prop) (keywords : List String) : Prop where
  absent : ∃ a, F [] a
  eq_nil : ∀ ⦃ts a⦄, F ts a → F [] a → ts = []
  starts : ∀ ⦃t ts a⦄, F (t :: ts) a → t.text ∈ keywords

-- Nothing of the form that stands in front of the tokens leaves less of them over.
def Longest (F : List Token → α → Prop) (ts rest : List Token) : Prop :=
  ∀ ⦃ys a zs⦄, F ys a → ts = ys ++ zs → rest <:+ zs

theorem optional_noTokens : Optional NoTokens [] where
  absent := ⟨(), rfl⟩
  eq_nil := fun _ _ h _ => h
  starts := fun _ _ _ h => nomatch h

theorem then_nil_iff {F : List Token → α → Prop} {G : List Token → β → Prop} {ab : α × β} :
    Then F G [] ab ↔ F [] ab.1 ∧ G [] ab.2 := by
  constructor
  case mp =>
    intro ⟨us, vs, he, hu, hv⟩
    obtain ⟨rfl, rfl⟩ := List.append_eq_nil_iff.mp he.symm
    exact ⟨hu, hv⟩
  case mpr => exact fun ⟨hu, hv⟩ => ⟨[], [], rfl, hu, hv⟩

theorem Optional.then {F : List Token → α → Prop} {G : List Token → β → Prop}
    {keyword : String} {keywords : List String} (hF : Optional F [keyword])
    (hG : Optional G keywords) : Optional (Then F G) (keyword :: keywords) where
  absent := by
    have ⟨a, ha⟩ := hF.absent
    have ⟨b, hb⟩ := hG.absent
    exact ⟨(a, b), [], [], rfl, ha, hb⟩
  eq_nil := by
    rintro _ ⟨a, b⟩ ⟨us, vs, rfl, hu, hv⟩ h
    have ⟨hu', hv'⟩ := then_nil_iff.mp h
    rw [hF.eq_nil hu hu', hG.eq_nil hv hv', List.append_nil]
  starts := by
    rintro t ts ⟨a, b⟩ ⟨us, vs, he, hu, hv⟩
    cases us with
    | nil =>
      cases he
      exact List.mem_cons_of_mem _ (hG.starts hv)
    | cons t us =>
      cases he
      exact List.mem_cons.mpr (.inl (List.mem_singleton.mp (hF.starts hu)))

theorem Begins.then {F : List Token → α → Prop} {G : List Token → β → Prop} {us vs : List Token}
    {a : α} (h : F us a) (hG : Begins G vs) : Begins (Then F G) (us ++ vs) :=
  have ⟨more, b, h'⟩ := hG
  ⟨more, (a, b), us, vs ++ more, List.append_assoc .., h, h'⟩

theorem Begins.of_first {F : List Token → α → Prop} {G : List Token → β → Prop}
    {us vs : List Token} {b : β} (h : Begins F us) (hG : G vs b) : Begins (Then F G) us :=
  have ⟨more, a, h⟩ := h
  ⟨more ++ vs, (a, b), us ++ more, vs, (List.append_assoc ..).symm, h, hG⟩

namespace Parser

-- A clause that is committed behind its keyword. If it is left out, it must not start there. If
-- it is there, it is read as far as it goes, and it ends in front of what avoids the texts.
structure IsClause (p : Parser ν) (Form : List Token → α → Prop) (value : α → Value ν)
    (keyword : String) (texts : List String) : Prop extends Optional Form [keyword] where
  complete : Complete (optional p) Form value (Avoids (keyword :: texts))
  skips    : ∀ ⦃scope ts a⦄, Form [] a → Avoids [keyword] ts →
    Reads scope (optional p) ts (value a) ts
  fits     : ∀ ⦃t xs a⦄ zs, Form (t :: xs) a →
    ∃ rest, rest <:+ zs ∧ ∃ b, ∀ scope, Reads scope (optional p) (t :: xs ++ zs) (value b) rest
  decides  : ∀ ⦃t⦄ us, t.text = keyword →
    (∃ xs a rest, us = xs ++ rest ∧ Form (t :: xs) a ∧
      ∀ scope, Reads scope (optional p) (t :: us) (value a) rest) ∨
    (∃ seen c, c.Late ∧ Begins Form (t :: seen) ∧
      ∀ scope, Fails scope (optional p) (t :: us) (t :: seen) c true)

-- A keyword may follow if nothing has been read since its place.
def Opened (keyword : String) (F : List Token → α → Prop) (G : List Token → β → Prop)
    (Open : β → String → Prop) (ab : α × β) (text : String) : Prop :=
  Open ab.2 text ∨ text = keyword ∧ F [] ab.1 ∧ G [] ab.2

-- How a sequence of parts ends. It does not fit at all, or it is broken off behind a keyword
-- that may follow what it has read, or it is over. What it has read is then the longest there is.
inductive Course (scope : Scope ν) (ps : List (Parser ν)) (Form : List Token → α → Prop)
    (values : α → List (Value ν)) (Open : α → String → Prop) (ts : List Token) : Prop
  | unfit {seen c cut} (none : ∀ ⦃ys a zs⦄, Form ys a → ts ≠ ys ++ zs) (early : c.Early)
    (begins : Begins Form seen) (fails : Fails scope (.seq ps) ts seen c cut)
  | broken {xs a t us seen c cut} (eq : ts = xs ++ t :: us) (form : Form xs a)
    (longest : Longest Form ts (t :: us)) (opens : Open a t.text) (late : c.Late)
    (begins : Begins Form (xs ++ t :: seen))
    (fails : Fails scope (.seq ps) ts (xs ++ t :: seen) c cut)
  | ended {xs a rest} (eq : ts = xs ++ rest) (form : Form xs a) (longest : Longest Form ts rest)
    (closed : ∀ t, rest.head? = some t → ¬Open a t.text)
    (reads : Reads scope (.seq ps) ts (.list (values a)) rest)

variable {scope : Scope ν} {p : Parser ν} {ps : List (Parser ν)} {ts us mid rest : List Token}
variable {F : List Token → α → Prop} {G : List Token → β → Prop} {Open : β → String → Prop}
variable {value : α → Value ν} {values : β → List (Value ν)} {a : α} {v : Value ν}
variable {keyword : String} {keywords texts : List String}

namespace Course

-- If a part is read, what is left behind it makes the course. A shorter reading of the part
-- has nothing behind it.
theorem cons (hr : Reads scope p (us ++ mid) (value a) mid) (ha : F us a)
    (hl : ∀ ⦃ys b vs c zs⦄, F ys b → G vs c → us ++ mid = ys ++ (vs ++ zs) →
      mid = vs ++ zs ∨ vs = [] ∧ mid <:+ zs)
    (hk : ∀ ⦃vs b rest⦄, F [] a → G vs b → G [] b → mid = vs ++ rest → Avoids [keyword] rest)
    (h : Course scope ps G values Open mid) :
    Course scope (p :: ps) (Then F G) (fun ab => value ab.1 :: values ab.2)
      (Opened keyword F G Open) (us ++ mid) := by
  have hlongest {rest} (hs : rest <:+ mid) (h : Longest G mid rest) :
      Longest (Then F G) (us ++ mid) rest := by
    rintro _ _ zs ⟨ys, vs, rfl, hy, hv⟩ he
    obtain he | ⟨-, hm⟩ := hl hy hv (List.append_assoc .. ▸ he)
    · exact h hv he
    · exact hs.trans hm
  cases h with
  | unfit none early begins fails =>
    have ⟨_, fails⟩ := fails.seq_cons hr
    refine .unfit ?_ early (.then ha begins) fails
    rintro _ _ zs ⟨ys, vs, rfl, hy, hv⟩ he
    obtain he | ⟨rfl, -⟩ := hl hy hv (List.append_assoc .. ▸ he)
    · exact none hv he
    · exact none hv mid.nil_append.symm
  | @broken xs b t rest _ _ _ eq form longest opens late begins fails =>
    have ⟨_, fails⟩ := fails.seq_cons hr
    rw [← List.append_assoc] at fails
    have begins := List.append_assoc .. ▸ begins.then ha
    refine .broken (a := (a, b)) (by rw [eq, List.append_assoc]) ⟨us, xs, rfl, ha, form⟩
      (hlongest (eq ▸ List.suffix_append ..) longest) (.inl opens) late begins fails
  | @ended xs b rest eq form longest closed reads =>
    refine .ended (a := (a, b)) (by rw [eq, List.append_assoc]) ⟨us, xs, rfl, ha, form⟩
      (hlongest (eq ▸ List.suffix_append ..) longest) ?_ (.cons hr reads)
    rintro t ht (ho | ⟨hw, hn, hn'⟩)
    · exact closed t ht ho
    · exact hk hn form hn' eq t ht (List.mem_singleton.mpr hw)

theorem nil (ts : List Token) :
    Course scope [] NoTokens (fun _ => []) (fun _ _ => False) ts := by
  refine .ended (a := ()) ts.nil_append.symm rfl ?_ (fun _ _ => id) .nil
  rintro _ _ zs rfl he
  exact he ▸ List.suffix_refl zs

-- A part that has to be there, and that is read exactly if the other parts follow.
theorem required (keyword : String) (hn : ∀ a, ¬F [] a)
    (he : ∀ ⦃ys b vs c⦄ zs, F ys b → G vs c →
      Reads scope p (ys ++ (vs ++ zs)) (value b) (vs ++ zs))
    (hd : ∀ ts, (∃ us a mid, ts = us ++ mid ∧ F us a ∧ Reads scope p ts (value a) mid) ∨
      ∃ seen c cut, c.Early ∧ Begins F seen ∧ Fails scope p ts seen c cut)
    (hG : ∃ vs b, G vs b) (h : ∀ mid, Course scope ps G values Open mid) (ts : List Token) :
    Course scope (p :: ps) (Then F G) (fun ab => value ab.1 :: values ab.2)
      (Opened keyword F G Open) ts := by
  obtain ⟨us, a, mid, rfl, ha, hr⟩ | ⟨seen, c, cut, early, begins, fails⟩ := hd ts
  case inl =>
    have hl ⦃ys b vs c zs⦄ (hy : F ys b) (hv : G vs c) (hs : us ++ mid = ys ++ (vs ++ zs)) :
        mid = vs ++ zs :=
      (hr.deterministic (hs ▸ he zs hy hv)).2
    exact cons hr ha (fun _ _ _ _ _ hy hv hs => .inl (hl hy hv hs))
      (fun _ _ _ ha => absurd ha (hn a)) (h mid)
  case inr =>
    have ⟨vs, b, hv⟩ := hG
    refine .unfit ?_ early (begins.of_first hv) fails.seq
    rintro _ _ zs ⟨ys, vs, rfl, hy, hv⟩ hs
    rw [List.append_assoc] at hs
    exact fails.not_reads (hs ▸ he zs hy hv)

end Course

-- What is behind a clause goes on with it only if no other clause follows.
theorem IsClause.exact (hp : IsClause p F value keyword texts) (hG : Optional G keywords)
    (hk : ∀ k ∈ keywords, k ∉ keyword :: texts) {ys vs zs : List Token} {b : α} {c : β}
    (hy : F ys b) (hv : G vs c) (hr : Reads scope (optional p) (ys ++ (vs ++ zs)) v mid) :
    mid = vs ++ zs ∨ vs = [] ∧ mid <:+ zs := by
  cases vs with
  | cons t vs =>
    have hn : Avoids (keyword :: texts) (t :: vs ++ zs) := .head (hk _ (hG.starts hv))
    exact .inl (hr.deterministic (hp.complete hy hn)).2
  | nil =>
    refine .inr ⟨rfl, ?_⟩
    cases ys with
    | nil => exact hr.suffix
    | cons t ys =>
      have ⟨rest, hs, _, h⟩ := hp.fits zs hy
      exact (hr.deterministic (h scope)).2 ▸ hs

-- A clause in front of others that may be left out, and that start with keywords which do not go
-- on with this one.
theorem Course.optional (hp : IsClause p F value keyword texts) (hG : Optional G keywords)
    (hk : ∀ k ∈ keywords, k ∉ keyword :: texts) (h : ∀ mid, Course scope ps G values Open mid)
    (ts : List Token) :
    Course scope (.optional p :: ps) (Then F G) (fun ab => value ab.1 :: values ab.2)
      (Opened keyword F G Open) ts := by
  have ⟨a, ha⟩ := hp.absent
  have hskip (hw : Avoids [keyword] ts) : Course scope (.optional p :: ps) (Then F G)
      (fun ab => value ab.1 :: values ab.2) (Opened keyword F G Open) ts := by
    have hr : Reads scope (.optional p) ([] ++ ts) (value a) ts := hp.skips ha hw
    refine cons hr ha (fun _ _ _ _ _ hy hv he => hp.exact hG hk hy hv (he ▸ hr)) ?_ (h ts)
    rintro vs b rest - hv hn rfl
    rwa [hG.eq_nil hv hn] at hw
  obtain ⟨t, us, rfl, ht⟩ | hw := exists_head_or_avoids ts [keyword]
  case inr => exact hskip hw
  have ht := List.mem_singleton.mp ht
  obtain ⟨xs, b, mid, rfl, hb, hr⟩ | ⟨seen, c, late, begins, fails⟩ := hp.decides us ht
  case inl =>
    have hr : Reads scope (.optional p) (t :: xs ++ mid) (value b) mid := hr scope
    refine cons hr hb (fun _ _ _ _ _ hy hv he => hp.exact hG hk hy hv (he ▸ hr)) ?_ (h mid)
    intro _ _ _ hn
    cases hp.eq_nil hb hn
  case inr =>
    have ⟨b, hb⟩ := hG.absent
    refine .broken (a := (a, b)) (List.nil_append _).symm ⟨[], [], rfl, ha, hb⟩ ?_
      (.inr ⟨ht, ha, hb⟩) late (begins.of_first hb) (fails scope).seq
    rintro _ _ zs ⟨ys, vs, rfl, hy, hv⟩ he
    rw [List.append_assoc] at he
    cases ys with
    | cons _ ys =>
      cases he
      have ⟨_, _, _, hr⟩ := hp.fits (vs ++ zs) hy
      exact absurd (hr scope) (fails scope).not_reads
    | nil =>
      cases vs with
      | nil => exact he ▸ List.suffix_refl _
      | cons u vs =>
        cases he
        exact absurd (ht ▸ List.mem_cons_self) (hk _ (hG.starts hv))

end Parser

end SelectLang
