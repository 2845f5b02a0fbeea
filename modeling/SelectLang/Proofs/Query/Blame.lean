import SelectLang.Proofs.Query.Layout
import SelectLang.Proofs.Statement.Course

namespace SelectLang

open SelectLang.Parser

variable {ts us : List Token} {e : ParseError}

namespace Query

-- The keywords that may follow a statement: those of the clauses behind its last one.
inductive Opens (q : Query) : String → Prop
  | filter (conditions : q.conditions = []) (sortKeys : q.sortKeys = []) (limit : q.limit = none) :
    Opens q "where"
  | order (sortKeys : q.sortKeys = []) (limit : q.limit = none) : Opens q "order"
  | limit (limit : q.limit = none) : Opens q "limit"

-- More tokens make the tokens a statement.
def Completable (ts : List Token) : Prop :=
  ∃ more q, ofTokens (ts ++ more) = .ok q

-- The longest statement that the tokens start with.
structure LongestStatement (ts xs : List Token) (q : Query) : Prop where
  starts  : xs <+: ts
  reads   : ofTokens xs = .ok q
  longest : ∀ ⦃ys q'⦄, ys <+: ts → ofTokens ys = .ok q' → ys.length ≤ xs.length

-- What is wrong with tokens that are not a statement. Either they do not start with one at all,
-- or it is broken off behind a keyword that may follow it, or it is over.
inductive Fault (ts : List Token) : ParseError → Prop
  | unfit {seen rest} {c : Complaint} (eq : ts = seen ++ rest)
    (none : ∀ xs q, xs <+: ts → ofTokens xs ≠ .ok q)
    (early : c.Early) (begins : Completable seen) : Fault ts (c.about (.ofToken? rest.head?))
  | broken {xs q t seen rest} {c : Complaint} (eq : ts = xs ++ t :: (seen ++ rest))
    (longest : LongestStatement ts xs q) (opens : q.Opens t.text) (late : c.Late)
    (begins : Completable (xs ++ t :: seen)) : Fault ts (c.about (.ofToken? rest.head?))
  | trailing {xs q t rest} (eq : ts = xs ++ t :: rest) (longest : LongestStatement ts xs q)
    (closed : ¬q.Opens t.text) : Fault ts (.trailing (.ofToken t))

-- What the clauses of a statement stand for, one by one.
def parts (q : Query) :
    List String × String × List Condition × List SortKey × Option UInt64 × Unit :=
  (q.fields, q.collection, q.conditions, q.sortKeys, q.limit, ())

theorem exists_parts (x) : ∃ q : Query, q.parts = x :=
  ⟨⟨x.1, x.2.1, x.2.2.1, x.2.2.2.1, x.2.2.2.2.1⟩, rfl⟩

theorem ofTokens_eq_ok_iff_clauses {q : Query} :
    ofTokens ts = .ok q ↔ Statement.Clauses ts q.parts :=
  ofTokens_eq_ok_iff_reads.trans (Statement.reads_statement.trans Statement.clauses_iff.symm)

theorem opens_iff {q : Query} {text : String} :
    q.Opens text ↔ Statement.Openings q.parts text := by
  have hf : ¬Statement.FieldsForm [] q.fields := nofun
  have hs : ¬Statement.SourceForm [] q.collection := nofun
  simp only [parts, Opened, then_nil_iff, Statement.filterForm_nil_iff, Statement.orderForm_nil_iff,
    Statement.limitForm_nil_iff, NoTokens, hf, hs, false_or, false_and, and_false, or_false,
    and_true]
  constructor
  case mp =>
    intro h
    cases h with
    | filter hc hk hl => exact .inr ⟨rfl, hc, hk, hl⟩
    | order hk hl     => exact .inl (.inr ⟨rfl, hk, hl⟩)
    | limit hl        => exact .inl (.inl ⟨rfl, hl⟩)
  case mpr =>
    rintro ((⟨rfl, hl⟩ | ⟨rfl, hk, hl⟩) | ⟨rfl, hc, hk, hl⟩)
    · exact .limit hl
    · exact .order hk hl
    · exact .filter hc hk hl

theorem Completable.of_begins (h : Begins Statement.Clauses ts) : Completable ts := by
  have ⟨more, x, h⟩ := h
  obtain ⟨q, rfl⟩ := exists_parts x
  exact ⟨more, q, ofTokens_eq_ok_iff_clauses.mpr h⟩

theorem LongestStatement.of_longest {xs rest : List Token} {q : Query}
    (h : Statement.Clauses xs q.parts) (hl : Longest Statement.Clauses (xs ++ rest) rest) :
    LongestStatement (xs ++ rest) xs q where
  starts  := List.prefix_append xs rest
  reads   := ofTokens_eq_ok_iff_clauses.mpr h
  longest := by
    rintro ys q' ⟨zs, hz⟩ hy
    have hs := (hl (ofTokens_eq_ok_iff_clauses.mp hy) hz.symm).length_le
    have hz := congrArg List.length hz
    simp only [List.length_append] at hz
    omega

theorem fault_of_ofTokens (h : ofTokens ts = .error e) : Fault ts e := by
  have herror {e'} (hp : Statement.statement.parse ts = some (.error e')) : e' = e := by
    rw [ofTokens, hp] at h
    exact Except.error.inj h
  cases Statement.course_clauses [] ts with
  | unfit none early begins fails =>
    have fails : Fails [] Statement.statement ts _ _ _ := fails.action _
    obtain ⟨rest, eq, hp⟩ := fails.exists_parse_eq
    refine herror hp ▸ .unfit eq ?_ early (.of_begins begins)
    rintro xs q ⟨zs, hz⟩ hx
    exact none (ofTokens_eq_ok_iff_clauses.mp hx) hz.symm
  | @broken xs x t us seen _ _ eq form longest opens late begins fails =>
    have fails : Fails [] Statement.statement ts _ _ _ := fails.action _
    obtain ⟨rest, hr, hp⟩ := fails.exists_parse_eq
    obtain ⟨q, rfl⟩ := exists_parts x
    subst eq
    have eq : xs ++ t :: us = xs ++ t :: (seen ++ rest) := by simpa using hr
    exact herror hp ▸ .broken eq (.of_longest form longest) (opens_iff.mpr opens) late
      (.of_begins begins)
  | @ended xs x rest eq form longest closed reads =>
    obtain ⟨q, rfl⟩ := exists_parts x
    subst eq
    have hr : Reads [] Statement.statement (xs ++ rest) (.node (.query q)) rest :=
      Statement.reads_clause.mpr ⟨_, reads, Clause.readQuery_eq ..⟩
    cases rest with
    | nil =>
      rw [ofTokens_eq_ok_iff_reads.mpr hr] at h
      cases h
    | cons t rest =>
      have closed : ¬q.Opens t.text := fun ho => closed t rfl (opens_iff.mp ho)
      exact herror hr.parse_eq ▸ .trailing rfl (.of_longest form longest) closed

-- Tokens that start with no statement lack something that every statement has. Otherwise, the
-- token behind the longest statement decides: if its clause may follow there, then something is
-- wrong inside of that clause, and if not, then this token is one too many.
theorem error_of_longest (h : ofTokens ts = .error e) :
    ((∀ xs q, xs <+: ts → ofTokens xs ≠ .ok q) → ∃ (c : Complaint) (f : Found),
      c.Early ∧ e = c.about f) ∧
    ((∃ xs q, xs <+: ts ∧ ofTokens xs = .ok q) →
      ∃ xs q t us, LongestStatement ts xs q ∧ ts = xs ++ t :: us ∧
        (q.Opens t.text → ∃ (c : Complaint) (seen rest : List Token),
          c.Late ∧ us = seen ++ rest ∧ e = c.about (.ofToken? rest.head?)) ∧
        (¬q.Opens t.text → e = .trailing (.ofToken t))) := by
  cases fault_of_ofTokens h with
  | unfit _ none early _ =>
    refine ⟨fun _ => ⟨_, _, early, rfl⟩, fun ⟨xs, q, hs, hx⟩ => ?_⟩
    exact absurd hx (none xs q hs)
  | broken eq longest opens late _ =>
    refine ⟨fun hn => absurd longest.reads (hn _ _ longest.starts), fun _ => ?_⟩
    exact ⟨_, _, _, _, longest, eq, fun _ => ⟨_, _, _, late, rfl, rfl⟩, fun hn => absurd opens hn⟩
  | trailing eq longest closed =>
    refine ⟨fun hn => absurd longest.reads (hn _ _ longest.starts), fun _ => ?_⟩
    exact ⟨_, _, _, _, longest, eq, fun ho => absurd ho closed, fun _ => rfl⟩

-- A limit may follow the sort keys, so what is wrong is in the limit.
theorem error_of_longest_limit :
    let ts : List Token := ["select", "*", "from", "a", "order", "by", "b", "limit", "x"].map
      fun text => ⟨.identifier, text, .start⟩
    let e : ParseError :=
      .domain "invalid limit \"x\": invalid digit found in string" (.token "x" .start)
    ofTokens ts = .error e ∧
      ofTokens (ts.take 7) = .ok { collection := "a", sortKeys := [⟨"b", .ascending⟩] } ∧
      ∃ xs q t us, LongestStatement ts xs q ∧ ts = xs ++ t :: us ∧
        (q.Opens t.text → ∃ (c : Complaint) (seen rest : List Token),
          c.Late ∧ us = seen ++ rest ∧ e = c.about (.ofToken? rest.head?)) ∧
        (¬q.Opens t.text → e = .trailing (.ofToken t)) := by
  intro ts e
  have h : ofTokens ts = .error e := by decide +kernel
  have hs : ofTokens (ts.take 7) = .ok { collection := "a", sortKeys := [⟨"b", .ascending⟩] } := by
    decide +kernel
  exact ⟨h, hs, (error_of_longest h).2 ⟨_, _, List.take_prefix 7 ts, hs⟩⟩

-- The tokens with positions that tell them apart.
def numbered (ts : List Token) : List Token :=
  ts.mapIdx fun k t => { t with position := ⟨k, 1, k + 1⟩ }

theorem getElem?_numbered (ts : List Token) (k : Nat) :
    (numbered ts)[k]? = ts[k]?.map fun t => { t with position := ⟨k, 1, k + 1⟩ } :=
  List.getElem?_mapIdx

theorem numbered_agrees (ts : List Token) : List.Forall₂ Token.Agrees (numbered ts) ts := by
  refine List.forall₂_iff_get.mpr ⟨List.length_mapIdx, fun k _ _ => ?_⟩
  simp only [numbered, List.get_eq_getElem, List.getElem_mapIdx]
  exact ⟨rfl, Iff.rfl⟩

-- Numbered tokens are nowhere else than at their own index.
theorem eq_of_getElem?_numbered {k l : Nat} (hk : k ≤ ts.length) (hl : l ≤ ts.length)
    (h : Found.ofToken? (numbered ts)[k]? = .ofToken? (numbered ts)[l]?) : k = l := by
  simp only [getElem?_numbered] at h
  cases Nat.eq_or_lt_of_le hk <;> cases Nat.eq_or_lt_of_le hl <;>
    simp_all [Found.ofToken?, Found.ofToken]

theorem Completable.of_agrees (h : Completable ts) (ha : List.Forall₂ Token.Agrees ts us) :
    Completable us := by
  have ⟨more, q, h⟩ := h
  have hs := ofTokens_sameAnswer (List.rel_append ha (Token.Agrees.forall₂_refl more))
  rw [h] at hs
  generalize hr : ofTokens (us ++ more) = r at hs
  cases hs with
  | ok => exact ⟨more, q, hr⟩

theorem Completable.of_append (h : Completable (ts ++ us)) : Completable ts :=
  have ⟨more, q, h⟩ := h
  ⟨us ++ more, q, List.append_assoc .. ▸ h⟩

-- The first tokens up to the one that is blamed, or all of them, can be completed.
theorem Fault.exists_completable (h : Fault ts e) :
    ∃ (c : Complaint) (seen rest : List Token), ts = seen ++ rest ∧
      e = c.about (.ofToken? rest.head?) ∧ Completable seen := by
  cases h with
  | unfit eq _ _ begins => exact ⟨_, _, _, eq, rfl, begins⟩
  | @broken xs _ t seen rest _ eq _ _ _ begins =>
    exact ⟨_, xs ++ t :: seen, rest, by simp [eq], rfl, begins⟩
  | @trailing xs q t us eq longest _ =>
    exact ⟨.trailing, xs, t :: us, eq, rfl, [], q, xs.append_nil.symm ▸ longest.reads⟩

-- What is wrong with the numbered tokens is wrong with all that agree with them, at the same
-- index.
theorem ofTokens_of_numbered {c : Complaint} {k : Nat} (hk : k ≤ ts.length)
    (h : ofTokens (numbered ts) = .error (c.about (.ofToken? (numbered ts)[k]?)))
    (ha : List.Forall₂ Token.Agrees (numbered ts) us) :
    ofTokens us = .error (c.about (.ofToken? us[k]?)) := by
  have hs := ofTokens_sameAnswer ha
  rw [h] at hs
  generalize ofTokens us = r at hs
  cases hs with
  | error place =>
    obtain ⟨c', l, hl, he, rfl⟩ := place
    obtain ⟨rfl, hf⟩ := Complaint.about_inj.mp he
    rw [eq_of_getElem?_numbered hk (List.length_mapIdx ▸ hl) hf]

-- The tokens in front of the one that is blamed can be completed to a statement. So the blame
-- never falls behind the first token that no statement goes on with. Which index is meant shows
-- in that the blame stays there when positions change.
theorem error_completable (h : ofTokens ts = .error e) :
    ∃ (c : Complaint) (k : Nat), k ≤ ts.length ∧ e = c.about (.ofToken? ts[k]?) ∧
      (∀ us, List.Forall₂ Token.Agrees ts us →
        ofTokens us = .error (c.about (.ofToken? us[k]?))) ∧
      Completable (ts.take k) ∧ ∀ j, ¬Completable (ts.take j) → k < j := by
  have hn := numbered_agrees ts
  obtain ⟨e', he'⟩ : ∃ e', ofTokens (numbered ts) = .error e' := by
    have hs := ofTokens_sameAnswer (Token.Agrees.forall₂_symm hn)
    rw [h] at hs
    generalize ofTokens (numbered ts) = r at hs
    cases hs with
    | error => exact ⟨_, rfl⟩
  obtain ⟨c, seen, rest, hs, rfl, hc⟩ := (fault_of_ofTokens he').exists_completable
  have hk : seen.length ≤ ts.length := by
    rw [← hn.length_eq, hs, List.length_append]
    exact Nat.le_add_right ..
  have hr : (numbered ts)[seen.length]? = rest.head? := by
    rw [hs, List.getElem?_append_right (Nat.le_refl _), Nat.sub_self, List.head?_eq_getElem?]
  have hall (us) (ha : List.Forall₂ Token.Agrees ts us) :=
    ofTokens_of_numbered hk (hr ▸ he') (Token.Agrees.forall₂_trans hn ha)
  have hseen : Completable (ts.take seen.length) := by
    refine hc.of_agrees ?_
    have ht := List.forall₂_take seen.length hn
    rwa [hs, List.take_left] at ht
  refine ⟨c, seen.length, hk, ?_, hall, hseen, fun j hj => ?_⟩
  · exact Except.error.inj (h.symm.trans (hall ts (Token.Agrees.forall₂_refl ts)))
  · by_contra hl
    have ht : (ts.take seen.length).take j = ts.take j := by
      rw [List.take_take, Nat.min_eq_left (Nat.le_of_not_lt hl)]
    rw [← List.take_append_drop j (ts.take seen.length), ht] at hseen
    exact hj hseen.of_append

-- The name in the row may be the keyword that is missing behind it.
theorem error_completable_from :
    let ts : List Token :=
      ["select", "a", ",", "from", "b"].map fun text => ⟨.identifier, text, .start⟩
    let e : ParseError := .expected "\"from\"" (.token "b" .start)
    ofTokens ts = .error e ∧ ∃ (c : Complaint) (k : Nat), k ≤ ts.length ∧
      e = c.about (.ofToken? ts[k]?) ∧
      (∀ us, List.Forall₂ Token.Agrees ts us →
        ofTokens us = .error (c.about (.ofToken? us[k]?))) ∧
      Completable (ts.take k) ∧ ∀ j, ¬Completable (ts.take j) → k < j := by
  intro ts e
  have h : ofTokens ts = .error e := by decide +kernel
  exact ⟨h, error_completable h⟩

end Query

end SelectLang
