import SelectLang.Proofs.Parser.Calls
import SelectLang.Proofs.Statement.Course

namespace SelectLang

open SelectLang.Parser Clause

namespace Clause

-- What a limit is refused for: its only token is not a number of 64 bits.
def RefusesLimit (span : List Token) (message : String) : Prop :=
  ∃ u r, span = [u] ∧ Number.readUInt64 u.text = .error r ∧
    message = s!"invalid limit {Quoted.string u.text}: {r.message}"

theorem readCount_singleton_eq_error_iff {u : Token} {message : String} :
    readCount [u] = .error message ↔ RefusesLimit [u] message := by
  simp only [readCount, RefusesLimit, List.head?_cons, Option.elim_some]
  cases hr : Number.readUInt64 u.text with
  | ok n    => simp [accept, hr]
  | error r => simp [hr, eq_comm]

theorem exists_readUInt64_eq_error_iff {u : Token} :
    (∃ r, Number.readUInt64 u.text = .error r) ↔
      ¬∃ n, Number.IsNumeral u.text n ∧ n < 2 ^ 64 := by
  cases hr : Number.readUInt64 u.text with
  | ok m =>
    have ⟨n, hn, hb, _⟩ := Number.readUInt64_eq_ok_iff.mp hr
    simp only [reduceCtorEq, exists_false, false_iff, not_not]
    exact ⟨n, hn, hb⟩
  | error r =>
    simp only [Except.error.injEq, exists_eq', true_iff]
    intro ⟨n, hn, hb⟩
    cases hr.symm.trans (Number.readUInt64_eq_ok_iff.mpr ⟨n, hn, hb, rfl⟩)

end Clause

-- The tokens start with a statement that has no limit, and with the keyword of a limit behind it.
-- But what should be a number then is none of 64 bits.
def Query.BadLimit (ts : List Token) (u : Token) : Prop :=
  ∃ us q t rest, ts = us ++ t :: u :: rest ∧ ofTokens us = .ok q ∧ q.limit = none ∧
    t.text = "limit" ∧ ¬∃ n, Number.IsNumeral u.text n ∧ n < 2 ^ 64

namespace Statement

variable {α : Type} {A : Action Clause → List Token → Value Clause → Prop} {scope : Scope Clause}
variable {read : Value Clause → Reading} {parts : List Grammar} {p : Grammar}
variable {F : List Token → α → Prop} {value : α → Value Clause}
variable {s s' : State} {e : Failure} {v : Value Clause}

-- The only thing that any action refuses is a limit.
def Answered (f : Action Clause) (span : List Token) (v : Value Clause) : Prop :=
  ∀ message, f span v = .error message → RefusesLimit span message

theorem answered_of_accepts {f : Action Clause} {span : List Token} {v : Value Clause}
    (h : Accepts f span v) : Answered f span v := by
  intro message hm
  have ⟨_, hw⟩ := h
  cases hw.symm.trans hm

-- What the parts of a clause yield has the shape that its reading expects.
theorem Made.calls (h : Made read parts F value) (ha : ∀ f span v, Accepts f span v → A f span v)
    (hp : CallsInAll A parts) : Calls A (clause read parts) := by
  refine ⟨fun scope s v s' hr => ?_, hp⟩
  have ⟨_, a, _, _, hm⟩ := h hr.reads
  exact ha _ _ _ ⟨_, hm⟩

theorem calls_fields : Calls Accepts fields :=
  made_fields.calls (fun _ _ _ => id)
    ⟨trivial, ⟨trivial, trivial, .sepBy trivial trivial, trivial⟩, trivial⟩

theorem calls_source : Calls Accepts source :=
  made_source.calls (fun _ _ _ => id) ⟨trivial, trivial, trivial⟩

theorem calls_condition : Calls Accepts condition :=
  made_condition.calls (fun _ _ _ => id) ⟨trivial, trivial, trivial, trivial⟩

theorem calls_filter : Calls Accepts filter :=
  made_filter.calls (fun _ _ _ => id) ⟨trivial, trivial, .sepBy calls_condition trivial, trivial⟩

theorem calls_sortKey : Calls Accepts sortKey :=
  made_sortKey.calls (fun _ _ _ => id) ⟨trivial, ⟨trivial, trivial, trivial, trivial⟩, trivial⟩

theorem calls_order : Calls Accepts order :=
  made_order.calls (fun _ _ _ => id)
    ⟨trivial, trivial, trivial, .sepBy calls_sortKey trivial, trivial⟩

theorem runs_any_ok (h : Runs scope any s ⟨.ok v, s'⟩) :
    ∃ u rest, s.remaining = u :: rest ∧ s.span s' = [u] := by
  have ⟨u, rest, hr, _, _, hs⟩ := State.ok_eq_accept_iff.mp (Runs.any_iff.mp h)
  refine ⟨u, rest, hr, ?_⟩
  simp [State.span, hs, hr, State.advance]

theorem calls_count : Calls Answered count := by
  refine ⟨fun scope s v s' hr message hm => ?_, trivial⟩
  have ⟨u, _, _, hu⟩ := runs_any_ok hr
  rw [hu] at hm ⊢
  exact readCount_singleton_eq_error_iff.mp hm

theorem calls_limit : Calls Answered limit :=
  made_limit.calls (fun _ _ _ => answered_of_accepts) ⟨trivial, trivial, calls_count, trivial⟩

theorem calls_statement : Calls Answered statement := by
  have hm {p : Grammar} (h : Calls Accepts p) : Calls Answered p :=
    .mono (fun _ _ _ => answered_of_accepts) p h
  exact made_statement.calls (fun _ _ _ => answered_of_accepts)
    ⟨hm calls_fields, hm calls_source, .optional (hm calls_filter), .optional (hm calls_order),
      .optional calls_limit, trivial⟩

-- A clause that fails fails in its parts.
theorem Made.runs_error (h : Made read parts F value)
    (hr : Runs scope (clause read parts) s ⟨.error e, s'⟩) :
    Runs scope (.seq parts) s ⟨.error e, s'⟩ := by
  have ⟨⟨o, t⟩, hp, hc⟩ := Runs.action_iff.mp hr
  cases o with
  | error _ =>
    cases hc
    exact hp
  | ok w =>
    have ⟨_, a, _, _, hm⟩ := h hp.reads
    simp [State.conclude, hm, Reply.success] at hc

theorem runs_count_error (h : Runs scope count s ⟨.error e, s'⟩) (he : e.error.isDomain) :
    ∃ u rest m, s.remaining = u :: rest ∧ readCount [u] = .error m ∧
      e.error = .domain m (.ofToken u) := by
  have ⟨⟨o, t⟩, hp, hc⟩ := Runs.action_iff.mp h
  cases o with
  | error _ =>
    cases hc
    have ha := accept_not_isDomain (congrArg Reply.outcome (Runs.any_iff.mp hp)).symm
    simp [ha] at he
  | ok w =>
    have ⟨u, rest, hr, hu⟩ := runs_any_ok hp
    simp only [State.conclude, hu] at hc
    cases hm : readCount [u] with
    | ok _ => simp [hm, Reply.success] at hc
    | error m =>
      rw [hm] at hc
      cases hc
      exact ⟨u, rest, m, hr, hm, rfl⟩

theorem runs_limit_error (h : Runs [] limit s ⟨.error e, s'⟩) (he : e.error.isDomain) :
    ∃ t u rest m, s.remaining = t :: u :: rest ∧ t.text = "limit" ∧ readCount [u] = .error m ∧
      e.error = .domain m (.ofToken u) := by
  have h := made_limit.runs_error h
  have ⟨_, _, h₁, h⟩ := exists_runs_behind (p := .literal "limit") trivial h he
  have ⟨_, _, h₂, h⟩ := exists_runs_behind (p := .commit) trivial h he
  have ⟨u, rest, m, hr, hm, hd⟩ := runs_count_error (runs_of_seq_singleton_error h) he
  obtain ⟨t, ht, hk, _⟩ := reads_literal.mp h₁.reads
  have ⟨_, hc⟩ := reads_commit.mp h₂.reads
  exact ⟨t, u, rest, m, by rw [ht, ← hc, hr], hk, hm, hd⟩

theorem runs_statement_error (h : Runs [] statement s ⟨.error e, s'⟩) (he : e.error.isDomain) :
    ∃ u m, Query.BadLimit s.remaining u ∧ RefusesLimit [u] m ∧
      e.error = .domain m (.ofToken u) := by
  have h := made_statement.runs_error h
  have ⟨_, s₁, h₁, h⟩ := exists_runs_behind calls_fields h he
  have ⟨_, s₂, h₂, h⟩ := exists_runs_behind calls_source h he
  have ⟨_, s₃, h₃, h⟩ := exists_runs_behind (.optional calls_filter) h he
  have ⟨_, s₄, h₄, h⟩ := exists_runs_behind (.optional calls_order) h he
  have ⟨_, _, h, hd⟩ := exists_runs_of_optional (runs_of_seq_singleton_error h)
  have ⟨t, u, rest, m, hr, ht, hm, hu⟩ := runs_limit_error h (hd ▸ he)
  have ⟨fs, names, hfs, hf, _⟩ := sound_fields h₁.reads
  have ⟨ss, path, hss, hs, _⟩ := sound_source h₂.reads
  have ⟨ws, cs, hws, hw, _⟩ := sound_filter h₃.reads
  have ⟨os, ks, hos, ho, _⟩ := sound_order h₄.reads
  have hq := Query.ofTokens_eq_ok_iff_form.mpr (.statement hf hs hw ho .absent)
  have hts : s.remaining = fs ++ (ss ++ (ws ++ (os ++ []))) ++ t :: u :: rest := by
    have hr : s₄.remaining = t :: u :: rest := hr
    simp [hfs, hss, hws, hos, hr]
  have hm := readCount_singleton_eq_error_iff.mp hm
  have hn : ∃ r, Number.readUInt64 u.text = .error r := by
    have ⟨_, r, hu, hr, _⟩ := hm
    cases hu
    exact ⟨r, hr⟩
  have hn := exists_readUInt64_eq_error_iff.mp hn
  exact ⟨u, m, ⟨_, _, t, rest, hts, hq, rfl, ht, hn⟩, hm, hd ▸ hu⟩

-- A limit that is none is refused, since no clause in front of it goes on with its keyword.
theorem fails_statement {us : List Token} {q : Query} {t u : Token} {m : String} (h : Form us q)
    (hq : q.limit = none) (ht : t.text = "limit") (hm : RefusesLimit [u] m) (rest : List Token) :
    ∃ cut, Fails [] statement (us ++ t :: u :: rest) (us ++ [t]) (.domain m) cut := by
  have hc : Fails [] count (u :: rest) [] (.domain m) false :=
    fails_count (readCount_singleton_eq_error_iff.mpr hm) rest
  have hl : Fails [] (.seq [.optional limit]) (t :: u :: rest) [t] (.domain m) true :=
    ((hc.seq.commit.literal ht).action _).optional.seq
  have ha (texts : List String) (hk : "limit" ∉ texts) : Avoids texts (t :: u :: rest) :=
    .head (ht ▸ hk)
  cases h with
  | statement hf hs hw ho hn =>
    cases hn with
    | limit  => cases hq
    | absent =>
      have ho' := ho.avoids ["where", "and"] (by decide) (ha _ (by decide))
      have ⟨_, h₄⟩ := Fails.seq_cons (complete_order ho (ha _ (by decide))) hl
      have ⟨_, h₃⟩ := Fails.seq_cons (complete_filter hw ho') h₄
      have ⟨_, h₂⟩ := Fails.seq_cons (complete_source hs trivial) h₃
      have ⟨cut, h₁⟩ := Fails.seq_cons (complete_fields hf (hs.avoids _ (by decide))) h₂
      refine ⟨cut, ?_⟩
      have h : Fails [] statement _ _ _ _ := h₁.action fun _ => readQuery
      simpa only [List.append_assoc, List.append_nil] using h

-- A statement is read as a query, or something is wrong with it.
theorem exists_parse_eq (ts : List Token) :
    (∃ q, statement.parse ts = some (.ok (.node (.query q)))) ∨
      ∃ e, statement.parse ts = some (.error e) := by
  cases course_clauses [] ts with
  | unfit _ _ _ fails =>
    have fails : Fails [] statement ts _ _ _ := fails.action _
    have ⟨_, _, h⟩ := fails.exists_parse_eq
    exact .inr ⟨_, h⟩
  | broken _ _ _ _ _ _ fails =>
    have fails : Fails [] statement ts _ _ _ := fails.action _
    have ⟨_, _, h⟩ := fails.exists_parse_eq
    exact .inr ⟨_, h⟩
  | @ended _ _ rest _ _ _ _ reads =>
    have h : Reads [] statement ts _ rest := reads_clause.mpr ⟨_, reads, readQuery_eq ..⟩
    cases rest with
    | nil      => exact .inl ⟨_, parse_eq_ok_iff.mpr h⟩
    | cons _ _ => exact .inr ⟨_, h.parse_eq⟩

theorem exists_logged (ts : List Token) : ∃ log r, Logged [] statement (.start ts) log r := by
  have hp : ∃ o, statement.parse ts = some o :=
    (exists_parse_eq ts).elim (fun ⟨_, h⟩ => ⟨_, h⟩) fun ⟨_, h⟩ => ⟨_, h⟩
  have ⟨_, hp⟩ := hp
  have ⟨r, hr, _⟩ := Option.bind_eq_some_iff.mp hp
  have ⟨log, h⟩ := runs_iff_exists_logged.mp (run_eq_some_iff.mp hr)
  exact ⟨log, r, h⟩

end Statement

namespace Query

open Statement

variable {ts : List Token} {e : ParseError} {m : String} {found : Found}

theorem ofTokens_eq_error_iff : ofTokens ts = .error e ↔ statement.parse ts = some (.error e) := by
  cases exists_parse_eq ts with
  | inl h =>
    obtain ⟨q, h⟩ := h
    simp [ofTokens, h]
  | inr h =>
    obtain ⟨_, h⟩ := h
    simp [ofTokens, h]

theorem ofTokens_eq_domain_iff :
    ofTokens ts = .error (.domain m found) ↔
      ∃ u, BadLimit ts u ∧ RefusesLimit [u] m ∧ found = .ofToken u := by
  rw [ofTokens_eq_error_iff]
  constructor
  case mp =>
    intro h
    have ⟨e, s, hr, he⟩ := exists_runs_of_parse_eq_domain h
    have ⟨u, _, hb, hm, hd⟩ := runs_statement_error hr (by rw [he]; rfl)
    rw [State.remaining_start] at hb
    cases he.symm.trans hd
    exact ⟨u, hb, hm, rfl⟩
  case mpr =>
    intro ⟨u, ⟨us, q, t, rest, hts, hq, hl, ht, _⟩, hm, hf⟩
    have ⟨_, h⟩ := fails_statement (ofTokens_eq_ok_iff_form.mp hq) hl ht hm rest
    have ⟨rest', hr, hp⟩ := h.exists_parse_eq
    have hr : u :: rest = rest' := by simpa using hr
    rw [hts, hp, hf, ← hr]
    rfl

-- No action is called with anything but what it expects, apart from the one that reads the number
-- of a limit. So nothing but a limit is refused, and a limit is refused only if its number is.
theorem refusal_iff_badLimit (ts : List Token) :
    (∃ log r, Logged [] statement (.start ts) log r) ∧
    (∀ log r, Logged [] statement (.start ts) log r → ∀ f span v message,
      Event.Occurs (.action f span v) log → f span v = .error message →
        RefusesLimit span message) ∧
    ((∃ q, statement.parse ts = some (.ok (.node (.query q)))) ∨
      ∃ e, statement.parse ts = some (.error e)) ∧
    ((∃ message found, ofTokens ts = .error (.domain message found)) ↔ ∃ u, BadLimit ts u) ∧
    ∀ u, BadLimit ts u → ∃ r, Number.readUInt64 u.text = .error r ∧ ofTokens ts =
      .error (.domain s!"invalid limit {Quoted.string u.text}: {r.message}" (.ofToken u)) := by
  have hb (u) (h : BadLimit ts u) : ∃ r, Number.readUInt64 u.text = .error r ∧ ofTokens ts =
      .error (.domain s!"invalid limit {Quoted.string u.text}: {r.message}" (.ofToken u)) := by
    have ⟨_, _, _, _, _, _, _, _, hn⟩ := h
    have ⟨r, hr⟩ := exists_readUInt64_eq_error_iff.mpr hn
    exact ⟨r, hr, ofTokens_eq_domain_iff.mpr ⟨u, h, ⟨u, r, rfl, hr, rfl⟩, rfl⟩⟩
  refine ⟨?_, fun _ _ h _ _ _ message ho => ?_, exists_parse_eq ts, ?_, hb⟩
  case refine_1 => exact exists_logged ts
  case refine_2 => exact h.answers calls_statement nofun ho message
  case refine_3 =>
    constructor
    case mp =>
      intro ⟨m, found, h⟩
      have ⟨u, hu, _⟩ := ofTokens_eq_domain_iff.mp h
      exact ⟨u, hu⟩
    case mpr =>
      intro ⟨u, hu⟩
      have ⟨_, _, h⟩ := hb u hu
      exact ⟨_, _, h⟩

-- The first number that takes more than 64 bits, behind clauses of all the other kinds.
theorem refusal_iff_badLimit_tooLarge :
    let word (text : String) : Token := ⟨.identifier, text, .start⟩
    let u : Token := ⟨.number, "18446744073709551616", ⟨45, 1, 46⟩⟩
    let us := ["select", "a", "from", "b", "where", "c"].map word ++
      ⟨.operator, "<", .start⟩ :: ["5", "order", "by", "d"].map word
    let ts := us ++ [word "limit", u]
    let message := "invalid limit \"18446744073709551616\": number too large to fit in target type"
    BadLimit ts u ∧ (∃ message found, ofTokens ts = .error (.domain message found)) ∧
      ofTokens ts = .error (.domain message (.ofToken u)) := by
  intro word u us ts message
  have hq : ofTokens us = .ok {
      fields     := ["a"]
      collection := "b"
      conditions := [⟨"c", .lt, "5"⟩]
      sortKeys   := [⟨"d", .ascending⟩]
    } := by
    decide +kernel
  have hr : Number.readUInt64 u.text = .error .tooLarge := by decide +kernel
  have hb : BadLimit ts u :=
    ⟨us, _, word "limit", [], rfl, hq, rfl, rfl, exists_readUInt64_eq_error_iff.mp ⟨_, hr⟩⟩
  have ⟨_, _, _, hi, hu⟩ := refusal_iff_badLimit ts
  have ⟨_, hr', he⟩ := hu u hb
  cases hr.symm.trans hr'
  exact ⟨hb, hi.mpr ⟨u, hb⟩, he.trans (by decide +kernel)⟩

end Query

end SelectLang
