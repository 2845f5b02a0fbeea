import SelectLang.Proofs.Parser.Agreement
import SelectLang.Proofs.Parser.Separated

namespace SelectLang

variable {ν : Type}

namespace Parser

-- In front of the tokens `ts`, the parser fails, and complains about what stands behind those
-- that it has seen. If the failure is cut, a choice tries nothing else after it.
def Fails (scope : Scope ν) (p : Parser ν) (ts seen : List Token) (c : Complaint) (cut : Bool) :
    Prop :=
  ∃ e s rest, ts = seen ++ rest ∧ Runs scope p (.start ts) ⟨.error e, s⟩ ∧
    e.error = c.about (.ofToken? rest.head?) ∧ (e.fatal || s.committed) = cut

variable {scope : Scope ν} {p : Parser ν} {ps : List (Parser ν)} {s : State} {v v' : Value ν}
variable {t : Token} {ts seen mid rest rest' : List Token} {c : Complaint} {cut : Bool}
variable {what : String} {test : Token → Bool} {f : Action ν}

theorem Reads.deterministic (h : Reads scope p ts v rest) (h' : Reads scope p ts v' rest') :
    v = v' ∧ rest = rest' := by
  obtain ⟨s, h, rfl⟩ := h
  obtain ⟨s', h', rfl⟩ := h'
  cases h.deterministic h'
  exact ⟨rfl, rfl⟩

theorem Fails.not_reads (h : Fails scope p ts seen c cut) : ¬Reads scope p ts v rest := by
  rintro ⟨s', h', -⟩
  have ⟨e, s, _, _, h, _⟩ := h
  cases h.deterministic h'

theorem Fails.rejects (h : Fails scope p ts seen c false) : Rejects scope p ts :=
  have ⟨e, s, _, _, h, _, hc⟩ := h
  ⟨e, s, h, hc⟩

-- A test is passed by the first token, or by no token that there is.
theorem exists_head_or (ts : List Token) (test : Token → Bool) :
    (∃ t us, ts = t :: us ∧ test t) ∨ ∀ t, ts.head? = some t → test t = false := by
  cases ts with
  | nil => exact .inr nofun
  | cons t us =>
    cases h : test t with
    | true  => exact .inl ⟨t, us, rfl, h⟩
    | false => exact .inr fun _ ht => Option.some.inj ht ▸ h

theorem exists_head_or_avoids (ts : List Token) (texts : List String) :
    (∃ t us, ts = t :: us ∧ t.text ∈ texts) ∨ Avoids texts ts := by
  obtain ⟨t, us, he, ht⟩ | h := exists_head_or ts (texts.contains ·.text)
  · exact .inl ⟨t, us, he, List.contains_iff_mem.mp ht⟩
  · exact .inr fun t ht hm => by simpa [hm] using h t ht

theorem fails_of_accept (hp : ∀ s r, Runs scope p s r ↔ r = s.accept what test)
    (h : ∀ t, ts.head? = some t → test t = false) :
    Fails scope p ts [] (.expected what) false :=
  have hr := (hp (.start ts) _).mpr (State.error_eq_accept_iff.mpr ⟨h, rfl, rfl⟩)
  ⟨_, .start ts, ts, rfl, hr, congrArg _ (State.found_eq _), rfl⟩

theorem fails_literal {text : String} (h : Avoids [text] ts) :
    Fails scope (literal text) ts [] (.expected (Quoted.string text)) false :=
  fails_of_accept (fun _ _ => Runs.literal_iff) fun t ht => by simpa using h t ht

theorem fails_predicate (h : ∀ t, ts.head? = some t → test t = false) :
    Fails scope (predicate what test) ts [] (.expected what) false :=
  fails_of_accept (fun _ _ => Runs.predicate_iff) h

theorem fails_any : Fails scope any [] [] (.expected "any token") false :=
  fails_of_accept (fun _ _ => Runs.any_iff) nofun

theorem fails_choice (h : ∀ p ∈ ps, Rejects scope p ts) :
    Fails scope (choice ps) ts [] .noAlternative false := by
  have hf := congrArg ParseError.noAlternative (State.found_eq (.start ts))
  refine ⟨.ofError _, .start ts, ts, rfl, ?_, hf, rfl⟩
  induction ps with
  | nil => exact Runs.choice_nil_iff.mpr rfl
  | cons p ps ih =>
    have ⟨⟨e, s, hp, hc⟩, hps⟩ := List.forall_mem_cons.mp h
    exact Runs.choice_cons_iff.mpr (.inr ⟨e, s, hp, .inr ⟨hc, ih hps⟩⟩)

-- An action that refuses what it is given complains about the first of it.
theorem fails_action {message : String} (h : Runs scope p (.start ts) ⟨.ok v, s⟩)
    (hf : f ((State.start ts).span s) v = .error message) :
    Fails scope (action f p) ts [] (.domain message) s.committed := by
  have ⟨_, hb⟩ := h
  have hb := hb.bounded (Nat.zero_le _)
  have hc := State.head?_span_or hb.tokens_eq hb.cursor_le
  have hf' := congrArg (ParseError.domain message) (State.found_eq (.start ts))
  refine ⟨.ofError _, s, ts, rfl, Runs.action_iff.mpr ⟨_, h, ?_⟩, hf', rfl⟩
  simp only [State.conclude, hf, hc]
  rfl

namespace Fails

theorem seq (h : Fails scope p ts seen c cut) : Fails scope (seq (p :: ps)) ts seen c cut :=
  have ⟨e, s, rest, ht, h, he, hc⟩ := h
  ⟨e, s, rest, ht, Runs.seq_cons_iff.mpr (.inl ⟨e, s, h, rfl⟩), he, hc⟩

theorem map (h : Fails scope p ts seen c cut) (f : Value ν → Value ν) :
    Fails scope (map f p) ts seen c cut :=
  have ⟨e, s, rest, ht, h, he, hc⟩ := h
  ⟨e, s, rest, ht, Runs.map_iff.mpr ⟨_, h, rfl⟩, he, hc⟩

theorem action (h : Fails scope p ts seen c cut) (f : Action ν) :
    Fails scope (action f p) ts seen c cut :=
  have ⟨e, s, rest, ht, h, he, hc⟩ := h
  ⟨e, s, rest, ht, Runs.action_iff.mpr ⟨_, h, rfl⟩, he, hc⟩

-- The tokens that one part has read are seen, and what it has committed stays so.
theorem seq_of_runs (h : Runs scope p (.start ts) ⟨.ok v, s⟩)
    (hs : Fails scope (.seq ps) s.remaining seen c cut) :
    Fails scope (.seq (p :: ps)) ts ((State.start ts).span s ++ seen) c (s.committed || cut) := by
  have ⟨e, s', rest, ht, hr, he, hc⟩ := hs
  obtain ⟨⟨_, s''⟩, hr', ho, k, b, hk, hk'⟩ := hr.exists_alike (State.remaining_start _)
  cases ho
  refine ⟨e, s'', rest, ?_, Runs.seq_cons_iff.mpr (.inr ⟨v, s, _, h, hr', rfl⟩), he, ?_⟩
  · rw [List.append_assoc, ← ht]
    exact h.span_append.symm
  · simp only at hk hk'
    rw [← hc, hk, hk']
    exact Bool.or_left_comm ..

theorem seq_cons (h : Reads scope p (mid ++ rest) v rest)
    (hs : Fails scope (.seq ps) rest seen c cut) :
    ∃ cut, Fails scope (.seq (p :: ps)) (mid ++ rest) (mid ++ seen) c cut := by
  obtain ⟨s, h, rfl⟩ := h
  have hm : (State.start (mid ++ s.remaining)).span s = mid :=
    List.append_cancel_right h.span_append
  have hf := seq_of_runs h hs
  rw [hm] at hf
  exact ⟨_, hf⟩

theorem token_of_accept (hp : ∀ s r, Runs scope p s r ↔ r = s.accept what test) (ht : test t)
    (h : Fails scope (.seq ps) ts seen c cut) :
    Fails scope (.seq (p :: ps)) (t :: ts) (t :: seen) c cut :=
  have hr := State.ok_eq_accept_iff.mpr ⟨t, ts, rfl, ht, rfl, rfl⟩
  seq_of_runs ((hp (.start (t :: ts)) _).mpr hr) h

theorem literal {text : String} (ht : t.text = text) (h : Fails scope (.seq ps) ts seen c cut) :
    Fails scope (.seq (literal text :: ps)) (t :: ts) (t :: seen) c cut :=
  h.token_of_accept (fun _ _ => Runs.literal_iff) (beq_iff_eq.mpr ht)

theorem predicate (ht : test t) (h : Fails scope (.seq ps) ts seen c cut) :
    Fails scope (.seq (predicate what test :: ps)) (t :: ts) (t :: seen) c cut :=
  h.token_of_accept (fun _ _ => Runs.predicate_iff) ht

theorem commit (h : Fails scope (.seq ps) ts seen c cut) :
    Fails scope (.seq (commit :: ps)) ts seen c true := by
  have hr : Runs scope Parser.commit (.start ts) ⟨.ok .empty, ⟨ts, 0, true⟩⟩ :=
    Runs.commit_iff.mpr rfl
  exact seq_of_runs hr h

-- The failure of an optional part that is committed is one of the whole.
theorem optional (h : Fails scope p ts seen c true) : Fails scope (optional p) ts seen c true :=
  have ⟨e, s, rest, ht, h, he, hc⟩ := h
  ⟨e.toFatal, _, rest, ht, Runs.choice_cons_iff.mpr (.inr ⟨e, s, h, .inl ⟨hc, rfl⟩⟩), he, rfl⟩

theorem exists_parse_eq (h : Fails [] p ts seen c cut) :
    ∃ rest, ts = seen ++ rest ∧ p.parse ts = some (.error (c.about (.ofToken? rest.head?))) := by
  have ⟨e, s, rest, ht, h, he, _⟩ := h
  exact ⟨rest, ht, by simp [parse, run_eq_some_iff.mpr h, he]⟩

end Fails

theorem Reads.parse_eq (h : Reads [] p ts v (t :: rest)) :
    p.parse ts = some (.error (.trailing (.ofToken t))) := by
  have ⟨s, h, hs⟩ := h
  have he : s.atEnd = false := by
    refine Bool.eq_false_iff.mpr fun he => ?_
    rw [State.remaining, List.drop_eq_nil_of_le (of_decide_eq_true he)] at hs
    cases hs
  simp [parse, run_eq_some_iff.mpr h, he, State.found_eq, hs, Found.ofToken?]

end Parser

end SelectLang
