import SelectLang.Proofs.Parser.Reading

namespace SelectLang

variable {ν : Type} {α β : Type}

-- What there is at an index: a token, or the end of the input right behind the last one.
inductive Found.At (ts : List Token) (k : Nat) : Found → Prop
  | token {t} (get : ts[k]? = some t) : At ts k (.token t.text t.position)
  | endOfInput (eq : k = ts.length)   : At ts k .endOfInput

-- The errors that a run may fail with, by the index that they are about.
inductive ParseError.Blames (ts : List Token) (k : Nat) : ParseError → Prop
  | expected {what f} (found : Found.At ts k f)  : Blames ts k (.expected what f)
  | noAlternative {f} (found : Found.At ts k f)  : Blames ts k (.noAlternative f)
  | domain {message f} (found : Found.At ts k f) : Blames ts k (.domain message f)

-- A reply to a run from `s` that has moved forward over the tokens, but not beyond the last
-- one, and that blames nothing in front of or behind the tokens it has moved over.
structure Reply.Bounded (s : State) (r : Reply α) : Prop where
  tokens_eq : r.state.tokens = s.tokens
  cursor_le : s.cursor ≤ r.state.cursor
  le_length : r.state.cursor ≤ s.tokens.length
  blames    : ∀ e, r.outcome = .error e →
    ∃ k, s.cursor ≤ k ∧ k ≤ r.state.cursor ∧ e.error.Blames s.tokens k

theorem Found.At.eq_or_mem {ts : List Token} {k : Nat} {f : Found} (h : f.At ts k) :
    f = .endOfInput ∨ ∃ t ∈ ts, f = .ofToken t := by
  cases h with
  | token h      => exact .inr ⟨_, List.mem_of_getElem? h, rfl⟩
  | endOfInput _ => exact .inl rfl

theorem Found.at_ofToken? {ts : List Token} {k : Nat} (hk : k ≤ ts.length) :
    (ofToken? ts[k]?).At ts k := by
  cases h : ts[k]? with
  | some t => exact .token h
  | none   => exact .endOfInput (Nat.le_antisymm hk (List.getElem?_eq_none_iff.mp h))

theorem ParseError.Blames.found?_eq {ts : List Token} {k : Nat} {e : ParseError}
    (h : e.Blames ts k) : ∃ f, e.found? = some f ∧ f.At ts k := by
  cases h with
  | expected hf | noAlternative hf | domain hf => exact ⟨_, rfl, hf⟩

-- An action blames the first token that it is given, and otherwise the current one. Either
-- way, this is the one where the action has started.
theorem State.head?_span_or {s s' : State} (ht : s'.tokens = s.tokens) (hc : s.cursor ≤ s'.cursor) :
    (s.span s').head?.or s'.current? = s.current? := by
  obtain hc | hc := Nat.eq_or_lt_of_le hc
  · simp [State.span, State.current?, ht, hc]
  · have hn : s'.cursor - s.cursor ≠ 0 := by omega
    simp only [State.span, State.remaining, State.current?, List.head?_take, if_neg hn,
      List.head?_drop, ht]
    cases h : s.tokens[s.cursor]? with
    | some t => rfl
    | none =>
      have := List.getElem?_eq_none_iff.mp h
      exact List.getElem?_eq_none (by omega)

namespace Reply.Bounded

variable {s : State} {r : Reply α} {e : ParseError}

-- A result blames nothing.
theorem ok {s' : State} (ht : s'.tokens = s.tokens) (hc : s.cursor ≤ s'.cursor)
    (hl : s'.cursor ≤ s.tokens.length) (a : α) : Bounded s ⟨.ok a, s'⟩ where
  tokens_eq   := ht
  cursor_le   := hc
  le_length   := hl
  blames _ he := by cases he

-- A failure may blame the place where the run has started, as that is never out of bounds.
theorem error {s' : State} {e : Failure} (ht : s'.tokens = s.tokens) (hc : s.cursor ≤ s'.cursor)
    (hl : s'.cursor ≤ s.tokens.length) (h : e.error.Blames s.tokens s.cursor) :
    Bounded s (⟨.error e, s'⟩ : Reply α) where
  tokens_eq   := ht
  cursor_le   := hc
  le_length   := hl
  blames _ he := by
    cases he
    exact ⟨s.cursor, Nat.le_refl _, hc, h⟩

theorem success (hs : s.cursor ≤ s.tokens.length) (a : α) : Bounded s (.success a s) :=
  .ok rfl (Nat.le_refl _) hs a

theorem failure (hs : s.cursor ≤ s.tokens.length) (h : e.Blames s.tokens s.cursor) :
    Bounded s (.failure e s : Reply α) :=
  .error rfl (Nat.le_refl _) hs h

theorem map (h : Bounded s r) (f : α → β) : Bounded s (r.map f) where
  tokens_eq := h.tokens_eq
  cursor_le := h.cursor_le
  le_length := h.le_length
  blames e he := by
    obtain ⟨o, _⟩ := r
    cases o <;> cases he
    exact h.blames e rfl

theorem accept (hs : s.cursor ≤ s.tokens.length) (what : String) (test : Token → Bool) :
    Bounded s (s.accept what test : Reply (Value ν)) := by
  simp only [State.accept]
  split
  case h_1 t ht =>
    have hc := (Option.filter_eq_some_iff.mp ht).1
    have ht : s.advance.tokens = s.tokens := rfl
    have hl : s.advance.cursor ≤ s.tokens.length := (List.getElem?_eq_some_iff.mp hc).1
    exact .ok ht (Nat.le_succ _) hl _
  case h_2 => exact .failure hs (.expected (Found.at_ofToken? hs))

theorem noAlternative (hs : s.cursor ≤ s.tokens.length) :
    Bounded s (s.noAlternative : Reply α) :=
  .failure hs (.noAlternative (Found.at_ofToken? hs))

-- The flag that the run starts with does not matter, nor does the one that it leaves.
theorem withFlag {b : Bool} (h : Bounded { s with committed := b } r) (b' : Bool) :
    Bounded s (r.withFlag b') :=
  ⟨h.tokens_eq, h.cursor_le, h.le_length, h.blames⟩

theorem toFatal {e : Failure} {s' : State} (h : Bounded s (⟨.error e, s'⟩ : Reply α)) :
    Bounded s (⟨.error e.toFatal, s'⟩ : Reply α) where
  tokens_eq   := h.tokens_eq
  cursor_le   := h.cursor_le
  le_length   := h.le_length
  blames _ he := by
    cases he
    exact h.blames e rfl

theorem andThen {r' : Reply β} (h : Bounded s r) (h' : Bounded r.state r') : Bounded s r' where
  tokens_eq := h'.tokens_eq.trans h.tokens_eq
  cursor_le := h.cursor_le.trans h'.cursor_le
  le_length := h.tokens_eq ▸ h'.le_length
  blames e he := by
    have ⟨k, hk, hk', hb⟩ := h'.blames e he
    exact ⟨k, h.cursor_le.trans hk, hk', h.tokens_eq ▸ hb⟩

theorem conclude {r : Reply (Value ν)} (hs : s.cursor ≤ s.tokens.length) (h : Bounded s r)
    (f : Action ν) : Bounded s (s.conclude f r) := by
  obtain ⟨o, s'⟩ := r
  cases o with
  | error e => exact h
  | ok v =>
    simp only [State.conclude, State.head?_span_or h.tokens_eq h.cursor_le]
    split
    case h_1 => exact .ok h.tokens_eq h.cursor_le h.le_length _
    case h_2 =>
      exact .error h.tokens_eq h.cursor_le h.le_length (.domain (Found.at_ofToken? hs))

end Reply.Bounded

namespace Parser

variable {depth : Nat} {scope : Scope ν} {p : Parser ν} {ps : List (Parser ν)} {s : State}
variable {r : Reply (Value ν)}

theorem RunsIn.bounded (h : RunsIn depth scope p s r) (hs : s.cursor ≤ s.tokens.length) :
    r.Bounded s := by
  induction h with
  | literal | predicate | any      => exact .accept hs ..
  | empty | seqNil                 => exact .success hs _
  | commit                         => exact (Reply.Bounded.success hs _).withFlag true
  | fail                           => exact .failure hs (.domain (Found.at_ofToken? hs))
  | dangling | choiceNil | unbound => exact .noAlternative hs
  | seqStop _ hi                   => exact hi hs
  | seqCons _ _ hi hi' =>
    have h := hi hs
    exact (h.andThen (hi' (h.tokens_eq ▸ h.le_length))).map _
  | choiceFit _ hi                 => exact (hi hs).withFlag _
  | choiceCut _ _ hi               => exact (hi hs).toFatal.withFlag _
  | choiceSkip _ _ _ _ hi          => exact hi hs
  | map _ hi                       => exact (hi hs).map _
  | action _ hi                    => exact (hi hs).conclude hs _
  | fix _ hi | standIn _ _ hi      => exact hi hs

-- A choice without a fatal failure has gone back to where it started, and blames that place.
theorem RunsIn.choice_eq_noAlternative {e : Failure} {s' : State}
    (h : RunsIn depth scope (choice ps) s ⟨.error e, s'⟩) (hf : e.fatal = false) :
    ⟨.error e, s'⟩ = (s.noAlternative : Reply (Value ν)) := by
  induction ps with
  | nil =>
    cases h
    rfl
  | cons p ps ih =>
    generalize hr : (⟨.error e, s'⟩ : Reply (Value ν)) = r at h
    cases h with
    | choiceFit => cases hr
    | choiceCut =>
      cases hr
      contradiction
    | choiceSkip _ _ h => exact hr ▸ ih (hr ▸ h)

-- A parse leaves out no tokens without one to blame, and never blames one that it was not
-- given.
theorem found?_of_parse {ts : List Token} {e : ParseError} (h : p.parse ts = some (.error e)) :
    (∃ t ∈ ts, e = .trailing (.ofToken t)) ∨ ∃ k, e.Blames ts k := by
  simp only [parse, run, Option.bind_eq_bind, Option.bind_eq_some_iff] at h
  obtain ⟨⟨o, s⟩, h, hr⟩ := h
  have hb := (RunsIn.of_runWithin h).bounded (Nat.zero_le _)
  cases o with
  | error e' =>
    cases hr
    obtain ⟨k, -, -, hb⟩ := hb.blames e' rfl
    exact .inr ⟨k, hb⟩
  | ok v =>
    simp only [pure, Option.some.injEq] at hr
    split at hr
    case isTrue => cases hr
    case isFalse hs =>
      cases hr
      simp only [State.atEnd, decide_eq_true_eq, Nat.not_le] at hs
      have ht : s.tokens = ts := hb.tokens_eq
      subst ht
      refine .inl ⟨s.tokens[s.cursor], List.getElem_mem hs, ?_⟩
      simp [State.found, State.current?, Found.ofToken?, hs]

-- A run keeps within the tokens, and so does what its actions are given and what its errors
-- blame.
theorem runWithin_bounded (hs : s.cursor ≤ s.tokens.length)
    (h : runWithin depth scope p s = some r) :
    r.Bounded s ∧
      (∀ f q, p = action f q → ∃ r', Runs scope q s r' ∧ r = s.conclude f r' ∧
        s.cursor ≤ r'.state.cursor ∧ r'.state.cursor ≤ s.tokens.length ∧
        s.span r'.state = s.tokens.extract s.cursor r'.state.cursor ∧
        s.span r'.state ++ r'.state.remaining = s.remaining) ∧
      (∀ ps e, p = choice ps → r.outcome = .error e → e.fatal = false →
        r.state.cursor = s.cursor ∧ e.error.Blames s.tokens s.cursor) ∧
      (∀ ts e, p.parse ts = some (.error e) →
        (∀ f, e = .trailing f → f ≠ .endOfInput) ∧
        ∀ f, e.found? = some f → f = .endOfInput ∨ ∃ t ∈ ts, f = .ofToken t) := by
  have h := runsIn_iff.mpr h
  refine ⟨h.bounded hs, ?_, ?_, ?_⟩
  case refine_1 =>
    rintro f q rfl
    obtain ⟨r', hq, rfl⟩ := Runs.action_iff.mp ⟨_, h⟩
    have ⟨_, hq'⟩ := hq
    have hb := hq'.bounded hs
    exact ⟨r', hq, rfl, hb.cursor_le, hb.le_length, rfl, hq.span_append⟩
  case refine_2 =>
    obtain ⟨o, s'⟩ := r
    rintro ps e rfl rfl hf
    cases h.choice_eq_noAlternative hf
    exact ⟨rfl, .noAlternative (Found.at_ofToken? hs)⟩
  case refine_3 =>
    intro ts e he
    obtain ⟨t, ht, rfl⟩ | ⟨k, hb⟩ := found?_of_parse he
    · constructor
      · rintro f ⟨⟩ ⟨⟩
      · rintro f ⟨⟩
        exact .inr ⟨t, ht, rfl⟩
    · obtain ⟨f, hf, ha⟩ := hb.found?_eq
      constructor
      · rintro f rfl
        cases hb
      · intro f' hf'
        cases hf.symm.trans hf'
        exact ha.eq_or_mem

-- An action refuses the one token that it is given, and so does its parse.
theorem runWithin_bounded_action :
    let a : Token := ⟨.identifier, "a", .start⟩
    let b : Token := ⟨.identifier, "b", .start⟩
    let refuse : Action Unit := fun _ _ => .error "refused"
    let p := Parser.action refuse (.predicate "b" (·.text == "b"))
    let s : State := ⟨[a, b], 1, false⟩
    let r : Reply (Value Unit) :=
      ⟨.error ⟨.domain "refused" (.ofToken b), false⟩, ⟨[a, b], 2, false⟩⟩
    let scope : Scope Unit := []
    s.cursor ≤ s.tokens.length ∧ runWithin 2 scope p s = some r ∧
      r.Bounded s ∧
      (∀ f q, p = action f q → ∃ r', Runs scope q s r' ∧ r = s.conclude f r' ∧
        s.cursor ≤ r'.state.cursor ∧ r'.state.cursor ≤ s.tokens.length ∧
        s.span r'.state = s.tokens.extract s.cursor r'.state.cursor ∧
        s.span r'.state ++ r'.state.remaining = s.remaining) ∧
      (∀ ps e, p = choice ps → r.outcome = .error e → e.fatal = false →
        r.state.cursor = s.cursor ∧ e.error.Blames s.tokens s.cursor) ∧
      (∀ ts e, p.parse ts = some (.error e) →
        (∀ f, e = .trailing f → f ≠ .endOfInput) ∧
        ∀ f, e.found? = some f → f = .endOfInput ∨ ∃ t ∈ ts, f = .ofToken t) := by
  intro a b refuse p s r scope
  have hs : s.cursor ≤ s.tokens.length := by decide
  have h : runWithin 2 scope p s = some r := rfl
  exact ⟨hs, h, runWithin_bounded hs h⟩

end Parser

end SelectLang
