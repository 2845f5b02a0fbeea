import SelectLang.Proofs.Parser.Fatality
import SelectLang.Proofs.Parser.Reading

namespace SelectLang

variable {ν : Type}

namespace Parser

section

variable (A : Action ν → List Token → Value ν → Prop)

mutual

-- Whatever the actions of a parser are called with, the calls are as they should be. There is
-- nothing in the parser that refuses tokens on its own.
def Calls : Parser ν → Prop
  | fail _     => False
  | seq ps     => CallsInAll ps
  | choice ps  => CallsInAll ps
  | map _ p    => p.Calls
  | action f p =>
    (∀ ⦃scope s v s'⦄, Runs scope p s ⟨.ok v, s'⟩ → A f (s.span s') v) ∧ p.Calls
  | fix _ p    => p.Calls
  | _          => True

def CallsInAll : List (Parser ν) → Prop
  | []      => True
  | p :: ps => p.Calls ∧ CallsInAll ps

end

end

-- An action makes a result of what it is called with.
def Accepts (f : Action ν) (span : List Token) (v : Value ν) : Prop :=
  ∃ w, f span v = .ok w

variable {A B : Action ν → List Token → Value ν → Prop} {p q : Parser ν} {ps : List (Parser ν)}

mutual

theorem Calls.mono (h : ∀ f span v, A f span v → B f span v) :
    (p : Parser ν) → Calls A p → Calls B p
  | seq ps, hp | choice ps, hp => CallsInAll.mono h ps hp
  | map _ p, hp | fix _ p, hp  => Calls.mono h p hp
  | action f p, hp =>
    ⟨fun _ _ _ _ hr => h f _ _ (hp.1 hr), Calls.mono h p hp.2⟩
  | literal _, _ | predicate .., _ | any, _ | empty, _ | commit, _ | standIn _, _ | dangling, _ =>
    trivial

theorem CallsInAll.mono (h : ∀ f span v, A f span v → B f span v) :
    (ps : List (Parser ν)) → CallsInAll A ps → CallsInAll B ps
  | [], _       => trivial
  | p :: ps, hp => ⟨Calls.mono h p hp.1, CallsInAll.mono h ps hp.2⟩

end

theorem Calls.optional (h : Calls A p) : Calls A (optional p) :=
  ⟨h, trivial, trivial⟩

theorem Calls.many (h : Calls A p) : Calls A (many p) :=
  ⟨⟨h, trivial, trivial⟩, trivial, trivial⟩

theorem Calls.sepBy (hp : Calls A p) (hq : Calls A q) : Calls A (sepBy p q) :=
  ⟨hp, Calls.many ⟨hq, hp, trivial⟩, trivial⟩

end Parser

namespace Event

variable {f : Action ν} {span : List Token} {v : Value ν} {s : State} {r : Reply (Value ν)}

theorem not_occurs_action_ofMap {g : Value ν → Value ν} :
    ¬Occurs (.action f span v) (ofMap g r) := by
  intro h
  have ⟨_, h⟩ := h.of_ofMap
  contradiction

-- An action is called with the tokens and the result of the run that it is about.
theorem occurs_action_ofAction_iff {g : Action ν} :
    Occurs (.action f span v) (ofAction g s r) ↔
      f = g ∧ span = s.span r.state ∧ r.outcome = .ok v := by
  simp only [ofAction]
  cases r.outcome with
  | error _ => simp [Occurs.not_nil]
  | ok w =>
    constructor
    case mp =>
      intro h
      cases h with
      | within hm _ => simp at hm
      | here hm     => simpa [eq_comm] using hm
    case mpr =>
      rintro ⟨hf, hs, hv⟩
      cases hv
      exact .here (by simp [hf, hs])

-- Every action that is called in the log is called as it should be.
def Answers (A : Action ν → List Token → Value ν → Prop) (log : List (Event ν)) : Prop :=
  ∀ ⦃f span v⦄, Occurs (.action f span v) log → A f span v

namespace Answers

variable {A : Action ν → List Token → Value ν → Prop} {p : Parser ν} {inner log : List (Event ν)}

theorem nil : Answers A [] :=
  fun _ _ _ h => absurd h Occurs.not_nil

theorem run (h : Answers A inner) (h' : Answers A log) : Answers A (.run p s inner r :: log) := by
  intro f span v ho
  cases Occurs.cons_iff.mp ho with
  | inr ho => exact h' ho
  | inl ho =>
    cases Occurs.run_iff.mp ho with
    | inl he => contradiction
    | inr ho => exact h ho

theorem ofMap {g : Value ν → Value ν} : Answers A (ofMap g r) :=
  fun _ _ _ h => absurd h not_occurs_action_ofMap

theorem ofAction {g : Action ν} (h : ∀ v, r.outcome = .ok v → A g (s.span r.state) v) :
    Answers A (ofAction g s r) := by
  intro f span v ho
  obtain ⟨rfl, rfl, hr⟩ := occurs_action_ofAction_iff.mp ho
  exact h v hr

end Answers

end Event

namespace Parser

open Event

-- The parsers of a scope call their actions as they should.
def ScopeCalls (A : Action ν → List Token → Value ν → Prop) (scope : Scope ν) : Prop :=
  ∀ entry ∈ scope, Calls A entry.2

variable {A : Action ν → List Token → Value ν → Prop} {scope around : Scope ν} {p body : Parser ν}
variable {ps : List (Parser ν)} {s s' : State} {log : List (Event ν)} {r : Reply (Value ν)}
variable {e : Failure} {label : Label}

theorem ScopeCalls.cons (h : ScopeCalls A scope) (hp : Calls A p) (label : Label) :
    ScopeCalls A ((label, p) :: scope) :=
  List.forall_mem_cons.mpr ⟨hp, h⟩

theorem ScopeCalls.resolve? (h : ScopeCalls A scope)
    (hl : scope.resolve? label = some (body, around)) : Calls A body ∧ ScopeCalls A around :=
  have ⟨hm, hs⟩ := Scope.suffix_of_resolve? hl
  ⟨h _ (hs.subset hm), fun _ he => h _ (hs.subset he)⟩

theorem Logged.answers (h : Logged scope p s log r) (hp : Calls A p) (hs : ScopeCalls A scope) :
    Answers A log := by
  induction h with
  | literal | predicate | any | empty | commit | dangling | seqNil | choiceNil | unbound =>
    exact .nil
  | fail                     => exact hp.elim
  | seqStop _ hi             => exact (hi hp.1 hs).run .nil
  | seqCons _ _ hi hi'       => exact (hi hp.1 hs).run (hi' hp.2 hs)
  | choiceFit _ hi           => exact (hi hp.1 hs).run .nil
  | choiceCut _ _ hi         => exact (hi hp.1 hs).run .nil
  | choiceSkip _ _ _ hi hi'  => exact (hi hp.1 hs).run (hi' hp.2 hs)
  | map _ hi                 => exact (hi hp hs).run .ofMap
  | @action _ _ _ _ _ r h hi =>
    refine (hi hp.2 hs).run (.ofAction fun v hr => ?_)
    have ⟨_, _⟩ := r
    cases hr
    exact hp.1 h.runs
  | @fix _ _ b _ _ _ _ hi    => exact (hi hp (hs.cons (p := b) hp _)).run .nil
  | standIn hl _ hi =>
    have ⟨hb, ha⟩ := hs.resolve? hl
    exact (hi hb ha).run .nil

theorem accept_not_isDomain {what : String} {test : Token → Bool}
    (h : (s.accept what test : Reply (Value ν)).outcome = .error e) : e.error.isDomain = false := by
  have ⟨_, he, _⟩ := State.error_eq_accept_iff.mp (Reply.ext h.symm rfl)
  rw [he]
  rfl

-- Where no action refuses anything, nothing is wrong but that tokens do not fit.
theorem RunsIn.not_isDomain {depth : Nat} (h : RunsIn depth scope p s r) (hp : Calls Accepts p)
    (hs : ScopeCalls Accepts scope) (hr : r.outcome = .error e) : e.error.isDomain = false := by
  induction h generalizing e with
  | literal | predicate | any => exact accept_not_isDomain hr
  | empty | commit | seqNil | choiceFit => cases hr
  | dangling | choiceNil | unbound => cases hr; rfl
  | fail                    => exact hp.elim
  | seqStop _ hi            => exact hi hp.1 hs hr
  | seqCons _ _ _ hi        => exact hi hp.2 hs (Reply.error_of_map hr)
  | choiceCut _ _ hi =>
    cases hr
    exact (hi hp.1 hs rfl :)
  | choiceSkip _ _ _ _ hi   => exact hi hp.2 hs hr
  | map _ hi                => exact hi hp hs (Reply.error_of_map hr)
  | @fix _ _ _ b _ _ _ hi   => exact hi hp (hs.cons (p := b) hp _) hr
  | standIn hl _ hi =>
    have ⟨hb, ha⟩ := hs.resolve? hl
    exact hi hb ha hr
  | @action _ _ f _ _ r h hi =>
    have ⟨o, t⟩ := r
    cases o with
    | error _ => exact hi hp.2 hs hr
    | ok v =>
      have ⟨w, hw⟩ := hp.1 ⟨_, h⟩
      simp [State.conclude, hw, Reply.success] at hr

theorem Runs.not_isDomain (h : Runs scope p s ⟨.error e, s'⟩) (hp : Calls Accepts p)
    (hs : ScopeCalls Accepts scope) : e.error.isDomain = false :=
  have ⟨_, h⟩ := h
  h.not_isDomain hp hs rfl

theorem seq_cons_error_cases (h : Runs scope (seq (p :: ps)) s ⟨.error e, s'⟩) :
    Runs scope p s ⟨.error e, s'⟩ ∨
      ∃ v t, Runs scope p s ⟨.ok v, t⟩ ∧ Runs scope (seq ps) t ⟨.error e, s'⟩ := by
  cases Runs.seq_cons_iff.mp h with
  | inl h =>
    obtain ⟨_, _, h, hr⟩ := h
    cases hr
    exact .inl h
  | inr h =>
    have ⟨v, t, ⟨_, _⟩, h, hs, hr⟩ := h
    obtain ⟨ho, rfl⟩ := Reply.ext_iff.mp hr
    cases Reply.error_of_map ho.symm
    exact .inr ⟨v, t, h, hs⟩

-- What is refused in a sequence is refused behind the parts that refuse nothing.
theorem exists_runs_behind (hp : Calls Accepts p)
    (h : Runs [] (seq (p :: ps)) s ⟨.error e, s'⟩) (he : e.error.isDomain) :
    ∃ v t, Runs [] p s ⟨.ok v, t⟩ ∧ Runs [] (seq ps) t ⟨.error e, s'⟩ := by
  cases seq_cons_error_cases h with
  | inl h => simp [h.not_isDomain hp nofun] at he
  | inr h => exact h

theorem runs_of_seq_singleton_error (h : Runs scope (seq [p]) s ⟨.error e, s'⟩) :
    Runs scope p s ⟨.error e, s'⟩ := by
  cases seq_cons_error_cases h with
  | inl h => exact h
  | inr h =>
    have ⟨_, _, _, h⟩ := h
    cases Runs.seq_nil_iff.mp h

-- An optional part fails only if the part does, since there is always the other alternative.
theorem exists_runs_of_optional (h : Runs scope (optional p) s ⟨.error e, s'⟩) :
    ∃ e' t, Runs scope p { s with committed := false } ⟨.error e', t⟩ ∧ e'.error = e.error := by
  cases Runs.choice_cons_iff.mp h with
  | inl hc =>
    have ⟨_, _, _, hr⟩ := hc
    cases hr
  | inr hc =>
    have ⟨e', t, hp, ho⟩ := hc
    refine ⟨e', t, hp, ?_⟩
    cases ho with
    | inl ho =>
      cases ho.2
      rfl
    | inr ho =>
      have hn : Runs scope (choice [empty]) s (.withFlag s.committed (.success .empty _)) :=
        Runs.choice_cons_iff.mpr (.inl ⟨_, _, Runs.empty_iff.mpr rfl, rfl⟩)
      cases hn.deterministic ho.2

-- Only a parser refuses what it is given, and not that tokens are left over.
theorem exists_runs_of_parse_eq_domain {ts : List Token} {m : String} {found : Found}
    (h : p.parse ts = some (.error (.domain m found))) :
    ∃ e s, Runs [] p (.start ts) ⟨.error e, s⟩ ∧ e.error = .domain m found := by
  simp only [parse, Option.bind_eq_bind, Option.bind_eq_some_iff, run_eq_some_iff] at h
  obtain ⟨⟨o, s⟩, hr, h⟩ := h
  cases o with
  | error e => exact ⟨e, s, hr, Except.error.inj (Option.some.inj h)⟩
  | ok v =>
    simp only [pure, Option.some.injEq] at h
    split at h <;> cases h

end Parser

end SelectLang
