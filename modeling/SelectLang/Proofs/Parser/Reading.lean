import SelectLang.Proofs.Parser.Depth

namespace SelectLang

variable {ν : Type}

namespace State

variable {what : String} {test : Token → Bool} {s s' : State} {v : Value ν} {e : Failure}

theorem remaining_advance (s : State) : s.advance.remaining = s.remaining.tail := by
  simp [remaining, advance]

theorem ok_eq_accept_iff :
    ⟨.ok v, s'⟩ = s.accept what test ↔
      ∃ t rest, s.remaining = t :: rest ∧ test t ∧ v = .token t.text ∧ s' = s.advance := by
  simp only [accept, current?_eq]
  cases s.remaining with
  | nil => simp [Reply.failure]
  | cons t ts =>
    cases ht : test t
    case false => simp [Option.filter_some, Reply.failure, ht]
    case true  => simp [Option.filter_some, Reply.success, ht]

theorem error_eq_accept_iff :
    (⟨.error e, s'⟩ : Reply (Value ν)) = s.accept what test ↔
      (∀ t, s.remaining.head? = some t → test t = false) ∧
        e = .ofError (.expected what s.found) ∧ s' = s := by
  simp only [accept, current?_eq]
  cases s.remaining with
  | nil => simp [Reply.failure]
  | cons t ts =>
    cases ht : test t
    case false => simp [Option.filter_some, Reply.failure, ht]
    case true  => simp [Option.filter_some, Reply.success, ht]

theorem ok_eq_conclude_iff {f : Action ν} {w : Value ν} {t : State} :
    ⟨.ok v, s'⟩ = s.conclude f ⟨.ok w, t⟩ ↔ f (s.span t) w = .ok v ∧ s' = t := by
  simp only [conclude]
  cases f (s.span t) w with
  | ok w'   => simp [Reply.success, eq_comm]
  | error m => simp [Reply.failure]

end State

-- A token with one of the texts is not what comes first.
def Avoids (texts : List String) (ts : List Token) : Prop :=
  ∀ t, ts.head? = some t → t.text ∉ texts

namespace Avoids

variable {texts : List String} {t : Token} {ts : List Token}

theorem nil : Avoids texts [] :=
  fun _ h => nomatch h

theorem head (h : t.text ∉ texts) : Avoids texts (t :: ts) :=
  fun _ ht => Option.some.inj ht ▸ h

theorem cons_cons_iff {text text' : String} :
    Avoids (text :: text' :: texts) ts ↔ Avoids [text] ts ∧ Avoids (text' :: texts) ts := by
  simp only [Avoids, ← forall_and]
  refine forall₂_congr fun t _ => ?_
  simp

end Avoids

namespace Parser

-- In front of the tokens `ts`, the parser reads the first ones, yields `v`, and leaves
-- `rest` over.
def Reads (scope : Scope ν) (p : Parser ν) (ts : List Token) (v : Value ν) (rest : List Token) :
    Prop :=
  ∃ s, Runs scope p (.start ts) ⟨.ok v, s⟩ ∧ s.remaining = rest

-- In front of the tokens `ts`, the parser fails, and a choice goes on to the next alternative.
def Rejects (scope : Scope ν) (p : Parser ν) (ts : List Token) : Prop :=
  ∃ e s, Runs scope p (.start ts) ⟨.error e, s⟩ ∧ (e.fatal || s.committed) = false

variable {scope : Scope ν} {p : Parser ν} {ps : List (Parser ν)} {s s' : State}
variable {ts rest : List Token} {t : Token} {v : Value ν}

theorem Runs.exists_alike {r : Reply (Value ν)} (h : Runs scope p s r)
    (hs : s.remaining = s'.remaining) : ∃ r', Runs scope p s' r' ∧ Reply.Alike s s' r r' := by
  have ⟨depth, h⟩ := h
  have ⟨r', h', ha⟩ := h.exists_alike hs
  exact ⟨r', ⟨depth, h'⟩, ha⟩

-- A run consumes the first tokens of those that are left.
theorem Runs.span_append {r : Reply (Value ν)} (h : Runs scope p s r) :
    s.span r.state ++ r.state.remaining = s.remaining := by
  obtain ⟨_, _, -, k, c, hr, -⟩ := h.exists_alike rfl
  rw [hr, s.span_after, s.remaining_after, List.take_append_drop]

theorem Runs.reads (h : Runs scope p s ⟨.ok v, s'⟩) : Reads scope p s.remaining v s'.remaining := by
  have hs := (State.remaining_start s.remaining).symm
  have ⟨⟨_, t⟩, h', ha⟩ := h.exists_alike hs
  cases ha.1
  exact ⟨t, h', (ha.remaining_eq hs).symm⟩

theorem Reads.runs (h : Reads scope p s.remaining v rest) :
    ∃ s', Runs scope p s ⟨.ok v, s'⟩ ∧ s'.remaining = rest := by
  have hs := State.remaining_start s.remaining
  obtain ⟨t, h, rfl⟩ := h
  have ⟨⟨_, t'⟩, h', ha⟩ := h.exists_alike hs
  cases ha.1
  exact ⟨t', h', (ha.remaining_eq hs).symm⟩

theorem Reads.suffix (h : Reads scope p ts v rest) : rest <:+ ts := by
  obtain ⟨_, ⟨_, h⟩, rfl⟩ := h
  exact h.remaining_suffix

section

variable {what : String} {test : Token → Bool}

theorem reads_of_accept (hp : ∀ s r, Runs scope p s r ↔ r = s.accept what test) :
    Reads scope p ts v rest ↔ ∃ t, ts = t :: rest ∧ test t ∧ v = .token t.text := by
  simp only [Reads, hp, State.ok_eq_accept_iff, State.remaining_start]
  constructor
  case mp =>
    rintro ⟨_, ⟨t, rest, rfl, ht, hv, rfl⟩, rfl⟩
    exact ⟨t, rfl, ht, hv⟩
  case mpr =>
    rintro ⟨t, rfl, ht, hv⟩
    exact ⟨_, ⟨t, rest, rfl, ht, hv, rfl⟩, State.remaining_advance _⟩

theorem rejects_of_accept (hp : ∀ s r, Runs scope p s r ↔ r = s.accept what test) :
    Rejects scope p ts ↔ ∀ t, ts.head? = some t → test t = false := by
  simp only [Rejects, hp, State.error_eq_accept_iff, State.remaining_start]
  constructor
  case mp =>
    rintro ⟨_, _, ⟨ht, -⟩, -⟩
    exact ht
  case mpr => exact fun ht => ⟨_, _, ⟨ht, rfl, rfl⟩, rfl⟩

theorem reads_of_success {w : Value ν} {next : State → State}
    (hp : ∀ s r, Runs scope p s r ↔ r = .success w (next s))
    (hn : ∀ s, (next s).remaining = s.remaining) :
    Reads scope p ts v rest ↔ v = w ∧ rest = ts := by
  constructor
  case mp =>
    rintro ⟨s, h, rfl⟩
    cases (hp _ _).mp h
    exact ⟨rfl, hn _⟩
  case mpr =>
    rintro ⟨rfl, rfl⟩
    exact ⟨_, (hp _ _).mpr rfl, hn _⟩

end

theorem reads_literal {text : String} :
    Reads scope (literal text) ts v rest ↔ ∃ t, ts = t :: rest ∧ t.text = text ∧ v = .token text := by
  rw [reads_of_accept fun _ _ => Runs.literal_iff]
  refine exists_congr fun t => and_congr_right fun _ => ?_
  rw [beq_iff_eq]
  exact and_congr_right fun h => h ▸ Iff.rfl

theorem reads_predicate {name : String} {test : Token → Bool} :
    Reads scope (predicate name test) ts v rest ↔ ∃ t, ts = t :: rest ∧ test t ∧ v = .token t.text :=
  reads_of_accept fun _ _ => Runs.predicate_iff

theorem Reads.literal {text : String} (h : t.text = text) :
    Reads scope (literal text) (t :: ts) (.token text) ts :=
  reads_literal.mpr ⟨t, rfl, h, rfl⟩

theorem Reads.predicate {name : String} {test : Token → Bool} (h : test t) :
    Reads scope (predicate name test) (t :: ts) (.token t.text) ts :=
  reads_predicate.mpr ⟨t, rfl, h, rfl⟩

theorem reads_any : Reads scope any ts v rest ↔ ∃ t, ts = t :: rest ∧ v = .token t.text := by
  simp [reads_of_accept fun _ _ => Runs.any_iff]

theorem rejects_literal {text : String} :
    Rejects scope (literal text) ts ↔ Avoids [text] ts := by
  simp [rejects_of_accept fun _ _ => Runs.literal_iff, Avoids]

theorem reads_empty : Reads scope empty ts v rest ↔ v = .empty ∧ rest = ts :=
  reads_of_success (fun _ _ => Runs.empty_iff) fun _ => rfl

theorem reads_commit : Reads scope commit ts v rest ↔ v = .empty ∧ rest = ts :=
  reads_of_success (fun _ _ => Runs.commit_iff) fun _ => rfl

theorem reads_seq_nil : Reads scope (seq []) ts v rest ↔ v = .list [] ∧ rest = ts :=
  reads_of_success (fun _ _ => Runs.seq_nil_iff) fun _ => rfl

theorem reads_seq_cons :
    Reads scope (seq (p :: ps)) ts v rest ↔
      ∃ w mid vs, Reads scope p ts w mid ∧ Reads scope (seq ps) mid vs rest ∧ v = .cons w vs := by
  constructor
  case mp =>
    rintro ⟨s, h, rfl⟩
    obtain ⟨_, _, _, hr⟩ | ⟨w, s', ⟨o, _⟩, hp, hps, hr⟩ := Runs.seq_cons_iff.mp h
    · cases hr
    · cases o <;> cases hr
      exact ⟨w, _, _, ⟨s', hp, rfl⟩, hps.reads, rfl⟩
  case mpr =>
    rintro ⟨w, _, vs, ⟨s', hp, rfl⟩, hps, rfl⟩
    have ⟨s'', hps, hr⟩ := hps.runs
    exact ⟨s'', Runs.seq_cons_iff.mpr (.inr ⟨w, s', _, hp, hps, rfl⟩), hr⟩

theorem Reads.nil : Reads scope (seq []) ts (.list []) ts :=
  reads_seq_nil.mpr ⟨rfl, rfl⟩

theorem Reads.cons {mid : List Token} {w : Value ν} {vs : List (Value ν)}
    (h : Reads scope p ts w mid) (hs : Reads scope (seq ps) mid (.list vs) rest) :
    Reads scope (seq (p :: ps)) ts (.list (w :: vs)) rest :=
  reads_seq_cons.mpr ⟨w, mid, _, h, hs, rfl⟩

theorem reads_seq_singleton :
    Reads scope (seq [p]) ts v rest ↔ ∃ w, Reads scope p ts w rest ∧ v = .list [w] := by
  rw [reads_seq_cons]
  constructor
  case mp =>
    rintro ⟨w, _, _, hp, hn, rfl⟩
    obtain ⟨rfl, rfl⟩ := reads_seq_nil.mp hn
    exact ⟨w, hp, rfl⟩
  case mpr =>
    rintro ⟨w, hp, rfl⟩
    exact ⟨w, rest, _, hp, .nil, rfl⟩

theorem reads_seq_pair {q : Parser ν} :
    Reads scope (seq [p, q]) ts v rest ↔
      ∃ w mid u, Reads scope p ts w mid ∧ Reads scope q mid u rest ∧ v = .list [w, u] := by
  rw [reads_seq_cons]
  constructor
  case mp =>
    rintro ⟨w, mid, _, hp, hs, rfl⟩
    obtain ⟨u, hq, rfl⟩ := reads_seq_singleton.mp hs
    exact ⟨w, mid, u, hp, hq, rfl⟩
  case mpr =>
    rintro ⟨w, mid, u, hp, hq, rfl⟩
    exact ⟨w, mid, _, hp, .cons hq .nil, rfl⟩

theorem reads_choice_nil : ¬Reads scope (choice []) ts v rest := by
  rintro ⟨_, h, -⟩
  cases Runs.choice_nil_iff.mp h

theorem reads_choice_cons :
    Reads scope (choice (p :: ps)) ts v rest ↔
      Reads scope p ts v rest ∨ Rejects scope p ts ∧ Reads scope (choice ps) ts v rest := by
  constructor
  case mp =>
    rintro ⟨s, h, rfl⟩
    obtain ⟨w, s', h', hr⟩ | ⟨e, s', h', ⟨-, hr⟩ | ⟨hc, h⟩⟩ := Runs.choice_cons_iff.mp h
    · cases hr; exact .inl ⟨s', h', rfl⟩
    · cases hr
    · exact .inr ⟨⟨e, s', h', hc⟩, s, h, rfl⟩
  case mpr =>
    rintro (⟨s', h', rfl⟩ | ⟨⟨e, s', h', hc⟩, s, h, rfl⟩)
    · exact ⟨_, Runs.choice_cons_iff.mpr (.inl ⟨v, s', h', rfl⟩), rfl⟩
    · exact ⟨s, Runs.choice_cons_iff.mpr (.inr ⟨e, s', h', .inr ⟨hc, h⟩⟩), rfl⟩

theorem reads_map {f : Value ν → Value ν} :
    Reads scope (map f p) ts v rest ↔ ∃ w, Reads scope p ts w rest ∧ v = f w := by
  constructor
  case mp =>
    rintro ⟨s, h, rfl⟩
    have ⟨⟨o, _⟩, h', hr⟩ := Runs.map_iff.mp h
    cases o <;> cases hr
    exact ⟨_, ⟨_, h', rfl⟩, rfl⟩
  case mpr =>
    rintro ⟨w, ⟨s, h, rfl⟩, rfl⟩
    exact ⟨s, Runs.map_iff.mpr ⟨_, h, rfl⟩, rfl⟩

theorem reads_action {f : Action ν} :
    Reads scope (action f p) ts v rest ↔
      ∃ w xs, ts = xs ++ rest ∧ Reads scope p ts w rest ∧ f xs w = .ok v := by
  constructor
  case mp =>
    rintro ⟨s, h, rfl⟩
    have ⟨⟨o, t⟩, h', hr⟩ := Runs.action_iff.mp h
    cases o with
    | error e => cases hr
    | ok w =>
      obtain ⟨hf, rfl⟩ := State.ok_eq_conclude_iff.mp hr
      exact ⟨w, _, h'.span_append.symm, ⟨s, h', rfl⟩, hf⟩
  case mpr =>
    rintro ⟨w, xs, hts, ⟨s, h, rfl⟩, hf⟩
    have hx : (State.start ts).span s = xs := List.append_cancel_right (h.span_append.trans hts)
    exact ⟨s, Runs.action_iff.mpr ⟨_, h, State.ok_eq_conclude_iff.mpr ⟨hx ▸ hf, rfl⟩⟩, rfl⟩

theorem reads_fix {label : Label} :
    Reads scope (fix label p) ts v rest ↔ Reads ((label, p) :: scope) p ts v rest := by
  simp only [Reads, Runs.fix_iff]

theorem reads_standIn {label : Label} {around : Scope ν}
    (hl : scope.resolve? label = some (p, around)) :
    Reads scope (standIn label) ts v rest ↔ Reads around p ts v rest := by
  simp only [Reads, Runs.standIn_iff hl]

theorem Rejects.seq (h : Rejects scope p ts) : Rejects scope (seq (p :: ps)) ts := by
  have ⟨e, s, h, hc⟩ := h
  exact ⟨e, s, Runs.seq_cons_iff.mpr (.inl ⟨e, s, h, rfl⟩), hc⟩

theorem Rejects.map (h : Rejects scope p ts) (f : Value ν → Value ν) :
    Rejects scope (map f p) ts := by
  have ⟨e, s, h, hc⟩ := h
  exact ⟨e, s, Runs.map_iff.mpr ⟨_, h, rfl⟩, hc⟩

theorem Rejects.action (h : Rejects scope p ts) (f : Action ν) : Rejects scope (action f p) ts := by
  have ⟨e, s, h, hc⟩ := h
  exact ⟨e, s, Runs.action_iff.mpr ⟨_, h, rfl⟩, hc⟩

theorem reads_optional :
    Reads scope (optional p) ts v rest ↔
      Reads scope p ts v rest ∨ Rejects scope p ts ∧ v = .empty ∧ rest = ts := by
  simp only [optional, reads_choice_cons, reads_empty, reads_choice_nil, and_false, or_false]

-- What the label of a loop over a parser stands for.
def manyBody (p : Parser ν) : Parser ν :=
  choice [map Value.joined <| seq [p, standIn (.loop p.freeLevel)], map (fun _ => .list []) empty]

-- The scope that each item of a loop runs in.
def manyScope (scope : Scope ν) (p : Parser ν) : Scope ν :=
  (.loop p.freeLevel, manyBody p) :: scope

theorem reads_many :
    Reads scope (many p) ts v rest ↔
      (∃ w mid vs, Reads (manyScope scope p) p ts w mid ∧ Reads scope (many p) mid vs rest ∧
        v = .cons w vs) ∨
      Rejects (manyScope scope p) (map Value.joined <| seq [p, standIn (.loop p.freeLevel)]) ts ∧
        v = .list [] ∧ rest = ts := by
  have hl : (manyScope scope p).resolve? (.loop p.freeLevel) =
      some (manyBody p, manyScope scope p) := by
    simp [manyScope, Scope.resolve?]
  have hm {ts v rest} :
      Reads (manyScope scope p) (manyBody p) ts v rest ↔ Reads scope (many p) ts v rest :=
    reads_fix.symm
  have hs {ts v rest} : Reads (manyScope scope p) (standIn (.loop p.freeLevel)) ts v rest ↔
      Reads scope (many p) ts v rest :=
    (reads_standIn hl).trans hm
  rw [← hm]
  refine reads_choice_cons.trans (or_congr ?_ (and_congr_right fun _ => ?_))
  case refine_1 =>
    simp only [reads_map, reads_seq_pair, hs]
    constructor
    case mp =>
      rintro ⟨_, ⟨w, mid, vs, hp, hm, rfl⟩, rfl⟩
      exact ⟨w, mid, vs, hp, hm, rfl⟩
    case mpr =>
      rintro ⟨w, mid, vs, hp, hm, rfl⟩
      exact ⟨_, ⟨w, mid, vs, hp, hm, rfl⟩, rfl⟩
  case refine_2 =>
    simp only [reads_choice_cons, reads_choice_nil, reads_map, reads_empty]
    simp [and_comm]

theorem parse_eq_ok_iff : p.parse ts = some (.ok v) ↔ Reads [] p ts v [] := by
  have he (s : State) : s.atEnd = true ↔ s.remaining = [] := by simp [State.atEnd, State.remaining]
  simp only [parse, Option.bind_eq_bind, Option.bind_eq_some_iff, run_eq_some_iff]
  constructor
  case mp =>
    rintro ⟨⟨o, s⟩, h, hr⟩
    cases o with
    | error e => cases hr
    | ok w =>
      simp only [pure, Option.some.injEq] at hr
      split at hr
      case isTrue hs  => cases hr; exact ⟨s, h, (he s).mp hs⟩
      case isFalse hs => cases hr
  case mpr =>
    rintro ⟨s, h, hs⟩
    exact ⟨_, h, by simp [(he s).mpr hs, pure]⟩

end Parser

end SelectLang
