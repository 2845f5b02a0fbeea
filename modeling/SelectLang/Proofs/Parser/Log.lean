import SelectLang.Proofs.Parser.Evaluation

namespace SelectLang

variable {ν : Type}

-- What happens in the course of a run: a parser runs from some state to its reply, with
-- all that happens inside of it, or the function of a map or of an action is called.
inductive Event (ν : Type)
  | run (p : Parser ν) (s : State) (inner : List (Event ν)) (r : Reply (Value ν))
  | map (f : Value ν → Value ν) (v : Value ν)
  | action (f : Action ν) (span : List Token) (v : Value ν)

namespace Event

-- The call of a function on the result of a run, if there is one.
def ofMap (f : Value ν → Value ν) (r : Reply (Value ν)) : List (Event ν) :=
  match r.outcome with
  | .ok v    => [.map f v]
  | .error _ => []

def ofAction (f : Action ν) (s : State) (r : Reply (Value ν)) : List (Event ν) :=
  match r.outcome with
  | .ok v    => [.action f (s.span r.state) v]
  | .error _ => []

-- Somewhere in a log, at any depth.
inductive Occurs (x : Event ν) : List (Event ν) → Prop
  | here {log} (mem : x ∈ log) : Occurs x log
  | within {p s inner r log} (mem : .run p s inner r ∈ log) (occurs : Occurs x inner) :
    Occurs x log

-- Somewhere in a log, at any depth, one event is over before another one starts.
inductive Precedes (x y : Event ν) : List (Event ν) → Prop
  | apart {log log'} (first : Occurs x log) (later : Occurs y log') : Precedes x y (log ++ log')
  | within {p s inner r log} (mem : .run p s inner r ∈ log) (precedes : Precedes x y inner) :
    Precedes x y log

namespace Occurs

variable {x a : Event ν} {log log' : List (Event ν)}

theorem not_nil : ¬Occurs x [] := by
  intro h
  cases h <;> contradiction

theorem mono (h : Occurs x log) (hs : log ⊆ log') : Occurs x log' := by
  cases h with
  | here hm      => exact .here (hs hm)
  | within hm ho => exact .within (hs hm) ho

theorem cons_iff : Occurs x (a :: log) ↔ Occurs x [a] ∨ Occurs x log := by
  constructor
  case mp =>
    intro h
    cases h with
    | here hm =>
      obtain rfl | hm := List.mem_cons.mp hm
      · exact .inl (.here List.mem_cons_self)
      · exact .inr (.here hm)
    | within hm ho =>
      obtain rfl | hm := List.mem_cons.mp hm
      · exact .inl (.within List.mem_cons_self ho)
      · exact .inr (.within hm ho)
  case mpr =>
    intro h
    cases h
    case inl h => exact h.mono (by simp)
    case inr h => exact h.mono (by simp)

-- What occurs in the record of a run is that run itself, or occurs inside of it.
theorem run_iff {p : Parser ν} {s : State} {r : Reply (Value ν)} :
    Occurs x [.run p s log r] ↔ x = .run p s log r ∨ Occurs x log := by
  constructor
  case mp =>
    intro h
    cases h with
    | here hm => exact .inl (List.mem_singleton.mp hm)
    | within hm ho =>
      cases List.mem_singleton.mp hm
      exact .inr ho
  case mpr =>
    intro h
    cases h
    case inl h => exact .here (List.mem_singleton.mpr h)
    case inr h => exact .within List.mem_cons_self h

theorem trans {p : Parser ν} {s : State} {r : Reply (Value ν)} (h : Occurs x log)
    (h' : Occurs (.run p s log r) log') : Occurs x log' := by
  induction h' with
  | here hm        => exact .within hm h
  | within hm _ hi => exact .within hm hi

-- There is no run in the call of a function.
theorem of_ofMap {f : Value ν → Value ν} {r : Reply (Value ν)} (h : Occurs x (ofMap f r)) :
    ∃ v, x = .map f v := by
  simp only [ofMap] at h
  split at h
  case h_2 => exact absurd h not_nil
  case h_1 v _ =>
    cases h with
    | here hm     => exact ⟨v, List.mem_singleton.mp hm⟩
    | within hm _ => simp at hm

theorem of_ofAction {f : Action ν} {s : State} {r : Reply (Value ν)}
    (h : Occurs x (ofAction f s r)) : ∃ span v, x = .action f span v := by
  simp only [ofAction] at h
  split at h
  case h_2 => exact absurd h not_nil
  case h_1 v _ =>
    cases h with
    | here hm     => exact ⟨_, v, List.mem_singleton.mp hm⟩
    | within hm _ => simp at hm

end Occurs

namespace Precedes

variable {x y a : Event ν} {log : List (Event ν)}

theorem occurs (h : Precedes x y log) : Occurs x log := by
  induction h with
  | apart h _      => exact h.mono (List.subset_append_left ..)
  | within hm _ hi => exact .within hm hi

-- Nothing precedes in a log but what is in its first event or precedes in the others.
theorem of_cons (h : Precedes x y (a :: log)) : Occurs x [a] ∨ Precedes x y log := by
  generalize hl : a :: log = l at h
  cases h with
  | @apart us vs hx hy =>
    cases us with
    | nil => exact absurd hx Occurs.not_nil
    | cons b us =>
      obtain ⟨rfl, rfl⟩ := List.cons.inj hl
      exact (Occurs.cons_iff.mp hx).imp_right (.apart · hy)
  | within hm h =>
    subst hl
    obtain rfl | hm := List.mem_cons.mp hm
    · exact .inl (.within List.mem_cons_self h.occurs)
    · exact .inr (.within hm h)

theorem of_run {p : Parser ν} {s : State} {r : Reply (Value ν)}
    (h : Precedes x y [.run p s log r]) : Precedes x y log := by
  generalize hl : [Event.run p s log r] = l at h
  cases h with
  | @apart us vs hx hy =>
    obtain ⟨rfl, -⟩ | ⟨-, rfl⟩ := List.append_eq_singleton_iff.mp hl.symm
    · exact absurd hx Occurs.not_nil
    · exact absurd hy Occurs.not_nil
  | within hm h =>
    subst hl
    cases List.mem_singleton.mp hm
    exact h

end Precedes

end Event

namespace Parser

-- `Logged scope p s log r` says that `p` ends with `r` when it runs from `s`, and that in
-- between happens what the log says, in this order. The rules are those of `RunsIn`. As
-- there, the parts of a sequence and the alternatives of a choice are taken off one by one,
-- and only what is taken off is an event.
inductive Logged : Scope ν → Parser ν → State → List (Event ν) → Reply (Value ν) → Prop
  | literal {scope text s} :
    Logged scope (literal text) s [] (s.accept (Quoted.string text) (·.text == text))
  | predicate {scope name test s} :
    Logged scope (predicate name test) s [] (s.accept name test)
  | any {scope s} :
    Logged scope any s [] (s.accept "any token" fun _ => true)
  | empty {scope s} :
    Logged scope empty s [] (.success .empty s)
  | commit {scope s} :
    Logged scope commit s [] (.success .empty { s with committed := true })
  | fail {scope message s} :
    Logged scope (fail message) s [] (.failure (.domain message s.found) s)
  | dangling {scope s} :
    Logged scope dangling s [] s.noAlternative
  | seqNil {scope s} :
    Logged scope (seq []) s [] (.success (.list []) s)
  | seqStop {scope p ps s log e s'} :
    Logged scope p s log ⟨.error e, s'⟩ →
    Logged scope (seq (p :: ps)) s [.run p s log ⟨.error e, s'⟩] ⟨.error e, s'⟩
  | seqCons {scope p ps s log v s' log' r} :
    Logged scope p s log ⟨.ok v, s'⟩ →
    Logged scope (seq ps) s' log' r →
    Logged scope (seq (p :: ps)) s (.run p s log ⟨.ok v, s'⟩ :: log') (r.map (.cons v))
  | choiceNil {scope s} :
    Logged scope (choice []) s [] s.noAlternative
  | choiceFit {scope p ps s log v s'} :
    Logged scope p { s with committed := false } log ⟨.ok v, s'⟩ →
    Logged scope (choice (p :: ps)) s [.run p { s with committed := false } log ⟨.ok v, s'⟩]
      (.withFlag s.committed ⟨.ok v, s'⟩)
  | choiceCut {scope p ps s log e s'} :
    Logged scope p { s with committed := false } log ⟨.error e, s'⟩ →
    (e.fatal || s'.committed) = true →
    Logged scope (choice (p :: ps)) s [.run p { s with committed := false } log ⟨.error e, s'⟩]
      (.withFlag s.committed ⟨.error e.toFatal, s'⟩)
  | choiceSkip {scope p ps s log e s' log' r} :
    Logged scope p { s with committed := false } log ⟨.error e, s'⟩ →
    (e.fatal || s'.committed) = false →
    Logged scope (choice ps) s log' r →
    Logged scope (choice (p :: ps)) s
      (.run p { s with committed := false } log ⟨.error e, s'⟩ :: log') r
  | map {scope f p s log r} :
    Logged scope p s log r →
    Logged scope (map f p) s (.run p s log r :: Event.ofMap f r) (r.map f)
  | action {scope f p s log r} :
    Logged scope p s log r →
    Logged scope (action f p) s (.run p s log r :: Event.ofAction f s r) (s.conclude f r)
  | fix {scope label body s log r} :
    Logged ((label, body) :: scope) body s log r →
    Logged scope (fix label body) s [.run body s log r] r
  | standIn {scope label body around s log r} :
    scope.resolve? label = some (body, around) →
    Logged around body s log r →
    Logged scope (standIn label) s [.run body s log r] r
  | unbound {scope label s} :
    scope.resolve? label = none →
    Logged scope (standIn label) s [] s.noAlternative

variable {depth : Nat} {scope : Scope ν} {p : Parser ν} {s : State} {log : List (Event ν)}
variable {r : Reply (Value ν)}

theorem RunsIn.exists_logged (h : RunsIn depth scope p s r) : ∃ log, Logged scope p s log r := by
  induction h
  case literal          => exact ⟨_, .literal⟩
  case predicate        => exact ⟨_, .predicate⟩
  case any              => exact ⟨_, .any⟩
  case empty            => exact ⟨_, .empty⟩
  case commit           => exact ⟨_, .commit⟩
  case fail             => exact ⟨_, .fail⟩
  case dangling         => exact ⟨_, .dangling⟩
  case seqNil           => exact ⟨_, .seqNil⟩
  case choiceNil        => exact ⟨_, .choiceNil⟩
  case unbound hl       => exact ⟨_, .unbound hl⟩
  case seqStop hi       => exact ⟨_, .seqStop hi.choose_spec⟩
  case seqCons hi hi'   => exact ⟨_, .seqCons hi.choose_spec hi'.choose_spec⟩
  case choiceFit hi     => exact ⟨_, .choiceFit hi.choose_spec⟩
  case choiceCut hc hi  => exact ⟨_, .choiceCut hi.choose_spec hc⟩
  case choiceSkip hc _ hi hi' =>
    exact ⟨_, .choiceSkip hi.choose_spec hc hi'.choose_spec⟩
  case map hi           => exact ⟨_, .map hi.choose_spec⟩
  case action hi        => exact ⟨_, .action hi.choose_spec⟩
  case fix hi           => exact ⟨_, .fix hi.choose_spec⟩
  case standIn hl _ hi  => exact ⟨_, .standIn hl hi.choose_spec⟩

theorem Logged.runs (h : Logged scope p s log r) : Runs scope p s r := by
  induction h
  case literal          => exact Runs.literal_iff.mpr rfl
  case predicate        => exact Runs.predicate_iff.mpr rfl
  case any              => exact Runs.any_iff.mpr rfl
  case empty            => exact Runs.empty_iff.mpr rfl
  case commit           => exact Runs.commit_iff.mpr rfl
  case fail             => exact ⟨1, .fail⟩
  case dangling         => exact ⟨1, .dangling⟩
  case seqNil           => exact Runs.seq_nil_iff.mpr rfl
  case choiceNil        => exact Runs.choice_nil_iff.mpr rfl
  case unbound hl       => exact ⟨1, .unbound hl⟩
  case seqStop hi       => exact Runs.seq_cons_iff.mpr (.inl ⟨_, _, hi, rfl⟩)
  case seqCons hi hi'   => exact Runs.seq_cons_iff.mpr (.inr ⟨_, _, _, hi, hi', rfl⟩)
  case choiceFit hi     => exact Runs.choice_cons_iff.mpr (.inl ⟨_, _, hi, rfl⟩)
  case choiceCut hc hi  => exact Runs.choice_cons_iff.mpr (.inr ⟨_, _, hi, .inl ⟨hc, rfl⟩⟩)
  case choiceSkip hc _ hi hi' =>
    exact Runs.choice_cons_iff.mpr (.inr ⟨_, _, hi, .inr ⟨hc, hi'⟩⟩)
  case map hi           => exact Runs.map_iff.mpr ⟨_, hi, rfl⟩
  case action hi        => exact Runs.action_iff.mpr ⟨_, hi, rfl⟩
  case fix hi           => exact Runs.fix_iff.mpr hi
  case standIn hl _ hi  => exact (Runs.standIn_iff hl).mpr hi

-- The log leaves out no run, and what it tells is how the run really ends.
theorem runs_iff_exists_logged : Runs scope p s r ↔ ∃ log, Logged scope p s log r where
  mp  := fun ⟨_, h⟩ => h.exists_logged
  mpr := fun ⟨_, h⟩ => h.runs

end Parser

end SelectLang
