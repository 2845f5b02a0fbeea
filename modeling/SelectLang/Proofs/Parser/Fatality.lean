import SelectLang.Proofs.Parser.Erasure
import SelectLang.Proofs.Parser.Log

namespace SelectLang

variable {ν : Type}

namespace Parser

def isChoice : Parser ν → Bool
  | choice _ => true
  | _        => false

mutual

-- Whether a commit is among the parsers that a parser is built of.
def hasCommit : Parser ν → Bool
  | commit     => true
  | seq ps     => anyHasCommit ps
  | choice ps  => anyHasCommit ps
  | map _ p    => p.hasCommit
  | action _ p => p.hasCommit
  | fix _ p    => p.hasCommit
  | _          => false

def anyHasCommit : List (Parser ν) → Bool
  | []      => false
  | p :: ps => p.hasCommit || anyHasCommit ps

end

end Parser

-- What a label stands for is in the scope, and so is all that is around it.
theorem Scope.suffix_of_resolve? {scope around : Scope ν} {label : Label} {body : Parser ν}
    (h : scope.resolve? label = some (body, around)) :
    (label, body) ∈ around ∧ around <:+ scope := by
  induction scope with
  | nil => cases h
  | cons entry scope ih =>
    simp only [resolve?] at h
    split at h
    case isTrue hl =>
      cases h
      cases hl
      exact ⟨List.mem_cons_self, List.suffix_refl _⟩
    case isFalse => exact (ih h).imp_right (·.trans (List.suffix_cons ..))

namespace Failure

theorem toFatal_eq {e : Failure} (h : e.fatal) : e.toFatal = e := by
  obtain ⟨e, _ | _⟩ := e
  case false => contradiction
  case true  => rfl

end Failure

namespace State

variable {what : String} {test : Token → Bool} {s : State} {f : Action ν} {r : Reply (Value ν)}
variable {e : Failure}

theorem accept_committed :
    (s.accept what test : Reply (Value ν)).state.committed = s.committed := by
  simp only [accept]
  split <;> rfl

theorem accept_not_fatal (h : (s.accept what test : Reply (Value ν)).outcome = .error e) :
    e.fatal = false := by
  simp only [accept] at h
  split at h
  case h_1 => contradiction
  case h_2 => cases h; rfl

theorem conclude_state : (s.conclude f r).state = r.state := by
  simp only [conclude]
  split
  case h_1 => rfl
  case h_2 => split <;> rfl

-- An action refuses what it is given, but it does so without being fatal.
theorem error_of_conclude_fatal (h : (s.conclude f r).outcome = .error e) (hf : e.fatal) :
    r.outcome = .error e := by
  simp only [conclude] at h
  split at h
  case h_1 => exact h
  case h_2 =>
    split at h
    case h_1 => cases h
    case h_2 =>
      cases h
      contradiction

end State

theorem Reply.isFatal_iff {α : Type} {r : Reply α} :
    r.isFatal ↔ ∃ e, r.outcome = .error e ∧ e.fatal := by
  obtain ⟨o, _⟩ := r
  cases o <;> simp [isFatal]

theorem Reply.error_of_map {α β : Type} {f : α → β} {r : Reply α} {e : Failure}
    (h : (r.map f).outcome = .error e) : r.outcome = .error e := by
  obtain ⟨o, _⟩ := r
  cases o <;> cases h
  rfl

namespace Event

-- A run that ends with a fatal failure.
inductive Breaks (e : Failure) : Event ν → Prop
  | run {p s inner s'} (fatal : e.fatal) : Breaks e (.run p s inner ⟨.error e, s'⟩)

-- As soon as a run in the log breaks, nothing happens any more, and the reply is its failure.
def Stops (log : List (Event ν)) (r : Reply (Value ν)) : Prop :=
  ∀ ⦃x e⦄, Occurs x log → Breaks e x → r.outcome = .error e ∧ ∀ y, ¬Precedes x y log

-- In the log, a commit is executed that no choice is around.
inductive Commits : List (Event ν) → Prop
  | here {s inner r log} (mem : .run .commit s inner r ∈ log) : Commits log
  | within {p s inner r log} (mem : .run p s inner r ∈ log) (outside : ¬p.isChoice)
    (commits : Commits inner) : Commits log

-- In the log, one of the alternatives has failed after a commit of its own. Made fatal, its
-- failure is the one that is given.
inductive Cut (e : Failure) (ps : List (Parser ν)) (log : List (Event ν)) : Prop
  | intro {q s inner e' s'} (alternative : q ∈ ps)
    (mem : .run q s inner ⟨.error e', s'⟩ ∈ log)
    (commits : Commits [.run q s inner ⟨.error e', s'⟩]) (made : e = e'.toFatal)

-- Somewhere in the log, a choice runs that is cut off by this failure.
def Caused (e : Failure) (log : List (Event ν)) : Prop :=
  ∃ ps s inner r, Occurs (.run (.choice ps) s inner r) log ∧ Cut e ps inner

variable {x : Event ν} {p : Parser ν} {ps : List (Parser ν)} {s : State} {e : Failure}
variable {inner log log' : List (Event ν)} {r r' : Reply (Value ν)}

namespace Stops

theorem of_not_breaks (h : ∀ x e, Occurs x log → ¬Breaks e x) : Stops log r :=
  fun x e ho hb => absurd hb (h x e ho)

theorem nil : Stops [] r :=
  of_not_breaks fun _ _ h => absurd h Occurs.not_nil

theorem mono (h : Stops log r) (hr : ∀ e, r.outcome = .error e → r'.outcome = .error e) :
    Stops log r' :=
  fun _ _ ho hb => (h ho hb).imp_left (hr _)

theorem not_breaks (h : Stops inner r') (hr : ¬r'.isFatal) (ho : Occurs x [.run p s inner r']) :
    ¬Breaks e x := by
  intro hb
  refine hr (Reply.isFatal_iff.mpr ⟨e, ?_⟩)
  obtain rfl | ho := Occurs.run_iff.mp ho
  · cases hb with
    | run hf => exact ⟨rfl, hf⟩
  · cases hb with
    | run hf => exact ⟨(h ho (.run hf)).1, hf⟩

-- A run that is followed by others has not broken.
theorem cons (h : Stops inner r') (hr : ¬r'.isFatal) (h' : Stops log r) :
    Stops (.run p s inner r' :: log) r := by
  intro x e ho hb
  obtain ho | ho := Occurs.cons_iff.mp ho
  · exact absurd hb (h.not_breaks hr ho)
  · refine ⟨(h' ho hb).1, fun y hp => ?_⟩
    obtain ho | hp := hp.of_cons
    · exact h.not_breaks hr ho hb
    · exact (h' ho hb).2 y hp

-- A run that is the last one may break, if the reply passes its failure on.
theorem last (h : Stops inner r')
    (hr : ∀ e, e.fatal → r'.outcome = .error e → r.outcome = .error e) :
    Stops [.run p s inner r'] r := by
  intro x e ho hb
  constructor
  case left =>
    obtain rfl | ho := Occurs.run_iff.mp ho
    · cases hb with
      | run hf => exact hr e hf rfl
    · cases hb with
      | run hf => exact hr e hf (h ho (.run hf)).1
  case right =>
    intro y hp
    have hp := hp.of_run
    exact (h hp.occurs hb).2 y hp

theorem map (h : Stops inner r) (f : Value ν → Value ν) :
    Stops (.run p s inner r :: ofMap f r) (r.map f) := by
  obtain ⟨o, t⟩ := r
  cases o with
  | error e => exact h.last fun _ _ he => congrArg (Except.map f) he
  | ok v =>
    refine h.cons nofun (of_not_breaks fun x e ho hb => ?_)
    obtain ⟨_, rfl⟩ := ho.of_ofMap
    cases hb

theorem action (h : Stops inner r) (f : Action ν) :
    Stops (.run p s inner r :: ofAction f s r) (s.conclude f r) := by
  obtain ⟨o, t⟩ := r
  cases o with
  | error e => exact h.last fun _ _ he => he
  | ok v =>
    refine h.cons nofun (of_not_breaks fun x e ho hb => ?_)
    obtain ⟨_, _, rfl⟩ := ho.of_ofAction
    cases hb

end Stops

namespace Commits

theorem mono (h : Commits log) (hs : log ⊆ log') : Commits log' := by
  cases h with
  | here hm        => exact .here (hs hm)
  | within hm hc h => exact .within (hs hm) hc h

theorem run_iff : Commits [.run p s log r] ↔ p = .commit ∨ ¬p.isChoice ∧ Commits log := by
  constructor
  case mp =>
    intro h
    cases h with
    | here hm =>
      cases List.mem_singleton.mp hm
      exact .inl rfl
    | within hm hc h =>
      cases List.mem_singleton.mp hm
      exact .inr ⟨hc, h⟩
  case mpr =>
    intro h
    cases h
    case inl h => exact h ▸ .here List.mem_cons_self
    case inr h => exact .within List.mem_cons_self h.1 h.2

-- What a part commits outside of its choices, the whole does, unless it is a choice itself.
theorem of_part {q : Parser ν} {t : State} (h : Commits [.run p s inner r])
    (hm : .run p s inner r ∈ log) (hq : ¬q.isChoice) : Commits [.run q t log r'] :=
  run_iff.mpr (.inr ⟨hq, h.mono (List.cons_subset.mpr ⟨hm, List.nil_subset _⟩)⟩)

theorem exists_occurs (h : Commits log) : ∃ s inner r, Occurs (.run .commit s inner r) log := by
  induction h with
  | here hm => exact ⟨_, _, _, .here hm⟩
  | within hm _ _ hi =>
    obtain ⟨s, inner, r, hi⟩ := hi
    exact ⟨s, inner, r, .within hm hi⟩

end Commits

theorem Cut.cons (h : Cut e ps log) (x : Event ν) (p : Parser ν) : Cut e (p :: ps) (x :: log) := by
  obtain ⟨ha, hm, hc, he⟩ := h
  exact ⟨List.mem_cons_of_mem p ha, List.mem_cons_of_mem x hm, hc, he⟩

namespace Caused

theorem mono (h : Caused e log) (hs : log ⊆ log') : Caused e log' := by
  have ⟨ps, s, inner, r, ho, hc⟩ := h
  exact ⟨ps, s, inner, r, ho.mono hs, hc⟩

theorem run_iff :
    Caused e [.run p s log r] ↔ (∃ ps, p = .choice ps ∧ Cut e ps log) ∨ Caused e log := by
  constructor
  case mp =>
    intro ⟨ps, t, inner, r', ho, hc⟩
    obtain h | ho := Occurs.run_iff.mp ho
    · cases h
      exact .inl ⟨ps, rfl, hc⟩
    · exact .inr ⟨ps, t, inner, r', ho, hc⟩
  case mpr =>
    intro h
    cases h
    case inl h =>
      obtain ⟨ps, rfl, hc⟩ := h
      exact ⟨ps, _, _, _, Occurs.run_iff.mpr (.inl rfl), hc⟩
    case inr h =>
      have ⟨ps, t, inner, r', ho, hc⟩ := h
      exact ⟨ps, t, inner, r', Occurs.run_iff.mpr (.inr ho), hc⟩

theorem of_part {q : Parser ν} {t : State} (h : Caused e [.run p s inner r])
    (hm : .run p s inner r ∈ log) : Caused e [.run q t log r'] :=
  run_iff.mpr (.inr (h.mono (List.cons_subset.mpr ⟨hm, List.nil_subset _⟩)))

end Caused

end Event

namespace Parser

variable {depth : Nat} {scope : Scope ν} {p q : Parser ν} {ps : List (Parser ν)} {s : State}
variable {log : List (Event ν)} {r : Reply (Value ν)} {e : Failure}

open Event

-- A fatal failure goes through every parser that is still running, and stops it.
theorem Logged.stops (h : Logged scope p s log r) : Stops log r := by
  induction h
  case literal | predicate | any | empty | commit | fail | dangling => exact .nil
  case seqNil | choiceNil | unbound => exact .nil
  case seqStop hi          => exact hi.last fun _ _ he => he
  case seqCons hi hi'      => exact hi.cons nofun (hi'.mono fun _ he => congrArg (Except.map _) he)
  case choiceFit hi        => exact hi.last nofun
  case choiceSkip hc _ hi hi' =>
    refine hi.cons ?_ hi'
    simp only [Bool.or_eq_false_iff] at hc
    simp [Reply.isFatal, hc.1]
  case choiceCut hi =>
    refine hi.last fun e hf he => ?_
    cases he
    exact congrArg Except.error (Failure.toFatal_eq hf)
  case map hi              => exact hi.map _
  case action hi           => exact hi.action _
  case fix hi              => exact hi.last fun _ _ he => he
  case standIn hi          => exact hi.last fun _ _ he => he

-- The flag is set by commits only, and a choice does not let those inside of it through.
theorem Logged.committed (h : Logged scope p s log r) (hr : r.state.committed) :
    s.committed ∨ Commits [.run p s log r] := by
  induction h
  case commit => exact .inr (Commits.run_iff.mpr (.inl rfl))
  case literal | predicate | any => exact .inl (State.accept_committed ▸ hr)
  case empty | fail | dangling | seqNil | choiceNil | unbound => exact .inl hr
  case choiceFit | choiceCut => exact .inl hr
  case choiceSkip hi =>
    refine (hi hr).imp_right fun hc => ?_
    simp [Commits.run_iff, isChoice] at hc
  case seqStop hi => exact (hi hr).imp_right (·.of_part List.mem_cons_self nofun)
  case seqCons hi hi' =>
    obtain hs | hc := hi' hr
    · exact (hi hs).imp_right (·.of_part List.mem_cons_self nofun)
    · obtain h | ⟨-, hc⟩ := Commits.run_iff.mp hc
      · cases h
      · exact .inr (Commits.run_iff.mpr (.inr ⟨nofun, hc.mono (List.subset_cons_self ..)⟩))
  case map hi     => exact (hi hr).imp_right (·.of_part List.mem_cons_self nofun)
  case action hi =>
    rw [State.conclude_state] at hr
    exact (hi hr).imp_right (·.of_part List.mem_cons_self nofun)
  case fix hi     => exact (hi hr).imp_right (·.of_part List.mem_cons_self nofun)
  case standIn hi => exact (hi hr).imp_right (·.of_part List.mem_cons_self nofun)

-- A failure is made fatal nowhere but in a choice that one of its alternatives has
-- committed, and from there on it stays the same.
theorem Logged.caused (h : Logged scope p s log r) (hr : r.outcome = .error e) (hf : e.fatal) :
    Caused e [.run p s log r] := by
  induction h
  case literal | predicate | any =>
    have := State.accept_not_fatal hr
    simp_all
  case empty | commit | seqNil | choiceFit => cases hr
  case fail | dangling | choiceNil | unbound =>
    cases hr
    contradiction
  case seqStop hi => exact (hi hr).of_part List.mem_cons_self
  case seqCons hi' =>
    obtain ⟨_, h, -⟩ | hc := Caused.run_iff.mp (hi' (Reply.error_of_map hr))
    · cases h
    · exact Caused.run_iff.mpr (.inr (hc.mono (List.subset_cons_self ..)))
  case choiceCut e' s' h hc hi =>
    cases hr
    cases he : e'.fatal
    case true =>
      exact (hi (congrArg Except.error (Failure.toFatal_eq he).symm)).of_part List.mem_cons_self
    case false =>
      -- The alternative has started with a clear flag, so that a commit of its own has set it.
      have hm : s'.committed := by simpa [he] using hc
      have hm := (h.committed hm).resolve_left nofun
      exact Caused.run_iff.mpr (.inl ⟨_, rfl, List.mem_cons_self, List.mem_cons_self, hm, rfl⟩)
  case choiceSkip hi' =>
    obtain ⟨_, h, hc⟩ | hc := Caused.run_iff.mp (hi' hr)
    · cases h
      exact Caused.run_iff.mpr (.inl ⟨_, rfl, hc.cons ..⟩)
    · exact Caused.run_iff.mpr (.inr (hc.mono (List.subset_cons_self ..)))
  case map hi     => exact (hi (Reply.error_of_map hr)).of_part List.mem_cons_self
  case action hi  => exact (hi (State.error_of_conclude_fatal hr hf)).of_part List.mem_cons_self
  case fix hi     => exact (hi hr).of_part List.mem_cons_self
  case standIn hi => exact (hi hr).of_part List.mem_cons_self

section

variable {t : State} {inner : List (Event ν)} {r' : Reply (Value ν)}

theorem hasCommit_of_occurs_run (hp : p.hasCommit = false)
    (hi : Occurs (.run q t inner r') log → q.hasCommit = false)
    (ho : Occurs (.run q t inner r') [.run p s log r]) : q.hasCommit = false := by
  obtain h | ho := Occurs.run_iff.mp ho
  · cases h
    exact hp
  · exact hi ho

-- What runs in the course of a run is part of its parser, or of one in its scope.
theorem Logged.hasCommit_eq_false (h : Logged scope p s log r) (hp : p.hasCommit = false)
    (hs : ∀ entry ∈ scope, entry.2.hasCommit = false) (ho : Occurs (.run q t inner r') log) :
    q.hasCommit = false := by
  induction h <;> simp only [hasCommit, anyHasCommit, Bool.or_eq_false_iff] at hp
  case literal | predicate | any | empty | commit | fail | dangling =>
    exact absurd ho Occurs.not_nil
  case seqNil | choiceNil | unbound => exact absurd ho Occurs.not_nil
  case seqStop hi | choiceFit hi   => exact hasCommit_of_occurs_run hp.1 (hi hp.1 hs) ho
  case choiceCut hi                => exact hasCommit_of_occurs_run hp.1 (hi hp.1 hs) ho
  case seqCons hi hi' | choiceSkip hi hi' =>
    obtain ho | ho := Occurs.cons_iff.mp ho
    · exact hasCommit_of_occurs_run hp.1 (hi hp.1 hs) ho
    · exact hi' hp.2 hs ho
  case map hi =>
    obtain ho | ho := Occurs.cons_iff.mp ho
    · exact hasCommit_of_occurs_run hp (hi hp hs) ho
    · nomatch ho.of_ofMap
  case action hi =>
    obtain ho | ho := Occurs.cons_iff.mp ho
    · exact hasCommit_of_occurs_run hp (hi hp hs) ho
    · nomatch ho.of_ofAction
  case fix hi =>
    refine hasCommit_of_occurs_run hp (hi hp ?_) ho
    exact List.forall_mem_cons.mpr ⟨hp, hs⟩
  case standIn hl _ hi =>
    have ⟨hm, ha⟩ := Scope.suffix_of_resolve? hl
    have hs := fun entry he => hs entry (ha.subset he)
    have hp := hs _ hm
    exact hasCommit_of_occurs_run hp (hi hp hs) ho

end

theorem Logged.not_isFatal (h : Logged scope p s log r) (hp : p.hasCommit = false)
    (hs : ∀ entry ∈ scope, entry.2.hasCommit = false) : ¬r.isFatal := by
  intro hr
  have ⟨e, he, hf⟩ := Reply.isFatal_iff.mp hr
  have ⟨ps, t, inner, r', ho, _, hm, hc, _⟩ := h.caused he hf
  have ⟨t', inner', r'', ho'⟩ := hc.exists_occurs
  have ho := (ho'.mono (List.cons_subset.mpr ⟨hm, List.nil_subset _⟩)).trans ho
  cases hasCommit_of_occurs_run hp (h.hasCommit_eq_false hp hs) ho

-- A choice whose last alternative always fits has a result, or a fatal failure.
theorem Runs.fatal_of_choice_pair {s' : State}
    (hq : ∀ ⦃s s' e⦄, ¬Runs scope q s ⟨.error e, s'⟩)
    (h : Runs scope (choice [p, q]) s ⟨.error e, s'⟩) : e.fatal := by
  obtain ⟨_, _, _, hr⟩ | ⟨_, _, -, ⟨-, hr⟩ | ⟨-, h⟩⟩ := Runs.choice_cons_iff.mp h
  · cases hr
  · cases hr
    rfl
  · obtain ⟨_, _, _, hr⟩ | ⟨_, _, h, -⟩ := Runs.choice_cons_iff.mp h
    · cases hr
    · exact absurd h (@hq _ _ _)

theorem Runs.fatal_of_optional {s' : State} (h : Runs scope (optional p) s ⟨.error e, s'⟩) :
    e.fatal := by
  refine h.fatal_of_choice_pair fun s s' e h => ?_
  cases Runs.empty_iff.mp h

theorem Runs.fatal_of_many {s' : State} (h : Runs scope (many p) s ⟨.error e, s'⟩) :
    e.fatal := by
  refine (Runs.fix_iff.mp h).fatal_of_choice_pair fun s s' e h => ?_
  obtain ⟨_, h, hr⟩ := Runs.map_iff.mp h
  cases Runs.empty_iff.mp h
  cases hr

-- Nothing goes on after a fatal failure, and each one goes back to a commit.
theorem runWithin_stops (h : runWithin depth scope p s = some r) :
    (∃ log, Logged scope p s log r) ∧
      (∀ log, Logged scope p s log r →
        Stops [.run p s log r] r ∧
          ∀ e, r.outcome = .error e → e.fatal → Caused e [.run p s log r]) ∧
      (p.hasCommit = false → (∀ entry ∈ scope, entry.2.hasCommit = false) → ¬r.isFatal) ∧
      (∀ q, p = optional q ∨ p = many q → ∀ e, r.outcome = .error e → e.fatal) := by
  have ⟨log, hl⟩ := (runsIn_iff.mpr h).exists_logged
  refine ⟨⟨log, hl⟩, fun log hl => ⟨?_, fun e => hl.caused⟩, hl.not_isFatal, ?_⟩
  case refine_1 => exact hl.stops.last fun _ _ he => he
  case refine_2 =>
    obtain ⟨o, s'⟩ := r
    rintro q (rfl | rfl) e rfl
    · exact hl.runs.fatal_of_optional
    · exact hl.runs.fatal_of_many

-- A choice does not try its other alternative once an optional part has committed and failed.
theorem runWithin_stops_choice :
    let a : Token := ⟨.identifier, "a", .start⟩
    let c : Token := ⟨.identifier, "c", .start⟩
    let test (text : String) : Parser Unit := .predicate text (·.text == text)
    let p := Parser.choice [.seq [.optional (.seq [test "a", .commit, test "b"]), test "c"], .any]
    let s : State := ⟨[a, c], 0, false⟩
    let r : Reply (Value Unit) := ⟨.error ⟨.expected "b" (.ofToken c), true⟩, ⟨[a, c], 1, false⟩⟩
    let scope : Scope Unit := []
    runWithin 6 scope p s = some r ∧
      (∃ log, Logged scope p s log r) ∧
      (∀ log, Logged scope p s log r →
        Stops [.run p s log r] r ∧
          ∀ e, r.outcome = .error e → e.fatal → Caused e [.run p s log r]) ∧
      (p.hasCommit = false → (∀ entry ∈ scope, entry.2.hasCommit = false) → ¬r.isFatal) ∧
      (∀ q, p = optional q ∨ p = many q → ∀ e, r.outcome = .error e → e.fatal) := by
  intro a c test p s r scope
  have h : runWithin 6 scope p s = some r := rfl
  exact ⟨h, runWithin_stops h⟩

end Parser

end SelectLang
