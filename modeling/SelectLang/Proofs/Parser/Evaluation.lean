import SelectLang.Parser.Run

namespace SelectLang

variable {ν : Type}

-- Puts a result in front of the results that are in a list already.
def Value.cons (v vs : Value ν) : Value ν :=
  .list (v :: vs.toList)

-- The results of a sequence, as a list that is put together before or after.
theorem Reply.map_cons_list (v : Value ν) (rs : Reply (List (Value ν))) :
    (rs.map (v :: ·)).map Value.list = (rs.map Value.list).map (Value.cons v) := by
  have ⟨o, s⟩ := rs
  cases o <;> rfl

namespace Parser

-- `RunsIn depth scope p s r` says that `p` ends with `r` when it runs from `s`, and goes
-- through no more than `depth` parsers inside each other. There is a rule for each way
-- to run a parser. The parts of a sequence and the alternatives of a choice are taken off
-- one by one, so that no second relation on lists of parsers is needed.
inductive RunsIn : Nat → Scope ν → Parser ν → State → Reply (Value ν) → Prop
  | literal {depth scope text s} :
    RunsIn (depth + 1) scope (literal text) s (s.accept (Quoted.string text) (·.text == text))
  | predicate {depth scope name test s} :
    RunsIn (depth + 1) scope (predicate name test) s (s.accept name test)
  | any {depth scope s} :
    RunsIn (depth + 1) scope any s (s.accept "any token" fun _ => true)
  | empty {depth scope s} :
    RunsIn (depth + 1) scope empty s (.success .empty s)
  | commit {depth scope s} :
    RunsIn (depth + 1) scope commit s (.success .empty { s with committed := true })
  | fail {depth scope message s} :
    RunsIn (depth + 1) scope (fail message) s (.failure (.domain message s.found) s)
  | dangling {depth scope s} :
    RunsIn (depth + 1) scope dangling s s.noAlternative
  | seqNil {depth scope s} :
    RunsIn (depth + 1) scope (seq []) s (.success (.list []) s)
  | seqStop {depth scope p ps s e s'} :
    RunsIn depth scope p s ⟨.error e, s'⟩ →
    RunsIn (depth + 1) scope (seq (p :: ps)) s ⟨.error e, s'⟩
  | seqCons {depth scope p ps s v s' r} :
    RunsIn depth scope p s ⟨.ok v, s'⟩ →
    RunsIn (depth + 1) scope (seq ps) s' r →
    RunsIn (depth + 1) scope (seq (p :: ps)) s (r.map (.cons v))
  | choiceNil {depth scope s} :
    RunsIn (depth + 1) scope (choice []) s s.noAlternative
  | choiceFit {depth scope p ps s v s'} :
    RunsIn depth scope p { s with committed := false } ⟨.ok v, s'⟩ →
    RunsIn (depth + 1) scope (choice (p :: ps)) s (.withFlag s.committed ⟨.ok v, s'⟩)
  | choiceCut {depth scope p ps s e s'} :
    RunsIn depth scope p { s with committed := false } ⟨.error e, s'⟩ →
    (e.fatal || s'.committed) = true →
    RunsIn (depth + 1) scope (choice (p :: ps)) s (.withFlag s.committed ⟨.error e.toFatal, s'⟩)
  | choiceSkip {depth scope p ps s e s' r} :
    RunsIn depth scope p { s with committed := false } ⟨.error e, s'⟩ →
    (e.fatal || s'.committed) = false →
    RunsIn (depth + 1) scope (choice ps) s r →
    RunsIn (depth + 1) scope (choice (p :: ps)) s r
  | map {depth scope f p s r} :
    RunsIn depth scope p s r →
    RunsIn (depth + 1) scope (map f p) s (r.map f)
  | action {depth scope f p s r} :
    RunsIn depth scope p s r →
    RunsIn (depth + 1) scope (action f p) s (s.conclude f r)
  | fix {depth scope label body s r} :
    RunsIn depth ((label, body) :: scope) body s r →
    RunsIn (depth + 1) scope (fix label body) s r
  | standIn {depth scope label body around s r} :
    scope.resolve? label = some (body, around) →
    RunsIn depth around body s r →
    RunsIn (depth + 1) scope (standIn label) s r
  | unbound {depth scope label s} :
    scope.resolve? label = none →
    RunsIn (depth + 1) scope (standIn label) s s.noAlternative

-- A run that ends, however deep it goes.
def Runs (scope : Scope ν) (p : Parser ν) (s : State) (r : Reply (Value ν)) : Prop :=
  ∃ depth, RunsIn depth scope p s r

namespace RunsIn

variable {depth : Nat} {scope : Scope ν} {p : Parser ν} {ps : List (Parser ν)} {s : State}
variable {r r₁ r₂ : Reply (Value ν)}

theorem of_inOrder {run : Runner ν} {rs : Reply (List (Value ν))}
    (hr : ∀ {p s r}, run p s = some r → RunsIn depth scope p s r) (h : inOrder run ps s = some rs) :
    RunsIn (depth + 1) scope (seq ps) s (rs.map .list) := by
  induction ps generalizing s rs with
  | nil =>
    simp only [inOrder, Option.some.injEq] at h
    exact h ▸ .seqNil
  | cons p ps ih =>
    simp only [inOrder, Option.bind_eq_bind, Option.bind_eq_some_iff] at h
    have ⟨⟨o, s'⟩, hp, h⟩ := h
    cases o with
    | error e =>
      simp only [pure, Option.some.injEq] at h
      exact h ▸ .seqStop (hr hp)
    | ok v =>
      simp only [pure, Option.bind_eq_some_iff, Option.some.injEq] at h
      obtain ⟨rs, hps, rfl⟩ := h
      exact rs.map_cons_list v ▸ .seqCons (hr hp) (ih hps)

theorem of_firstOf {run : Runner ν} (hr : ∀ {p s r}, run p s = some r → RunsIn depth scope p s r)
    (h : firstOf run s ps = some r) : RunsIn (depth + 1) scope (choice ps) s r := by
  induction ps with
  | nil =>
    simp only [firstOf, Option.some.injEq] at h
    exact h ▸ .choiceNil
  | cons p ps ih =>
    simp only [firstOf, Option.bind_eq_bind, Option.bind_eq_some_iff] at h
    have ⟨⟨o, s'⟩, hp, h⟩ := h
    cases o with
    | ok v =>
      simp only [pure, Option.some.injEq] at h
      exact h ▸ .choiceFit (hr hp)
    | error e =>
      simp only at h
      split at h
      case isTrue hc =>
        simp only [pure, Option.some.injEq] at h
        exact h ▸ .choiceCut (hr hp) hc
      case isFalse hc => exact .choiceSkip (hr hp) (by simpa using hc) (ih h)

theorem of_runWithin (h : runWithin depth scope p s = some r) : RunsIn depth scope p s r := by
  induction depth generalizing scope p s r with
  | zero => simp [runWithin] at h
  | succ depth ih =>
    cases p <;> simp only [runWithin, Option.some.injEq] at h
    case literal   => exact h ▸ .literal
    case predicate => exact h ▸ .predicate
    case any       => exact h ▸ .any
    case empty     => exact h ▸ .empty
    case commit    => exact h ▸ .commit
    case fail      => exact h ▸ .fail
    case dangling  => exact h ▸ .dangling
    case choice    => exact of_firstOf ih h
    case fix       => exact .fix (ih h)
    case seq =>
      simp only [Option.bind_eq_bind, Option.bind_eq_some_iff, pure, Option.some.injEq] at h
      obtain ⟨rs, h, rfl⟩ := h
      exact of_inOrder ih h
    case map =>
      simp only [Option.bind_eq_bind, Option.bind_eq_some_iff, pure, Option.some.injEq] at h
      obtain ⟨r, h, rfl⟩ := h
      exact .map (ih h)
    case action =>
      simp only [Option.bind_eq_bind, Option.bind_eq_some_iff, pure, Option.some.injEq] at h
      obtain ⟨r, h, rfl⟩ := h
      exact .action (ih h)
    case standIn =>
      split at h
      case h_1 hl => exact .standIn hl (ih h)
      case h_2 hl => exact Option.some.inj h ▸ .unbound hl

theorem runWithin_eq (h : RunsIn depth scope p s r) : runWithin depth scope p s = some r := by
  induction h with
  | seqCons hp hps ihp ihps =>
    simp only [runWithin, Option.bind_eq_bind, Option.bind_eq_some_iff, pure,
      Option.some.injEq] at ihps
    obtain ⟨rs, hrs, rfl⟩ := ihps
    simp [runWithin, inOrder, ihp, hrs, Reply.map_cons_list]
  | seqStop => simp_all [runWithin, inOrder, Reply.map, Except.map]
  | choiceFit | choiceCut | choiceSkip => simp_all [runWithin, firstOf]
  | standIn hl | unbound hl => simp_all [runWithin]
  | _ => simp_all [runWithin, inOrder, firstOf, Reply.map, Except.map, Reply.success]

-- Room to go deeper changes nothing about a run that ends.
theorem mono {depth' : Nat} (h : RunsIn depth scope p s r) (hd : depth ≤ depth') :
    RunsIn depth' scope p s r := by
  induction h generalizing depth' <;> obtain ⟨depth', rfl⟩ := Nat.exists_eq_add_of_lt hd
  case literal                  => exact .literal
  case predicate                => exact .predicate
  case any                      => exact .any
  case empty                    => exact .empty
  case commit                   => exact .commit
  case fail                     => exact .fail
  case dangling                 => exact .dangling
  case seqNil                   => exact .seqNil
  case seqStop hi               => exact .seqStop (hi (by omega))
  case seqCons hi hi'           => exact .seqCons (hi (by omega)) (hi' (by omega))
  case choiceNil                => exact .choiceNil
  case choiceFit hi             => exact .choiceFit (hi (by omega))
  case choiceCut hc hi          => exact .choiceCut (hi (by omega)) hc
  case choiceSkip hc _ hi hi'   => exact .choiceSkip (hi (by omega)) hc (hi' (by omega))
  case map hi                   => exact .map (hi (by omega))
  case action hi                => exact .action (hi (by omega))
  case fix hi                   => exact .fix (hi (by omega))
  case standIn hl _ hi          => exact .standIn hl (hi (by omega))
  case unbound hl               => exact .unbound hl

theorem deterministic {depth₁ depth₂ : Nat}
    (h₁ : RunsIn depth₁ scope p s r₁) (h₂ : RunsIn depth₂ scope p s r₂) : r₁ = r₂ := by
  have h₁ := h₁.mono (Nat.le_max_left depth₁ depth₂) |>.runWithin_eq
  have h₂ := h₂.mono (Nat.le_max_right depth₁ depth₂) |>.runWithin_eq
  exact Option.some.inj (h₁ ▸ h₂)

end RunsIn

theorem runsIn_iff {depth : Nat} {scope : Scope ν} {p : Parser ν} {s : State} {r : Reply (Value ν)} :
    RunsIn depth scope p s r ↔ runWithin depth scope p s = some r :=
  ⟨RunsIn.runWithin_eq, RunsIn.of_runWithin⟩

namespace Runs

variable {scope : Scope ν} {p : Parser ν} {ps : List (Parser ν)} {s : State}
variable {r r₁ r₂ : Reply (Value ν)}

theorem deterministic : Runs scope p s r₁ → Runs scope p s r₂ → r₁ = r₂
  | ⟨_, h₁⟩, ⟨_, h₂⟩ => h₁.deterministic h₂

theorem literal_iff {text : String} :
    Runs scope (literal text) s r ↔ r = s.accept (Quoted.string text) (·.text == text) where
  mp  := fun ⟨_, h⟩ => by cases h; rfl
  mpr := fun h => ⟨1, h ▸ .literal⟩

theorem predicate_iff {name : String} {test : Token → Bool} :
    Runs scope (predicate name test) s r ↔ r = s.accept name test where
  mp  := fun ⟨_, h⟩ => by cases h; rfl
  mpr := fun h => ⟨1, h ▸ .predicate⟩

theorem any_iff : Runs scope any s r ↔ r = s.accept "any token" fun _ => true where
  mp  := fun ⟨_, h⟩ => by cases h; rfl
  mpr := fun h => ⟨1, h ▸ .any⟩

theorem empty_iff : Runs scope empty s r ↔ r = .success .empty s where
  mp  := fun ⟨_, h⟩ => by cases h; rfl
  mpr := fun h => ⟨1, h ▸ .empty⟩

theorem commit_iff : Runs scope commit s r ↔ r = .success .empty { s with committed := true } where
  mp  := fun ⟨_, h⟩ => by cases h; rfl
  mpr := fun h => ⟨1, h ▸ .commit⟩

theorem seq_nil_iff : Runs scope (seq []) s r ↔ r = .success (.list []) s where
  mp  := fun ⟨_, h⟩ => by cases h; rfl
  mpr := fun h => ⟨1, h ▸ .seqNil⟩

theorem seq_cons_iff :
    Runs scope (seq (p :: ps)) s r ↔
      (∃ e s', Runs scope p s ⟨.error e, s'⟩ ∧ r = ⟨.error e, s'⟩) ∨
      (∃ v s' r', Runs scope p s ⟨.ok v, s'⟩ ∧ Runs scope (seq ps) s' r' ∧ r = r'.map (.cons v)) := by
  constructor
  case mp =>
    intro ⟨_, h⟩
    cases h with
    | seqStop h    => exact .inl ⟨_, _, ⟨_, h⟩, rfl⟩
    | seqCons h h' => exact .inr ⟨_, _, _, ⟨_, h⟩, ⟨_, h'⟩, rfl⟩
  case mpr =>
    rintro (⟨e, s', ⟨depth, h⟩, rfl⟩ | ⟨v, s', r', ⟨depth, h⟩, ⟨depth', h'⟩, rfl⟩)
    · exact ⟨depth + 1, .seqStop h⟩
    · refine ⟨max depth depth' + 1, .seqCons (h.mono ?_) (h'.mono ?_)⟩ <;> omega

theorem choice_nil_iff : Runs scope (choice []) s r ↔ r = s.noAlternative where
  mp  := fun ⟨_, h⟩ => by cases h; rfl
  mpr := fun h => ⟨1, h ▸ .choiceNil⟩

theorem choice_cons_iff :
    Runs scope (choice (p :: ps)) s r ↔
      (∃ v s', Runs scope p { s with committed := false } ⟨.ok v, s'⟩ ∧
        r = .withFlag s.committed ⟨.ok v, s'⟩) ∨
      (∃ e s', Runs scope p { s with committed := false } ⟨.error e, s'⟩ ∧
        ((e.fatal || s'.committed) = true ∧ r = .withFlag s.committed ⟨.error e.toFatal, s'⟩ ∨
          (e.fatal || s'.committed) = false ∧ Runs scope (choice ps) s r)) := by
  constructor
  case mp =>
    intro ⟨_, h⟩
    cases h with
    | choiceFit h        => exact .inl ⟨_, _, ⟨_, h⟩, rfl⟩
    | choiceCut h hc     => exact .inr ⟨_, _, ⟨_, h⟩, .inl ⟨hc, rfl⟩⟩
    | choiceSkip h hc h' => exact .inr ⟨_, _, ⟨_, h⟩, .inr ⟨hc, _, h'⟩⟩
  case mpr =>
    rintro (⟨v, s', ⟨depth, h⟩, rfl⟩ |
      ⟨e, s', ⟨depth, h⟩, (⟨hc, rfl⟩ | ⟨hc, depth', h'⟩)⟩)
    · exact ⟨depth + 1, .choiceFit h⟩
    · exact ⟨depth + 1, .choiceCut h hc⟩
    · refine ⟨max depth depth' + 1, .choiceSkip (h.mono ?_) hc (h'.mono ?_)⟩ <;> omega

theorem map_iff {f : Value ν → Value ν} :
    Runs scope (map f p) s r ↔ ∃ r', Runs scope p s r' ∧ r = r'.map f where
  mp  := fun ⟨_, h⟩ => by cases h with | map h => exact ⟨_, ⟨_, h⟩, rfl⟩
  mpr := fun ⟨_, ⟨_, h⟩, hr⟩ => ⟨_, hr ▸ RunsIn.map h⟩

theorem action_iff {f : Action ν} :
    Runs scope (action f p) s r ↔ ∃ r', Runs scope p s r' ∧ r = s.conclude f r' where
  mp  := fun ⟨_, h⟩ => by cases h with | action h => exact ⟨_, ⟨_, h⟩, rfl⟩
  mpr := fun ⟨_, ⟨_, h⟩, hr⟩ => ⟨_, hr ▸ RunsIn.action h⟩

theorem fix_iff {label : Label} :
    Runs scope (fix label p) s r ↔ Runs ((label, p) :: scope) p s r where
  mp  := fun ⟨_, h⟩ => by cases h with | fix h => exact ⟨_, h⟩
  mpr := fun ⟨_, h⟩ => ⟨_, .fix h⟩

theorem standIn_iff {label : Label} {body : Parser ν} {around : Scope ν}
    (hl : scope.resolve? label = some (body, around)) :
    Runs scope (standIn label) s r ↔ Runs around body s r where
  mp := fun ⟨_, h⟩ => by
    cases h with
    | standIn hl' h => cases hl.symm.trans hl'; exact ⟨_, h⟩
    | unbound hl'   => cases hl.symm.trans hl'
  mpr := fun ⟨_, h⟩ => ⟨_, .standIn hl h⟩

end Runs

end Parser

end SelectLang
