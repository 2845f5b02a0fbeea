import SelectLang.Proofs.Parser.Evaluation

namespace SelectLang

variable {ν : Type} {α β : Type}

namespace State

-- The state behind some more tokens. The flag can only be set, not cleared.
def after (s : State) (consumed : Nat) (commits : Bool) : State :=
  { s with cursor := s.cursor + consumed, committed := s.committed || commits }

@[simp]
theorem after_zero (s : State) : s.after 0 false = s := by
  simp [after]

theorem after_after (s : State) (k l : Nat) (c d : Bool) :
    (s.after k c).after l d = s.after (k + l) (c || d) := by
  simp [after, Nat.add_assoc, Bool.or_assoc]

@[simp]
theorem remaining_after (s : State) (k : Nat) (c : Bool) :
    (s.after k c).remaining = s.remaining.drop k := by
  simp [after, remaining]

@[simp]
theorem remaining_start (ts : List Token) : (start ts).remaining = ts :=
  rfl

theorem remaining_cleared {s s' : State} (hs : s.remaining = s'.remaining) :
    State.remaining { s with committed := false } = State.remaining { s' with committed := false } :=
  hs

theorem current?_eq (s : State) : s.current? = s.remaining.head? := by
  simp [current?, remaining]

theorem found_eq (s : State) : s.found = .ofToken? s.remaining.head? := by
  simp [found, current?_eq]

theorem span_after (s : State) (k : Nat) (c : Bool) :
    s.span (s.after k c) = s.remaining.take k := by
  simp [span, after]

end State

-- Two replies, to a run from `s` and to one from `s'`, that differ in nothing but the
-- place and the flag that their runs have started with.
def Reply.Alike (s s' : State) (r r' : Reply α) : Prop :=
  r.outcome = r'.outcome ∧
    ∃ consumed commits, r.state = s.after consumed commits ∧ r'.state = s'.after consumed commits

namespace Reply.Alike

variable {s s' : State} {r r' : Reply α}

theorem success (a : α) : Alike s s' (.success a s) (.success a s') :=
  ⟨rfl, 0, false, s.after_zero.symm, s'.after_zero.symm⟩

theorem failure (e : ParseError) :
    Alike s s' (.failure e s : Reply α) (.failure e s') :=
  ⟨rfl, 0, false, s.after_zero.symm, s'.after_zero.symm⟩

theorem map (f : α → β) (h : Alike s s' r r') : Alike s s' (r.map f) (r'.map f) :=
  ⟨congrArg (Except.map f) h.1, h.2⟩

theorem accept (hs : s.remaining = s'.remaining) (what : String) (test : Token → Bool) :
    Alike s s' (s.accept what test : Reply (Value ν)) (s'.accept what test) := by
  simp only [State.accept, State.current?_eq, State.found_eq, hs]
  split
  case h_1 => exact ⟨rfl, 1, false, by simp [Reply.success, State.advance, State.after]⟩
  case h_2 => exact .failure _

theorem noAlternative (hs : s.remaining = s'.remaining) :
    Alike s s' (s.noAlternative : Reply α) s'.noAlternative := by
  simp only [State.noAlternative, State.found_eq, hs]
  exact .failure _

theorem conclude {r r' : Reply (Value ν)} (hs : s.remaining = s'.remaining) (f : Action ν)
    (h : Alike s s' r r') : Alike s s' (s.conclude f r) (s'.conclude f r') := by
  have ⟨o, t⟩ := r
  have ⟨o', t'⟩ := r'
  obtain ⟨rfl, k, c, rfl, rfl⟩ := h
  cases o with
  | error e => exact ⟨rfl, k, c, rfl, rfl⟩
  | ok v =>
    simp only [State.conclude, State.span_after, State.current?_eq, State.remaining_after, hs]
    split <;> exact ⟨rfl, k, c, rfl, rfl⟩

-- An alternative starts with a cleared flag, and what it does to the flag is undone.
theorem withFlag (h : Alike { s with committed := false } { s' with committed := false } r r') :
    Alike s s' (r.withFlag s.committed) (r'.withFlag s'.committed) := by
  have ⟨ho, k, c, hr, hr'⟩ := h
  refine ⟨ho, k, false, ?_, ?_⟩
  · simp [Reply.withFlag, hr, State.after]
  · simp [Reply.withFlag, hr', State.after]

theorem committed_eq
    (h : Alike { s with committed := false } { s' with committed := false } r r') :
    r.state.committed = r'.state.committed := by
  obtain ⟨-, k, c, hr, hr'⟩ := h
  simp [hr, hr', State.after]

theorem andThen {q q' : Reply β} (h : Alike s s' r r') (hq : Alike r.state r'.state q q') :
    Alike s s' q q' := by
  obtain ⟨-, k, c, hr, hr'⟩ := h
  have ⟨ho, l, d, hq, hq'⟩ := hq
  refine ⟨ho, k + l, c || d, ?_, ?_⟩
  · rw [hq, hr, State.after_after]
  · rw [hq', hr', State.after_after]

theorem remaining_eq (hs : s.remaining = s'.remaining) (h : Alike s s' r r') :
    r.state.remaining = r'.state.remaining := by
  obtain ⟨-, k, c, hr, hr'⟩ := h
  simp [hr, hr', hs]

end Reply.Alike

namespace Parser

variable {depth : Nat} {scope : Scope ν} {p : Parser ν} {ps : List (Parser ν)} {s s' : State}
variable {r : Reply (Value ν)}

-- A run has the same effect in every state with the same tokens left: neither the tokens
-- in front of the cursor, nor the cursor itself, nor the flag matter.
theorem RunsIn.exists_alike (h : RunsIn depth scope p s r) (hs : s.remaining = s'.remaining) :
    ∃ r', RunsIn depth scope p s' r' ∧ Reply.Alike s s' r r' := by
  induction h generalizing s' with
  | literal     => exact ⟨_, .literal, .accept hs ..⟩
  | predicate   => exact ⟨_, .predicate, .accept hs ..⟩
  | any         => exact ⟨_, .any, .accept hs ..⟩
  | empty       => exact ⟨_, .empty, .success _⟩
  | seqNil      => exact ⟨_, .seqNil, .success _⟩
  | commit      => exact ⟨_, .commit, rfl, 0, true, by simp [Reply.success, State.after]⟩
  | fail        => exact ⟨_, .fail, by simpa only [State.found_eq, hs] using .failure _⟩
  | dangling    => exact ⟨_, .dangling, .noAlternative hs⟩
  | choiceNil   => exact ⟨_, .choiceNil, .noAlternative hs⟩
  | unbound hl  => exact ⟨_, .unbound hl, .noAlternative hs⟩
  | seqStop _ hi =>
    obtain ⟨⟨_, _⟩, h, ha⟩ := hi hs
    cases ha.1
    exact ⟨_, .seqStop h, rfl, ha.2⟩
  | seqCons _ _ hi hi' =>
    obtain ⟨⟨_, _⟩, h, ha⟩ := hi hs
    cases ha.1
    obtain ⟨_, h', ha'⟩ := hi' (ha.remaining_eq hs)
    exact ⟨_, .seqCons h h', .map _ (ha.andThen ha')⟩
  | choiceFit _ hi =>
    obtain ⟨⟨_, _⟩, h, ha⟩ := hi (State.remaining_cleared hs)
    cases ha.1
    exact ⟨_, .choiceFit h, ha.withFlag⟩
  | choiceCut _ hc hi =>
    obtain ⟨⟨_, _⟩, h, ha⟩ := hi (State.remaining_cleared hs)
    cases ha.1
    exact ⟨_, .choiceCut h (ha.committed_eq ▸ hc), .withFlag ⟨rfl, ha.2⟩⟩
  | choiceSkip _ hc _ hi hi' =>
    obtain ⟨⟨_, _⟩, h, ha⟩ := hi (State.remaining_cleared hs)
    cases ha.1
    obtain ⟨_, h', ha'⟩ := hi' hs
    exact ⟨_, .choiceSkip h (ha.committed_eq ▸ hc) h', ha'⟩
  | map _ hi =>
    obtain ⟨_, h, ha⟩ := hi hs
    exact ⟨_, .map h, ha.map _⟩
  | action _ hi =>
    obtain ⟨_, h, ha⟩ := hi hs
    exact ⟨_, .action h, ha.conclude hs _⟩
  | fix _ hi =>
    obtain ⟨_, h, ha⟩ := hi hs
    exact ⟨_, .fix h, ha⟩
  | standIn hl _ hi =>
    obtain ⟨_, h, ha⟩ := hi hs
    exact ⟨_, .standIn hl h, ha⟩

theorem RunsIn.remaining_suffix (h : RunsIn depth scope p s r) :
    r.state.remaining <:+ s.remaining := by
  obtain ⟨_, _, -, k, c, hr, -⟩ := h.exists_alike rfl
  exact hr ▸ s.remaining_after k c ▸ List.drop_suffix ..

-- The parsers that undo what their parts do to the flag.
inductive RestoresFlag : Parser ν → Prop
  | choice (ps : List (Parser ν)) : RestoresFlag (choice ps)
  | optional (p : Parser ν)       : RestoresFlag (optional p)
  | many (p : Parser ν)           : RestoresFlag (many p)

theorem RunsIn.choice_committed (h : RunsIn depth scope (choice ps) s r) :
    r.state.committed = s.committed := by
  induction ps generalizing r with
  | nil => cases h; rfl
  | cons p ps ih =>
    cases h
    case choiceFit       => rfl
    case choiceCut       => rfl
    case choiceSkip _ h  => exact ih h

theorem RestoresFlag.committed_eq (hp : RestoresFlag p) (h : RunsIn depth scope p s r) :
    r.state.committed = s.committed := by
  cases hp
  case choice   => exact h.choice_committed
  case optional => exact h.choice_committed
  case many =>
    cases h
    case fix h => exact h.choice_committed

-- Two runs from places with the same tokens left are the same run, wherever those places
-- are and whatever was committed before.
theorem runWithin_of_remaining_eq {depth₁ depth₂ : Nat} {s₁ s₂ : State} {r₁ r₂ : Reply (Value ν)}
    (hs : s₁.remaining = s₂.remaining) (h₁ : runWithin depth₁ scope p s₁ = some r₁)
    (h₂ : runWithin depth₂ scope p s₂ = some r₂) :
    r₁.outcome = r₂.outcome ∧
      ∃ consumed commits, r₁.state = s₁.after consumed commits ∧
        r₂.state = s₂.after consumed commits ∧ (p.RestoresFlag → commits = false) := by
  have h₁ := runsIn_iff.mpr h₁
  have h₂ := runsIn_iff.mpr h₂
  have ⟨r, h, ho, k, c, hk₁, hk₂⟩ := h₁.exists_alike hs
  cases h.deterministic h₂
  by_cases hp : p.RestoresFlag
  case pos =>
    -- The flags are as before, so this run has not committed anything.
    refine ⟨ho, k, false, ?_, ?_, fun _ => rfl⟩
    · have hc := hp.committed_eq h₁
      simp_all [State.after]
    · have hc := hp.committed_eq h₂
      simp_all [State.after]
  case neg => exact ⟨ho, k, c, hk₁, hk₂, (absurd · hp)⟩

-- The same fatal failure behind one token and in front of all of them.
theorem runWithin_of_remaining_eq_committed :
    let a : Token := ⟨.identifier, "a", .start⟩
    let b : Token := ⟨.identifier, "b", .start⟩
    let test : Parser Unit := .predicate "a" (·.text == "a")
    let p := Parser.many (.seq [test, .commit, test])
    let e : Failure := ⟨.expected "a" (.ofToken b), true⟩
    let s₁ : State := ⟨[b, a, b], 1, false⟩
    let s₂ : State := ⟨[a, b], 0, true⟩
    let r₁ : Reply (Value Unit) := ⟨.error e, ⟨[b, a, b], 2, false⟩⟩
    let r₂ : Reply (Value Unit) := ⟨.error e, ⟨[a, b], 1, true⟩⟩
    s₁.remaining = s₂.remaining ∧
      runWithin 9 [] p s₁ = some r₁ ∧ runWithin 9 [] p s₂ = some r₂ ∧
      r₁.outcome = r₂.outcome ∧
      ∃ consumed commits, r₁.state = s₁.after consumed commits ∧
        r₂.state = s₂.after consumed commits ∧ (p.RestoresFlag → commits = false) := by
  intro a b test p e s₁ s₂ r₁ r₂
  have hs : s₁.remaining = s₂.remaining := rfl
  have h₁ : runWithin 9 [] p s₁ = some r₁ := rfl
  have h₂ : runWithin 9 [] p s₂ = some r₂ := rfl
  exact ⟨hs, h₁, h₂, runWithin_of_remaining_eq hs h₁ h₂⟩

end Parser

end SelectLang
