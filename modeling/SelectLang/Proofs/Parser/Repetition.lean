import SelectLang.Proofs.Parser.Consumption
import SelectLang.Proofs.Parser.Fatality

namespace SelectLang

namespace Parser

variable {ν : Type}

-- A loop in the state `s`. An attempt is made time after time, always with a cleared flag and
-- from where the one before it has ended, up to the first that fails. What is in front of that
-- one has yielded `vs`. It starts in the state `t`, and fails with `e` in the state `t'`.
inductive Loop (attempt : State → Reply (Value ν) → Prop) :
    State → List (Value ν) → State → Failure → State → Prop
  | stop {s e s'} (fails : attempt { s with committed := false } ⟨.error e, s'⟩) :
    Loop attempt s [] s e s'
  | next {s v s' vs t e t'} (fits : attempt { s with committed := false } ⟨.ok v, s'⟩)
    (others : Loop attempt s' vs t e t') : Loop attempt s (v :: vs) t e t'

-- How a loop ends. A failure that is not fatal, and not behind a commit of the attempt that it
-- is about, is none of the loop: that attempt has not been made. The flag is the caller's.
def loopReply (committed : Bool) (vs : List (Value ν)) (t : State) (e : Failure) (t' : State) :
    Reply (Value ν) :=
  .withFlag committed
    (if e.fatal || t'.committed then ⟨.error e.toFatal, t'⟩ else .success (.list vs) t)

-- One attempt and then another one, which has the result.
inductive Behind (first second : State → Reply (Value ν) → Prop) :
    State → Reply (Value ν) → Prop
  | stop {s e s'} (fails : first s ⟨.error e, s'⟩) : Behind first second s ⟨.error e, s'⟩
  | pass {s v s' r} (fits : first s ⟨.ok v, s'⟩) (other : second s' r) : Behind first second s r

-- With at most so many tokens left, the parser ends.
def Ends (scope : Scope ν) (p : Parser ν) (n : Nat) : Prop :=
  ∀ ⦃s⦄, s.remaining.length ≤ n → ∃ r, Runs scope p s r

variable {attempt : State → Reply (Value ν) → Prop} {committed : Bool} {scope : Scope ν}
variable {p q item separator : Parser ν} {s s' t t' : State} {v : Value ν} {vs : List (Value ν)}
variable {e : Failure} {r r' : Reply (Value ν)}

section

variable (committed vs t)

theorem loopReply_of_cut (hc : (e.fatal || t'.committed) = true) :
    loopReply committed vs t e t' = .withFlag committed ⟨.error e.toFatal, t'⟩ := by
  rw [loopReply, if_pos hc]

theorem loopReply_of_skip (hc : (e.fatal || t'.committed) = false) :
    loopReply committed vs t e t' = .withFlag committed (.success (.list vs) t) := by
  rw [loopReply, if_neg (Bool.eq_false_iff.mp hc)]

end

-- A result in front of those of a loop.
theorem map_loopReply :
    (loopReply committed vs t e t').map (.cons v) = loopReply committed (v :: vs) t e t' := by
  simp only [loopReply]
  split <;> rfl

theorem withFlag_loopReply {committed' : Bool} :
    (loopReply committed' vs t e t').withFlag committed = loopReply committed vs t e t' :=
  rfl

-- Tokens run out, so that a loop cannot go on for ever if every attempt takes some.
theorem Loop.exists_of_ends
    (hc : ∀ ⦃s v s'⦄, attempt s ⟨.ok v, s'⟩ → s'.remaining.length < s.remaining.length)
    (he : ∀ ⦃s'⦄, s'.remaining.length ≤ s.remaining.length → ∃ r, attempt s' r) :
    ∃ vs t e t', Loop attempt s vs t e t' := by
  induction hn : s.remaining.length using Nat.strongRecOn generalizing s with
  | ind n ih =>
    subst hn
    obtain ⟨⟨o, s'⟩, h⟩ := @he { s with committed := false } (Nat.le_refl _)
    cases o with
    | error e => exact ⟨[], s, e, s', .stop h⟩
    | ok v =>
      have hl : s'.remaining.length < s.remaining.length := (hc h :)
      have ⟨vs, t, e, t', h'⟩ := ih _ hl (fun _ hs => he (hs.trans hl.le)) rfl
      exact ⟨v :: vs, t, e, t', .next h h'⟩

-- Two parts, and a result that is made of both results.
theorem Runs.map_pair_iff {f : Value ν → Value ν} :
    Runs scope (map f (seq [p, q])) s r ↔
      (∃ e s', Runs scope p s ⟨.error e, s'⟩ ∧ r = ⟨.error e, s'⟩) ∨
      (∃ v s' r', Runs scope p s ⟨.ok v, s'⟩ ∧ Runs scope q s' r' ∧
        r = r'.map fun w => f (.list [v, w])) := by
  rw [Runs.map_iff]
  constructor
  case mp =>
    rintro ⟨_, h, rfl⟩
    obtain ⟨e, s', hp, rfl⟩ | ⟨v, s', _, hp, h', rfl⟩ := Runs.seq_cons_iff.mp h
    · exact .inl ⟨e, s', hp, rfl⟩
    · obtain ⟨e, t, hq, rfl⟩ | ⟨w, t, _, hq, hn, rfl⟩ := Runs.seq_cons_iff.mp h'
      · exact .inr ⟨v, s', _, hp, hq, rfl⟩
      · cases Runs.seq_nil_iff.mp hn
        exact .inr ⟨v, s', _, hp, hq, rfl⟩
  case mpr =>
    rintro (⟨e, s', hp, rfl⟩ | ⟨v, s', ⟨o, t⟩, hp, hq, rfl⟩)
    · exact ⟨_, Runs.seq_cons_iff.mpr (.inl ⟨e, s', hp, rfl⟩), rfl⟩
    · have hq : Runs scope (seq [q]) s' (Reply.map (fun w => .list [w]) ⟨o, t⟩) := by
        cases o with
        | error e => exact Runs.seq_cons_iff.mpr (.inl ⟨e, t, hq, rfl⟩)
        | ok w    => exact Runs.seq_cons_iff.mpr (.inr ⟨w, t, _, hq, Runs.seq_nil_iff.mpr rfl, rfl⟩)
      refine ⟨_, Runs.seq_cons_iff.mpr (.inr ⟨v, s', _, hp, hq, rfl⟩), ?_⟩
      cases o <;> rfl

theorem Runs.second_iff :
    Runs scope (map Value.second (seq [p, q])) s r ↔ Behind (Runs scope p) (Runs scope q) s r := by
  rw [Runs.map_pair_iff]
  constructor
  case mp =>
    rintro (⟨e, s', hp, rfl⟩ | ⟨v, s', ⟨o, _⟩, hp, hq, rfl⟩)
    · exact .stop hp
    · cases o <;> exact .pass hp hq
  case mpr =>
    intro h
    cases h with
    | stop hp => exact .inl ⟨_, _, hp, rfl⟩
    | pass hp hq =>
      obtain ⟨o, _⟩ := r
      exact .inr ⟨_, _, _, hp, hq, by cases o <;> rfl⟩

-- What a loop falls back on if there is no further item.
theorem Runs.fallback_iff :
    Runs scope (choice [map (fun _ => .list []) empty]) s r ↔ r = .success (.list []) s := by
  rw [Runs.choice_cons_iff]
  simp only [Runs.map_iff, Runs.empty_iff]
  constructor
  case mp =>
    rintro (⟨_, _, ⟨_, rfl, h⟩, rfl⟩ | ⟨_, _, ⟨_, rfl, h⟩, -⟩)
    · cases h
      rfl
    · cases h
  case mpr =>
    rintro rfl
    exact .inl ⟨_, _, ⟨_, rfl, rfl⟩, rfl⟩

-- One item and the loop again. The label of the loop means nothing to the item.
theorem Runs.round_iff :
    Runs (manyScope scope p) (map Value.joined (seq [p, standIn (.loop p.freeLevel)])) s r ↔
      (∃ e s', Runs scope p s ⟨.error e, s'⟩ ∧ r = ⟨.error e, s'⟩) ∨
      (∃ v s' r', Runs scope p s ⟨.ok v, s'⟩ ∧ Runs scope (many p) s' r' ∧
        r = r'.map (.cons v)) := by
  have hl : (manyScope scope p).resolve? (.loop p.freeLevel) =
      some (manyBody p, manyScope scope p) := by
    simp [manyScope, Scope.resolve?]
  have hp {s r} : Runs (manyScope scope p) p s r ↔ Runs scope p s r := runs_loop_iff
  have hm {s r} : Runs (manyScope scope p) (standIn (.loop p.freeLevel)) s r ↔
      Runs scope (many p) s r :=
    (Runs.standIn_iff hl).trans Runs.fix_iff.symm
  rw [Runs.map_pair_iff]
  simp only [hp, hm]
  rfl

theorem Runs.many_stop (h : Runs scope p { s with committed := false } ⟨.error e, s'⟩) :
    Runs scope (many p) s (loopReply s.committed [] s e s') := by
  have hr := Runs.round_iff.mpr (.inl ⟨e, s', h, rfl⟩)
  refine Runs.fix_iff.mpr (Runs.choice_cons_iff.mpr (.inr ⟨e, s', hr, ?_⟩))
  cases hc : e.fatal || s'.committed with
  | true  => exact .inl ⟨rfl, loopReply_of_cut _ _ _ hc⟩
  | false => exact .inr ⟨rfl, Runs.fallback_iff.mpr (loopReply_of_skip _ _ _ hc)⟩

theorem Runs.many_next (h : Runs scope p { s with committed := false } ⟨.ok v, s'⟩)
    (h' : Runs scope (many p) s' r') :
    Runs scope (many p) s ((r'.map (.cons v)).withFlag s.committed) := by
  have hr := Runs.round_iff.mpr (.inr ⟨v, s', r', h, h', rfl⟩)
  refine Runs.fix_iff.mpr (Runs.choice_cons_iff.mpr ?_)
  obtain ⟨o, t⟩ := r'
  cases o with
  | ok w    => exact .inl ⟨_, t, hr, rfl⟩
  | error e =>
    -- The other rounds have failed already as this one does now.
    have hf := h'.fatal_of_many
    refine .inr ⟨e, t, hr, .inl ⟨by simp [hf], ?_⟩⟩
    rw [Failure.toFatal_eq hf]
    rfl

theorem Runs.many_cases (h : Runs scope (many p) s r) :
    (∃ e s', Runs scope p { s with committed := false } ⟨.error e, s'⟩ ∧
      r = loopReply s.committed [] s e s') ∨
    (∃ v s' r', Runs scope p { s with committed := false } ⟨.ok v, s'⟩ ∧
      Runs scope (many p) s' r' ∧ r = (r'.map (.cons v)).withFlag s.committed) := by
  obtain ⟨_, t, hr, rfl⟩ | ⟨e, t, hr, hc⟩ := Runs.choice_cons_iff.mp (Runs.fix_iff.mp h)
  case inl =>
    obtain ⟨_, _, -, he⟩ | ⟨v, s', r', hp, hm, he⟩ := Runs.round_iff.mp hr
    · cases he
    · exact .inr ⟨v, s', r', hp, hm, congrArg (Reply.withFlag s.committed) he⟩
  case inr =>
    obtain ⟨_, _, hp, he⟩ | ⟨v, s', r', hp, hm, he⟩ := Runs.round_iff.mp hr
    · cases he
      refine .inl ⟨e, t, hp, ?_⟩
      obtain ⟨hc, rfl⟩ | ⟨hc, h⟩ := hc
      · exact (loopReply_of_cut _ _ _ hc).symm
      · exact (Runs.fallback_iff.mp h).trans (loopReply_of_skip _ _ _ hc).symm
    · obtain ⟨o, _⟩ := r'
      cases o <;> cases he
      have hf := hm.fatal_of_many
      obtain ⟨-, rfl⟩ | ⟨hc, -⟩ := hc
      · exact .inr ⟨v, s', _, hp, hm, by rw [Failure.toFatal_eq hf]; rfl⟩
      · simp [hf] at hc

-- A loop is made of its rounds, which take fewer and fewer tokens.
theorem Runs.exists_loop (hc : Consumes scope p) (h : Runs scope (many p) s r) :
    ∃ vs t e t', Loop (Runs scope p) s vs t e t' ∧ r = loopReply s.committed vs t e t' := by
  induction hn : s.remaining.length using Nat.strongRecOn generalizing s r with
  | ind n ih =>
    subst hn
    obtain ⟨e, t, hp, rfl⟩ | ⟨v, s', r', hp, hm, rfl⟩ := h.many_cases
    · exact ⟨[], s, e, t, .stop hp, rfl⟩
    · have hl : s'.remaining.length < s.remaining.length := (hc.length_remaining_lt hp :)
      obtain ⟨vs, t, e, t', h', rfl⟩ := ih _ hl hm rfl
      exact ⟨v :: vs, t, e, t', .next hp h', by rw [map_loopReply, withFlag_loopReply]⟩

theorem Loop.runs (h : Loop (Runs scope p) s vs t e t') :
    Runs scope (many p) s (loopReply s.committed vs t e t') := by
  induction h with
  | stop hp => exact .many_stop hp
  | next hp _ ih =>
    have h := Runs.many_next hp ih
    rwa [map_loopReply, withFlag_loopReply] at h

theorem runs_many_iff (hc : Consumes scope p) :
    Runs scope (many p) s r ↔
      ∃ vs t e t', Loop (Runs scope p) s vs t e t' ∧ r = loopReply s.committed vs t e t' where
  mp h := h.exists_loop hc
  mpr  := fun ⟨_, _, _, _, h, hr⟩ => hr ▸ h.runs

theorem runs_sepBy_iff (hc : Consumes scope (seq [separator, item])) :
    Runs scope (sepBy item separator) s r ↔
      (∃ e s', Runs scope item s ⟨.error e, s'⟩ ∧ r = ⟨.error e, s'⟩) ∨
      (∃ v s' vs t e t', Runs scope item s ⟨.ok v, s'⟩ ∧
        Loop (Behind (Runs scope separator) (Runs scope item)) s' vs t e t' ∧
        r = loopReply s'.committed (v :: vs) t e t') := by
  have hb : Runs scope (map Value.second (seq [separator, item])) =
      Behind (Runs scope separator) (Runs scope item) := by
    ext s r
    exact Runs.second_iff
  rw [sepBy, Runs.map_pair_iff]
  simp only [runs_many_iff (hc.map Value.second), hb]
  refine or_congr Iff.rfl ?_
  constructor
  case mp =>
    rintro ⟨v, s', _, hi, ⟨vs, t, e, t', hl, rfl⟩, rfl⟩
    exact ⟨v, s', vs, t, e, t', hi, hl, map_loopReply⟩
  case mpr =>
    rintro ⟨v, s', vs, t, e, t', hi, hl, rfl⟩
    exact ⟨v, s', _, hi, ⟨vs, t, e, t', hl, rfl⟩, map_loopReply.symm⟩

theorem Ends.mono {m n : Nat} (h : Ends scope p n) (hn : m ≤ n) : Ends scope p m :=
  fun _ hs => h (hs.trans hn)

-- The other parts of a sequence are only run where the first one has ended.
theorem Ends.seq_cons {ps : List (Parser ν)} {n : Nat} (hp : Ends scope p n)
    (hps : ∀ ⦃s v s'⦄, s.remaining.length ≤ n → Runs scope p s ⟨.ok v, s'⟩ →
      ∃ r, Runs scope (seq ps) s' r) : Ends scope (seq (p :: ps)) n := by
  intro s hs
  obtain ⟨⟨o, s'⟩, h⟩ := hp hs
  cases o with
  | error e => exact ⟨_, Runs.seq_cons_iff.mpr (.inl ⟨e, s', h, rfl⟩)⟩
  | ok v =>
    have ⟨r, h'⟩ := hps hs h
    exact ⟨_, Runs.seq_cons_iff.mpr (.inr ⟨v, s', r, h, h', rfl⟩)⟩

theorem Behind.exists_of_ends {n : Nat} (hp : Ends scope p n) (hq : Ends scope q n)
    (hs : s.remaining.length ≤ n) : ∃ r, Behind (Runs scope p) (Runs scope q) s r := by
  obtain ⟨⟨o, s'⟩, h⟩ := hp hs
  cases o with
  | error e => exact ⟨_, .stop h⟩
  | ok v =>
    have ⟨r, h'⟩ := hq (h.length_remaining_le.trans hs)
    exact ⟨r, .pass h h'⟩

theorem Consumes.exists_loop (hc : Consumes scope p) (he : Ends scope p s.remaining.length) :
    ∃ vs t e t', Loop (Runs scope p) s vs t e t' :=
  Loop.exists_of_ends (fun _ _ _ h => hc.length_remaining_lt h) he

theorem Ends.many {n : Nat} (hc : Consumes scope p) (hp : Ends scope p n) :
    Ends scope (many p) n := by
  intro s hs
  have ⟨_, _, _, _, h⟩ := hc.exists_loop (hp.mono hs)
  exact ⟨_, h.runs⟩

-- The separators are behind the first item, where there may be fewer tokens.
theorem exists_runs_sepBy {n : Nat} (hc : Consumes scope (seq [separator, item]))
    (hi : Ends scope item n) (hs : s.remaining.length ≤ n)
    (hb : ∀ ⦃v s'⦄, Runs scope item s ⟨.ok v, s'⟩ → Ends scope separator s'.remaining.length) :
    ∃ r, Runs scope (sepBy item separator) s r := by
  obtain ⟨⟨o, s'⟩, h⟩ := hi hs
  cases o with
  | error e => exact ⟨_, (runs_sepBy_iff hc).mpr (.inl ⟨e, s', h, rfl⟩)⟩
  | ok v =>
    have hl ⦃s v s'⦄ (h : Behind (Runs scope separator) (Runs scope item) s ⟨.ok v, s'⟩) :=
      (hc.map Value.second).length_remaining_lt (Runs.second_iff.mpr h)
    have hi' : Ends scope item s'.remaining.length := hi.mono (h.length_remaining_le.trans hs)
    have ⟨vs, t, e, t', h'⟩ := Loop.exists_of_ends hl fun _ => Behind.exists_of_ends (hb h) hi'
    exact ⟨_, (runs_sepBy_iff hc).mpr (.inr ⟨v, s', vs, t, e, t', h, h', rfl⟩)⟩

-- A parser that never succeeds without a token, as often as it fits, is a greedy loop, and ends
-- if the parser does.
theorem many_iff_loop (hc : Consumes scope p) (s : State) :
    (∀ r, Runs scope (many p) s r ↔
      ∃ vs t e t', Loop (Runs scope p) s vs t e t' ∧ r = loopReply s.committed vs t e t') ∧
    ((∀ s', ∃ r, Runs scope p s' r) → ∃ vs t e t', Loop (Runs scope p) s vs t e t') := by
  refine ⟨fun _ => runs_many_iff hc, fun he => ?_⟩
  exact hc.exists_loop fun s' _ => he s'

-- A letter behind which there is a commit.
def letter : Parser Unit :=
  seq [literal "a", commit]

theorem consumes_letter : Consumes [] letter :=
  (Consumes.literal ..).head _

theorem ends_letter (n : Nat) : Ends [] letter n := by
  refine .seq_cons (fun _ _ => ⟨_, Runs.literal_iff.mpr rfl⟩) fun _ _ _ _ _ => ?_
  exact Ends.seq_cons (fun _ _ => ⟨_, Runs.commit_iff.mpr rfl⟩)
    (fun _ _ _ _ _ => ⟨_, Runs.seq_nil_iff.mpr rfl⟩) (Nat.le_refl _)

theorem many_iff_loop_letter :
    let s : State := .start <| ["a", "a", "b"].map fun text => ⟨.identifier, text, .start⟩
    let vs : List (Value Unit) := [.list [.token "a", .empty], .list [.token "a", .empty]]
    Consumes [] letter ∧ (∃ vs t e t', Loop (Runs [] letter) s vs t e t') ∧
      ∃ ws t e t', Loop (Runs [] letter) s ws t e t' ∧
        loopReply false ws t e t' = .success (.list vs) { s with cursor := 2 } := by
  intro s vs
  have ⟨hr, he⟩ := many_iff_loop consumes_letter s
  have h : Runs [] (many letter) s (.success (.list vs) { s with cursor := 2 }) :=
    run_eq_some_iff.mp rfl
  have ⟨ws, t, e, t', hl, hs⟩ := (hr _).mp h
  exact ⟨consumes_letter, he fun s' => ends_letter _ (Nat.le_refl _), ws, t, e, t', hl, hs.symm⟩

-- With separators, the first item is run as it stands, and the greedy loop is behind it.
theorem sepBy_iff_loop (hc : Consumes scope (seq [separator, item])) (s : State) :
    (∀ r, Runs scope (sepBy item separator) s r ↔
      (∃ e s', Runs scope item s ⟨.error e, s'⟩ ∧ r = ⟨.error e, s'⟩) ∨
      (∃ v s' vs t e t', Runs scope item s ⟨.ok v, s'⟩ ∧
        Loop (Behind (Runs scope separator) (Runs scope item)) s' vs t e t' ∧
        r = loopReply s'.committed (v :: vs) t e t')) ∧
    ((∀ s', ∃ r, Runs scope item s' r) → (∀ s', ∃ r, Runs scope separator s' r) →
      ∃ r, Runs scope (sepBy item separator) s r) := by
  refine ⟨fun _ => runs_sepBy_iff hc, fun hi hs => ?_⟩
  exact exists_runs_sepBy hc (fun s' _ => hi s') (Nat.le_refl _) fun _ _ _ s' _ => hs s'

theorem sepBy_iff_loop_letter :
    let s : State := .start <| ["a", ",", "a", ",", "b"].map fun text => ⟨.identifier, text, .start⟩
    let v : Value Unit := .list [.token "a", .empty]
    let separator : Parser Unit := literal ","
    let s₁ : State := ⟨s.tokens, 1, true⟩
    Consumes [] (seq [separator, letter]) ∧ (∃ r, Runs [] (sepBy letter separator) s r) ∧
      Runs [] letter s ⟨.ok v, s₁⟩ ∧ ∃ vs t e t',
        Loop (Behind (Runs [] separator) (Runs [] letter)) s₁ vs t e t' ∧
        loopReply true (v :: vs) t e t' = .success (.list [v, v]) { s₁ with cursor := 3 } := by
  intro s v separator s₁
  have hc : Consumes [] (seq [separator, letter]) := (Consumes.literal ..).head _
  have ⟨hr, he⟩ := sepBy_iff_loop hc s
  have he := he (fun _ => ends_letter _ (Nat.le_refl _)) fun _ => ⟨_, Runs.literal_iff.mpr rfl⟩
  have h₁ : Runs [] letter s ⟨.ok v, s₁⟩ := run_eq_some_iff.mp rfl
  have h : Runs [] (sepBy letter separator) s (.success (.list [v, v]) { s₁ with cursor := 3 }) :=
    run_eq_some_iff.mp rfl
  obtain ⟨_, _, -, hs⟩ | ⟨_, _, vs, t, e, t', hi, hl, hs⟩ := (hr _).mp h
  · cases hs
  · cases Runs.deterministic h₁ hi
    exact ⟨hc, he, h₁, vs, t, e, t', hl, hs.symm⟩

end Parser

end SelectLang
