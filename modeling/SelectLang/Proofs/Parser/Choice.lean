import SelectLang.Proofs.Parser.Depth
import SelectLang.Proofs.Parser.Fatality

namespace SelectLang.Parser

variable {ν : Type}

-- Tried in the state `s`, the alternative fails in a way that lets a choice go on to the next one.
def Skipped (scope : Scope ν) (s : State) (p : Parser ν) : Prop :=
  ∃ e s', Runs scope p { s with committed := false } ⟨.error e, s'⟩ ∧
    (e.fatal || s'.committed) = false

-- In the state `s`, one of the alternatives ends the choice with the reply, and all those in
-- front of it are skipped.
inductive Settled (scope : Scope ν) (s : State) : List (Parser ν) → Reply (Value ν) → Prop
  | fit {p ps v s'} (fits : Runs scope p { s with committed := false } ⟨.ok v, s'⟩) :
    Settled scope s (p :: ps) (.withFlag s.committed ⟨.ok v, s'⟩)
  | cut {p ps e s'} (fails : Runs scope p { s with committed := false } ⟨.error e, s'⟩)
    (cut : (e.fatal || s'.committed) = true) :
    Settled scope s (p :: ps) (.withFlag s.committed ⟨.error e.toFatal, s'⟩)
  | skip {p ps r} (skipped : Skipped scope s p) (others : Settled scope s ps r) :
    Settled scope s (p :: ps) r

variable {scope : Scope ν} {s s' : State} {p : Parser ν} {ps qs : List (Parser ν)}
variable {r : Reply (Value ν)} {e : Failure}

theorem not_settled_nil : ¬Settled scope s [] r := by
  intro h
  cases h

-- A choice is settled by one of its alternatives, or there is none for it.
theorem runs_choice_iff :
    Runs scope (choice ps) s r ↔
      Settled scope s ps r ∨ (∀ p ∈ ps, Skipped scope s p) ∧ r = s.noAlternative := by
  induction ps with
  | nil => simp [Runs.choice_nil_iff, not_settled_nil]
  | cons p ps ih =>
    simp only [Runs.choice_cons_iff, ih, List.forall_mem_cons]
    constructor
    case mp =>
      intro h
      cases h with
      | inl h =>
        obtain ⟨v, s', h, hr⟩ := h
        exact .inl (hr ▸ .fit h)
      | inr h =>
        obtain ⟨e, s', h, ho⟩ := h
        cases ho with
        | inl ho => exact .inl (ho.2 ▸ .cut h ho.1)
        | inr ho =>
          have hs : Skipped scope s p := ⟨e, s', h, ho.1⟩
          exact ho.2.imp (.skip hs) (.imp_left (⟨hs, ·⟩))
    case mpr =>
      intro h
      cases h with
      | inl h =>
        cases h with
        | fit h   => exact .inl ⟨_, _, h, rfl⟩
        | cut h c => exact .inr ⟨_, _, h, .inl ⟨c, rfl⟩⟩
        | skip hs h =>
          obtain ⟨e, s', hs, hc⟩ := hs
          exact .inr ⟨e, s', hs, .inr ⟨hc, .inl h⟩⟩
      | inr h =>
        obtain ⟨⟨⟨e, s', hs, hc⟩, h⟩, hr⟩ := h
        exact .inr ⟨e, s', hs, .inr ⟨hc, .inr ⟨h, hr⟩⟩⟩

theorem settled_append_iff :
    Settled scope s (ps ++ qs) r ↔
      Settled scope s ps r ∨ (∀ p ∈ ps, Skipped scope s p) ∧ Settled scope s qs r := by
  induction ps with
  | nil => simp [not_settled_nil]
  | cons p ps ih =>
    rw [List.cons_append, List.forall_mem_cons]
    constructor
    case mp =>
      intro h
      cases h with
      | fit h     => exact .inl (.fit h)
      | cut h c   => exact .inl (.cut h c)
      | skip hs h => exact (ih.mp h).imp (.skip hs) (.imp_left (⟨hs, ·⟩))
    case mpr =>
      intro h
      cases h with
      | inl h =>
        cases h with
        | fit h     => exact .fit h
        | cut h c   => exact .cut h c
        | skip hs h => exact .skip hs (ih.mpr (.inl h))
      | inr h => exact .skip h.1.1 (ih.mpr (.inr ⟨h.1.2, h.2⟩))

namespace Settled

-- The flag that the choice has been started with has no influence on how it is settled.
theorem withFlag (h : Settled scope s ps r) (b : Bool) :
    Settled scope { s with committed := b } ps (r.withFlag b) := by
  induction h with
  | @fit _ _ v s' h =>
    change Settled _ _ _ (.withFlag b ⟨.ok v, s'⟩)
    exact .fit h
  | @cut _ _ e s' h hc =>
    change Settled _ _ _ (.withFlag b ⟨.error e.toFatal, s'⟩)
    exact .cut h hc
  | skip hs _ ih => exact .skip hs ih

theorem committed_eq (h : Settled scope s ps r) : r.state.committed = s.committed := by
  induction h with
  | fit         => rfl
  | cut         => rfl
  | skip _ _ ih => exact ih

theorem fatal (h : Settled scope s ps r) (hr : r.outcome = .error e) : e.fatal := by
  induction h with
  | fit         => cases hr
  | cut         => cases hr; rfl
  | skip _ _ ih => exact ih hr

end Settled

-- An inner choice is skipped if and only if all of its alternatives are. It has a clear flag
-- then, since it gives back the one that it has been started with.
theorem skipped_choice_iff : Skipped scope s (choice ps) ↔ ∀ p ∈ ps, Skipped scope s p := by
  constructor
  case mp =>
    intro ⟨e, s', h, hc⟩
    cases runs_choice_iff.mp h with
    | inl h => simp [h.fatal rfl] at hc
    | inr h => exact h.1
  case mpr =>
    intro h
    exact ⟨_, _, runs_choice_iff.mpr (.inr ⟨h, rfl⟩), rfl⟩

-- An inner choice settles the outer one as its alternatives would: what it cuts off is fatal, and
-- both choices leave the flag as it was.
theorem settled_choice_iff : Settled scope s [choice ps] r ↔ Settled scope s ps r := by
  constructor
  case mp =>
    intro h
    cases h with
    | skip _ h => exact absurd h not_settled_nil
    | fit h =>
      cases runs_choice_iff.mp h with
      | inl h => exact h.withFlag s.committed
      | inr h => cases h.2
    | cut h hc =>
      cases runs_choice_iff.mp h with
      | inl h =>
        have he : Failure.toFatal _ = _ := Failure.toFatal_eq (h.fatal rfl)
        exact he ▸ h.withFlag s.committed
      | inr h =>
        cases h.2
        contradiction
  case mpr =>
    intro h
    have hf := h.committed_eq
    have hc := runs_choice_iff.mpr (.inl (h.withFlag false))
    have ⟨o, t⟩ := r
    cases o with
    | ok v =>
      have hr : Settled scope s [choice ps] _ := .fit hc
      rwa [Reply.withFlag, ← hf] at hr
    | error e =>
      have he := h.fatal rfl
      have hr : Settled scope s [choice ps] _ := .cut hc (by simp [he])
      rwa [Failure.toFatal_eq he, Reply.withFlag, ← hf] at hr

-- A choice among the alternatives of another choice is nothing but a choice with more of them.
theorem choice_flatten (xs ys zs : List (Parser ν)) (s : State) :
    (∀ scope r, Runs scope (choice (xs ++ choice ys :: zs)) s r ↔
      Runs scope (choice (xs ++ ys ++ zs)) s r) ∧
    (choice (xs ++ choice ys :: zs)).run s = (choice (xs ++ ys ++ zs)).run s := by
  have h (scope r) : Runs scope (choice (xs ++ choice ys :: zs)) s r ↔
      Runs scope (choice (xs ++ ys ++ zs)) s r := by
    have hz : choice ys :: zs = [choice ys] ++ zs := rfl
    simp only [runs_choice_iff, hz, List.append_assoc, settled_append_iff, settled_choice_iff,
      List.forall_mem_append, List.forall_mem_singleton, skipped_choice_iff]
  refine ⟨h, Option.ext fun r => ?_⟩
  rw [run_eq_some_iff, run_eq_some_iff, h]

end SelectLang.Parser
