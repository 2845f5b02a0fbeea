import SelectLang.Proofs.Parser.Evaluation

namespace SelectLang

variable {ν : Type}

namespace Parser

mutual

-- The labels that a parser has a stand-in for, apart from those that its own fix parsers bind.
def Free : Parser ν → Label → Prop
  | seq ps,     l => FreeInSome ps l
  | choice ps,  l => FreeInSome ps l
  | map _ p,    l => p.Free l
  | action _ p, l => p.Free l
  | fix l' p,   l => l ≠ l' ∧ p.Free l
  | standIn l', l => l = l'
  | _,          _ => False

def FreeInSome : List (Parser ν) → Label → Prop
  | [],      _ => False
  | p :: ps, l => p.Free l ∨ FreeInSome ps l

end

mutual

theorem above_le_freeLevel {label : Label} :
    (p : Parser ν) → p.Free label → label.above ≤ p.freeLevel
  | seq ps, h     => above_le_freeLevels ps h
  | choice ps, h  => above_le_freeLevels ps h
  | map _ p, h    => above_le_freeLevel p h
  | action _ p, h => above_le_freeLevel p h
  | fix _ p, h    => Nat.le_trans (above_le_freeLevel p h.2) (Nat.le_max_right ..)
  | standIn _, h  => h ▸ Nat.le_refl _

theorem above_le_freeLevels {label : Label} :
    (ps : List (Parser ν)) → FreeInSome ps label → label.above ≤ freeLevels ps
  | p :: _, .inl h  => Nat.le_trans (above_le_freeLevel p h) (Nat.le_max_left ..)
  | _ :: ps, .inr h => Nat.le_trans (above_le_freeLevels ps h) (Nat.le_max_right ..)

end

theorem not_free_loop (p : Parser ν) : ¬p.Free (.loop p.freeLevel) := fun h =>
  Nat.not_succ_le_self _ (above_le_freeLevel p h)

end Parser

-- Scopes that differ at most in what cannot be reached by the labels: neither by one of these
-- themselves, nor by a label that occurs in what one of them stands for.
inductive Scope.Agrees : (Label → Prop) → Scope ν → Scope ν → Prop
  | nil {labels} : Agrees labels [] []
  | both {labels label body scope scope'}
    (others : Agrees (fun l => l ≠ label ∧ (labels l ∨ body.Free l)) scope scope') :
    Agrees labels ((label, body) :: scope) ((label, body) :: scope')
  | left {labels label body scope scope'} (unused : ¬labels label)
    (others : Agrees labels scope scope') : Agrees labels ((label, body) :: scope) scope'
  | right {labels label body scope scope'} (unused : ¬labels label)
    (others : Agrees labels scope scope') : Agrees labels scope ((label, body) :: scope')

namespace Scope.Agrees

variable {labels labels' : Label → Prop} {scope scope' : Scope ν} {label : Label}

theorem refl (labels : Label → Prop) (scope : Scope ν) : Agrees labels scope scope := by
  induction scope generalizing labels with
  | nil         => exact .nil
  | cons _ _ ih => exact .both (ih _)

theorem symm (h : Agrees labels scope scope') : Agrees labels scope' scope := by
  induction h with
  | nil           => exact .nil
  | both _ ih     => exact .both ih
  | left hu _ ih  => exact .right hu ih
  | right hu _ ih => exact .left hu ih

theorem mono (h : Agrees labels scope scope') (hl : ∀ l, labels' l → labels l) :
    Agrees labels' scope scope' := by
  induction h generalizing labels' with
  | nil           => exact .nil
  | both _ ih     => exact .both (ih fun l h => h.imp_right (.imp_left (hl l)))
  | left hu _ ih  => exact .left (mt (hl _) hu) (ih hl)
  | right hu _ ih => exact .right (mt (hl _) hu) (ih hl)

-- One of the labels stands for the same in both scopes, or for nothing in both.
theorem resolve? (h : Agrees labels scope scope') (hl : labels label) :
    scope.resolve? label = none ∧ scope'.resolve? label = none ∨
      ∃ body around around', scope.resolve? label = some (body, around) ∧
        scope'.resolve? label = some (body, around') ∧ Agrees body.Free around around' := by
  induction h with
  | nil => exact .inl ⟨rfl, rfl⟩
  | @both labels l body _ _ others ih =>
    by_cases he : l = label
    case neg =>
      simp only [Scope.resolve?, if_neg he]
      exact ih ⟨Ne.symm he, .inl hl⟩
    case pos =>
      simp only [Scope.resolve?, if_pos he]
      refine .inr ⟨body, _, _, rfl, rfl, .both (others.mono ?_)⟩
      exact fun l h => h.imp_right fun h => .inr (or_self_iff.mp h)
  | @left _ l _ _ _ hu _ ih =>
    have he : l ≠ label := fun he => hu (he ▸ hl)
    simp only [Scope.resolve?, if_neg he]
    exact ih hl
  | @right _ l _ _ _ hu _ ih =>
    have he : l ≠ label := fun he => hu (he ▸ hl)
    simp only [Scope.resolve?, if_neg he]
    exact ih hl

end Scope.Agrees

namespace Parser

variable {depth : Nat} {scope scope' : Scope ν} {p : Parser ν} {s : State} {r : Reply (Value ν)}

-- A run depends on its scope only by the labels that the parser leaves free.
theorem RunsIn.of_agrees (h : RunsIn depth scope p s r) (ha : Scope.Agrees p.Free scope scope') :
    RunsIn depth scope' p s r := by
  induction h generalizing scope' with
  | literal   => exact .literal
  | predicate => exact .predicate
  | any       => exact .any
  | empty     => exact .empty
  | commit    => exact .commit
  | fail      => exact .fail
  | dangling  => exact .dangling
  | seqNil    => exact .seqNil
  | choiceNil => exact .choiceNil
  | seqStop _ hi => exact .seqStop (hi (ha.mono fun _ => .inl))
  | seqCons _ _ hi hi' =>
    exact .seqCons (hi (ha.mono fun _ => .inl)) (hi' (ha.mono fun _ => .inr))
  | choiceFit _ hi    => exact .choiceFit (hi (ha.mono fun _ => .inl))
  | choiceCut _ hc hi => exact .choiceCut (hi (ha.mono fun _ => .inl)) hc
  | choiceSkip _ hc _ hi hi' =>
    exact .choiceSkip (hi (ha.mono fun _ => .inl)) hc (hi' (ha.mono fun _ => .inr))
  | map _ hi    => exact .map (hi ha)
  | action _ hi => exact .action (hi ha)
  | fix _ hi =>
    exact .fix (hi (.both (ha.mono fun _ h => h.imp_right or_self_iff.mp)))
  | standIn hl _ hi =>
    obtain ⟨hn, -⟩ | ⟨body, _, around', he, he', ha⟩ := ha.resolve? rfl
    · cases hn.symm.trans hl
    · cases he.symm.trans hl
      exact .standIn he' (hi ha)
  | unbound hl =>
    obtain ⟨-, hn⟩ | ⟨_, _, _, he, -, -⟩ := ha.resolve? rfl
    · exact .unbound hn
    · cases he.symm.trans hl

theorem runs_congr_scope (ha : Scope.Agrees p.Free scope scope') :
    Runs scope p s r ↔ Runs scope' p s r where
  mp  := fun ⟨depth, h⟩ => ⟨depth, h.of_agrees ha⟩
  mpr := fun ⟨depth, h⟩ => ⟨depth, h.of_agrees ha.symm⟩

-- The label of a loop does not get in the way of the parser that is repeated.
theorem runs_loop_iff {body : Parser ν} :
    Runs ((.loop p.freeLevel, body) :: scope) p s r ↔ Runs scope p s r :=
  runs_congr_scope (.left (not_free_loop p) (.refl ..))

end Parser

end SelectLang
