import SelectLang.Proofs.Parser.Bounds
import SelectLang.Proofs.Parser.Scoping

namespace SelectLang

namespace Parser

variable {ν : Type} {scope scope' : Scope ν} {p : Parser ν} {ps : List (Parser ν)} {s s' : State}
variable {v : Value ν} {r : Reply (Value ν)} {label : Label}

-- In this scope the parser never succeeds without a token.
def Consumes (scope : Scope ν) (p : Parser ν) : Prop :=
  ∀ ⦃s v s'⦄, Runs scope p s ⟨.ok v, s'⟩ → s.cursor < s'.cursor

theorem Runs.cursor_le (h : Runs scope p s r) : s.cursor ≤ r.state.cursor := by
  obtain ⟨_, -, -, k, c, hr, -⟩ := h.exists_alike rfl
  exact hr ▸ Nat.le_add_right ..

theorem Runs.length_remaining_le (h : Runs scope p s r) :
    r.state.remaining.length ≤ s.remaining.length := by
  have ⟨_, h⟩ := h
  exact h.remaining_suffix.length_le

namespace Consumes

-- What is consumed is among the tokens that are left.
theorem length_remaining_lt (hp : Consumes scope p) (h : Runs scope p s ⟨.ok v, s'⟩) :
    s'.remaining.length < s.remaining.length := by
  obtain ⟨⟨_, t⟩, h', ho, k, c, rfl, rfl⟩ := h.exists_alike (State.remaining_start _).symm
  cases ho
  have hk : 0 < 0 + k := hp h'
  have ⟨_, h'⟩ := h'
  have hl : 0 + k ≤ s.remaining.length := (h'.bounded (Nat.zero_le _)).le_length
  rw [State.remaining_after, List.length_drop]
  omega

theorem literal (scope : Scope ν) (text : String) : Consumes scope (literal text) := by
  intro s v s' h
  have ⟨_, _, _, _, _, hs⟩ := State.ok_eq_accept_iff.mp (Runs.literal_iff.mp h)
  exact hs ▸ Nat.lt_succ_self _

theorem head (hp : Consumes scope p) (ps : List (Parser ν)) : Consumes scope (seq (p :: ps)) := by
  intro s v s' h
  obtain ⟨_, _, -, hr⟩ | ⟨w, t, ⟨o, t'⟩, h₁, h₂, hr⟩ := Runs.seq_cons_iff.mp h
  · cases hr
  · cases o <;> cases hr
    exact (hp h₁).trans_le h₂.cursor_le

-- Every alternative has to consume a token.
theorem choice_nil (scope : Scope ν) : Consumes scope (choice []) := by
  intro s v s' h
  cases Runs.choice_nil_iff.mp h

theorem choice_cons (hp : Consumes scope p) (hps : Consumes scope (choice ps)) :
    Consumes scope (choice (p :: ps)) := by
  intro s v s' h
  obtain ⟨_, _, h', hr⟩ | ⟨_, _, _, ⟨-, hr⟩ | ⟨-, h'⟩⟩ := Runs.choice_cons_iff.mp h
  · cases hr
    exact (hp h' :)
  · cases hr
  · exact hps h'

theorem map (hp : Consumes scope p) (f : Value ν → Value ν) : Consumes scope (map f p) := by
  intro s v s' h
  have ⟨⟨o, _⟩, h', hr⟩ := Runs.map_iff.mp h
  cases o <;> cases hr
  exact hp h'

theorem fix (hp : Consumes ((label, p) :: scope) p) : Consumes scope (fix label p) :=
  fun _ _ _ h => hp (Runs.fix_iff.mp h)

theorem standIn (hl : scope.resolve? label = some (p, scope')) (hp : Consumes scope' p) :
    Consumes scope (standIn label) :=
  fun _ _ _ h => hp ((Runs.standIn_iff hl).mp h)

end Consumes

end Parser

end SelectLang
