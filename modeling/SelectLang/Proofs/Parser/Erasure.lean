import SelectLang.Proofs.Parser.Evaluation

namespace SelectLang

variable {ν : Type} {α β : Type}

namespace Parser

mutual

-- The parser that has nothing in the place of each commit.
def eraseCommits : Parser ν → Parser ν
  | literal text        => literal text
  | predicate name test => predicate name test
  | any                 => any
  | empty               => empty
  | commit              => empty
  | fail message        => fail message
  | seq ps              => seq (eraseAllCommits ps)
  | choice ps           => choice (eraseAllCommits ps)
  | map f p             => map f p.eraseCommits
  | action f p          => action f p.eraseCommits
  | fix l p             => fix l p.eraseCommits
  | standIn l           => standIn l
  | dangling            => dangling

def eraseAllCommits : List (Parser ν) → List (Parser ν)
  | []      => []
  | p :: ps => p.eraseCommits :: eraseAllCommits ps

end

mutual

theorem freeLevel_eraseCommits : (p : Parser ν) → p.eraseCommits.freeLevel = p.freeLevel
  | seq ps     => freeLevels_eraseAllCommits ps
  | choice ps  => freeLevels_eraseAllCommits ps
  | map _ p    => freeLevel_eraseCommits p
  | action _ p => freeLevel_eraseCommits p
  | fix l p    => congrArg (max l.above) (freeLevel_eraseCommits p)
  | literal _ | predicate .. | any | empty | commit | fail _ | standIn _ | dangling => rfl

theorem freeLevels_eraseAllCommits :
    (ps : List (Parser ν)) → freeLevels (eraseAllCommits ps) = freeLevels ps
  | []      => rfl
  | p :: ps => by
    simp only [eraseAllCommits, freeLevels]
    rw [freeLevel_eraseCommits p, freeLevels_eraseAllCommits ps]

end

-- What is built of parsers without commits is a parser without commits.
theorem eraseCommits_optional (p : Parser ν) : (optional p).eraseCommits = optional p.eraseCommits :=
  rfl

theorem eraseCommits_many (p : Parser ν) : (many p).eraseCommits = many p.eraseCommits := by
  simp [many, eraseCommits, eraseAllCommits, freeLevel_eraseCommits]

theorem eraseCommits_sepBy (item separator : Parser ν) :
    (sepBy item separator).eraseCommits = sepBy item.eraseCommits separator.eraseCommits := by
  simp [sepBy, eraseCommits, eraseAllCommits, eraseCommits_many]

end Parser

def Scope.eraseCommits (scope : Scope ν) : Scope ν :=
  List.map (fun (label, body) => (label, body.eraseCommits)) scope

theorem Scope.resolve?_eraseCommits (label : Label) (scope : Scope ν) :
    scope.eraseCommits.resolve? label =
      (scope.resolve? label).map fun (body, around) => (body.eraseCommits, around.eraseCommits) := by
  induction scope with
  | nil => rfl
  | cons entry scope ih =>
    simp only [eraseCommits, List.map_cons, resolve?]
    split
    case isTrue  => rfl
    case isFalse => exact ih

-- A reply whose failure no choice recovers from.
def Reply.isFatal (r : Reply α) : Bool :=
  match r.outcome with
  | .error e => e.fatal
  | .ok _    => false

namespace Reply

theorem isFatal_map (f : α → β) (r : Reply α) : (r.map f).isFatal = r.isFatal := by
  obtain ⟨o, _⟩ := r
  cases o <;> rfl

theorem isFatal_of_conclude {f : Action ν} {s : State} {r : Reply (Value ν)} (h : r.isFatal) :
    (s.conclude f r).isFatal := by
  have ⟨o, _⟩ := r
  cases o
  case error => exact h
  case ok    => contradiction

end Reply

namespace State

variable (s : State) (b : Bool)

theorem accept_withFlag (what : String) (test : Token → Bool) :
    { s with committed := b }.accept what test =
      (s.accept what test : Reply (Value ν)).withFlag b := by
  simp only [accept, current?, found]
  split <;> rfl

theorem conclude_withFlag (f : Action ν) (r : Reply (Value ν)) :
    { s with committed := b }.conclude f (r.withFlag b) = (s.conclude f r).withFlag b := by
  have ⟨o, _⟩ := r
  cases o with
  | error _ => rfl
  | ok v =>
    simp only [conclude, Reply.withFlag, span, remaining, current?]
    split <;> rfl

end State

namespace Parser

variable {depth : Nat} {scope : Scope ν} {p : Parser ν} {s : State} {r : Reply (Value ν)}

-- Without its commits a parser leaves the flag alone, and as long as no failure is fatal
-- it takes the same way: wherever the flag is looked at, it has been clear before, too.
theorem RunsIn.eraseCommits (h : RunsIn depth scope p s r) (hf : ¬r.isFatal) (b : Bool) :
    RunsIn depth scope.eraseCommits p.eraseCommits { s with committed := b } (r.withFlag b) := by
  induction h generalizing b with
  | literal      => exact State.accept_withFlag .. ▸ .literal
  | predicate    => exact State.accept_withFlag .. ▸ .predicate
  | any          => exact State.accept_withFlag .. ▸ .any
  | empty        => exact .empty
  | commit       => exact .empty
  | fail         => exact .fail
  | dangling     => exact .dangling
  | seqNil       => exact .seqNil
  | choiceNil    => exact .choiceNil
  | unbound hl   => exact .unbound (by simp [Scope.resolve?_eraseCommits, hl])
  | seqStop _ hi => exact .seqStop (hi hf b)
  | seqCons _ _ hi hi' =>
    rw [Reply.isFatal_map] at hf
    exact .seqCons (hi nofun b) (hi' hf b)
  | choiceFit _ hi =>
    -- The flag that the alternative leaves is overwritten, so it may as well be clear.
    change RunsIn _ _ _ _ (.withFlag b (.withFlag false _))
    exact .choiceFit (hi nofun false)
  | choiceCut => exact absurd rfl hf
  | choiceSkip _ hc _ hi hi' =>
    simp only [Bool.or_eq_false_iff] at hc
    have hi := hi (by simp [Reply.isFatal, hc.1]) false
    exact .choiceSkip hi (by simp [hc.1]) (hi' hf b)
  | map _ hi =>
    rw [Reply.isFatal_map] at hf
    exact .map (hi hf b)
  | action _ hi =>
    have hi := hi (mt Reply.isFatal_of_conclude hf) b
    exact State.conclude_withFlag .. ▸ .action hi
  | fix _ hi => exact .fix (hi hf b)
  | standIn hl _ hi => exact .standIn (by simp [Scope.resolve?_eraseCommits, hl]) (hi hf b)

-- A commit makes failures fatal, and that is all it does.
theorem runWithin_eraseCommits (h : runWithin depth scope p s = some r) (hf : ¬r.isFatal) :
    ∃ r', runWithin depth scope.eraseCommits p.eraseCommits s = some r' ∧
      r'.outcome = r.outcome ∧ r'.state.cursor = r.state.cursor :=
  have he := (runsIn_iff.mpr h).eraseCommits hf s.committed
  ⟨_, he.runWithin_eq, rfl, rfl⟩

-- An item that commits and is complete, and another one that is not there.
theorem runWithin_eraseCommits_many :
    let a : Token := ⟨.identifier, "a", .start⟩
    let b : Token := ⟨.identifier, "b", .start⟩
    let test (text : String) : Parser Unit := .predicate text (·.text == text)
    let p := Parser.seq [.many (.seq [test "a", .commit, test "b"]), test "a"]
    let s : State := ⟨[a, b, b], 0, false⟩
    let r : Reply (Value Unit) := ⟨.error ⟨.expected "a" (.ofToken b), false⟩, ⟨[a, b, b], 2, false⟩⟩
    runWithin 15 [] p s = some r ∧ ¬r.isFatal ∧
      ∃ r', runWithin 15 [] p.eraseCommits s = some r' ∧
        r'.outcome = r.outcome ∧ r'.state.cursor = r.state.cursor := by
  intro a b test p s r
  have h : runWithin 15 [] p s = some r := rfl
  have hf : ¬r.isFatal := nofun
  exact ⟨h, hf, runWithin_eraseCommits h hf⟩

end Parser

end SelectLang
