import SelectLang.Proofs.Parser.Repetition

namespace SelectLang

variable {ν : Type}

namespace Parser

-- A parser whose recursion and whose loops consume tokens, in the scope that it stands in. A
-- label waits from its fix parser on for the first part of a sequence that never succeeds
-- without a token, and its stand-in has no place before that. The labels that wait are given.
-- What is repeated never succeeds without a token, either.
inductive Guarded : Scope ν → List Label → Parser ν → Prop
  | literal {scope waiting text}        : Guarded scope waiting (literal text)
  | predicate {scope waiting name test} : Guarded scope waiting (predicate name test)
  | any {scope waiting}                 : Guarded scope waiting any
  | empty {scope waiting}               : Guarded scope waiting empty
  | commit {scope waiting}              : Guarded scope waiting commit
  | fail {scope waiting message}        : Guarded scope waiting (fail message)
  | dangling {scope waiting}            : Guarded scope waiting dangling
  | seqNil {scope waiting}              : Guarded scope waiting (seq [])
  | seqCons {scope waiting waiting' p ps} (first : Guarded scope waiting p)
    (others : Guarded scope waiting' (seq ps))
    (released : waiting' = waiting ∨ Consumes scope p) : Guarded scope waiting (seq (p :: ps))
  | choiceNil {scope waiting}           : Guarded scope waiting (choice [])
  | choiceCons {scope waiting p ps} (first : Guarded scope waiting p)
    (others : Guarded scope waiting (choice ps)) : Guarded scope waiting (choice (p :: ps))
  | map {scope waiting f p} (inner : Guarded scope waiting p) : Guarded scope waiting (map f p)
  | action {scope waiting f p} (inner : Guarded scope waiting p) :
    Guarded scope waiting (action f p)
  | fix {scope waiting label body}
    (inner : Guarded ((label, body) :: scope) (label :: waiting) body) :
    Guarded scope waiting (fix label body)
  | standIn {scope waiting label} (released : label ∉ waiting) :
    Guarded scope waiting (standIn label)
  | many {scope waiting p} (item : Guarded scope waiting p) (consumes : Consumes scope p) :
    Guarded scope waiting (many p)
  | sepBy {scope waiting waiting' p separator} (item : Guarded scope waiting p)
    (between : Guarded scope waiting' separator)
    (released : waiting' = waiting ∨ Consumes scope p)
    (consumes : Consumes scope (seq [separator, p])) : Guarded scope waiting (sepBy p separator)

-- What the labels of a scope stand for ends with less than so many tokens left, and with as
-- many if the label does not wait.
structure ScopeEnds (scope : Scope ν) (waiting : List Label) (n : Nat) : Prop where
  below : ∀ ⦃label body around⦄, scope.resolve? label = some (body, around) →
    ∀ ⦃m⦄, m < n → Ends around body m
  here  : ∀ ⦃label body around⦄, scope.resolve? label = some (body, around) →
    label ∉ waiting → Ends around body n

namespace ScopeEnds

variable {scope : Scope ν} {waiting waiting' : List Label} {m n : Nat}

theorem mono (h : ScopeEnds scope waiting n) (hm : m ≤ n) : ScopeEnds scope waiting m where
  below := fun _ _ _ hl _ hk => h.below hl (hk.trans_le hm)
  here  := fun _ _ _ hl hw => (h.here hl hw).mono hm

-- Behind a token no label waits any more.
theorem release (h : ScopeEnds scope waiting n) (hm : m < n) : ScopeEnds scope waiting' m where
  below := fun _ _ _ hl _ hk => h.below hl (hk.trans hm)
  here  := fun _ _ _ hl _ => h.below hl hm

theorem bind {label : Label} {body : Parser ν} (h : ScopeEnds scope waiting n)
    (hb : ∀ m < n, Ends ((label, body) :: scope) body m) :
    ScopeEnds ((label, body) :: scope) (label :: waiting) n where
  below := by
    intro l body' around hl m hm
    simp only [Scope.resolve?] at hl
    split at hl
    case isTrue =>
      cases hl
      exact hb m hm
    case isFalse => exact h.below hl hm
  here := by
    intro l body' around hl hw
    simp only [Scope.resolve?, if_neg (List.ne_of_not_mem_cons hw).symm] at hl
    exact h.here hl (List.not_mem_of_not_mem_cons hw)

end ScopeEnds

variable {scope : Scope ν} {waiting : List Label} {p : Parser ν} {ps : List (Parser ν)} {n : Nat}

namespace Guarded

theorem seq (h : ∀ p ∈ ps, Guarded scope waiting p) : Guarded scope waiting (seq ps) := by
  induction ps with
  | nil => exact .seqNil
  | cons p ps ih =>
    rw [List.forall_mem_cons] at h
    exact .seqCons h.1 (ih h.2) (.inl rfl)

-- Behind a part that consumes a token, no label waits.
theorem seq_behind (hp : Guarded scope waiting p) (hc : Consumes scope p)
    (h : ∀ p ∈ ps, Guarded scope [] p) : Guarded scope waiting (Parser.seq (p :: ps)) :=
  .seqCons hp (.seq h) (.inr hc)

theorem choice (h : ∀ p ∈ ps, Guarded scope waiting p) : Guarded scope waiting (choice ps) := by
  induction ps with
  | nil => exact .choiceNil
  | cons p ps ih =>
    rw [List.forall_mem_cons] at h
    exact .choiceCons h.1 (ih h.2)

theorem optional (h : Guarded scope waiting p) : Guarded scope waiting (optional p) :=
  .choiceCons h (.choiceCons .empty .choiceNil)

end Guarded

theorem Ends.choice_cons (hp : Ends scope p n) (hps : Ends scope (choice ps) n) :
    Ends scope (choice (p :: ps)) n := by
  intro s hs
  obtain ⟨⟨o, s'⟩, h⟩ := hp (s := { s with committed := false }) hs
  cases o with
  | ok v => exact ⟨_, Runs.choice_cons_iff.mpr (.inl ⟨v, s', h, rfl⟩)⟩
  | error e =>
    cases hc : e.fatal || s'.committed with
    | true => exact ⟨_, Runs.choice_cons_iff.mpr (.inr ⟨e, s', h, .inl ⟨hc, rfl⟩⟩)⟩
    | false =>
      have ⟨r, h'⟩ := hps hs
      exact ⟨r, Runs.choice_cons_iff.mpr (.inr ⟨e, s', h, .inr ⟨hc, h'⟩⟩)⟩

-- By induction on the parser. A fix parser needs one more induction within it, on the tokens
-- that are left: its stand-in is only run with less of them.
theorem Guarded.ends (h : Guarded scope waiting p) (hs : ScopeEnds scope waiting n) :
    Ends scope p n := by
  induction h generalizing n with
  | literal   => exact fun _ _ => ⟨_, Runs.literal_iff.mpr rfl⟩
  | predicate => exact fun _ _ => ⟨_, Runs.predicate_iff.mpr rfl⟩
  | any       => exact fun _ _ => ⟨_, Runs.any_iff.mpr rfl⟩
  | empty     => exact fun _ _ => ⟨_, Runs.empty_iff.mpr rfl⟩
  | commit    => exact fun _ _ => ⟨_, Runs.commit_iff.mpr rfl⟩
  | fail      => exact fun _ _ => ⟨_, 1, .fail⟩
  | dangling  => exact fun _ _ => ⟨_, 1, .dangling⟩
  | seqNil    => exact fun _ _ => ⟨_, Runs.seq_nil_iff.mpr rfl⟩
  | choiceNil => exact fun _ _ => ⟨_, Runs.choice_nil_iff.mpr rfl⟩
  | seqCons _ _ released ih ih' =>
    refine .seq_cons (ih hs) fun s v s' hn hp => ?_
    obtain rfl | hc := released
    · exact ih' hs (hp.length_remaining_le.trans hn)
    · exact ih' (hs.release ((hc.length_remaining_lt hp).trans_le hn)) (Nat.le_refl _)
  | choiceCons _ _ ih ih' => exact .choice_cons (ih hs) (ih' hs)
  | map _ ih =>
    intro s hn
    have ⟨r, h⟩ := ih hs hn
    exact ⟨_, Runs.map_iff.mpr ⟨r, h, rfl⟩⟩
  | action _ ih =>
    intro s hn
    have ⟨r, h⟩ := ih hs hn
    exact ⟨_, Runs.action_iff.mpr ⟨r, h, rfl⟩⟩
  | @fix scope _ label body _ ih =>
    have hb : Ends ((label, body) :: scope) body n := by
      induction n using Nat.strongRecOn with
      | ind n ih' => exact ih (hs.bind fun m hm => ih' m hm (hs.mono hm.le))
    intro s hn
    have ⟨r, h⟩ := hb hn
    exact ⟨r, Runs.fix_iff.mpr h⟩
  | @standIn scope _ label released =>
    cases hl : scope.resolve? label with
    | none => exact fun _ _ => ⟨_, 1, .unbound hl⟩
    | some target =>
      intro s hn
      have ⟨r, h⟩ := hs.here hl released hn
      exact ⟨r, (Runs.standIn_iff hl).mpr h⟩
  | many _ consumes ih => exact .many consumes (ih hs)
  | sepBy _ _ released consumes ih ih' =>
    intro s hn
    refine exists_runs_sepBy consumes (ih hs) hn fun v s' hp => ?_
    obtain rfl | hc := released
    · exact (ih' hs).mono (hp.length_remaining_le.trans hn)
    · exact ih' (hs.release ((hc.length_remaining_lt hp).trans_le hn))

-- Nothing stands around a whole parser, and so none of its stand-ins is out of reach.
theorem exists_run_of_guarded (h : Guarded [] [] p) :
    (∀ s, ∃ r, p.run s = some r) ∧ ∀ ts, ∃ r, p.parse ts = some r := by
  have hr (s) : ∃ r, p.run s = some r := by
    have hs : ScopeEnds ([] : Scope ν) [] s.remaining.length := ⟨nofun, nofun⟩
    have ⟨r, h⟩ := h.ends hs (Nat.le_refl _)
    exact ⟨r, run_eq_some_iff.mpr h⟩
  refine ⟨hr, fun ts => ?_⟩
  obtain ⟨⟨o, s⟩, h⟩ := hr (.start ts)
  cases o <;> exact ⟨_, by rw [parse, h]; rfl⟩

example : (many empty : Parser Unit).run (.start []) = none := rfl

namespace Brackets

-- Round brackets around a row, square ones around a list, and letters. The square ones are a
-- parser within the parser, and make use of both. The letters take the outer name for themselves.
def outer : Label := .named "outer"

def inner : Label := .named "inner"

def row : Parser Unit :=
  seq [literal "(", commit, many (standIn outer), literal ")"]

def list : Parser Unit :=
  seq [literal "[", sepBy (choice [standIn inner, standIn outer]) (literal ","), literal "]"]

def letters : Parser Unit :=
  seq [literal "a", optional (standIn outer)]

def expression : Parser Unit :=
  choice [row, fix inner list, fix outer letters]

variable {scope : Scope Unit}

theorem consumes_expression : Consumes scope expression :=
  .choice_cons ((Consumes.literal ..).head _) <|
    .choice_cons (.fix ((Consumes.literal ..).head _)) <|
    .choice_cons (.fix ((Consumes.literal ..).head _)) (.choice_nil scope)

theorem guarded_row : Guarded ((outer, expression) :: scope) [outer] row := by
  have hc : Consumes ((outer, expression) :: scope) (standIn outer) :=
    .standIn (if_pos rfl) consumes_expression
  refine .seq_behind .literal (.literal ..) ?_
  simpa using ⟨.commit, .many (.standIn nofun) hc, .literal⟩

theorem guarded_list : Guarded ((inner, list) :: scope) [inner, outer] list := by
  refine .seq_behind .literal (.literal ..) ?_
  have hc : Guarded ((inner, list) :: scope) [] (Parser.choice [standIn inner, standIn outer]) :=
    .choice (by simpa using ⟨.standIn nofun, .standIn nofun⟩)
  simpa using ⟨.sepBy hc .literal (.inl rfl) ((Consumes.literal ..).head _), .literal⟩

theorem guarded_letters : Guarded ((outer, letters) :: scope) [outer, outer] letters := by
  refine .seq_behind .literal (.literal ..) ?_
  simpa using Guarded.optional (.standIn List.not_mem_nil)

theorem guarded : Guarded [] [] (fix outer expression) := by
  refine .fix (.choice ?_)
  simpa using ⟨guarded_row, .fix guarded_list, .fix guarded_letters⟩

end Brackets

theorem exists_run_of_guarded_brackets : Guarded [] [] (fix Brackets.outer Brackets.expression) ∧
    ((∀ s, ∃ r, (fix Brackets.outer Brackets.expression).run s = some r) ∧
      ∀ ts, ∃ r, (fix Brackets.outer Brackets.expression).parse ts = some r) :=
  ⟨Brackets.guarded, exists_run_of_guarded Brackets.guarded⟩

end Parser

end SelectLang
