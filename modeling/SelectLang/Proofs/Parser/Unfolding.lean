import SelectLang.Proofs.Parser.Depth
import SelectLang.Proofs.Parser.Scoping
import SelectLang.Proofs.Parser.Termination
import Mathlib.Logic.Function.Basic

namespace SelectLang

variable {ν : Type}

-- The parsers that come in place of stand-ins, for the labels that are replaced.
abbrev Replacement (ν : Type) := Label → Option (Parser ν)

namespace Replacement

def only (label : Label) (p : Parser ν) : Replacement ν :=
  Function.update (fun _ => none) label (some p)

def hide (f : Replacement ν) (label : Label) : Replacement ν :=
  Function.update f label none

end Replacement

namespace Parser

mutual

-- Replaces the stand-ins that are free in a parser. Those that stand for a fix parser inside of
-- it are not free, whatever their label means further out.
def replace : Parser ν → Replacement ν → Parser ν
  | seq ps,     f => seq (replaceAll ps f)
  | choice ps,  f => choice (replaceAll ps f)
  | map g p,    f => map g (p.replace f)
  | action g p, f => action g (p.replace f)
  | fix l p,    f => fix l (p.replace (f.hide l))
  | standIn l,  f => (f l).getD (standIn l)
  | p,          _ => p

def replaceAll : List (Parser ν) → Replacement ν → List (Parser ν)
  | [],      _ => []
  | p :: ps, f => p.replace f :: replaceAll ps f

end

-- No stand-in in the parser stands for anything outside of it.
def Closed (p : Parser ν) : Prop :=
  ∀ label, ¬p.Free label

-- Runs of the one parser in the one scope and of the other one in the other are the same, as
-- long as they go no deeper than so many parsers. If one is cut off, then so is the other.
def Matches (depth : Nat) (scope scope' : Scope ν) (p p' : Parser ν) : Prop :=
  ∀ s, runWithin depth scope p s = runWithin depth scope' p' s

theorem forall₂_replaceAll {R : Parser ν → Parser ν → Prop} {f : Replacement ν}
    (h : ∀ p, R p (p.replace f)) (ps : List (Parser ν)) : List.Forall₂ R ps (replaceAll ps f) := by
  induction ps with
  | nil          => exact .nil
  | cons p ps ih => exact .cons (h p) ih

section

variable {run run' : Runner ν} {ps ps' : List (Parser ν)}

theorem inOrder_congr (h : List.Forall₂ (fun p p' => ∀ s, run p s = run' p' s) ps ps') (s : State) :
    inOrder run ps s = inOrder run' ps' s := by
  induction h generalizing s with
  | nil         => rfl
  | cons h _ ih => simp only [inOrder, h, ih]

theorem firstOf_congr (h : List.Forall₂ (fun p p' => ∀ s, run p s = run' p' s) ps ps') (s : State) :
    firstOf run s ps = firstOf run' s ps' := by
  induction h with
  | nil         => rfl
  | cons h _ ih => simp only [firstOf, h, ih]

end

namespace Matches

variable {depth : Nat} {scope scope' around around' : Scope ν} {p p' : Parser ν} {l l' : Label}
variable {ps ps' : List (Parser ν)}

theorem of_agrees (ha : Scope.Agrees p.Free scope scope') : Matches depth scope scope' p p := by
  intro s
  apply Option.ext
  intro r
  rw [← runsIn_iff, ← runsIn_iff]
  exact ⟨(·.of_agrees ha), (·.of_agrees ha.symm)⟩

-- No run goes down to a depth of zero, and a deeper one enters what is one parser less deep.
theorem of_lt (h : ∀ d < depth, ∀ s, runWithin (d + 1) scope p s = runWithin (d + 1) scope' p' s) :
    Matches depth scope scope' p p' := by
  intro s
  cases depth with
  | zero       => rfl
  | succ depth => exact h depth depth.lt_succ_self s

theorem seq (h : ∀ d < depth, List.Forall₂ (Matches d scope scope') ps ps') :
    Matches depth scope scope' (seq ps) (seq ps') := by
  apply of_lt
  intro d hd s
  simp only [runWithin, inOrder_congr (h d hd)]

theorem choice (h : ∀ d < depth, List.Forall₂ (Matches d scope scope') ps ps') :
    Matches depth scope scope' (choice ps) (choice ps') := by
  apply of_lt
  intro d hd s
  simp only [runWithin, firstOf_congr (h d hd)]

theorem map {f : Value ν → Value ν} (h : ∀ d < depth, Matches d scope scope' p p') :
    Matches depth scope scope' (map f p) (map f p') := by
  apply of_lt
  intro d hd s
  simp only [runWithin, h d hd s]

theorem action {f : Action ν} (h : ∀ d < depth, Matches d scope scope' p p') :
    Matches depth scope scope' (action f p) (action f p') := by
  apply of_lt
  intro d hd s
  simp only [runWithin, h d hd s]

theorem fix (h : ∀ d < depth, Matches d ((l, p) :: scope) ((l', p') :: scope') p p') :
    Matches depth scope scope' (fix l p) (fix l' p') := by
  apply of_lt
  intro d hd s
  exact h d hd s

theorem standIn (hl : scope.resolve? l = some (p, around))
    (hl' : scope'.resolve? l' = some (p', around'))
    (h : ∀ d < depth, Matches d around around' p p') :
    Matches depth scope scope' (standIn l) (standIn l') := by
  apply of_lt
  intro d hd s
  simp only [runWithin, hl, hl', h d hd s]

-- A stand-in and the fix parser that it stands for enter the same body.
theorem standIn_fix (hl : scope.resolve? l = some (p, around))
    (h : ∀ d < depth, Matches d around ((l', p) :: scope') p p) :
    Matches depth scope scope' (Parser.standIn l) (Parser.fix l' p) := by
  apply of_lt
  intro d hd s
  simp only [runWithin, hl, h d hd s]

theorem standIn_of_eq (hl : scope.resolve? l = scope'.resolve? l') :
    Matches depth scope scope' (Parser.standIn l) (Parser.standIn l') := by
  apply of_lt
  intro d hd s
  simp only [runWithin, hl]

end Matches

end Parser

namespace Scope

-- Scopes of a parser before and after stand-ins have been replaced in it. Either the fix parser
-- that a label stands for is left, and comes in place of the label, or a fix parser inside of
-- that one is entered, which has the stand-ins replaced in its body as well.
inductive Replaced : Replacement ν → Scope ν → Scope ν → Prop
  | left {label body scope} (closed : (Parser.fix label body).Closed) :
    Replaced (.only label (.fix label body)) ((label, body) :: scope) scope
  | entered {f label body scope scope'} (others : Replaced f scope scope') :
    Replaced (f.hide label) ((label, body) :: scope)
      ((label, body.replace (f.hide label)) :: scope')

theorem Agrees.of_forall_not {labels : Label → Prop} (h : ∀ l, ¬labels l) :
    (scope scope' : Scope ν) → Agrees labels scope scope'
  | [],         []         => .nil
  | [],         _ :: scope => .right (h _) (of_forall_not h [] scope)
  | _ :: scope, scope'     => .left (h _) (of_forall_not h scope scope')

namespace Replaced

variable {f : Replacement ν} {scope scope' : Scope ν} {l : Label} {q : Parser ν}

-- What comes in place of a label is the closed fix parser that the label stands for.
theorem exists_fix (h : Replaced f scope scope') (hl : f l = some q) :
    ∃ label body around, q = .fix label body ∧ q.Closed ∧
      scope.resolve? l = some (body, (label, body) :: around) := by
  induction h with
  | @left label body scope closed =>
    by_cases he : l = label
    case pos =>
      subst he
      rw [Replacement.only, Function.update_self] at hl
      cases hl
      exact ⟨l, body, scope, rfl, closed, if_pos rfl⟩
    case neg =>
      rw [Replacement.only, Function.update_of_ne he] at hl
      contradiction
  | @entered f label body _ _ _ ih =>
    by_cases he : l = label
    case pos =>
      rw [he, Replacement.hide, Function.update_self] at hl
      contradiction
    case neg =>
      rw [Replacement.hide, Function.update_of_ne he] at hl
      have ⟨label', body', around, hq, hc, hr⟩ := ih hl
      refine ⟨label', body', around, hq, hc, ?_⟩
      rw [resolve?, if_neg (Ne.symm he), hr]

-- A label that is kept stands for the same in both scopes, apart from the stand-ins in there.
theorem resolve? (h : Replaced f scope scope') (hl : f l = none) :
    scope.resolve? l = scope'.resolve? l ∨
      ∃ f' body around around', scope.resolve? l = some (body, around) ∧
        scope'.resolve? l = some (body.replace f', around') ∧ Replaced f' around around' := by
  induction h with
  | @left label body scope closed =>
    by_cases he : label = l
    case pos => simp [Replacement.only, he] at hl
    case neg => exact .inl (if_neg he)
  | @entered f label body scope scope' others ih =>
    by_cases he : label = l
    case pos => exact .inr ⟨_, body, _, _, if_pos he, if_pos he, .entered others⟩
    case neg =>
      rw [Replacement.hide, Function.update_of_ne (Ne.symm he)] at hl
      rw [Scope.resolve?, Scope.resolve?, if_neg he, if_neg he]
      exact ih hl

end Replaced

end Scope

namespace Parser

variable {depth : Nat} {scope scope' : Scope ν} {p q : Parser ν} {f f' : Replacement ν}
variable {label : Label} {body : Parser ν} {s : State}

theorem Closed.matches_body (h : (fix label body).Closed) (scope scope' : Scope ν) :
    Matches depth ((label, body) :: scope) ((label, body) :: scope') body body := by
  apply Matches.of_agrees
  apply Scope.Agrees.both
  apply Scope.Agrees.of_forall_not
  intro l hl
  exact h l (hl.imp_right or_self_iff.mp)

-- To replace stand-ins by what they stand for changes no run. The depth is that of the run and not
-- of the parser, so that a stand-in may be replaced by a parser that has it inside of itself.
theorem Matches.replace (h : Scope.Replaced f scope scope') (p : Parser ν) :
    Matches depth scope scope' p (p.replace f) := by
  induction depth using Nat.strongRecOn generalizing f scope scope' p with
  | ind depth ih =>
    cases p with
    | seq ps     => exact .seq fun d hd => forall₂_replaceAll (ih d hd h) ps
    | choice ps  => exact .choice fun d hd => forall₂_replaceAll (ih d hd h) ps
    | map _ p    => exact .map fun d hd => ih d hd h p
    | action _ p => exact .action fun d hd => ih d hd h p
    | fix _ p    => exact .fix fun d hd => ih d hd (.entered h) p
    | standIn l =>
      rw [Parser.replace]
      cases hf : f l with
      | some q =>
        obtain ⟨label, body, around, rfl, hc, hl⟩ := h.exists_fix hf
        exact .standIn_fix hl fun _ _ => hc.matches_body around scope'
      | none =>
        cases h.resolve? hf with
        | inl he => exact .standIn_of_eq he
        | inr he =>
          have ⟨f', body, around, around', hl, hl', h'⟩ := he
          exact .standIn hl hl' fun d hd => ih d hd h' body
    | _ => exact .of_lt fun _ _ _ => rfl

-- A closed fix parser, and its body with the fix parser itself in place of the stand-ins, go
-- equally deep apart from the fix parser that is entered first.
theorem Closed.runWithin_fix (h : (fix label body).Closed) (depth : Nat) (scope : Scope ν)
    (s : State) :
    runWithin (depth + 1) scope (fix label body) s =
      runWithin depth scope (body.replace (.only label (fix label body))) s :=
  Matches.replace (.left h) body s

theorem Closed.runs_fix_iff (h : (fix label body).Closed) {r : Reply (Value ν)} :
    Runs scope (fix label body) s r ↔
      Runs scope (body.replace (.only label (fix label body))) s r := by
  constructor
  case mp =>
    intro ⟨depth, hr⟩
    cases hr with
    | fix hr =>
      have hr := RunsIn.fix hr
      rw [runsIn_iff, h.runWithin_fix, ← runsIn_iff] at hr
      exact ⟨_, hr⟩
  case mpr =>
    intro ⟨depth, hr⟩
    rw [runsIn_iff, ← h.runWithin_fix, ← runsIn_iff] at hr
    exact ⟨_, hr⟩

-- One round of a loop that has the label.
def round (label : Label) (p : Parser ν) : Parser ν :=
  choice [map Value.joined (seq [p, standIn label]), map (fun _ => .list []) empty]

theorem Matches.fix_round {l l' : Label} {p p' : Parser ν}
    (h : ∀ d, Matches d ((l, round l p) :: scope) ((l', round l' p') :: scope') p p') :
    Matches depth scope scope' (Parser.fix l (round l p)) (Parser.fix l' (round l' p')) := by
  have hr (d : Nat) : Matches d ((l, round l p) :: scope) ((l', round l' p') :: scope')
      (round l p) (round l' p') := by
    induction d using Nat.strongRecOn with
    | ind d ih =>
      refine .choice fun d hd => .cons (.map fun d hd' => .seq fun d hd'' => ?_) (.cons ?_ .nil)
      · have hs (e : Nat) (he : e < d) := ih e (by omega)
        exact .cons (h d) (.cons (.standIn (if_pos rfl) (if_pos rfl) hs) .nil)
      · exact .map fun d _ => .of_agrees (.of_forall_not (fun _ => not_false) ..)
  exact .fix fun d _ => hr d

section

variable {l : Label}

mutual

theorem replace_congr {f f' : Replacement ν} :
    (p : Parser ν) → (∀ l, p.Free l → f l = f' l) → p.replace f = p.replace f'
  | seq ps, h      => congrArg seq (replaceAll_congr ps h)
  | choice ps, h   => congrArg choice (replaceAll_congr ps h)
  | map g p, h     => congrArg (map g) (replace_congr p h)
  | action g p, h  => congrArg (action g) (replace_congr p h)
  | standIn l, h   => congrArg (Option.getD · (standIn l)) (h l rfl)
  | fix label p, h => by
    apply congrArg (fix label)
    apply replace_congr p
    intro l hl
    by_cases he : l = label
    case pos => simp [Replacement.hide, he]
    case neg => simp [Replacement.hide, he, h l ⟨he, hl⟩]
  | literal _, _ | predicate .., _ | any, _ | empty, _ | commit, _ | fail _, _ | dangling, _ => rfl

theorem replaceAll_congr {f f' : Replacement ν} :
    (ps : List (Parser ν)) → (∀ l, FreeInSome ps l → f l = f' l) →
      replaceAll ps f = replaceAll ps f'
  | [], _      => rfl
  | p :: ps, h =>
    congrArg₂ List.cons (replace_congr p fun l hl => h l (.inl hl))
      (replaceAll_congr ps fun l hl => h l (.inr hl))

end

mutual

-- Closed parsers bring in no labels.
theorem free_of_replace {f : Replacement ν} (hf : ∀ l q, f l = some q → q.Closed) :
    (p : Parser ν) → (p.replace f).Free l → p.Free l
  | seq ps, h     => freeInSome_of_replaceAll hf ps h
  | choice ps, h  => freeInSome_of_replaceAll hf ps h
  | map _ p, h    => free_of_replace hf p h
  | action _ p, h => free_of_replace hf p h
  | fix label p, h => by
    refine ⟨h.1, free_of_replace (fun l q hl => ?_) p h.2⟩
    by_cases he : l = label
    case pos => simp [Replacement.hide, he] at hl
    case neg => exact hf l q (by simpa [Replacement.hide, he] using hl)
  | standIn l', h => by
    rw [replace] at h
    cases hl : f l' with
    | none   => simpa [hl] using h
    | some q => exact absurd (by simpa [hl] using h) (hf l' q hl l)

theorem freeInSome_of_replaceAll {f : Replacement ν} (hf : ∀ l q, f l = some q → q.Closed) :
    (ps : List (Parser ν)) → FreeInSome (replaceAll ps f) l → FreeInSome ps l
  | p :: _, .inl h  => .inl (free_of_replace hf p h)
  | _ :: ps, .inr h => .inr (freeInSome_of_replaceAll hf ps h)

end

end

theorem closed_of_only {l : Label} (h : p.Closed) (hl : Replacement.only label p l = some q) :
    q.Closed := by
  by_cases he : l = label
  case pos =>
    rw [he, Replacement.only, Function.update_self] at hl
    exact Option.some.inj hl ▸ h
  case neg =>
    rw [Replacement.only, Function.update_of_ne he] at hl
    contradiction

-- The label of a loop is none that is replaced in the parser that the loop repeats.
theorem replace_many (p : Parser ν) (f : Replacement ν) :
    (many p).replace f = fix (.loop p.freeLevel) (round (.loop p.freeLevel) (p.replace f)) := by
  have hp : p.replace (f.hide (.loop p.freeLevel)) = p.replace f := by
    apply replace_congr
    intro l hl
    apply Function.update_of_ne
    intro he
    exact not_free_loop p (he ▸ hl)
  have hl : f.hide (.loop p.freeLevel) (.loop p.freeLevel) = none := Function.update_self ..
  simp only [many, round, replace, replaceAll, hp, hl, Option.getD_none]

theorem Matches.replace_many (hf : ∀ l q, f l = some q → q.Closed) :
    Matches depth scope scope ((many p).replace f) (many (p.replace f)) := by
  rw [Parser.replace_many]
  refine .fix_round fun _ => .of_agrees (.left ?_ (.right (not_free_loop _) (.refl ..)))
  exact mt (free_of_replace hf p) (not_free_loop p)

theorem Matches.replace_sepBy (hf : ∀ l q, f l = some q → q.Closed) :
    Matches depth scope scope ((sepBy p q).replace f) (sepBy (p.replace f) (q.replace f)) := by
  refine .map fun _ _ => .seq fun _ _ => .cons (.of_agrees (.refl ..)) (.cons ?_ .nil)
  exact .replace_many hf

-- A stand-in that has no fix parser around, or whose fix parser is gone.
def Stray (scope : Scope ν) : Parser ν → Prop
  | standIn l => scope.resolve? l = none
  | dangling  => True
  | _         => False

theorem Stray.runWithin_eq (h : Stray scope p) (depth : Nat) (s : State) :
    runWithin (depth + 1) scope p s = some s.noAlternative := by
  cases p with
  | standIn l =>
    have hl : scope.resolve? l = none := h
    rw [runWithin, hl]
  | dangling => rfl
  | _        => contradiction

-- A closed fix parser does what its body does with the fix parser itself in place of the stand-ins,
-- and goes one parser deeper. That the stand-ins are replaced makes no difference to how loops
-- and lists are built. Stand-ins without a fix parser fail where they are.
theorem run_fix (h : (fix label body).Closed) :
    let f : Replacement ν := .only label (fix label body)
    (∀ depth scope s, runWithin (depth + 1) scope (fix label body) s =
      runWithin depth scope (body.replace f) s) ∧
    (∀ scope s r, Runs scope (fix label body) s r ↔ Runs scope (body.replace f) s r) ∧
    (∀ s, (fix label body).run s = (body.replace f).run s) ∧
    (∀ depth scope p s,
      runWithin depth scope ((many p).replace f) s = runWithin depth scope (many (p.replace f)) s) ∧
    (∀ depth scope p q s, runWithin depth scope ((sepBy p q).replace f) s =
      runWithin depth scope (sepBy (p.replace f) (q.replace f)) s) ∧
    ∀ depth scope (stray : Parser ν) s, Stray scope stray →
      runWithin (depth + 1) scope stray s = some ⟨.error ⟨.noAlternative s.found, false⟩, s⟩ := by
  intro f
  have hf (l q) : f l = some q → q.Closed := closed_of_only h
  refine ⟨h.runWithin_fix, fun _ _ _ => h.runs_fix_iff, fun s => ?_,
    fun _ _ _ => Matches.replace_many hf, fun _ _ _ _ => Matches.replace_sepBy hf,
    fun depth _ _ s hs => hs.runWithin_eq depth s⟩
  apply Option.ext
  intro r
  rw [run_eq_some_iff, run_eq_some_iff, h.runs_fix_iff]

theorem closed_brackets : (fix Brackets.outer Brackets.expression).Closed := by
  intro l hl
  simp [Brackets.expression, Brackets.row, Brackets.list, Brackets.letters, Brackets.outer,
    Brackets.inner, many, sepBy, optional, freeLevel, freeLevels, Free, FreeInSome] at hl
  tauto

theorem run_fix_brackets :
    let brackets : Parser Unit := fix Brackets.outer Brackets.expression
    let unfolded := Brackets.expression.replace (.only Brackets.outer brackets)
    brackets.Closed ∧ ∀ s, brackets.run s = unfolded.run s :=
  ⟨closed_brackets, (run_fix closed_brackets).2.2.1⟩

end Parser

end SelectLang
