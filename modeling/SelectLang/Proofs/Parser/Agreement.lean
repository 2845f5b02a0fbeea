import Mathlib.Data.List.Forall2
import SelectLang.Proofs.Parser.Bounds
import SelectLang.Proofs.Parser.Fatality

namespace SelectLang

variable {ν : Type} {α β : Type}

-- An error, but for what it has found.
inductive Complaint
  | expected (what : String)
  | noAlternative
  | domain (message : String)
  | trailing
  deriving DecidableEq, Repr

def Complaint.about (found : Found) : Complaint → ParseError
  | expected what  => .expected what found
  | noAlternative  => .noAlternative found
  | domain message => .domain message found
  | trailing       => .trailing found

-- The same complaint about the same place of two token lists.
def ParseError.Agrees (ts us : List Token) (e e' : ParseError) : Prop :=
  ∃ (c : Complaint) (k : Nat), k ≤ ts.length ∧
    e = c.about (.ofToken? ts[k]?) ∧ e' = c.about (.ofToken? us[k]?)

-- The same answer for two token lists: one result, or the same complaint in the same words.
inductive Parser.SameAnswer (ts us : List Token) :
    Except ParseError α → Except ParseError α → Prop
  | ok (a : α) : SameAnswer ts us (.ok a) (.ok a)
  | error {e e'} (place : ParseError.Agrees ts us e e') (words : e.message = e'.message) :
    SameAnswer ts us (.error e) (.error e')

section

variable (R : Token → Token → Prop)

-- The same place in two parses of related tokens.
structure State.Agrees (s u : State) : Prop where
  tokens       : List.Forall₂ R s.tokens u.tokens
  cursor_eq    : s.cursor = u.cursor
  committed_eq : s.committed = u.committed
  le_length    : s.cursor ≤ s.tokens.length

-- The same end of two runs over related tokens.
inductive Reply.Agrees : Reply α → Reply α → Prop
  | ok {a s u} (state : s.Agrees R u) : Agrees ⟨.ok a, s⟩ ⟨.ok a, u⟩
  | error {e e' fatal s u} (error : ParseError.Agrees s.tokens u.tokens e e')
    (state : s.Agrees R u) : Agrees ⟨.error ⟨e, fatal⟩, s⟩ ⟨.error ⟨e', fatal⟩, u⟩

-- The tests and the actions of a parser cannot tell related tokens apart.
inductive Parser.Respects : Parser ν → Prop
  | literal (text : String) : Respects (literal text)
  | predicate (name : String) {test : Token → Bool} (h : ∀ ⦃t u⦄, R t u → test t = test u) :
    Respects (predicate name test)
  | any : Respects any
  | empty : Respects empty
  | commit : Respects commit
  | fail (message : String) : Respects (fail message)
  | seq {ps : List (Parser ν)} (parts : ∀ p ∈ ps, Respects p) : Respects (seq ps)
  | choice {ps : List (Parser ν)} (alternatives : ∀ p ∈ ps, Respects p) : Respects (choice ps)
  | map (f : Value ν → Value ν) {p : Parser ν} (h : Respects p) : Respects (map f p)
  | action {f : Action ν} {p : Parser ν}
    (hf : ∀ ⦃ts us⦄, List.Forall₂ R ts us → f ts = f us) (h : Respects p) : Respects (action f p)
  | fix (label : Label) {p : Parser ν} (h : Respects p) : Respects (fix label p)
  | standIn (label : Label) : Respects (standIn label)
  | dangling : Respects dangling

end

variable {R : Token → Token → Prop} {s s' u u' : State} {c : Complaint}

theorem Complaint.about_inj {c' : Complaint} {f f' : Found} :
    c.about f = c'.about f' ↔ c = c' ∧ f = f' := by
  cases c <;> cases c' <;> simp [about]

theorem Found.text_ofToken? (t : Option Token) :
    (ofToken? t).text = (t.map Token.text).elim "end of input" Quoted.string := by
  cases t <;> rfl

namespace State.Agrees

theorem start {ts us : List Token} (h : List.Forall₂ R ts us) :
    (State.start ts).Agrees R (State.start us) where
  tokens       := h
  cursor_eq    := rfl
  committed_eq := rfl
  le_length    := Nat.zero_le _

theorem withFlag (h : s.Agrees R u) (b : Bool) :
    State.Agrees R { s with committed := b } { u with committed := b } where
  tokens       := h.tokens
  cursor_eq    := h.cursor_eq
  committed_eq := rfl
  le_length    := h.le_length

theorem remaining (h : s.Agrees R u) : List.Forall₂ R s.remaining u.remaining := by
  have ht := List.forall₂_drop s.cursor h.tokens
  rwa [State.remaining, State.remaining, ← h.cursor_eq]

theorem span (h : s.Agrees R u) (h' : s'.Agrees R u') :
    List.Forall₂ R (s.span s') (u.span u') := by
  have ht := List.forall₂_take (s'.cursor - s.cursor) h.remaining
  rwa [State.span, State.span, ← h.cursor_eq, ← h'.cursor_eq]

-- What is found at the cursor, as what there is at the index of the cursor.
theorem found (h : s.Agrees R u) (c : Complaint) :
    ParseError.Agrees s.tokens u.tokens (c.about s.found) (c.about u.found) :=
  ⟨c, s.cursor, h.le_length, rfl, by rw [State.found, State.current?, h.cursor_eq]⟩

theorem atEnd_eq (h : s.Agrees R u) : s.atEnd = u.atEnd := by
  rw [State.atEnd, State.atEnd, h.cursor_eq, h.tokens.length_eq]

end State.Agrees

namespace Reply.Agrees

variable {r r' : Reply α}

theorem success (h : s.Agrees R u) (a : α) : Agrees R (.success a s) (.success a u) :=
  .ok h

theorem failure (h : s.Agrees R u) (c : Complaint) :
    Agrees R (.failure (c.about s.found) s : Reply α) (.failure (c.about u.found) u) :=
  .error (h.found c) h

theorem noAlternative (h : s.Agrees R u) :
    Agrees R (s.noAlternative : Reply α) u.noAlternative :=
  failure h .noAlternative

theorem map (h : r.Agrees R r') (f : α → β) : (r.map f).Agrees R (r'.map f) := by
  cases h with
  | ok hs      => exact .ok hs
  | error h hs => exact .error h hs

theorem accept (hR : ∀ ⦃t u⦄, R t u → t.text = u.text) (h : s.Agrees R u) (what : String)
    {test : Token → Bool} (ht : ∀ ⦃t u⦄, R t u → test t = test u) :
    Agrees R (s.accept what test : Reply (Value ν)) (u.accept what test) := by
  have hf : Agrees R (.failure (.expected what s.found) s : Reply (Value ν))
      (.failure (.expected what u.found) u) := failure h (.expected what)
  simp only [State.accept, State.current?_eq]
  cases hs : s.remaining with
  | nil =>
    have hu := List.forall₂_nil_left_iff.mp (hs ▸ h.remaining)
    simpa [hu] using hf
  | cons t ts =>
    obtain ⟨t', us, hr, _, hu⟩ := List.forall₂_cons_left_iff.mp (hs ▸ h.remaining)
    cases hb : test t with
    | false => simpa [hu, hb, Option.filter_some, ← ht hr] using hf
    | true =>
      have hl := congrArg List.length hs
      simp only [State.remaining, List.length_drop, List.length_cons] at hl
      have ha : s.advance.Agrees R u.advance :=
        ⟨h.tokens, congrArg (· + 1) h.cursor_eq, h.committed_eq,
          show s.cursor + 1 ≤ s.tokens.length by omega⟩
      have hs := success ha (Value.token (ν := ν) t'.text)
      simpa [hu, hb, Option.filter_some, ← ht hr, hR hr] using hs

-- An action is given related tokens. If it refuses them, it blames the place where it has
-- started.
theorem conclude {r r' : Reply (Value ν)} {f : Action ν} (h : s.Agrees R u) (hr : r.Agrees R r')
    (hb : r.Bounded s) (hb' : r'.Bounded u)
    (hf : ∀ ⦃ts us⦄, List.Forall₂ R ts us → f ts = f us) :
    (s.conclude f r).Agrees R (u.conclude f r') := by
  cases hr with
  | error he hs => exact .error he hs
  | @ok v s' u' hs =>
    have hc := State.head?_span_or hb.tokens_eq hb.cursor_le
    have hc' := State.head?_span_or hb'.tokens_eq hb'.cursor_le
    simp only [State.conclude, hc, hc', hf (h.span hs)]
    cases f (u.span u') v with
    | ok w => exact .ok hs
    | error m =>
      have he := h.found (.domain m)
      rw [← hb.tokens_eq, ← hb'.tokens_eq] at he
      exact .error he hs

end Reply.Agrees

namespace Parser

variable {depth : Nat} {scope : Scope ν} {p : Parser ν} {ps : List (Parser ν)}
variable {r : Reply (Value ν)} {ts us : List Token}

theorem Respects.of_seq_cons (h : Respects R (Parser.seq (p :: ps))) :
    p.Respects R ∧ Respects R (Parser.seq ps) := by
  cases h with
  | seq h => exact (List.forall_mem_cons.mp h).imp_right .seq

theorem Respects.of_choice_cons (h : Respects R (Parser.choice (p :: ps))) :
    p.Respects R ∧ Respects R (Parser.choice ps) := by
  cases h with
  | choice h => exact (List.forall_mem_cons.mp h).imp_right .choice

-- Runs over related tokens go the same way.
theorem RunsIn.exists_agrees (hR : ∀ ⦃t u⦄, R t u → t.text = u.text) (h : RunsIn depth scope p s r)
    (hp : p.Respects R) (hscope : ∀ entry ∈ scope, entry.2.Respects R) (hs : s.Agrees R u) :
    ∃ r', RunsIn depth scope p u r' ∧ r.Agrees R r' := by
  induction h generalizing u with
  | literal   => exact ⟨_, .literal, .accept hR hs _ fun _ _ h => by rw [hR h]⟩
  | predicate => cases hp with | predicate _ h => exact ⟨_, .predicate, .accept hR hs _ h⟩
  | any       => exact ⟨_, .any, .accept hR hs _ fun _ _ _ => rfl⟩
  | empty     => exact ⟨_, .empty, .success hs _⟩
  | commit    => exact ⟨_, .commit, .success (hs.withFlag true) _⟩
  | fail      => exact ⟨_, .fail, .failure hs (.domain _)⟩
  | seqNil    => exact ⟨_, .seqNil, .success hs _⟩
  | dangling  => exact ⟨_, .dangling, .noAlternative hs⟩
  | choiceNil => exact ⟨_, .choiceNil, .noAlternative hs⟩
  | unbound h => exact ⟨_, .unbound h, .noAlternative hs⟩
  | seqStop _ hi =>
    have ⟨r', h', ha⟩ := hi hp.of_seq_cons.1 hscope hs
    cases ha with
    | error he hs => exact ⟨_, .seqStop h', .error he hs⟩
  | seqCons _ _ hi hi' =>
    have ⟨hp, hps⟩ := hp.of_seq_cons
    have ⟨r', h', ha⟩ := hi hp hscope hs
    cases ha with
    | ok hs =>
      have ⟨r'', h'', ha⟩ := hi' hps hscope hs
      exact ⟨_, .seqCons h' h'', ha.map _⟩
  | choiceFit _ hi =>
    have ⟨r', h', ha⟩ := hi hp.of_choice_cons.1 hscope (hs.withFlag false)
    cases ha with
    | ok ha => exact ⟨_, .choiceFit h', hs.committed_eq ▸ .ok (ha.withFlag _)⟩
  | choiceCut _ hc hi =>
    have ⟨r', h', ha⟩ := hi hp.of_choice_cons.1 hscope (hs.withFlag false)
    cases ha with
    | error he ha =>
      exact ⟨_, .choiceCut h' (ha.committed_eq ▸ hc), hs.committed_eq ▸ .error he (ha.withFlag _)⟩
  | choiceSkip _ hc _ hi hi' =>
    have ⟨hp, hps⟩ := hp.of_choice_cons
    have ⟨r', h', ha⟩ := hi hp hscope (hs.withFlag false)
    cases ha with
    | error _ ha =>
      have ⟨r'', h'', ha'⟩ := hi' hps hscope hs
      exact ⟨_, .choiceSkip h' (ha.committed_eq ▸ hc) h'', ha'⟩
  | map _ hi =>
    cases hp with
    | map _ hp =>
      have ⟨r', h', ha⟩ := hi hp hscope hs
      exact ⟨_, .map h', ha.map _⟩
  | action h hi =>
    cases hp with
    | action hf hp =>
      have ⟨r', h', ha⟩ := hi hp hscope hs
      have hl : u.cursor ≤ u.tokens.length := hs.cursor_eq ▸ hs.tokens.length_eq ▸ hs.le_length
      exact ⟨_, .action h', ha.conclude hs (h.bounded hs.le_length) (h'.bounded hl) hf⟩
  | fix _ hi =>
    cases hp with
    | fix _ hp =>
      have ⟨r', h', ha⟩ := hi hp (List.forall_mem_cons.mpr ⟨hp, hscope⟩) hs
      exact ⟨_, .fix h', ha⟩
  | standIn hl _ hi =>
    have ⟨hm, hsuff⟩ := Scope.suffix_of_resolve? hl
    have hscope := fun entry he => hscope entry (hsuff.subset he)
    have ⟨r', h', ha⟩ := hi (hscope _ hm) hscope hs
    exact ⟨_, .standIn hl h', ha⟩

namespace SameAnswer

-- Errors show no more of a token than its text.
theorem error_of_agrees (hR : ∀ ⦃t u⦄, R t u → t.text = u.text) (ht : List.Forall₂ R ts us)
    {e e' : ParseError} (h : e.Agrees ts us e') :
    SameAnswer ts us (.error e : Except ParseError α) (.error e') := by
  refine .error h ?_
  obtain ⟨c, k, -, rfl, rfl⟩ := h
  have hm : ts.map Token.text = us.map Token.text := by
    induction ht with
    | nil          => rfl
    | cons hr _ ih => rw [List.map_cons, List.map_cons, hR hr, ih]
  have hk : (Found.ofToken? ts[k]?).text = (Found.ofToken? us[k]?).text := by
    rw [Found.text_ofToken?, Found.text_ofToken?, ← List.getElem?_map, ← List.getElem?_map, hm]
  cases c with
  | expected what => exact congrArg (fun text => s!"expected {what}, got {text}") hk
  | noAlternative => exact congrArg (fun text => s!"parse failed at {text}") hk
  | domain        => rfl
  | trailing      => exact congrArg (fun text => s!"unconsumed input starting at {text}") hk

-- What is wrong at the end of the input is wrong in both lists, which are equally long.
theorem endOfInput (h : List.Forall₂ R ts us) (c : Complaint) :
    SameAnswer ts us (.error (c.about .endOfInput) : Except ParseError α)
      (.error (c.about .endOfInput)) := by
  refine .error ⟨c, ts.length, Nat.le_refl _, ?_, ?_⟩ rfl
  · simp [Found.ofToken?]
  · simp [Found.ofToken?, h.length_eq]

end SameAnswer

theorem parse_sameAnswer (hR : ∀ ⦃t u⦄, R t u → t.text = u.text) (hp : p.Respects R)
    (ht : List.Forall₂ R ts us) {a : Except ParseError (Value ν)} (h : p.parse ts = some a) :
    ∃ a', p.parse us = some a' ∧ SameAnswer ts us a a' := by
  simp only [parse, Option.bind_eq_bind, Option.bind_eq_some_iff, run_eq_some_iff] at h ⊢
  obtain ⟨r, ⟨depth, hr⟩, h⟩ := h
  obtain ⟨r', hr', ha⟩ := hr.exists_agrees hR hp (by simp) (.start ht)
  have htokens : r.state.tokens = ts := (hr.bounded (Nat.zero_le _)).tokens_eq
  have htokens' : r'.state.tokens = us := (hr'.bounded (Nat.zero_le _)).tokens_eq
  cases ha with
  | error he _ =>
    rw [htokens, htokens'] at he
    exact ⟨_, ⟨_, ⟨depth, hr'⟩, rfl⟩, Option.some.inj h ▸ .error_of_agrees hR ht he⟩
  | @ok v s u hs =>
    have hf := hs.found .trailing
    rw [htokens, htokens'] at hf
    refine ⟨_, ⟨_, ⟨depth, hr'⟩, rfl⟩, Option.some.inj h ▸ ?_⟩
    simp only [hs.atEnd_eq]
    cases u.atEnd with
    | true  => exact .ok v
    | false => exact .error_of_agrees hR ht hf

end Parser

end SelectLang
