import Mathlib.Data.Stream.Init
import SelectLang.Proofs.Token.MaximalMunch

namespace SelectLang

theorem Position.offset_after (p : Position) (cs : List Char) :
    (p.after cs).offset = p.offset + cs.length := by
  induction cs generalizing p with
  | nil => rfl
  | cons c cs ih =>
    have hc : (p.advance c).offset = p.offset + 1 := rfl
    change ((p.advance c).after cs).offset = _
    rw [ih, hc, List.length_cons, Nat.add_assoc, Nat.add_comm 1]

namespace Lexer

abbrev Result := Except LexError (Option Token)

-- The ways to ask a lexer for what comes next, and what it answers.
inductive Call
  | next
  | nextItem

inductive Answer
  | result (r : Result)
  | item (r : Option (Except LexError Token))
  deriving DecidableEq

def Call.answer : Call → Result → Answer
  | next,     r => .result r
  | nextItem, r => .item (item? r)

def call (l : Lexer) : Call → Answer × Lexer
  | .next     => (.result l.next.1, l.next.2)
  | .nextItem => (.item l.nextItem?.1, l.nextItem?.2)

-- The answers of one lexer that is asked time after time.
def answers (l : Lexer) : List Call → List Answer
  | []      => []
  | c :: cs => (l.call c).1 :: (l.call c).2.answers cs

def results : Lexer → Stream' Result :=
  Stream'.corec' next

-- The results behind all tokens: at most one error, and then nothing for ever.
def ending : Option LexError → Stream' Result
  | none   => .const (.ok none)
  | some e => .cons (.error e) (.const (.ok none))

-- Asked over and over, the lexer gives the tokens, and then comes the ending.
structure Yields (l : Lexer) (ts : List Token) (e : Option LexError) : Prop where
  results_eq : l.results = ts.map (.ok ∘ some) ++ₛ ending e
  tokens_eq  : l.tokens = e.elim (.ok ts) .error
  ahead      : ∀ t ∈ ts, l.position.offset ≤ t.position.offset
  ordered    : ts.Pairwise (·.position.offset < ·.position.offset)
  length_le  : ts.length ≤ l.rest.length

variable {l l' : Lexer} {t : Token} {ts : List Token} {e : LexError} {stop : Option LexError}

theorem results_eq (l : Lexer) : l.results = .cons l.next.1 l.next.2.results :=
  Stream'.corec'_eq next l

theorem call_eq (l : Lexer) (c : Call) : l.call c = (c.answer l.next.1, l.next.2) := by
  cases c <;> rfl

-- Both ways to ask give the same results, one after the other.
theorem answers_eq (l : Lexer) (calls : List Call) :
    l.answers calls = List.zipWith Call.answer calls (l.results.take calls.length) := by
  induction calls generalizing l with
  | nil => rfl
  | cons c cs ih =>
    rw [results_eq, List.length_cons, Stream'.take_succ_cons, List.zipWith_cons_cons, ← ih, answers,
      call_eq]

theorem next_of_exhausted (h : l.rest = []) : l.next = (.ok none, l) := by
  obtain ⟨p, cs⟩ := l
  cases h
  rfl

-- There is nothing to read any more, once and for all.
theorem results_of_exhausted (h : l.rest = []) : l.results = .const (.ok none) := by
  refine Stream'.take_theorem _ _ fun n => ?_
  induction n with
  | zero => rfl
  | succ n ih =>
    rw [results_eq, next_of_exhausted h, Stream'.const_eq, Stream'.take_succ_cons,
      Stream'.take_succ_cons, ih]

theorem offset_skip_le (l : Lexer) (n : Nat) : l.position.offset ≤ (l.skip n).position.offset := by
  simp [skip, Position.offset_after]

theorem rest_of_next_eq_none (h : l.next = (.ok none, l')) : l'.rest = [] := by
  simp only [next, scan] at h
  split at h
  case h_1 hr =>
    cases h
    exact hr
  case h_2 => split at h <;> cases h

theorem rest_of_next_eq_error (h : l.next = (.error e, l')) : l'.rest = [] := by
  simp only [next, scan] at h
  split at h
  case h_1 => cases h
  case h_2 =>
    split at h <;> cases h
    rfl

-- The token stands behind what was read before, and something is read with it.
theorem offset_of_next (h : l.next = (.ok (some t), l')) :
    l.position.offset ≤ t.position.offset ∧ t.position.offset < l'.position.offset := by
  have hs := l.offset_skip_le (l.rest.takeWhile isSpace).length
  simp only [next, scan] at h
  split at h
  case h_1 => cases h
  case h_2 c cs hr =>
    split at h
    case h_1 => cases h
    case h_2 lexeme hl =>
      cases h
      have hn := List.length_pos_iff.mpr (Lexeme.read?_ne_nil hl)
      refine ⟨hs, ?_⟩
      have ht : (lexeme.token l.skipSpace.position).position = l.skipSpace.position := rfl
      rw [ht, skip, Position.offset_after, hr, List.length_take, List.length_cons]
      omega

theorem next_of_call {c : Call} (h : l.call c = (c.answer (.ok (some t)), l')) :
    l.next = (.ok (some t), l') := by
  have ⟨ha, hl⟩ := Prod.mk.inj ((l.call_eq c).symm.trans h)
  refine Prod.ext ?_ hl
  cases c with
  | next => exact Answer.result.inj ha
  | nextItem =>
    have he := Answer.item.inj ha
    cases hr : l.next.1 with
    | error e => simp [hr, item?] at he
    | ok t?   => cases t? <;> simp_all [item?]

theorem exists_yields (l : Lexer) : ∃ ts stop, l.Yields ts stop := by
  fun_induction tokens l with
  | case1 l l' hn =>
    refine ⟨[], none, ?_, ?_, by simp, .nil, Nat.zero_le _⟩
    case refine_1 =>
      rw [Lexer.results_eq, hn, results_of_exhausted (rest_of_next_eq_none hn)]
      exact (Stream'.const_eq _).symm
    case refine_2 =>
      rw [Lexer.tokens_eq, hn]
      rfl
  | case2 l t l' hn ih =>
    obtain ⟨ts, stop, h⟩ := ih
    obtain ⟨hl, hl'⟩ := offset_of_next hn
    have hr := next_rest_length_lt hn
    have ha : ∀ u ∈ ts, t.position.offset < u.position.offset := fun u hu =>
      hl'.trans_le (h.ahead u hu)
    refine ⟨t :: ts, stop, ?_, ?_, ?_, ?_, ?_⟩
    case refine_1 =>
      rw [Lexer.results_eq, hn, h.results_eq]
      rfl
    case refine_2 =>
      rw [Lexer.tokens_eq, hn]
      simp only [h.tokens_eq]
      cases stop <;> rfl
    case refine_3 => exact List.forall_mem_cons.mpr ⟨hl, fun u hu => hl.trans (ha u hu).le⟩
    case refine_4 => exact List.pairwise_cons.mpr ⟨ha, h.ordered⟩
    case refine_5 => exact (Nat.succ_le_succ h.length_le).trans hr
  | case3 l e l' hn =>
    refine ⟨[], some e, ?_, ?_, by simp, .nil, Nat.zero_le _⟩
    case refine_1 =>
      rw [Lexer.results_eq, hn, results_of_exhausted (rest_of_next_eq_error hn)]
      rfl
    case refine_2 =>
      rw [Lexer.tokens_eq, hn]
      rfl

-- However a lexer is asked, and how often, it gives the tokens of the text in their order, then
-- the error if there is one, and nothing from there on.
theorem exists_stream (text : String) :
    (∃ ts stop,
      (∀ calls, (ofString text).answers calls =
        calls.zipWith Call.answer ((ts.map (.ok ∘ some) ++ₛ ending stop).take calls.length)) ∧
      ts.Pairwise (·.position.offset < ·.position.offset) ∧ ts.length ≤ text.length ∧
      tokenize text = stop.elim (.ok ts) .error) ∧
    ∀ (l l' : Lexer) c t, l.call c = (c.answer (.ok (some t)), l') →
      l.position.offset < l'.position.offset := by
  have ⟨ts, stop, h⟩ := exists_yields (ofString text)
  refine ⟨⟨ts, stop, fun calls => ?_, h.ordered, h.length_le, h.tokens_eq⟩, fun l l' c t hc => ?_⟩
  case refine_1 => rw [answers_eq, h.results_eq]
  case refine_2 =>
    have ⟨hl, hl'⟩ := offset_of_next (next_of_call hc)
    exact hl.trans_lt hl'

theorem exists_stream_item :
    let l : Lexer := ⟨⟨1, 1, 2⟩, " -5! b".toList⟩
    let l' : Lexer := ⟨⟨4, 1, 5⟩, "! b".toList⟩
    l.call .nextItem = (Call.nextItem.answer (.ok (some ⟨.number, "-5", ⟨2, 1, 3⟩⟩)), l') ∧
      l.position.offset < l'.position.offset := by
  intro l l'
  have hc : l.call .nextItem = (.item (some (.ok ⟨.number, "-5", ⟨2, 1, 3⟩⟩)), l') := by decide
  exact ⟨hc, (exists_stream "a -5! b").2 l l' .nextItem _ hc⟩

-- The end is reached only once: nothing comes behind an error.
example : (ofString "a ! b").answers [.nextItem, .next, .nextItem, .next] =
    [.item (some (.ok ⟨.identifier, "a", ⟨0, 1, 1⟩⟩)), .result (.error ⟨'!', ⟨2, 1, 3⟩⟩),
      .item none, .result (.ok none)] := by
  decide +kernel

end Lexer

end SelectLang
