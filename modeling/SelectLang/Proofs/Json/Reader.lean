import SelectLang.Proofs.Json.Number
import SelectLang.Proofs.Json.Text

namespace SelectLang.Json

variable {α : Type} {a : α} {as : List α}
variable {c close : Char} {cs cs₁ cs₂ cs₃ rest : List Char} {d : Datum} {ds : List Datum}
variable {m : String × Datum} {ms : List (String × Datum)} {part : Part} {n k : Nat}

def skip (cs : List Char) : List Char :=
  cs.dropWhile isGap

section

variable (read : List Char → Option (α × List Char)) (close : Char)

-- Entries with commas between them, up to the bracket that closes the row.
def readRow? : Nat → List Char → Option (List α × List Char)
  | 0, _      => none
  | n + 1, cs =>
    (read (skip cs)).bind fun (a, cs) =>
      match skip cs with
      | []        => none
      | c :: rest =>
        if c = ',' then (readRow? n rest).map fun (as, rest) => (a :: as, rest)
        else if c = close then some ([a], rest)
        else none

-- What is behind an opening bracket: a row, or nothing in front of the closing one.
def readBlock? (n : Nat) (cs : List Char) : Option (List α × List Char) :=
  match skip cs with
  | []        => none
  | c :: rest => if c = close then some ([], rest) else readRow? read close n cs

end

def readMember? (read : List Char → Option (Datum × List Char)) :
    List Char → Option ((String × Datum) × List Char)
  | '"' :: cs =>
    (readString? cs).bind fun (text, cs) =>
      match skip cs with
      | ':' :: cs => (read (skip cs)).map fun (d, rest) => ((.ofList text, d), rest)
      | _         => none
  | _ => none

-- Each value within a value takes at least one character of the text, and so does each step of
-- a row. So the length of the text is enough of a bound.
def readValue? : Nat → List Char → Option (Datum × List Char)
  | 0, _      => none
  | n + 1, cs =>
    match cs with
    | 'n' :: 'u' :: 'l' :: 'l' :: rest        => some (.null, rest)
    | 't' :: 'r' :: 'u' :: 'e' :: rest        => some (.bool true, rest)
    | 'f' :: 'a' :: 'l' :: 's' :: 'e' :: rest => some (.bool false, rest)
    | '"' :: cs    => (readString? cs).map fun (text, rest) => (.string (.ofList text), rest)
    | '[' :: cs    =>
      (readBlock? (readValue? n) ']' n cs).map fun (ds, rest) => (.array ds, rest)
    | '\x7b' :: cs =>
      (readBlock? (readMember? (readValue? n)) '\x7d' n cs).map fun (ms, rest) => (.object ms, rest)
    | cs           => (readNumber? cs).map fun (s, rest) => (.number s.value, rest)

-- Reads a text that is one value, with white space around it.
def read? (text : String) : Option Datum :=
  let cs := skip text.toList
  (readValue? cs.length cs).bind fun (d, rest) => if skip rest = [] then some d else none

namespace Gap

theorem skip (cs : List Char) : Gap cs (skip cs) := by
  induction cs with
  | nil => exact .nil
  | cons c cs ih =>
    rw [Json.skip, List.dropWhile_cons]
    split
    case isTrue h  => exact .cons h ih
    case isFalse h => exact .nil

theorem skip_eq (h : Gap cs rest) : Json.skip cs = Json.skip rest := by
  induction h with
  | nil         => rfl
  | cons hc _ h => exact (List.dropWhile_cons_of_pos hc).trans h

theorem length_le (h : Gap cs rest) : rest.length ≤ cs.length := by
  induction h with
  | nil        => exact Nat.le_refl _
  | cons _ _ h => exact Nat.le_succ_of_le h

theorem not_isNumberPart (h : isGap c) : isNumberPart c = false := by
  obtain rfl | rfl | rfl | rfl : c = ' ' ∨ c = '\t' ∨ c = '\n' ∨ c = '\r' := by
    simpa [isGap] using h
  all_goals decide

theorem stops (h : Gap cs rest) (hr : Stops rest) : Stops cs := by
  cases h with
  | nil       => exact hr
  | cons hc _ => exact fun _ h => Option.some.inj h ▸ not_isNumberPart hc

end Gap

section

variable {read : List Char → Option (α × List Char)} {start : Char} {one : α → Part}
variable {row : List α → Part} {whole : List α → Datum}

theorem IsBlock.denotes_row (h : IsBlock start close one row whole)
    (hr : ∀ {cs a rest}, read cs = some (a, rest) → Denotes cs (one a) rest)
    (ha : readRow? read close n cs = some (as, rest)) : Denotes cs (row as) (close :: rest) := by
  induction n generalizing cs as with
  | zero => cases ha
  | succ n ih =>
    simp only [readRow?, Option.bind_eq_some_iff] at ha
    obtain ⟨⟨a, cs'⟩, he, ha⟩ := ha
    have hg := Gap.skip cs'
    split at ha
    case h_1 => cases ha
    case h_2 c cs'' hs =>
      rw [hs] at hg
      split at ha
      case isTrue hc =>
        obtain ⟨⟨as, rest⟩, ho, ha⟩ := Option.map_eq_some_iff.mp ha
        cases ha
        exact h.next (.skip cs) (hr he) (hc ▸ hg) (ih ho)
      case isFalse =>
        split at ha
        case isFalse => cases ha
        case isTrue hc =>
          cases ha
          exact h.last (.skip cs) (hr he) (hc ▸ hg)

theorem IsBlock.denotes (h : IsBlock start close one row whole)
    (hr : ∀ {cs a rest}, read cs = some (a, rest) → Denotes cs (one a) rest)
    (ha : readBlock? read close n cs = some (as, rest)) :
    Denotes (start :: cs) (.value (whole as)) rest := by
  have hg := Gap.skip cs
  rw [readBlock?] at ha
  split at ha
  case h_1 => cases ha
  case h_2 c cs' hs =>
    split at ha
    case isTrue hc =>
      cases ha
      exact h.empty (hc ▸ hs ▸ hg)
    case isFalse => exact h.filled (h.denotes_row hr ha)

end

theorem denotes_of_readMember? {read : List Char → Option (Datum × List Char)}
    (hr : ∀ {cs d rest}, read cs = some (d, rest) → Denotes cs (.value d) rest)
    (hm : readMember? read cs = some (m, rest)) : Denotes cs (.member m) rest := by
  simp only [readMember?] at hm
  split at hm
  case h_2 => cases hm
  case h_1 =>
    simp only [Option.bind_eq_some_iff] at hm
    obtain ⟨⟨text, cs'⟩, ht, hm⟩ := hm
    have hg := Gap.skip cs'
    split at hm
    case h_2 => cases hm
    case h_1 cs'' hs =>
      obtain ⟨⟨d, rest⟩, hd, hm⟩ := Option.map_eq_some_iff.mp hm
      cases hm
      exact .member (readString?_eq_some_iff.mp ht) (hs ▸ hg) (.skip cs'') (hr hd)

theorem denotes_of_readValue? (hd : readValue? n cs = some (d, rest)) :
    Denotes cs (.value d) rest := by
  induction n generalizing cs d rest with
  | zero => cases hd
  | succ n ih =>
    simp only [readValue?] at hd
    split at hd
    case h_1 => cases hd; exact .null
    case h_2 => cases hd; exact .true
    case h_3 => cases hd; exact .false
    case h_4 =>
      obtain ⟨⟨text, rest⟩, ht, hd⟩ := Option.map_eq_some_iff.mp hd
      cases hd
      exact .string (readString?_eq_some_iff.mp ht)
    case h_5 =>
      obtain ⟨⟨ds, rest⟩, hi, hd⟩ := Option.map_eq_some_iff.mp hd
      cases hd
      exact isBlock_array.denotes ih hi
    case h_6 =>
      obtain ⟨⟨ms, rest⟩, hi, hd⟩ := Option.map_eq_some_iff.mp hd
      cases hd
      exact isBlock_object.denotes (denotes_of_readMember? ih) hi
    case h_7 =>
      obtain ⟨⟨s, rest⟩, hs, hd⟩ := Option.map_eq_some_iff.mp hd
      cases hd
      obtain ⟨ds, hn, rfl⟩ := exists_isNumber hs
      exact .number hn

theorem IsNumber.ne_nil {s : Number.Scientific} (h : IsNumber cs s) : cs ≠ [] := by
  cases h with
  | parts _ _ hw _ _ => simp [hw.isDigits.1]

-- The text starts with something that is no white space and closes no row.
def Opens (cs : List Char) : Prop :=
  ∃ c cs', cs = c :: cs' ∧ isGap c = false ∧ c ≠ ']' ∧ c ≠ '\x7d'

namespace Opens

theorem skip_eq (h : Opens cs) : skip cs = cs := by
  obtain ⟨c, cs, rfl, hc, _⟩ := h
  simp [skip, hc]

theorem of_isNumber {s : Number.Scientific} (h : IsNumber cs s) : Opens (cs ++ rest) := by
  obtain ⟨c, cs, rfl⟩ := List.exists_cons_of_ne_nil h.ne_nil
  have hc := isNumberPart_of_isDecimal h.isDecimal c List.mem_cons_self
  refine ⟨c, cs ++ rest, rfl, ?_, ?_, ?_⟩
  · exact eq_false_of_ne_true fun hg => absurd hc (by simp [Gap.not_isNumberPart hg])
  · exact fun he => absurd (he ▸ hc) (by decide)
  · exact fun he => absurd (he ▸ hc) (by decide)

theorem of_value (h : Denotes cs (.value d) rest) : Opens cs := by
  cases h with
  | number hn => exact .of_isNumber hn
  | _         => exact ⟨_, _, rfl, by decide⟩

theorem of_member (h : Denotes cs (.member m) rest) : Opens cs := by
  cases h
  exact ⟨_, _, rfl, by decide⟩

end Opens

theorem Denotes.length_lt (h : Denotes cs part rest) : rest.length < cs.length := by
  induction h with
  | null | true | false =>
    simp only [List.length_cons]
    omega
  | number hn =>
    have := List.length_pos_iff.mpr hn.ne_nil
    simp only [List.length_append]
    omega
  | string hs => exact Nat.lt_succ_of_lt hs.length_lt
  | emptyArray hg | emptyObject hg => exact Nat.lt_succ_of_lt hg.length_le
  | array _ ih | object _ ih => exact Nat.lt_succ_of_lt (Nat.lt_of_succ_lt ih)
  | member hk hm hg _ ih =>
    have hk := hk.length_lt
    have hm := hm.length_le
    have hg := hg.length_le
    simp only [List.length_cons] at hm ⊢
    omega
  | lastItem hb _ ha ih | lastMember hb _ ha ih =>
    exact ha.length_le.trans_lt (ih.trans_le hb.length_le)
  | nextItem hb _ ha _ ih ih' | nextMember hb _ ha _ ih ih' =>
    have hb := hb.length_le
    have ha := ha.length_le
    simp only [List.length_cons] at ha
    omega

theorem Opens.of_items (h : Denotes cs (.items ds) rest) : Opens (skip cs) := by
  cases h with
  | lastItem hb hd _ | nextItem hb hd _ _ =>
    rw [hb.skip_eq, (of_value hd).skip_eq]
    exact .of_value hd

theorem Opens.of_members (h : Denotes cs (.members ms) rest) : Opens (skip cs) := by
  cases h with
  | lastMember hb hm _ | nextMember hb hm _ _ =>
    rw [hb.skip_eq, (of_member hm).skip_eq]
    exact .of_member hm

def Closes (c : Char) : Prop :=
  c = ']' ∨ c = '\x7d'

namespace Closes

theorem skip_eq (h : Closes c) : skip (c :: rest) = c :: rest := by
  obtain rfl | rfl := h <;> rfl

theorem stops (h : Closes c) : Stops (c :: rest) := by
  obtain rfl | rfl := h <;> exact stops_cons (by decide)

theorem ne_comma (h : Closes c) : c ≠ ',' := by
  obtain rfl | rfl := h <;> decide

theorem readBlock?_eq {read : List Char → Option (α × List Char)} (h : Closes close)
    (ho : Opens (skip cs)) : readBlock? read close n cs = readRow? read close n cs := by
  obtain ⟨c, cs', he, _, ha, hb⟩ := ho
  have hc : c ≠ close := by obtain rfl | rfl := h <;> assumption
  simp [readBlock?, he, hc]

end Closes

-- What the reader is to make of an entry: it takes as much of the text as the entry does, if it
-- is given enough steps. A number needs something behind it that it does not go on with.
def ReadsOne (read : Nat → List Char → Option (α × List Char)) (a : α)
    (cs rest : List Char) : Prop :=
  Stops rest → ∀ n, cs.length ≤ n → read n cs = some (a, rest)

def ReadsRow (read : Nat → List Char → Option (α × List Char)) (close : Char) (as : List α)
    (cs rest : List Char) : Prop :=
  ∀ rest', rest = close :: rest' → ∀ n k, cs.length ≤ n → cs.length ≤ k →
    readRow? (read n) close k cs = some (as, rest')

namespace ReadsRow

variable {read : Nat → List Char → Option (α × List Char)}

theorem last (hc : Closes close) (hb : Gap cs cs₁) (ho : Opens cs₁)
    (hl : cs₂.length < cs₁.length) (h : ReadsOne read a cs₁ cs₂) (ha : Gap cs₂ rest) :
    ReadsRow read close [a] cs rest := by
  rintro rest rfl n k hn hk
  have hb' := hb.length_le
  have he := h (ha.stops hc.stops) n (by omega)
  cases k with
  | zero   => omega
  | succ k => simp [readRow?, hb.skip_eq, ho.skip_eq, he, ha.skip_eq, hc.skip_eq, hc.ne_comma]

theorem next (hb : Gap cs cs₁) (ho : Opens cs₁) (hl : cs₂.length < cs₁.length)
    (h : ReadsOne read a cs₁ cs₂) (ha : Gap cs₂ (',' :: cs₃))
    (hr : ReadsRow read close as cs₃ rest) : ReadsRow read close (a :: as) cs rest := by
  rintro rest rfl n k hn hk
  have hs : Stops (',' :: cs₃) := stops_cons (by decide)
  have hb' := hb.length_le
  have ha' := ha.length_le
  simp only [List.length_cons] at ha'
  have he := h (ha.stops hs) n (by omega)
  have hg : skip (',' :: cs₃) = ',' :: cs₃ := rfl
  cases k with
  | zero   => omega
  | succ k =>
    have hr := hr rest rfl n k (by omega) (by omega)
    simp [readRow?, hb.skip_eq, ho.skip_eq, he, ha.skip_eq, hg, hr]

end ReadsRow

def Part.IsRead : Part → List Char → List Char → Prop
  | .value d    => ReadsOne readValue? d
  | .member m   => ReadsOne (readMember? <| readValue? ·) m
  | .items ds   => ReadsRow readValue? ']' ds
  | .members ms => ReadsRow (readMember? <| readValue? ·) '\x7d' ms

theorem readValue?_of_isNumberPart (hc : isNumberPart c) :
    readValue? (n + 1) (c :: cs) =
      (readNumber? (c :: cs)).map fun (s, rest) => (.number s.value, rest) := by
  simp only [readValue?]
  split
  case h_7 => rfl
  all_goals
    cases (List.cons.inj ‹_›).1
    contradiction

theorem readsOne_cons (h : Stops rest → ∀ n, cs.length ≤ n →
    readValue? (n + 1) (c :: cs) = some (d, rest)) : ReadsOne readValue? d (c :: cs) rest := by
  rintro hr (_ | n) hn
  case zero => cases hn
  case succ => exact h hr n (Nat.le_of_succ_le_succ hn)

theorem Denotes.isRead (h : Denotes cs part rest) : part.IsRead cs rest := by
  induction h with
  | null | true | false => exact readsOne_cons fun _ _ _ => rfl
  | number hs =>
    obtain ⟨c, cs, rfl⟩ := List.exists_cons_of_ne_nil hs.ne_nil
    refine readsOne_cons fun hr n _ => ?_
    have hc := isNumberPart_of_isDecimal hs.isDecimal c List.mem_cons_self
    exact (readValue?_of_isNumberPart hc).trans (congrArg _ (readNumber?_append hs hr))
  | string hs =>
    refine readsOne_cons fun _ n _ => ?_
    simp [readValue?, readString?_eq_some_iff.mpr hs]
  | emptyArray hg =>
    refine readsOne_cons fun _ n _ => ?_
    simp [readValue?, readBlock?, hg.skip_eq, Closes.skip_eq (.inl rfl)]
  | emptyObject hg =>
    refine readsOne_cons fun _ n _ => ?_
    simp [readValue?, readBlock?, hg.skip_eq, Closes.skip_eq (.inr rfl)]
  | array hi ih =>
    refine readsOne_cons fun _ n hn => ?_
    simp [readValue?, Closes.readBlock?_eq (.inl rfl) (.of_items hi), ih _ rfl n n hn hn]
  | object hi ih =>
    refine readsOne_cons fun _ n hn => ?_
    simp [readValue?, Closes.readBlock?_eq (.inr rfl) (.of_members hi), ih _ rfl n n hn hn]
  | member hk hm hg hv ih =>
    intro hr n hn
    have hk' := hk.length_lt
    have hm' := hm.length_le
    have hg' := hg.length_le
    simp only [List.length_cons] at hm' hn
    have hd := ih hr n (by omega)
    have hs {cs} : skip (':' :: cs) = ':' :: cs := rfl
    simp [readMember?, readString?_eq_some_iff.mpr hk, hm.skip_eq, hs, hg.skip_eq,
      (Opens.of_value hv).skip_eq, hd]
  | lastItem hb hd ha ih => exact .last (.inl rfl) hb (.of_value hd) hd.length_lt ih ha
  | lastMember hb hm ha ih => exact .last (.inr rfl) hb (.of_member hm) hm.length_lt ih ha
  | nextItem hb hd ha _ ih ih' => exact .next hb (.of_value hd) hd.length_lt ih ha ih'
  | nextMember hb hm ha _ ih ih' => exact .next hb (.of_member hm) hm.length_lt ih ha ih'

theorem read?_eq_some_iff {text : String} : read? text = some d ↔ IsText text d := by
  rw [read?]
  constructor
  case mp =>
    intro h
    obtain ⟨⟨d', rest⟩, hd, h⟩ := Option.bind_eq_some_iff.mp h
    simp only at h
    split at h
    case isFalse => cases h
    case isTrue he =>
      cases h
      exact ⟨_, rest, .skip _, denotes_of_readValue? hd, he ▸ .skip rest⟩
  case mpr =>
    intro ⟨cs, rest, hb, hd, ha⟩
    have hs : skip rest = [] := ha.skip_eq
    simp [hb.skip_eq, (Opens.of_value hd).skip_eq, hd.isRead (ha.stops nofun) _ le_rfl, hs]

end SelectLang.Json
