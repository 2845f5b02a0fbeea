import SelectLang.Json.Basic
import SelectLang.Proofs.Json.Grammar

namespace SelectLang.Json

open Lexeme (IsDigits)
open Number (valueOf)

variable {α : Type} {start close c : Char} {one : α → Part} {row : List α → Part}
variable {whole : List α → Datum} {cs gap trail rest : List Char} {a : α} {as : List α}
variable {text mark «open» «end» : String} {texts : List String} {n : Nat}

theorem gap_append (hg : ∀ c ∈ cs, isGap c) : Gap (cs ++ rest) rest := by
  induction cs with
  | nil => exact .nil
  | cons c cs ih =>
    have ⟨hc, hg⟩ := List.forall_mem_cons.mp hg
    exact .cons hc (ih hg)

theorem isChar_escape (c : Char) (rest : List Char) : IsChar (escape c ++ rest) c rest := by
  have hx : ∀ n < 0x20, hexValue? ['0', '0', hexDigit (n / 16), hexDigit n] = some n := by decide
  fun_cases escape c with
  | case1 h => obtain rfl | rfl := h <;> exact .short rfl
  | case2 | case3 | case4 | case5 | case6 =>
    subst c
    exact .short rfl
  | case7 _ _ _ _ _ _ h => exact .unit (.hex (hx _ h))
  | case8 h _ _ _ _ _ hv =>
    have ⟨hq, hb⟩ := not_or.mp h
    exact .plain (Nat.le_of_not_lt hv) hq hb

theorem isString_escape (text rest : List Char) :
    IsString (text.flatMap escape ++ '"' :: rest) text rest := by
  induction text with
  | nil            => exact .nil
  | cons c text ih =>
    rw [List.flatMap_cons, List.append_assoc]
    exact .cons (isChar_escape c _) ih

theorem exists_toDigits (h : 0 < n) : ∃ d ds, Nat.toDigits 10 n = d :: ds ∧ d ≠ '0' := by
  induction n using Nat.strongRecOn with
  | ind n ih =>
    by_cases hn : n < 10
    case pos =>
      have hd : ∀ n < 10, 0 < n → n.digitChar ≠ '0' := by decide
      exact ⟨_, [], Nat.toDigits_of_lt_base hn, hd n hn h⟩
    case neg =>
      obtain ⟨d, ds, he, hd⟩ := ih (n / 10) (by omega) (by omega)
      refine ⟨d, ds ++ [(n % 10).digitChar], ?_, hd⟩
      rw [Nat.toDigits_of_base_le (by decide) (by omega), he, List.cons_append]

theorem isWhole_toDigits (n : Nat) : IsWhole (Nat.toDigits 10 n) := by
  cases n with
  | zero => exact .zero
  | succ n =>
    have ⟨d, ds, he, hd⟩ := exists_toDigits n.succ_pos
    rw [he]
    refine .positive ⟨List.cons_ne_nil _ _, fun c hc => ?_⟩ hd
    exact Nat.isDigit_of_mem_toDigits (by decide) (by decide) (he ▸ hc)

theorem isNumber_toDigits (n : Nat) : IsNumber (Nat.toDigits 10 n) ⟨false, n, 0⟩ := by
  have h := IsNumber.parts .absent nofun (isWhole_toDigits n) .absent .absent
  have hv : valueOf (Nat.toDigits 10 n) = n :=
    Nat.ofDigitChars_eq_foldl.symm.trans Nat.ofDigitChars_ten_toDigits
  simpa [hv] using h

-- A text that stands for this entry wherever it is written.
def Writes (one : α → Part) (text : String) (a : α) : Prop :=
  ∀ rest, Denotes (text.toList ++ rest) (one a) rest

theorem Writes.isText {d : Datum} (h : Writes .value text d) : IsText text d :=
  ⟨text.toList, [], .nil, List.append_nil text.toList ▸ h [], .nil⟩

theorem writes_number (n : Nat) : Writes .value (toString n) (.number n) := by
  intro rest
  have h : Denotes (Nat.toDigits 10 n ++ rest) _ rest := .number (isNumber_toDigits n)
  simpa [Number.Scientific.value, Nat.toList_repr] using h

theorem writes_quote (s : String) : Writes .value (quote s) (.string s) := by
  intro rest
  have h := Denotes.string (isString_escape s.toList rest)
  simpa [quote] using h

theorem writes_null : Writes .value "null" .null :=
  fun _ => .null

theorem Writes.member {d : Datum} (h : Writes .value text d) (hm : mark.toList = ':' :: gap)
    (hg : ∀ c ∈ gap, isGap c) (k : String) : Writes .member (quote k ++ mark ++ text) (k, d) := by
  intro rest
  have hk := isString_escape k.toList (':' :: (gap ++ (text.toList ++ rest)))
  have h := Denotes.member hk .nil (gap_append hg) (h rest)
  simpa [quote, hm] using h

theorem isGap_newline (depth : Nat) : ∀ c ∈ (newline depth).toList, isGap c := by
  have hs : ∀ c ∈ List.replicate (2 * depth) ' ', isGap c := by
    intro c hc
    rw [List.eq_of_mem_replicate hc]
    rfl
  rw [newline, String.toList_ofList]
  exact List.forall_mem_cons.mpr ⟨rfl, hs⟩

namespace IsBlock

variable (h : IsBlock start close one row whole) (hw : List.Forall₂ (Writes one) texts as)
include h hw

-- The gap that opens the row also stands behind each of its commas.
theorem denotes_intercalate (hn : as ≠ []) (hs : mark.toList = ',' :: gap)
    (hg : ∀ c ∈ gap, isGap c) (ht : Gap trail rest) :
    Denotes (gap ++ (mark.intercalate texts).toList ++ trail) (row as) rest := by
  induction hw with
  | nil => contradiction
  | @cons text _ texts as hw hws ih =>
    rw [List.append_assoc]
    cases hws with
    | nil =>
      rw [String.intercalate_singleton]
      exact h.last (gap_append hg) (hw trail) ht
    | cons _ _ =>
      have hi := h.next (gap_append hg) (hw _) .nil (ih (List.cons_ne_nil _ _))
      simpa [String.intercalate_cons_cons, hs] using hi

theorem writes_line (ho : «open».toList = [start]) (hc : «end».toList = [close]) :
    Writes .value («open» ++ ",".intercalate texts ++ «end») (whole as) := by
  intro rest
  have he : («open» ++ ",".intercalate texts ++ «end»).toList ++ rest =
      start :: ((",".intercalate texts).toList ++ close :: rest) := by simp [ho, hc]
  rw [he]
  cases as with
  | nil =>
    cases hw
    exact h.empty .nil
  | cons _ _ =>
    have hs : ",".toList = ',' :: [] := rfl
    have hg := List.forall_mem_nil (isGap ·)
    exact h.filled (h.denotes_intercalate hw (List.cons_ne_nil _ _) hs hg .nil)

theorem writes_block (ho : «open».toList = [start]) (hc : «end».toList = [close]) (depth : Nat) :
    Writes .value (block depth «open» «end» texts) (whole as) := by
  intro rest
  cases as with
  | nil =>
    cases hw
    have hg : Gap (close :: rest) (close :: rest) := .nil
    have hb := h.empty hg
    simpa [block, ho, hc] using hb
  | cons _ _ =>
    have hs : ("," ++ newline (depth + 1)).toList = ',' :: (newline (depth + 1)).toList := by simp
    have ht : Gap ((newline depth).toList ++ close :: rest) (close :: rest) :=
      gap_append (isGap_newline depth)
    have hi := h.denotes_intercalate hw (List.cons_ne_nil _ _) hs (isGap_newline _) ht
    have hb := h.filled hi
    cases hw
    simpa [block, ho, hc] using hb

end IsBlock

mutual

-- The value that JSON stands for.
def datum : Json → Datum
  | null      => .null
  | number n  => .number n
  | string s  => .string s
  | array js  => .array (datumItems js)
  | object ms => .object (datumMembers ms)

def datumItems : List Json → List Datum
  | []      => []
  | j :: js => datum j :: datumItems js

def datumMembers : List (String × Json) → List (String × Datum)
  | []           => []
  | (k, j) :: ms => (k, datum j) :: datumMembers ms

end

-- Both layouts write the same value. The induction is on the tree, as the writers go through it.
mutual

theorem writes_compact : ∀ j : Json, Writes .value j.compact j.datum
  | null      => writes_null
  | number n  => writes_number n
  | string s  => writes_quote s
  | array js  => isBlock_array.writes_line (writes_compactItems js) rfl rfl
  | object ms => isBlock_object.writes_line (writes_compactMembers ms) rfl rfl

theorem writes_compactItems :
    ∀ js, List.Forall₂ (Writes .value) (compactItems js) (datumItems js)
  | []      => .nil
  | j :: js => .cons (writes_compact j) (writes_compactItems js)

theorem writes_compactMembers :
    ∀ ms, List.Forall₂ (Writes .member) (compactMembers ms) (datumMembers ms)
  | []           => .nil
  | (k, j) :: ms => .cons ((writes_compact j).member rfl (List.all_eq_true.mp rfl) k) (writes_compactMembers ms)

end

mutual

theorem writes_prettyAt : ∀ depth j, Writes .value (prettyAt depth j) j.datum
  | _, null      => writes_null
  | _, number n  => writes_number n
  | _, string s  => writes_quote s
  | d, array js  => isBlock_array.writes_block (writes_prettyItems (d + 1) js) rfl rfl d
  | d, object ms => isBlock_object.writes_block (writes_prettyMembers (d + 1) ms) rfl rfl d

theorem writes_prettyItems :
    ∀ depth js, List.Forall₂ (Writes .value) (prettyItems depth js) (datumItems js)
  | _, []      => .nil
  | d, j :: js => .cons (writes_prettyAt d j) (writes_prettyItems d js)

theorem writes_prettyMembers :
    ∀ depth ms, List.Forall₂ (Writes .member) (prettyMembers depth ms) (datumMembers ms)
  | _, []           => .nil
  | d, (k, j) :: ms =>
    .cons ((writes_prettyAt d j).member rfl (List.all_eq_true.mp rfl) k) (writes_prettyMembers d ms)

end

def isVisible (c : Char) : Bool :=
  0x20 ≤ c.toNat

-- The text has no control characters, so that it stays on one line.
def IsVisible (text : String) : Prop :=
  ∀ c ∈ text.toList, isVisible c

instance : Decidable (IsVisible text) :=
  decidable_of_iff _ (List.all_eq_true (p := isVisible))

namespace IsVisible

theorem append (h : IsVisible text) (h' : IsVisible mark) : IsVisible (text ++ mark) := by
  rw [IsVisible, String.toList_append]
  exact List.forall_mem_append.mpr ⟨h, h'⟩

theorem intercalate (hm : IsVisible mark) (h : ∀ text ∈ texts, IsVisible text) :
    IsVisible (mark.intercalate texts) := by
  induction texts with
  | nil => exact nofun
  | cons text texts ih =>
    have ⟨ht, hts⟩ := List.forall_mem_cons.mp h
    cases texts with
    | nil      => exact String.intercalate_singleton ▸ ht
    | cons _ _ => exact String.intercalate_cons_cons ▸ (ht.append hm).append (ih hts)

theorem line (ho : IsVisible «open») (hc : IsVisible «end») (h : ∀ text ∈ texts, IsVisible text) :
    IsVisible («open» ++ ",".intercalate texts ++ «end») :=
  (ho.append (intercalate (by decide) h)).append hc

theorem number (n : Nat) : IsVisible (toString n) := by
  intro c hc
  have hd := Nat.isDigit_of_mem_toDigits (by decide) (by decide) (Nat.toList_repr ▸ hc)
  exact decide_eq_true (le_trans (by decide) (Char.isDigit_iff_toNat.mp hd).1)

theorem escape (c : Char) : (escape c).all isVisible := by
  have hx : ∀ n < 0x20, ['\\', 'u', '0', '0', hexDigit (n / 16), hexDigit n].all isVisible := by
    decide
  fun_cases Json.escape c with
  | case1 h => obtain rfl | rfl := h <;> rfl
  | case2 | case3 | case4 | case5 | case6 => rfl
  | case7 _ _ _ _ _ _ h => exact hx _ h
  | case8 _ _ _ _ _ _ hv => simpa [isVisible] using hv

theorem quote (s : String) : IsVisible (quote s) := by
  have hs : ∀ c ∈ s.toList.flatMap Json.escape, isVisible c := by
    intro c hc
    obtain ⟨e, _, hc⟩ := List.mem_flatMap.mp hc
    exact List.all_eq_true.mp (escape e) c hc
  rw [IsVisible, Json.quote, String.toList_ofList]
  have hq : ∀ c ∈ ['"'], isVisible c := List.all_eq_true.mp rfl
  exact List.forall_mem_append.mpr ⟨List.forall_mem_cons.mpr ⟨rfl, hs⟩, hq⟩

end IsVisible

mutual

theorem isVisible_compact : ∀ j : Json, IsVisible j.compact
  | null      => by decide
  | number n  => .number n
  | string s  => .quote s
  | array js  => .line (by decide) (by decide) (isVisible_compactItems js)
  | object ms => .line (by decide) (by decide) (isVisible_compactMembers ms)

theorem isVisible_compactItems : ∀ js, ∀ text ∈ compactItems js, IsVisible text
  | []      => nofun
  | j :: js => List.forall_mem_cons.mpr ⟨isVisible_compact j, isVisible_compactItems js⟩

theorem isVisible_compactMembers : ∀ ms, ∀ text ∈ compactMembers ms, IsVisible text
  | []           => nofun
  | (k, j) :: ms =>
    have hk := (IsVisible.quote k).append (by decide : IsVisible ":")
    List.forall_mem_cons.mpr ⟨hk.append (isVisible_compact j), isVisible_compactMembers ms⟩

end

end SelectLang.Json
