import SelectLang.Proofs.Token.MaximalMunch
import SelectLang.Proofs.Token.Spelling

namespace SelectLang

namespace Position

-- The position behind the first characters of a statement, counted all at once: the line by
-- the line feeds among them, and the column by the characters since the last line feed.
def behind (cs : List Char) : Position where
  offset := cs.length
  line   := 1 + cs.count '\n'
  column := 1 + (cs.reverse.takeWhile (· ≠ '\n')).length

theorem advance_behind (cs : List Char) (c : Char) :
    (behind cs).advance c = behind (cs ++ [c]) := by
  by_cases hc : c = '\n' <;> ext <;> simp [behind, advance, hc, Nat.add_comm]

theorem after_behind (cs ds : List Char) : (behind cs).after ds = behind (cs ++ ds) := by
  induction ds generalizing cs with
  | nil => simp [after]
  | cons d ds ih =>
    change ((behind cs).advance d).after ds = _
    rw [advance_behind, ih, List.append_assoc]
    rfl

end Position

-- The text behind some characters consists of the tokens with white space around them, and
-- every token is where it says.
inductive Laid : List Char → List Char → List Token → Prop
  | blank {before gap} (space : ∀ c ∈ gap, isSpace c) : Laid before gap []
  | token {before gap t rest ts} (space : ∀ c ∈ gap, isSpace c) (solid : t.text ≠ "")
    (place : t.position = .behind (before ++ gap))
    (others : Laid (before ++ gap ++ t.text.toList) rest ts) :
    Laid before (gap ++ t.text.toList ++ rest) (t :: ts)

-- Behind some characters, the text has the one of the error where the error says.
def LexError.Placed (before cs : List Char) (e : LexError) : Prop :=
  ∃ seen rest, cs = seen ++ e.character :: rest ∧ e.position = .behind (before ++ seen)

namespace Splits

variable {before cs text rest : List Char} {ts : List Token} {e : LexError}

theorem takeWhile_append (hs : cs.dropWhile isSpace = text ++ rest) :
    cs.takeWhile isSpace ++ text ++ rest = cs := by
  rw [List.append_assoc, ← hs, List.takeWhile_append_dropWhile]

theorem after_behind_takeWhile :
    ((Position.behind before).after (cs.takeWhile isSpace)).after text =
      .behind (before ++ cs.takeWhile isSpace ++ text) := by
  rw [Position.after_behind, Position.after_behind]

theorem laid (h : Splits (.behind before) cs (.ok ts)) : Laid before cs ts := by
  generalize hp : Position.behind before = p, hr : Except.ok ts = result at h
  induction h generalizing before ts with
  | done hs =>
    cases hr
    exact .blank (List.dropWhile_eq_nil_iff.mp hs)
  | stuck => cases hr
  | @token _ cs k text rest result hs hl _ ih =>
    subst hp
    cases result with
    | error e => cases hr
    | ok ts =>
      cases hr
      have ht : (String.ofList text).toList = text := String.toList_ofList
      have hn : String.ofList text ≠ "" := fun hn => hl.valid.ne_nil (ht ▸ hn ▸ rfl)
      have ho := ht.symm ▸ ih after_behind_takeWhile.symm rfl
      have h := Laid.token (t := ⟨k, .ofList text, _⟩) (fun _ => List.mem_takeWhile_imp) hn
        (Position.after_behind ..) ho
      rwa [ht, takeWhile_append hs] at h

theorem placed (h : Splits (.behind before) cs (.error e)) : e.Placed before cs := by
  generalize hp : Position.behind before = p, hr : Except.error e = result at h
  induction h generalizing before with
  | done => cases hr
  | @stuck _ cs c rest hs hf =>
    subst hp
    cases hr
    refine ⟨cs.takeWhile isSpace, rest, ?_, Position.after_behind ..⟩
    rw [← hs, List.takeWhile_append_dropWhile]
  | @token _ cs k text rest result hs hl _ ih =>
    subst hp
    cases result with
    | ok ts => cases hr
    | error e =>
      cases hr
      obtain ⟨seen, rest, rfl, he⟩ := ih after_behind_takeWhile.symm rfl
      refine ⟨cs.takeWhile isSpace ++ text ++ seen, rest, ?_, ?_⟩
      · rw [List.append_assoc, takeWhile_append hs]
      · rw [he]
        simp only [List.append_assoc]

end Splits

-- No character of a statement is lost, and all positions are right.
theorem tokenize_laid (text : String) :
    match tokenize text with
    | .ok ts   => Laid [] text.toList ts
    | .error e => e.Placed [] text.toList ∧ text.toList[e.position.offset]? = some e.character := by
  have h : Splits (.behind []) text.toList (tokenize text) := tokenize_splits text
  split
  case h_1 ht => exact (ht ▸ h).laid
  case h_2 ht =>
    have hp := (ht ▸ h).placed
    refine ⟨hp, ?_⟩
    obtain ⟨seen, rest, hs, he⟩ := hp
    rw [hs, he]
    simp [Position.behind]

end SelectLang
