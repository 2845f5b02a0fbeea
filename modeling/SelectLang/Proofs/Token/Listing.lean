import SelectLang.Command.Check
import SelectLang.Proofs.Token.Longest

namespace SelectLang

variable {m : Char} {cs ds word : List Char} {k : Token.Kind} {t : Token} {ts : List Token}
variable {text : String}

-- Characters without white space among them.
def Solid (cs : List Char) : Prop :=
  ∀ c ∈ cs, isSpace c = false

instance : Decidable (Solid cs) :=
  List.decidableBAll _ cs

namespace Solid

theorem append (h : Solid cs) (h' : Solid ds) : Solid (cs ++ ds) :=
  List.forall_mem_append.mpr ⟨h, h'⟩

theorem cons (hm : isSpace m = false) (h : Solid cs) : Solid (m :: cs) :=
  List.forall_mem_cons.mpr ⟨hm, h⟩

theorem not_mem (h : Solid cs) (hm : isSpace m) : m ∉ cs :=
  fun hc => absurd hm (by simp [h m hc])

theorem head?_ne (h : Solid cs) : cs.head? ≠ some ' ' := fun hc =>
  h.not_mem (m := ' ') (by decide) (List.mem_of_mem_head? hc)

theorem of_isDigits (h : Lexeme.IsDigits cs) : Solid cs := fun c hc =>
  Bool.eq_false_iff.mpr fun hs => absurd (h.2 c hc) (by simp [not_isDigit_of_isSpace hs])

theorem of_unsigned (h : Lexeme.Unsigned cs) : Solid cs := by
  cases h with
  | integer hd    => exact of_isDigits hd
  | decimal hd hp => exact (of_isDigits hd).append (cons (by decide) (of_isDigits hp))

theorem of_continuesPath (h : ∀ c ∈ cs, Word.continuesPath c) : Solid cs := fun c hc =>
  Bool.eq_false_iff.mpr fun hs => absurd (h c hc) (by simp [Word.continuesPath_of_isSpace hs])

-- No token has white space in it.
theorem of_valid (h : Lexeme.Valid k cs) : Solid cs := by
  cases h with
  | identifier hc hcs =>
    refine of_continuesPath (List.forall_mem_cons.mpr ⟨Word.continuesPath_of_opens hc, ?_⟩)
    exact fun d hd => Word.continuesPath_of_continues (hcs d hd)
  | path hc hcs _ =>
    exact of_continuesPath (List.forall_mem_cons.mpr ⟨Word.continuesPath_of_opens hc, hcs⟩)
  | number hu   => exact of_unsigned hu
  | negative hu => exact cons (by decide) (of_unsigned hu)
  | operator hm =>
    have hs : ∀ cs ∈ [['>'], ['>', '='], ['<'], ['<', '='], ['='], ['=', '=']], Solid cs := by
      decide
    exact hs _ hm
  | punctuation hm =>
    have hs : Solid [',', '.', '(', ')', '*', '+', '-'] := by decide
    exact List.forall_mem_singleton.mpr (hs _ hm)

theorem of_mem_tokenize (h : tokenize text = .ok ts) : ∀ t ∈ ts, Solid t.text.toList :=
  fun _ ht => of_valid (valid_of_mem_tokenize h ht)

end Solid

namespace Position

theorem toList_text (p : Position) :
    p.text.toList = [':'].intercalate [Nat.toDigits 10 p.line, Nat.toDigits 10 p.column] := by
  simp [text, toString, Nat.toList_repr]

theorem solid_text (p : Position) : Solid p.text.toList := by
  have hd (n : Nat) := Solid.of_isDigits (.toDigits n)
  rw [toList_text]
  simpa using (hd p.line).append ((hd p.column).cons (m := ':') (by decide))

end Position

namespace Token

theorem Kind.solid_name (k : Kind) : Solid k.name.toList := by
  cases k <;> decide

-- What a listing tells of a token: all but the offset.
structure Row where
  line   : Nat
  column : Nat
  kind   : Kind
  text   : String
  deriving DecidableEq, Repr

def row (t : Token) : Row where
  line   := t.position.line
  column := t.position.column
  kind   := t.kind
  text   := t.text

-- The pieces of a line between its runs of spaces.
def splitSpaces : List Char → List (List Char)
  | []               => [[]]
  | ' ' :: ' ' :: cs => splitSpaces (' ' :: cs)
  | ' ' :: cs        => [] :: splitSpaces cs
  | c :: cs          => (splitSpaces cs).modifyHead (c :: ·)

namespace Row

def kind? (name : List Char) : Option Kind :=
  [.identifier, .path, .number, .operator, .punctuation].find? (·.name.toList == name)

def ofLine? (line : List Char) : Option Row :=
  match splitSpaces line with
  | [place, name, text] =>
    match place.splitOn ':' with
    | [line, column] =>
      (kind? name).map fun kind => {
        line   := Nat.ofDigitChars 10 line 0
        column := Nat.ofDigitChars 10 column 0
        kind   := kind
        text   := .ofList text
      }
    | _ => none
  | _ => none

-- Reads the rows of a listing back. A listing without rows has no line either.
def ofListing? (listing : String) : Option (List Row) :=
  if listing = "" then some [] else (listing.toList.splitOn '\n').mapM ofLine?

end Row

theorem splitSpaces_cons (h : m ≠ ' ') :
    splitSpaces (m :: cs) = (splitSpaces cs).modifyHead (m :: ·) := by
  rw [splitSpaces]
  · rintro _ rfl
    contradiction
  · rintro rfl
    contradiction

theorem splitSpaces_of_solid (h : Solid word) : splitSpaces word = [word] := by
  induction word with
  | nil => rfl
  | cons c word ih =>
    have ⟨hc, hw⟩ := List.forall_mem_cons.mp h
    have hc : c ≠ ' ' := by
      rintro rfl
      contradiction
    rw [splitSpaces_cons hc, ih hw, List.modifyHead_cons]

-- A run of spaces separates as much as one space does.
theorem splitSpaces_append (hw : Solid word) (n : Nat) (h : cs.head? ≠ some ' ') :
    splitSpaces (word ++ ' ' :: (List.replicate n ' ' ++ cs)) = word :: splitSpaces cs := by
  induction word with
  | nil =>
    induction n with
    | zero =>
      rw [List.replicate_zero, List.nil_append, List.nil_append, splitSpaces]
      rintro ds rfl
      exact h rfl
    | succ n ih => exact ih
  | cons c word ih =>
    have ⟨hc, hw⟩ := List.forall_mem_cons.mp hw
    have hc : c ≠ ' ' := by
      rintro rfl
      contradiction
    rw [List.cons_append, splitSpaces_cons hc, ih hw, List.modifyHead_cons]

-- A column ends in spaces, or in none if the text is too wide for it.
theorem splitSpaces_column (width : Nat) (hw : Solid text.toList) (h : cs.head? ≠ some ' ') :
    splitSpaces ((column width text).toList ++ ' ' :: cs) = text.toList :: splitSpaces cs := by
  have hr (n : Nat) : List.replicate n ' ' ++ ' ' :: cs = ' ' :: (List.replicate n ' ' ++ cs) := by
    rw [List.append_cons, ← List.replicate_succ', List.replicate_succ, List.cons_append]
  rw [column, String.toList_ofList, List.rightpad, List.append_assoc, hr, splitSpaces_append hw _ h]

-- Apart from its text, there is nothing but spaces in a column.
theorem not_mem_column (width : Nat) (hm : m ∉ text.toList) (hs : m ≠ ' ') :
    m ∉ (column width text).toList := by
  simp [column, List.rightpad, hm, hs]

theorem head?_column (width : Nat) (ht : text ≠ "") :
    ((column width text).toList ++ cs).head? = text.toList.head? := by
  obtain ⟨c, ds, hc⟩ := List.exists_cons_of_ne_nil (mt String.toList_eq_nil_iff.mp ht)
  simp [column, List.rightpad, hc]

theorem Kind.name_ne_empty (k : Kind) : k.name ≠ "" := by
  cases k <;> decide

theorem toList_listingLine (t : Token) :
    t.listingLine.toList = (column 6 t.position.text).toList ++
      ' ' :: ((column 12 t.kind.name).toList ++ ' ' :: t.text.toList) := by
  simp [listingLine, toString]

theorem splitSpaces_listingLine (h : Solid t.text.toList) :
    splitSpaces t.listingLine.toList =
      [t.position.text.toList, t.kind.name.toList, t.text.toList] := by
  have hk : ((column 12 t.kind.name).toList ++ ' ' :: t.text.toList).head? ≠ some ' ' :=
    head?_column 12 t.kind.name_ne_empty ▸ t.kind.solid_name.head?_ne
  rw [toList_listingLine, splitSpaces_column 6 t.position.solid_text hk,
    splitSpaces_column 12 t.kind.solid_name h.head?_ne, splitSpaces_of_solid h]

theorem not_mem_listingLine (h : Solid t.text.toList) : '\n' ∉ t.listingLine.toList := by
  have hp := not_mem_column 6 (t.position.solid_text.not_mem (m := '\n') (by decide)) (by decide)
  have hk := not_mem_column 12 (t.kind.solid_name.not_mem (m := '\n') (by decide)) (by decide)
  have ht := h.not_mem (m := '\n') (by decide)
  simp [toList_listingLine, hp, hk, ht]

theorem splitOn_listing (hn : ts ≠ []) (hs : ∀ t ∈ ts, Solid t.text.toList) :
    (listing ts).toList.splitOn '\n' = ts.map (·.listingLine.toList) := by
  have hl : ∀ line ∈ ts.map (·.listingLine.toList), '\n' ∉ line :=
    List.forall_mem_map.mpr fun t ht => not_mem_listingLine (hs t ht)
  have hl := List.splitOn_intercalate '\n' hl (by simpa using hn)
  rwa [listing, String.toList_intercalate, List.map_map]

theorem Row.kind?_name (k : Kind) : kind? k.name.toList = some k := by
  cases k <;> decide

theorem Row.ofLine?_listingLine (h : Solid t.text.toList) :
    ofLine? t.listingLine.toList = some t.row := by
  have hc (n : Nat) : ':' ∉ Nat.toDigits 10 n := fun hm =>
    absurd ((Lexeme.IsDigits.toDigits n).2 ':' hm) (by decide)
  have hp : ([':'].intercalate [Nat.toDigits 10 t.position.line,
      Nat.toDigits 10 t.position.column]).splitOn ':' = _ :=
    List.splitOn_intercalate ':' (by simp [hc]) (by simp)
  simp only [ofLine?, splitSpaces_listingLine h, t.position.toList_text, hp, kind?_name,
    Option.map_some, Nat.ofDigitChars_ten_toDigits, String.ofList_toList, row]

theorem Row.mapM_ofLine? (hs : ∀ t ∈ ts, Solid t.text.toList) :
    (ts.map (·.listingLine.toList)).mapM ofLine? = some (ts.map row) := by
  induction ts with
  | nil => rfl
  | cons t ts ih =>
    have ⟨ht, hs⟩ := List.forall_mem_cons.mp hs
    simp only [List.map_cons, List.mapM_cons, ofLine?_listingLine ht, ih hs]
    rfl

theorem listing_ne_empty (hn : ts ≠ []) (hs : ∀ t ∈ ts, Solid t.text.toList) :
    listing ts ≠ "" := by
  intro he
  have hl := splitOn_listing hn hs
  obtain ⟨t, ts, rfl⟩ := List.exists_cons_of_ne_nil hn
  have hl : [[]] = t.listingLine.toList :: ts.map (·.listingLine.toList) := (he ▸ hl :)
  have ht : t.listingLine.toList = [] := (List.cons.inj hl).1.symm
  simp [toList_listingLine] at ht

theorem Row.ofListing?_listing (hs : ∀ t ∈ ts, Solid t.text.toList) :
    ofListing? (listing ts) = some (ts.map row) := by
  by_cases hn : ts = []
  case pos => simp [hn, ofListing?, listing]
  case neg =>
    rw [ofListing?, if_neg (listing_ne_empty hn hs), splitOn_listing hn hs, mapM_ofLine? hs]

end Token

namespace Command

theorem describe_eq_ok_iff {listing : String} :
    describe text = .ok listing ↔ ∃ ts, tokenize text = .ok ts ∧ Token.listing ts = listing := by
  cases h : tokenize text <;> simp [describe, h]

-- A listing has a line for each token, and in the line its place, its kind and its text. So all
-- of this is read back from it, and only texts with the same such tokens have equal listings.
theorem describe_lossless :
    (∀ text ts, tokenize text = .ok ts →
      ∃ listing, describe text = .ok listing ∧
        Token.Row.ofListing? listing = some (ts.map Token.row) ∧
        (ts ≠ [] → (listing.toList.splitOn '\n').map Token.splitSpaces = ts.map fun t =>
          [s!"{t.position.line}:{t.position.column}".toList, t.kind.name.toList, t.text.toList])) ∧
    ∀ text text' listing, describe text = .ok listing → describe text' = .ok listing →
      ∃ ts ts', tokenize text = .ok ts ∧ tokenize text' = .ok ts' ∧
        ts.map Token.row = ts'.map Token.row := by
  have hp (p : Position) : p.text = s!"{p.line}:{p.column}" := rfl
  refine ⟨fun text ts h => ?_, fun text text' listing h h' => ?_⟩
  case refine_1 =>
    have hs := Solid.of_mem_tokenize h
    refine ⟨Token.listing ts, describe_eq_ok_iff.mpr ⟨ts, h, rfl⟩, ?_, fun hn => ?_⟩
    case refine_1 => exact Token.Row.ofListing?_listing hs
    case refine_2 =>
      simp only [Token.splitOn_listing hn hs, List.map_map, Function.comp_def, ← hp]
      exact List.map_congr_left fun t ht => Token.splitSpaces_listingLine (hs t ht)
  case refine_2 =>
    obtain ⟨ts, ht, rfl⟩ := describe_eq_ok_iff.mp h
    obtain ⟨ts', ht', hl⟩ := describe_eq_ok_iff.mp h'
    have hr := Token.Row.ofListing?_listing (Solid.of_mem_tokenize ht)
    have hr' := Token.Row.ofListing?_listing (Solid.of_mem_tokenize ht')
    exact ⟨ts, ts', ht, ht', Option.some.inj (hr.symm.trans (hl ▸ hr'))⟩

-- Texts with equal listings, since their tokens differ in nothing but the offsets.
theorem describe_lossless_offset :
    let text := " \n >=\n naïve/x²"
    let text' := "\n >= \n naïve/x²"
    let ts : List Token := [⟨.operator, ">=", ⟨3, 2, 2⟩⟩, ⟨.path, "naïve/x²", ⟨7, 3, 2⟩⟩]
    let listing := "2:2    operator     >=\n3:2    path         naïve/x²"
    tokenize text = .ok ts ∧ ts ≠ [] ∧ describe text = .ok listing ∧
      describe text' = .ok listing ∧
      (∃ listing, describe text = .ok listing ∧
        Token.Row.ofListing? listing = some (ts.map Token.row) ∧
        (listing.toList.splitOn '\n').map Token.splitSpaces = [
          ["2:2".toList, "operator".toList, ">=".toList],
          ["3:2".toList, "path".toList, "naïve/x²".toList]]) ∧
      ∃ ts ts', tokenize text = .ok ts ∧ tokenize text' = .ok ts' ∧
        ts.map Token.row = ts'.map Token.row := by
  intro text text' ts listing
  have ht : tokenize text = .ok ts := by decide +kernel
  have hn : ts ≠ [] := nofun
  have hd : describe text = .ok listing := by decide +kernel
  have hd' : describe text' = .ok listing := by decide +kernel
  have ⟨l, hl, hr, hw⟩ := describe_lossless.1 text ts ht
  exact ⟨ht, hn, hd, hd', ⟨l, hl, hr, (hw hn).trans (by decide +kernel)⟩,
    describe_lossless.2 text text' listing hd hd'⟩

end Command

end SelectLang
