import SelectLang.Command.Run
import SelectLang.Proofs.Token.Longest

namespace SelectLang

def Format.name : Format → String
  | json   => "json"
  | pretty => "pretty"
  | text   => "text"

theorem Format.ofName?_eq_some_iff {name : String} {f : Format} :
    ofName? name = some f ↔ name = f.name := by
  constructor
  case mp =>
    intro h
    unfold ofName? at h
    split at h <;> cases h <;> rfl
  case mpr =>
    rintro rfl
    cases f <;> rfl

def Command.Subcommand.name : Subcommand → String
  | select    => "select"
  | check     => "check"
  | tokens    => "tokens"
  | reference => "syntax"

theorem Command.Subcommand.ofName?_name (s : Subcommand) : ofName? s.name = some s := by
  cases s <;> rfl

namespace Command

open Lexeme (IsDigits)

namespace Argument

-- A point with digits behind it or without any, if there is a point at all.
inductive IsPoint : List Char → Prop
  | absent : IsPoint []
  | present {ds} (digits : ∀ c ∈ ds, c.isDigit) : IsPoint ('.' :: ds)

inductive IsExponent : List Char → Prop
  | absent : IsExponent []
  | present {ds} (digits : IsDigits ds) : IsExponent ('e' :: ds)

inductive IsNegative : List Char → Prop
  | parts {ds point exponent} (digits : IsDigits ds) (pointed : IsPoint point)
    (scaled : IsExponent exponent) : IsNegative ('-' :: (ds ++ point ++ exponent))

-- Words do not start like options do, except for the dash by itself and for negative numbers.
def IsPlain (text : String) : Prop :=
  text.toList.head? = some '-' → text = "-" ∨ IsNegative text.toList

variable {cs ds point exponent : List Char} {text : String}

-- The characters of a number in front of its exponent.
def isWhole (c : Char) : Bool :=
  c.isDigit || c == '.'

theorem isNumber_eq (cs : List Char) :
    isNumber cs = ((cs.takeWhile isWhole).head?.all Char.isDigit &&
      (cs.takeWhile isWhole).count '.' ≤ 1 &&
      match cs.dropWhile isWhole with
      | []      => true
      | e :: ds => e == 'e' && cs.takeWhile isWhole ≠ [] && ds ≠ [] && ds.all Char.isDigit) := by
  have hd := congrArg (List.drop (cs.takeWhile isWhole).length)
    (List.takeWhile_append_dropWhile (p := isWhole) (l := cs))
  rw [List.drop_left] at hd
  rw [hd]
  rfl

theorem isWhole_of_isDigit (h : ∀ c ∈ cs, c.isDigit) : ∀ c ∈ cs, isWhole c := fun c hc => by
  simp [isWhole, h c hc]

theorem count_of_isDigit (h : ∀ c ∈ cs, c.isDigit) : cs.count '.' = 0 :=
  List.count_eq_zero.mpr fun hp => absurd (h '.' hp) (by decide)

theorem IsPoint.isWhole (h : IsPoint point) : ∀ c ∈ point, isWhole c := by
  cases h with
  | absent     => exact nofun
  | present hd => exact List.forall_mem_cons.mpr ⟨rfl, isWhole_of_isDigit hd⟩

theorem IsPoint.count_le (h : IsPoint point) : point.count '.' ≤ 1 := by
  cases h with
  | absent     => exact Nat.zero_le 1
  | present hd => simp [count_of_isDigit hd]

theorem exists_isPoint (hn : cs ≠ []) (hw : ∀ c ∈ cs, isWhole c) (hd : cs.head?.all Char.isDigit)
    (hc : cs.count '.' ≤ 1) : ∃ ds point, IsDigits ds ∧ IsPoint point ∧ cs = ds ++ point := by
  have digits {ds : List Char} (hs : ds ⊆ cs) (hp : '.' ∉ ds) : ∀ c ∈ ds, c.isDigit := by
    intro c hm
    have hc : c ≠ '.' := fun he => hp (he ▸ hm)
    simpa [isWhole, hc] using hw c (hs hm)
  by_cases hp : '.' ∈ cs
  case neg =>
    exact ⟨cs, [], ⟨hn, digits (List.Subset.refl _) hp⟩, .absent, (List.append_nil _).symm⟩
  case pos =>
    obtain ⟨ds, es, rfl, hds⟩ := List.eq_append_cons_of_mem hp
    have hes : '.' ∉ es := by
      rw [List.count_append, List.count_cons_self] at hc
      exact List.count_eq_zero.mp (by omega)
    refine ⟨ds, '.' :: es, ⟨?_, digits (by simp) hds⟩, .present (digits (by simp) hes), rfl⟩
    rintro rfl
    contradiction

theorem isNumber_iff : isNumber cs ↔ cs = [] ∨ IsNegative ('-' :: cs) := by
  rw [isNumber_eq]
  simp only [Bool.and_eq_true, decide_eq_true_eq]
  constructor
  case mp =>
    intro ⟨⟨hd, hc⟩, he⟩
    have ht := List.takeWhile_append_dropWhile (p := isWhole) (l := cs)
    have hw : ∀ c ∈ cs.takeWhile isWhole, isWhole c := fun _ => List.mem_takeWhile_imp
    by_cases hn : cs.takeWhile isWhole = []
    case pos =>
      cases hx : cs.dropWhile isWhole with
      | nil      => exact .inl (by rw [← ht, hn, hx, List.append_nil])
      | cons _ _ => simp [hx, hn] at he
    case neg =>
      obtain ⟨ds, point, hds, hp, hwhole⟩ := exists_isPoint hn hw hd hc
      refine .inr ?_
      rw [← ht, hwhole]
      refine .parts hds hp ?_
      cases hx : cs.dropWhile isWhole with
      | nil       => exact .absent
      | cons e es =>
        simp only [hx, Bool.and_eq_true, beq_iff_eq, decide_eq_true_eq, List.all_eq_true] at he
        obtain ⟨⟨⟨rfl, -⟩, hes⟩, hds⟩ := he
        exact .present ⟨hes, hds⟩
  case mpr =>
    rintro (rfl | h)
    · decide
    · cases h with
      | @parts ds point exponent hd hp he =>
        have hw : ∀ c ∈ ds ++ point, isWhole c :=
          List.forall_mem_append.mpr ⟨isWhole_of_isDigit hd.2, hp.isWhole⟩
        have hc : (ds ++ point).count '.' ≤ 1 := by
          rw [List.count_append, count_of_isDigit hd.2, Nat.zero_add]
          exact hp.count_le
        have hn : ds ++ point ≠ [] := mt List.append_eq_nil_iff.mp fun h => hd.1 h.1
        have hh : (ds ++ point).head?.all Char.isDigit := by
          obtain ⟨d, ds, rfl, hf⟩ := hd.exists_cons
          exact hf
        rw [List.takeWhile_append_of_pos hw, List.dropWhile_append_of_pos hw]
        generalize ds ++ point = whole at hh hc hn
        cases he with
        | absent => simp [hh, hc]
        | present hd =>
          have he : isWhole 'e' = false := by decide
          simpa [he, hh, hc, hn, hd.1] using hd.2

theorem isWord_iff : isWord text ↔ IsPlain text := by
  unfold isWord
  split
  case h_1 cs ht =>
    have hd : text = "-" ↔ cs = [] := by
      rw [← String.toList_inj, ht]
      exact ⟨fun h => (List.cons.inj h).2, fun h => h ▸ rfl⟩
    rw [isNumber_iff, IsPlain, ht, hd]
    exact (imp_iff_right rfl).symm
  case h_2 hn =>
    refine iff_of_true rfl fun h => ?_
    obtain ⟨cs, ht⟩ := List.head?_eq_some_iff.mp h
    exact absurd ht (hn cs)

end Argument

-- The spellings of the format option, each as one argument or as two.
def spellings (f : Format) : List (List String) :=
  [["-f", f.name], ["-f" ++ f.name], ["-f=" ++ f.name], ["--format", f.name],
    ["--format=" ++ f.name]]

-- The option stands somewhere among the arguments.
def Inserted (option args args' : List String) : Prop :=
  ∃ before behind, args = before ++ behind ∧ args' = before ++ option ++ behind

-- The words in their order, with the option for the syntax alone among them or without it.
inductive Marked (words : List String) : Bool → List String → Prop
  | absent : Marked words false words
  | present {args} (inserted : Inserted ["--syntax-only"] words args) : Marked words true args

-- The command lines that ask for a subcommand with words and options. The format option stands
-- in front of the subcommand, or behind it among the words.
inductive Line (s : Subcommand) (words : List String) : Option Format → Bool → List String → Prop
  | absent {syntaxOnly args} (marked : Marked words syntaxOnly args) :
    Line s words none syntaxOnly (s.name :: args)
  | front {f syntaxOnly option args} (spelled : option ∈ spellings f)
    (marked : Marked words syntaxOnly args) :
    Line s words (some f) syntaxOnly (option ++ s.name :: args)
  | behind {f syntaxOnly option args args'} (spelled : option ∈ spellings f)
    (marked : Marked words syntaxOnly args) (inserted : Inserted option args args') :
    Line s words (some f) syntaxOnly (s.name :: args')

namespace Argument

variable {texts option : List String} {f : Format}

-- An argument that is read by itself, whatever comes behind it.
def Single (text : String) : Prop :=
  text ≠ "--" ∧ text ≠ "-f" ∧ text ≠ "--format"

instance : Decidable (Single text) :=
  inferInstanceAs (Decidable (_ ∧ _))

theorem ofList_cons (h : Single text) (rest : List String) :
    ofList (text :: rest) = ofText text :: ofList rest := by
  have ⟨hd, hf, hf'⟩ := h
  rw [ofList.eq_def]
  simp only [hd, hf, hf', if_false, or_self]

theorem ofList_append (h : ∀ text ∈ texts, Single text) (rest : List String) :
    ofList (texts ++ rest) = texts.map ofText ++ ofList rest := by
  induction texts with
  | nil => rfl
  | cons text texts ih =>
    have ⟨ht, hts⟩ := List.forall_mem_cons.mp h
    rw [List.cons_append, ofList_cons ht, ih hts, List.map_cons, List.cons_append]

theorem single_of_isWord (h : isWord text) : Single text := by
  refine ⟨?_, ?_, ?_⟩ <;>
  · rintro rfl
    exact absurd h (by decide)

theorem ofText_of_isWord (h : isWord text) : ofText text = .word text :=
  if_pos h

theorem ofList_spelling (h : option ∈ spellings f) (rest : List String) :
    ofList (option ++ rest) = .format f.name :: ofList rest := by
  have ha : ∀ text ∈ ["-f" ++ f.name, "-f=" ++ f.name, "--format=" ++ f.name],
      Single text ∧ ofText text = .format f.name := by
    cases f <;> decide
  simp only [List.forall_mem_cons] at ha
  obtain ⟨⟨hs, ht⟩, ⟨hs', ht'⟩, ⟨hs'', ht''⟩, -⟩ := ha
  simp only [spellings, List.mem_cons, List.not_mem_nil, or_false] at h
  obtain rfl | rfl | rfl | rfl | rfl := h
  · rfl
  · exact ht ▸ ofList_cons hs rest
  · exact ht' ▸ ofList_cons hs' rest
  · rfl
  · exact ht'' ▸ ofList_cons hs'' rest

def isOption : Argument → Bool
  | format _   => true
  | syntaxOnly => true
  | _          => false

end Argument

namespace Invocation

variable {i i' : Invocation} {a b : Argument} {as bs : List Argument} {words : List String}

theorem addWord_setFormat (i : Invocation) (text value : String) :
    (i.addWord text).bind (·.setFormat value) = (i.setFormat value).bind (·.addWord text) := by
  obtain ⟨s, words, format, syntaxOnly⟩ := i
  cases hw : s.takesWords <;> cases format <;> cases hf : Format.ofName? value <;>
    simp [addWord, setFormat, hw, hf]

theorem addWord_setSyntaxOnly (i : Invocation) (text : String) :
    (i.addWord text).bind setSyntaxOnly = i.setSyntaxOnly.bind (·.addWord text) := by
  obtain ⟨s, words, format, syntaxOnly⟩ := i
  cases hw : s.takesWords <;> cases hs : s.takesSyntaxOnly <;> cases syntaxOnly <;>
    simp [addWord, setSyntaxOnly, hw, hs]

theorem setFormat_setSyntaxOnly (i : Invocation) (value : String) :
    (i.setFormat value).bind setSyntaxOnly = i.setSyntaxOnly.bind (·.setFormat value) := by
  obtain ⟨s, words, format, syntaxOnly⟩ := i
  cases format <;> cases hf : Format.ofName? value <;> cases hs : s.takesSyntaxOnly <;>
    cases syntaxOnly <;> simp [setFormat, setSyntaxOnly, hf, hs]

-- The format is set once at most, whichever of the two comes first.
theorem setFormat_setFormat (i : Invocation) (value value' : String) :
    (i.setFormat value).bind (·.setFormat value') = none := by
  obtain ⟨s, words, format, syntaxOnly⟩ := i
  cases format <;> cases hf : Format.ofName? value <;> simp [setFormat, hf]

-- An option may as well be read before what stands in front of it.
theorem add_comm (i : Invocation) (ha : a.isOption) (b : Argument) :
    (i.add b).bind (·.add a) = (i.add a).bind (·.add b) := by
  have hn (o : Option Invocation) : o.bind (fun _ => (none : Option Invocation)) = none := by
    cases o <;> rfl
  cases a with
  | format value =>
    cases b with
    | word text | plain text => exact i.addWord_setFormat text value
    | format value'          => simp only [add, setFormat_setFormat]
    | syntaxOnly             => exact (i.setFormat_setSyntaxOnly value).symm
    | version | unusable     => exact (hn _).symm
  | syntaxOnly =>
    cases b with
    | word text | plain text => exact i.addWord_setSyntaxOnly text
    | format value           => exact i.setFormat_setSyntaxOnly value
    | syntaxOnly             => rfl
    | version | unusable     => exact (hn _).symm
  | word _ | plain _ | version | unusable => contradiction

theorem foldlM_add_insert (i : Invocation) (ha : a.isOption) (as bs : List Argument) :
    (as ++ a :: bs).foldlM add i = (a :: (as ++ bs)).foldlM add i := by
  induction as generalizing i with
  | nil => rfl
  | cons b as ih =>
    calc (b :: (as ++ a :: bs)).foldlM add i
      _ = (i.add b).bind ((a :: (as ++ bs)).foldlM add) := congrArg (i.add b).bind (funext (ih ·))
      _ = ((i.add b).bind (·.add a)).bind ((as ++ bs).foldlM add) := (Option.bind_assoc ..).symm
      _ = ((i.add a).bind (·.add b)).bind ((as ++ bs).foldlM add) := by rw [add_comm i ha]
      _ = (a :: b :: (as ++ bs)).foldlM add i := Option.bind_assoc ..

theorem foldlM_add_option (ha : a.isOption) (h : i.add a = some i') (as bs : List Argument) :
    (as ++ a :: bs).foldlM add i = (as ++ bs).foldlM add i' := by
  rw [foldlM_add_insert i ha, List.foldlM_cons, h]
  rfl

theorem foldlM_add_words (hw : i.subcommand.takesWords) {f : String → Argument}
    (hf : ∀ i text, add i (f text) = i.addWord text) (words : List String) :
    (words.map f).foldlM add i = some { i with words := i.words ++ words } := by
  induction words generalizing i with
  | nil => simp
  | cons word words ih =>
    have ha : i.addWord word = some { i with words := i.words ++ [word] } := if_pos hw
    rw [List.map_cons, List.foldlM_cons, hf, ha]
    have ih := ih (i := { i with words := i.words ++ [word] }) hw
    rwa [List.append_assoc] at ih

end Invocation

namespace Marked

variable {s : Subcommand} {words args : List String} {format : Option Format} {syntaxOnly : Bool}

theorem single (h : Marked words syntaxOnly args) (hw : ∀ word ∈ words, Argument.IsPlain word) :
    ∀ text ∈ args, Argument.Single text := by
  have hs : ∀ word ∈ words, Argument.Single word := fun word hm =>
    Argument.single_of_isWord (Argument.isWord_iff.mpr (hw word hm))
  cases h with
  | absent     => exact hs
  | present hi =>
    obtain ⟨before, behind, rfl, rfl⟩ := hi
    have ⟨hb, hb'⟩ := List.forall_mem_append.mp hs
    have ho : ∀ text ∈ ["--syntax-only"], Argument.Single text := by decide
    exact List.forall_mem_append.mpr ⟨List.forall_mem_append.mpr ⟨hb, ho⟩, hb'⟩

theorem foldlM_add (h : Marked words syntaxOnly args) (hw : ∀ word ∈ words, Argument.IsPlain word)
    (hs : s.takesWords) (ho : syntaxOnly → s.takesSyntaxOnly) (format : Option Format) :
    (args.map Argument.ofText).foldlM Invocation.add { subcommand := s, format } =
      some { subcommand := s, words, format, syntaxOnly } := by
  have ht : words.map Argument.ofText = words.map Argument.word :=
    List.map_congr_left fun word hm =>
      Argument.ofText_of_isWord (Argument.isWord_iff.mpr (hw word hm))
  cases h with
  | absent =>
    rw [ht]
    exact Invocation.foldlM_add_words hs (fun _ _ => rfl) words
  | present hi =>
    obtain ⟨before, behind, rfl, rfl⟩ := hi
    have hm : Invocation.add { subcommand := s, format } .syntaxOnly =
        some { subcommand := s, format, syntaxOnly := true } := by
      simp [Invocation.add, Invocation.setSyntaxOnly, ho]
    have hx : Argument.ofText "--syntax-only" = .syntaxOnly := by decide
    rw [List.append_assoc, List.map_append, List.map_append, List.map_singleton, hx,
      List.singleton_append, Invocation.foldlM_add_option rfl hm, ← List.map_append, ht]
    exact Invocation.foldlM_add_words hs (fun _ _ => rfl) _

end Marked

namespace Line

variable {s : Subcommand} {words texts arguments more : List String} {format : Option Format}
variable {syntaxOnly : Bool} {i : Invocation} {as : List Argument}

theorem ofList_name (s : Subcommand) (rest : List String) :
    Argument.ofList (s.name :: rest) = .word s.name :: Argument.ofList rest := by
  have hn : Argument.Single s.name ∧ Argument.ofText s.name = .word s.name := by
    cases s <;> decide
  rw [Argument.ofList_cons hn.1, hn.2]

theorem read?_name (outer : Option Format)
    (h : as.foldlM Invocation.add { subcommand := s } = some i) :
    Request.read? outer (.word s.name :: as) =
      some (.invoke { i with format := i.format <|> outer }) := by
  simp [Request.read?, s.ofName?_name, h]

theorem read?_format (f : Format) (as : List Argument) :
    Request.read? none (.format f.name :: as) = Request.read? (some f) as := by
  simp [Request.read?, Format.ofName?_eq_some_iff.mpr rfl]

-- What a command line asks for, with more words behind a double dash or without.
theorem ofArguments?_append (h : Line s words format syntaxOnly arguments)
    (hw : ∀ word ∈ words, Argument.IsPlain word) (hs : s.takesWords)
    (ho : syntaxOnly → s.takesSyntaxOnly) (hm : Argument.ofList more = texts.map Argument.plain) :
    Request.ofArguments? (arguments ++ more) =
      some (.invoke { subcommand := s, words := words ++ texts, format, syntaxOnly }) := by
  have hmore {as : List Argument} {format : Option Format}
      (h : as.foldlM Invocation.add { subcommand := s } =
        some { subcommand := s, words, format, syntaxOnly }) :
      (as ++ texts.map Argument.plain).foldlM Invocation.add { subcommand := s } =
        some { subcommand := s, words := words ++ texts, format, syntaxOnly } := by
    rw [List.foldlM_append, h]
    exact Invocation.foldlM_add_words hs (fun _ _ => rfl) texts
  cases h with
  | @absent _ args hargs =>
    rw [Request.ofArguments?, List.cons_append, ofList_name,
      Argument.ofList_append (hargs.single hw), hm]
    exact read?_name none (hmore (hargs.foldlM_add hw hs ho none))
  | @front f _ option args hf hargs =>
    rw [Request.ofArguments?, List.append_assoc, Argument.ofList_spelling hf, List.cons_append,
      ofList_name, Argument.ofList_append (hargs.single hw), hm, read?_format]
    exact read?_name (some f) (hmore (hargs.foldlM_add hw hs ho none))
  | @behind f _ option args args' hf hargs hi =>
    obtain ⟨before, behind, rfl, rfl⟩ := hi
    have ⟨hb, hb'⟩ := List.forall_mem_append.mp (hargs.single hw)
    have hx : Invocation.add { subcommand := s } (.format f.name) =
        some { subcommand := s, format := some f } := by
      simp [Invocation.add, Invocation.setFormat, Format.ofName?_eq_some_iff.mpr rfl]
    have hl := hargs.foldlM_add hw hs ho (some f)
    rw [List.map_append, ← Invocation.foldlM_add_option rfl hx] at hl
    have hl := read?_name none (hmore hl)
    simpa [Request.ofArguments?, ofList_name, List.append_assoc, Argument.ofList_append hb,
      Argument.ofList_spelling hf, Argument.ofList_append hb', hm] using hl

theorem ofArguments? (h : Line s words format syntaxOnly arguments)
    (hw : ∀ word ∈ words, Argument.IsPlain word) (hs : s.takesWords)
    (ho : syntaxOnly → s.takesSyntaxOnly) :
    Request.ofArguments? arguments =
      some (.invoke { subcommand := s, words, format, syntaxOnly }) := by
  have hm : Argument.ofList [] = ([] : List String).map Argument.plain := rfl
  simpa using h.ofArguments?_append hw hs ho hm

end Line

variable {s : Subcommand} {words arguments : List String} {format : Option Format} {f : Format}
variable {setting : Option String} {syntaxOnly : Bool}

theorem exists_environmentFormat? (hf : ∀ name ∈ setting, ∃ f : Format, name = f.name) :
    ∃ f, environmentFormat? setting = some f := by
  cases setting with
  | none      => exact ⟨.json, rfl⟩
  | some name =>
    have ⟨f, hn⟩ := hf name rfl
    exact ⟨f, Format.ofName?_eq_some_iff.mpr hn⟩

theorem run_of_ofArguments? {i : Invocation} (h : Request.ofArguments? arguments = some (.invoke i))
    (hd : environmentFormat? setting = some f) (input : ByteArray) :
    run arguments setting input = i.run f input := by
  simp [run, request?, h, hd]

-- Options stand anywhere. All that counts is which ones there are, and the words in their order.
theorem run_of_line (hl : Line s words (some f) syntaxOnly arguments)
    (hw : ∀ word ∈ words, Argument.IsPlain word) (hs : s.takesWords)
    (ho : syntaxOnly → s.takesSyntaxOnly) (hf : ∀ name ∈ setting, ∃ f : Format, name = f.name)
    (input : ByteArray) :
    run arguments setting input =
      Invocation.run { subcommand := s, words, format := some f, syntaxOnly } .json input := by
  have ⟨_, hd⟩ := exists_environmentFormat? hf
  exact run_of_ofArguments? (hl.ofArguments? hw hs ho) hd input

-- Words that look like options, with options around them that are not to be taken for words.
theorem run_of_line_dashes :
    let words := ["a", "from", "c", "where", "x", "=", "-", "and", "y", "<", "-2.5"]
    let arguments := ["select", "a", "from", "c", "where", "--syntax-only", "x", "=", "-", "and",
      "y", "-ftext", "<", "-2.5"]
    Line .select words (some .text) true arguments ∧ (∀ word ∈ words, Argument.IsPlain word) ∧
      (∀ name ∈ some "pretty", ∃ f : Format, name = f.name) ∧
      run arguments (some "pretty") .empty = ⟨0, "Syntax is valid\n", ""⟩ := by
  intro words arguments
  have ho : ["-ftext"] ∈ spellings .text := by decide
  have hl : Line .select words (some .text) true arguments :=
    .behind ho (.present ⟨["a", "from", "c", "where"], _, rfl, rfl⟩)
      ⟨["a", "from", "c", "where", "--syntax-only", "x", "=", "-", "and", "y"], _, rfl, rfl⟩
  have hw : ∀ word ∈ words, Argument.IsPlain word := by
    simp only [← Argument.isWord_iff]
    decide
  have hf : ∀ name ∈ some "pretty", ∃ f : Format, name = f.name := by
    rintro _ ⟨⟩
    exact ⟨.pretty, rfl⟩
  refine ⟨hl, hw, hf, (run_of_line hl hw rfl (fun _ => rfl) hf .empty).trans ?_⟩
  decide +kernel

end Command

end SelectLang
