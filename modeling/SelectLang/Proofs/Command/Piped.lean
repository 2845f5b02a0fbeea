import SelectLang.Proofs.Command.Options
import SelectLang.Proofs.Command.Words

namespace SelectLang

variable {text before statement statement' : String} {ls : List Lexeme}

-- A text is its white space in front, and the rest.
theorem exists_trimStart (text : String) :
    ∃ before, (∀ c ∈ before.toList, isSpace c) ∧
      text = before ++ .ofList (trimStart text.toList) := by
  refine ⟨.ofList (text.toList.takeWhile isSpace), ?_, ?_⟩
  case refine_1 =>
    rw [String.toList_ofList]
    exact fun _ => List.mem_takeWhile_imp
  case refine_2 =>
    rw [← String.ofList_append, trimStart, List.takeWhile_append_dropWhile, String.ofList_toList]

theorem exists_trim (text : String) :
    ∃ gap, (∀ c ∈ gap.toList, isSpace c) ∧ .ofList (trimStart text.toList) = trim text ++ gap := by
  rw [trim]
  generalize trimStart text.toList = cs
  refine ⟨.ofList (cs.reverse.takeWhile isSpace).reverse, ?_, ?_⟩
  case refine_1 =>
    simp only [String.toList_ofList, List.mem_reverse]
    exact fun _ => List.mem_takeWhile_imp
  case refine_2 =>
    rw [← String.ofList_append, trimEnd, trimStart, ← List.reverse_append,
      List.takeWhile_append_dropWhile, List.reverse_reverse]

theorem isBlank_trim (text : String) : isBlank (trim text) = isBlank text := by
  have ⟨before, hb, he⟩ := exists_trimStart text
  have ⟨gap, hg, ht⟩ := exists_trim text
  have hb : isBlank before := List.all_eq_true.mpr hb
  have hg : isBlank gap := List.all_eq_true.mpr hg
  calc isBlank (trim text)
    _ = isBlank (before ++ (trim text ++ gap)) := by simp [isBlank_append, hb, hg]
    _ = isBlank text                           := by rw [← ht, ← he]

theorem isBlank_congr (h : tokenize statement = tokenize statement') :
    isBlank statement = isBlank statement' := by
  rw [Bool.eq_iff_iff, ← tokenize_eq_nil_iff, ← tokenize_eq_nil_iff, h]

namespace Command

variable {s : Subcommand} {syntaxOnly : Bool} {format : Format}

-- The word that a subcommand puts in front of a statement.
def Subcommand.lead : Subcommand → Option String
  | select => some "select"
  | _      => none

-- The statement that a subcommand makes of a single word.
def Subcommand.statementOf (s : Subcommand) (word : String) : String :=
  " ".intercalate (s.lead.toList ++ [word])

-- What a subcommand has to say about a statement, wherever the statement comes from.
def report (s : Subcommand) (syntaxOnly : Bool) (format : Format) (statement : String) : Report :=
  match s with
  | .select | .check => .ofOutcome ((Check.run { statement, syntaxOnly, format }).map Finding.text)
  | .tokens          => .ofOutcome (describe statement)
  | .reference       => .output reference

theorem readStatement_word (hb : isBlank text = false) (lead : Option String) (input : ByteArray) :
    readStatement [text] lead input = .ok (" ".intercalate (lead.toList ++ [text])) := by
  simp [readStatement, statementOf?, hb]

theorem readStatement_input (hb : isBlank text = false) (lead : Option String) :
    readStatement [] lead text.toUTF8 = .ok (" ".intercalate (lead.toList ++ [trim text])) := by
  have hu : String.fromUTF8? text.toUTF8 = some text := by
    simp only [String.fromUTF8?, String.toUTF8_eq_toByteArray, dif_pos text.isValidUTF8]
    rfl
  simp only [readStatement, hu]
  simp [statementOf?, isBlank_trim, hb]

theorem Invocation.check_of_readStatement {i : Invocation} {lead : Option String}
    {input : ByteArray} (h : readStatement i.words lead input = .ok statement) (format : Format) :
    i.check lead format input =
      (Check.run { statement, syntaxOnly := i.syntaxOnly, format }).map Finding.text := by
  cases hr : Check.run { statement, syntaxOnly := i.syntaxOnly, format } <;>
    simp [check, h, hr, Except.map, bind, Except.bind, pure, Except.pure]

-- A run depends on the words and the input only by the statement that it gets from them.
theorem Invocation.run_of_readStatement {i : Invocation} {input : ByteArray}
    (h : readStatement i.words i.subcommand.lead input = .ok statement) (byDefault : Format) :
    i.run byDefault input =
      report i.subcommand i.syntaxOnly (i.format.getD byDefault) statement := by
  obtain ⟨s, words, format, syntaxOnly⟩ := i
  cases s with
  | select    => exact congrArg Report.ofOutcome (check_of_readStatement h _)
  | check     => exact congrArg Report.ofOutcome (check_of_readStatement h _)
  | tokens    => exact congrArg (fun o => Report.ofOutcome (o >>= describe)) h
  | reference => rfl

theorem report_congr (h : tokenize statement = tokenize statement') :
    report s syntaxOnly format statement = report s syntaxOnly format statement' := by
  cases s <;> simp only [report, Check.run, describe, Query.ofText, isBlank_congr h, h]

theorem report_of_checks (hs : s = .select ∨ s = .check) :
    report s syntaxOnly format statement =
      .ofOutcome ((Check.run { statement, syntaxOnly, format }).map Finding.text) := by
  obtain rfl | rfl := hs <;> rfl

theorem report_of_error {e : LexError} (h : tokenize statement = .error e)
    (hs : s = .select ∨ s = .check) :
    report s syntaxOnly format statement = .failure (.parse (.lex e)) := by
  have hb : ¬ isBlank statement := by
    rw [← tokenize_eq_nil_iff, h]
    exact nofun
  simp [report_of_checks hs, Check.run, Query.ofText, hb, h, Except.map, Report.ofOutcome]

theorem report_of_sameAnswer {ts us : List Token} (hb : isBlank statement = isBlank statement')
    (h : Parser.SameAnswer ts us (Query.ofText statement) (Query.ofText statement'))
    (hs : s = .select ∨ s = .check) :
    report s syntaxOnly format statement = report s syntaxOnly format statement' := by
  rw [report_of_checks hs, report_of_checks hs, Check.run, Check.run, hb]
  generalize Query.ofText statement = answer, Query.ofText statement' = answer' at h
  cases isBlank statement' with
  | true  => rfl
  | false =>
    cases h with
    | ok a       => rfl
    | error _ hw => simp [Except.map, Report.ofOutcome, Report.failure, CommandError.message, hw]

-- Statements that are read as tokens of the same kinds and texts get the same answer.
theorem report_of_lexesAs (hl : LexesAs statement ls) (hl' : LexesAs statement' ls)
    (hs : s = .select ∨ s = .check) :
    report s syntaxOnly format statement = report s syntaxOnly format statement' := by
  have ⟨ts, ht, hm⟩ := hl
  have ⟨us, hu, hm'⟩ := hl'
  have hb : isBlank statement = isBlank statement' := by
    rw [Bool.eq_iff_iff, ← LexesAs.nil_iff, ← LexesAs.nil_iff]
    exact ⟨fun h => hl.unique h ▸ hl', fun h => hl'.unique h ▸ hl⟩
  have ha := Query.ofTokens_sameAnswer (Token.Agrees.forall₂_of_map_lexeme_eq (hm.trans hm'.symm))
  have ho : Query.ofText statement = Query.ofTokens ts := by rw [Query.ofText, ht]
  have ho' : Query.ofText statement' = Query.ofTokens us := by rw [Query.ofText, hu]
  rw [← ho, ← ho'] at ha
  exact report_of_sameAnswer hb ha hs

-- If neither is read as tokens at all, then the answers differ only in the place of the error.
theorem report_of_lexesAs_iff (h : ∀ ls, LexesAs statement ls ↔ LexesAs statement' ls)
    (hs : s = .select ∨ s = .check) (syntaxOnly : Bool) (format : Format) :
    let out := report s syntaxOnly format statement
    let out' := report s syntaxOnly format statement'
    out.code = out'.code ∧ out.stdout = out'.stdout ∧
      ((∃ ls, LexesAs statement ls) → out.stderr = out'.stderr) := by
  intro out out'
  by_cases hl : ∃ ls, LexesAs statement ls
  case pos =>
    have ⟨ls, hl⟩ := hl
    have he : out = out' := report_of_lexesAs hl ((h ls).mp hl) hs
    exact ⟨he ▸ rfl, he ▸ rfl, fun _ => he ▸ rfl⟩
  case neg =>
    have hl' : ¬ ∃ ls, LexesAs statement' ls := by simpa only [← h] using hl
    have ⟨_, he⟩ := LexesAs.exists_error hl
    have ⟨_, he'⟩ := LexesAs.exists_error hl'
    have ho : out = _ := report_of_error he hs
    have ho' : out' = _ := report_of_error he' hs
    rw [ho, ho']
    exact ⟨rfl, rfl, fun h => absurd h hl⟩

namespace Subcommand

theorem statementOf_append (s : Subcommand) (text gap : String) :
    s.statementOf (text ++ gap) = s.statementOf text ++ gap := by
  cases s <;> simp [statementOf, lead, String.intercalate_cons_cons, String.append_assoc]

theorem exists_lexesAs_statementOf_iff (s : Subcommand) :
    (∃ ls, LexesAs (s.statementOf text) ls) ↔ ∃ ls, LexesAs text ls := by
  have hl : ∃ ls, LexesAs "select" ls := ⟨[⟨.identifier, "select".toList⟩], by decide +kernel⟩
  rw [statementOf, LexesAs.exists_intercalate_iff]
  cases s <;> simp [lead, hl]

theorem lexesAs_statementOf_iff (s : Subcommand) (hb : ∀ c ∈ before.toList, isSpace c) :
    LexesAs (s.statementOf (before ++ text)) ls ↔ LexesAs (s.statementOf text) ls := by
  simp only [statementOf, LexesAs.intercalate_iff]
  cases s <;> simp [lead, List.forall₂_cons_left_iff, LexesAs.blank_append_iff hb]

end Subcommand

variable {arguments : List String} {setting : Option String} {format : Option Format} {f : Format}

theorem run_word (hl : Line s [] format syntaxOnly arguments) (hs : s.takesWords)
    (ho : syntaxOnly → s.takesSyntaxOnly) (hd : environmentFormat? setting = some f)
    (hb : isBlank text = false) (input : ByteArray) :
    run (arguments ++ ["--", text]) setting input =
      report s syntaxOnly (format.getD f) (s.statementOf text) := by
  have hm : Argument.ofList ["--", text] = [text].map Argument.plain := rfl
  rw [run_of_ofArguments? (hl.ofArguments?_append nofun hs ho hm) hd]
  exact Invocation.run_of_readStatement (readStatement_word hb s.lead input) f

theorem run_input (hl : Line s [] format syntaxOnly arguments) (hs : s.takesWords)
    (ho : syntaxOnly → s.takesSyntaxOnly) (hd : environmentFormat? setting = some f)
    (hb : isBlank text = false) :
    run arguments setting text.toUTF8 =
      report s syntaxOnly (format.getD f) (s.statementOf (trim text)) := by
  rw [run_of_ofArguments? (hl.ofArguments? nofun hs ho) hd]
  exact Invocation.run_of_readStatement (readStatement_input hb s.lead) f

-- A statement that is piped gets the same answer as one that is a word, except that places are
-- counted from the first character that is not white space. A query does not depend on places.
theorem run_piped (hl : Line s [] format syntaxOnly arguments) (hs : s.takesWords)
    (ho : syntaxOnly → s.takesSyntaxOnly) (hf : ∀ name ∈ setting, ∃ f : Format, name = f.name)
    (hb : isBlank text = false) (input : ByteArray) :
    let body := String.ofList (trimStart text.toList)
    let byWord := run (arguments ++ ["--", text]) setting input
    let byPipe := run arguments setting text.toUTF8
    (s = .select ∨ s = .check → byWord.code = byPipe.code ∧ byWord.stdout = byPipe.stdout ∧
      ((∃ ts, tokenize text = .ok ts) → byWord.stderr = byPipe.stderr)) ∧
    (body = text → byWord = byPipe) ∧
    (s = .check → ∀ e, tokenize body = .error e → byPipe = .failure (.parse (.lex e))) ∧
    (s = .tokens → byPipe = .ofOutcome (describe body)) := by
  intro body byWord byPipe
  have ⟨f, hd⟩ := exists_environmentFormat? hf
  have ⟨before, hbefore, hbody⟩ := exists_trimStart text
  have ⟨gap, hgap, htrim⟩ := exists_trim text
  have hword : byWord = report s syntaxOnly (format.getD f) (s.statementOf text) :=
    run_word hl hs ho hd hb input
  have hpipe : byPipe = report s syntaxOnly (format.getD f) (s.statementOf body) := by
    have ht : tokenize (s.statementOf body) = tokenize (s.statementOf (trim text)) := by
      have htrim : body = trim text ++ gap := htrim
      rw [htrim, s.statementOf_append, tokenize_append_blank hgap]
    exact (run_input hl hs ho hd hb).trans (report_congr ht.symm)
  refine ⟨fun hc => ?_, fun he => ?_, ?_, ?_⟩
  case refine_1 =>
    have hi (ls) : LexesAs (s.statementOf text) ls ↔ LexesAs (s.statementOf body) ls := by
      rw [hbody]
      exact s.lexesAs_statementOf_iff hbefore
    rw [hword, hpipe]
    have ⟨hcode, hout, herr⟩ := report_of_lexesAs_iff hi hc syntaxOnly (format.getD f)
    exact ⟨hcode, hout, fun ⟨ts, ht⟩ =>
      herr <| s.exists_lexesAs_statementOf_iff.mpr ⟨_, ts, ht, rfl⟩⟩
  case refine_2 => rw [hword, hpipe, he]
  case refine_3 =>
    rintro rfl e he
    rw [hpipe]
    exact report_of_error he (.inr rfl)
  case refine_4 =>
    rintro rfl
    exact hpipe

-- A character that belongs to no token, behind white space that is piped but not counted.
theorem run_piped_stuck :
    let arguments := ["--format=pretty", "check", "--syntax-only"]
    let text := "\n  select a from b where c = ? "
    let body := "select a from b where c = ? "
    let e : LexError := ⟨'?', ⟨26, 1, 27⟩⟩
    Line .check [] (some .pretty) true arguments ∧
      (∀ name ∈ some "text", ∃ f : Format, name = f.name) ∧ isBlank text = false ∧
      String.ofList (trimStart text.toList) = body ∧ tokenize body = .error e ∧
      run arguments (some "text") text.toUTF8 = .failure (.parse (.lex e)) ∧
      (run (arguments ++ ["--", text]) (some "text") .empty).stdout = "" := by
  intro arguments text body e
  have ho : ["--format=pretty"] ∈ spellings .pretty := by decide
  have hl : Line .check [] (some .pretty) true arguments :=
    .front ho (.present ⟨[], [], rfl, rfl⟩)
  have hf : ∀ name ∈ some "text", ∃ f : Format, name = f.name := by
    rintro _ ⟨⟩
    exact ⟨.text, rfl⟩
  have hb : isBlank text = false := by decide +kernel
  have he : String.ofList (trimStart text.toList) = body := by decide +kernel
  have ht : tokenize body = .error e := by decide +kernel
  have h := run_piped hl rfl (fun _ => rfl) hf hb .empty
  have hp := h.2.2.1 rfl e (he ▸ ht)
  exact ⟨hl, hf, hb, he, ht, hp, (h.1 (.inr rfl)).2.1.trans (hp ▸ rfl)⟩

end Command

end SelectLang
