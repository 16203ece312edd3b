import GridScript.Proofs.CommandLine.Settings
import GridScript.Proofs.Json.Line
import GridScript.Proofs.Script.Encoding
import GridScript.Proofs.Script.Writing
import GridScript.Proofs.Session.Effects
import GridScript.Proofs.Text.Lines
import GridScript.Proofs.World.Obstacles

/-!
What is shown of a line foretells what becomes of it when it is submitted.

The line is read apart from any session, so that its readings are the same wherever it is submitted.
An entry of what is shown is the text of a statement or names an error; the two are told apart by how
they begin, and a statement that could be read nests so little that it reads back from its text.
-/

namespace GridScript

/-! ### Statements as entries -/

lemma Condition.Writable.inRange {c : Condition} (h : c.Writable) : c.InRange := by
  have hnonneg := h.nonneg
  have hlt := h.lt
  constructor <;> omega

namespace Statement

variable {limit : UInt32} {st : Statement}

lemma Guarded.inRange (h : st.Guarded limit) : st.InRange := by
  cases h with
  | mk hcondition hc => exact ⟨hcondition.inRange, trivial⟩

lemma Body.inRange (h : st.Body limit) : st.InRange := by
  cases h with
  | guarded h => exact h.inRange
  | command h => trivial

lemma Nested.inRange (h : st.Nested limit) : st.InRange := by
  cases h with
  | loop _ _ hbody => exact hbody.inRange
  | body h => exact h.inRange

/-- No statement that can be read nests deeper than a command under a condition in a loop. -/
lemma nesting_command (c : Command) : (command c).toJson.nesting ≤ 3 := by
  have hc := c.nesting_le_two
  simp only [toJson, Json.nesting_taggedRecord]
  omega

lemma nesting_loop (name : String) (count : UInt32) (body : Statement) :
    (loop name count body).toJson.nesting = body.toJson.nesting + 2 := by
  simp [toJson, Json.record, Json.nesting, Json.membersNesting]

lemma nesting_guarded (condition : Condition) (body : Statement) :
    (guarded condition body).toJson.nesting ≤ body.toJson.nesting + 3 := by
  simp only [toJson, Condition.toJson, Json.record, Json.nesting_taggedRecord, Json.nesting,
    Json.membersNesting, List.map_cons, List.map_nil, Json.ofString, Json.ofInt]
  omega

lemma Guarded.nesting_le (h : st.Guarded limit) : st.toJson.nesting ≤ 6 := by
  cases h with
  | @mk condition c _ _ =>
    have hguarded := nesting_guarded condition (command c)
    have hc := nesting_command c
    omega

lemma Body.nesting_le (h : st.Body limit) : st.toJson.nesting ≤ 6 := by
  cases h with
  | guarded h => exact h.nesting_le
  | @command c _ => exact (nesting_command c).trans (by omega)

lemma Nested.nesting_le (h : st.Nested limit) : st.toJson.nesting ≤ 8 := by
  cases h with
  | @loop name count body _ _ hbody =>
    have hle := hbody.nesting_le
    rw [nesting_loop]
    omega
  | body h => exact h.nesting_le.trans (by omega)

end Statement

namespace CommandLine

/-- An entry of what is shown of a line. -/
def entry : Script.Reading Statement → String
  | .ok st => st.toJson.compactText
  | .error e => "error: " ++ e.message

/-- The entry names an error. -/
def isFault (text : String) : Bool := "error: ".toList.isPrefixOf text.toList

/-- The statement of which an entry is the text. -/
def statement? (text : String) : Option Statement :=
  Json.decode? (Statement.ofJson? .direct) (Json.Source.ofString text)

lemma isFault_error (e : ParseError) : isFault (entry (.error e)) = true := by
  rw [isFault, entry, String.toList_append]
  exact List.isPrefixOf_iff_prefix.2 (List.prefix_append _ _)

/-- The text of a statement begins with a brace. -/
lemma isFault_ok (st : Statement) : isFault (entry (.ok st)) = false := by
  obtain ⟨cs, hcs⟩ : ∃ cs, st.toJson.compact = '\x7b' :: cs := by
    cases st <;> exact ⟨_, rfl⟩
  have htext : (entry (.ok st)).toList = '\x7b' :: cs := by
    rw [entry, Json.compactText, String.toList_ofList, hcs]
  rw [isFault, htext]
  rfl

lemma statement?_ok {limit : UInt32} {st : Statement} (h : st.Nested limit) :
    statement? (entry (.ok st)) = some st := by
  have hnesting : st.toJson.nesting ≤ Json.maxNesting := h.nesting_le.trans (by decide)
  exact (Json.readsAs_of_plain st.plain_toJson
    (Statement.ofJson?_toJson .direct h.inRange hnesting)).1

lemma newline_not_mem_ok (st : Statement) : '\n' ∉ (entry (.ok st)).toList := by
  rw [entry, Json.compactText, String.toList_ofList]
  exact Json.newline_not_mem_compact st.plain_toJson

/-! ### What is shown of a line -/

variable (c : Config) (line : String)

/-- The entries of a line. -/
def entries : List String := (Script.readLine c.maxRepeat line.toList).map entry

lemma output_checkLine : (checkLine c line).output = unlines (entries c line) := by
  rw [checkLine, entries]
  exact congrArg unlines (List.map_congr_left fun part _ => by cases part <;> rfl)

lemma exitCode_checkLine : (checkLine c line).exitCode = 0 ↔
    Script.errors (Script.readLine c.maxRepeat line.toList) = [] := by
  rw [checkLine]
  cases Script.errors (Script.readLine c.maxRepeat line.toList) <;> simp

lemma faults_eq (parts : List (Script.Reading Statement)) :
    (parts.map entry).filter isFault =
      (Script.errors parts).map fun e => "error: " ++ e.message := by
  induction parts with
  | nil => rfl
  | cons part parts ih =>
    cases part with
    | ok st => simpa [isFault_ok, Script.errors] using ih
    | error e =>
      rw [List.map_cons, List.filter_cons_of_pos (isFault_error e), ih]
      rfl

lemma texts_eq (parts : List (Script.Reading Statement)) :
    (parts.map entry).filter (! isFault ·) = (Script.statements parts).map fun st => entry (.ok st) := by
  induction parts with
  | nil => rfl
  | cons part parts ih =>
    cases part with
    | ok st => simpa [isFault_ok, Script.statements] using ih
    | error e => simpa [isFault_error, Script.statements] using ih

lemma nested_of_mem_statements {limit : UInt32} {cs : List Char} {st : Statement}
    (h : st ∈ Script.statements (Script.readLine limit cs)) : st.Nested limit := by
  obtain ⟨part, hpart, hst⟩ := List.mem_filterMap.1 h
  obtain ⟨text, -, rfl⟩ := List.mem_map.1 hpart
  cases hread : Script.readStatement limit text with
  | ok st' =>
    rw [hread] at hst
    obtain rfl : st' = st := Option.some.inj hst
    exact Script.nested_of_readStatement hread
  | error e =>
    rw [hread] at hst
    cases hst

lemma toList_unlines (ls : List String) :
    (unlines ls).toList = Text.terminated (ls.map String.toList) := by
  simp [unlines, Text.terminated, List.flatMap_map]

/-- The entries are lines of the output unless one of them is about a text of several lines. -/
lemma split_output (h : ∀ text ∈ (entries c line).filter isFault, '\n' ∉ text.toList) :
    Text.split (· == '\n') (unlines (entries c line)).toList =
      (entries c line).map String.toList ++ [[]] := by
  rw [toList_unlines, Text.split_terminated]
  intro l hl
  obtain ⟨text, htext, rfl⟩ := List.mem_map.1 hl
  obtain ⟨part, -, rfl⟩ := List.mem_map.1 htext
  cases part with
  | ok st => exact newline_not_mem_ok st
  | error e => exact h _ (List.mem_filter.2 ⟨htext, isFault_error e⟩)

/-- The effects of a line are those of the statements in it. -/
lemma ofLine_eq (read : Builtin → Int) :
    Effect.ofLine c.rules read line =
      (Script.statements (Script.readLine c.maxRepeat line.toList)).flatMap
        (Effect.ofStatement c.defaultWait read fun _ => none) := by
  rw [Effect.ofLine]
  change Effect.ofParts c.defaultWait read (Script.readLine c.maxRepeat line.toList) = _
  induction Script.readLine c.maxRepeat line.toList with
  | nil => rfl
  | cons part parts ih =>
    rw [Effect.ofParts, List.flatMap_cons, ← Effect.ofParts, ih]
    cases part <;> rfl

/-! ### Sessions -/

/-- The session was made from some settings, in a world or on a map given as text. -/
inductive MadeFrom (c : Config) (s : Session) : Prop where
  | new (w : World) (h : Session.new c w = .ok s)
  | ofMapText (text : List Char) (col row : Nat) (h : Session.ofMapText c text col row = .ok s)

lemma MadeFrom.rules_eq {c : Config} {s : Session} (h : MadeFrom c s) : s.rules = c.rules := by
  obtain ⟨w, hnew⟩ : ∃ w, Session.new c w = .ok s := by
    cases h with
    | new w h => exact ⟨w, h⟩
    | ofMapText text col row h =>
      obtain ⟨map, -, hnew⟩ := Session.ofMapText_eq_ok_iff.1 h
      exact ⟨_, hnew⟩
  rw [(Session.new_eq_ok_iff.1 hnew).2]

lemma runProgram_check {args : List String} {t : FileTree} {input : List Char} {root line : String}
    {c : Config} (hargs : Invocation.ofArguments? args = some ⟨root, .check line⟩)
    (hload : loadConfig? t.read root = some c) :
    runProgram args t input = (checkLine c line, t) := by
  simp only [runProgram, hargs, Invocation.perform, hload]
  rfl

/-- After two dashes any line is positional, whatever it begins with. -/
lemma ofArguments?_check (line : String) :
    Invocation.ofArguments? ["check", "--", line] = some ⟨Invocation.defaultRoot, .check line⟩ := by
  simp [Invocation.ofArguments?, Grammar.parse?, Grammar.parseFrom?, isValue, Parsed.read?,
    Parsed.value?, Parsed.isOnce, Invocation.task?, Invocation.check?, Invocation.taskArguments?]

/-- **A check foretells a submission**: where the settings can be loaded, the program ends well on a
line exactly if submitting that line succeeds, by the rules of these settings, to whatever scheduler
and in whatever world. What it prints is a list of entries: those that name errors name the errors of
the report, in order, and the others are the texts of the statements that the submission executes, in
order. Each entry is a line of its own unless an error is about a text of several lines. Sessions
that are made from the settings submit by these rules, whatever happened to them before. -/
theorem check_foretells {args : List String} {t : FileTree} {input : List Char}
    {root line : String} {c : Config}
    (hargs : Invocation.ofArguments? args = some ⟨root, .check line⟩)
    (hload : loadConfig? t.read root = some c) :
    let result := (runProgram args t input).1
    let sts := Script.statements (Script.readLine c.maxRepeat line.toList)
    ∃ shown : List String,
      result.output = unlines shown ∧
        (shown.filter (! isFault ·)).map statement? = sts.map some ∧
        ((∀ text ∈ shown.filter isFault, '\n' ∉ text.toList) →
          Text.split (· == '\n') result.output.toList = shown.map String.toList ++ [[]]) ∧
        (∀ {σ : Type} [Scene σ] (s : Scheduler) (w : σ),
          let r := c.rules.submit line s w
          let fx := sts.flatMap (Effect.ofStatement c.defaultWait (Scene.reading w) fun _ => none)
          (result.exitCode = 0 ↔ r.report.success = true) ∧
            shown.filter isFault = r.report.errors.map (fun e => "error: " ++ e.message) ∧
            r.scheduler = fx.foldl Effect.apply s ∧
            r.report.staged = (fx.map Effect.stepCount).sum) ∧
        ∀ s₀ : Session, MadeFrom c s₀ → ∀ es : List Session.Event,
          let s := s₀.run es
          let r := c.rules.submit line s.scheduler s.world
          s.submit line = (r.report, { s with scheduler := r.scheduler, world := r.world }) := by
  intro result sts
  have hresult : result = checkLine c line := congrArg Prod.fst (runProgram_check hargs hload)
  refine ⟨entries c line, ?_, ?_, ?_, fun s w => ⟨?_, ?_, ?_, ?_⟩, fun s₀ hs₀ es => ?_⟩
  · rw [hresult, output_checkLine]
  · rw [entries, texts_eq, List.map_map, List.map_inj_left]
    exact fun st hst => statement?_ok (nested_of_mem_statements hst)
  · rw [hresult, output_checkLine]
    exact split_output c line
  · rw [hresult, exitCode_checkLine, success_submit, errors_submit, List.isEmpty_iff]
    rfl
  · rw [entries, faults_eq, errors_submit]
    rfl
  · rw [scheduler_submit, ofLine_eq]
  · rw [staged_submit, ofLine_eq]
  · have hrules : (s₀.run es).rules = c.rules := (s₀.rules_run es).trans hs₀.rules_eq
    simp only [Session.submit, hrules]

/-- Settings under which no walk has more than nine steps. -/
def shortWalks : Config := { maxRepeat := 9 }

/-- A walk that is too long, a message that needs an escape, and a condition. -/
def mixedLine : String := "walk 10 up;print \"\\\nif x > 1: clear"

theorem check_foretells_mixed :
    let t := settingsTree shortWalks.fileBytes
    Invocation.ofArguments? ["check", "--", mixedLine] = some ⟨".codequest", .check mixedLine⟩ ∧
      loadConfig? t.read ".codequest" = some shortWalks ∧
      let result := (runProgram ["check", "--", mixedLine] t []).1
      result.exitCode ≠ 0 ∧
        ∃ shown : List String,
          Text.split (· == '\n') result.output.toList = shown.map String.toList ++ [[]] ∧
            shown.filter isFault = ["error: invalid number: 10"] ∧
            (shown.filter (! isFault ·)).map statement? =
              [some (.command (.print "\\")), some (.guarded ⟨"x", .gt, 1⟩ (.command .clear))] := by
  have hargs := ofArguments?_check mixedLine
  have hload := loadConfig?_of_fileBytes (c := shortWalks) rfl (read_settingsTree _)
  obtain ⟨shown, -, hstatements, hlines, hsubmit, -⟩ := @check_foretells _ _ [] _ _ _ hargs hload
  obtain ⟨hexit, hfaults, -⟩ := hsubmit (.new rowConfig) rowWorld
  have hreport : (shortWalks.rules.submit mixedLine (.new rowConfig) rowWorld).report.errors =
      [.badNumber "10"] := by decide +kernel
  have hfault : shown.filter isFault = ["error: invalid number: 10"] := by
    rw [hfaults, hreport]
    rfl
  refine ⟨hargs, hload, ?_, shown, ?_, hfault, ?_⟩
  · rw [Ne, hexit, success_submit, hreport]
    decide
  · refine hlines fun text htext => ?_
    rw [hfault, List.mem_singleton] at htext
    rw [htext]
    decide
  · rw [hstatements]
    decide +kernel

/-- A loop around a faulty statement, which goes on in a second line: the text of a statement. -/
def forgedLine : String :=
  "for i in range(2): jump\n\x7b\"type\":\"Command\",\"value\":\x7b\"type\":\"Clear\"\x7d\x7d"

/-- The error repeats the text as it is, so its second line is a line of the output. It stands for a
statement, and there is none in the line. -/
theorem forgedLine_shows_statement :
    let t := settingsTree shortWalks.fileBytes
    Invocation.ofArguments? ["check", "--", forgedLine] = some ⟨".codequest", .check forgedLine⟩ ∧
      loadConfig? t.read ".codequest" = some shortWalks ∧
      Script.statements (Script.readLine shortWalks.maxRepeat forgedLine.toList) = [] ∧
      let result := (runProgram ["check", "--", forgedLine] t []).1
      ∃ shown : List String,
        Text.split (· == '\n') result.output.toList = shown.map String.toList ++ [[]] ∧
          (shown.filter (! isFault ·)).map statement? = [some (.command .clear)] := by
  intro t
  have hargs := ofArguments?_check forgedLine
  have hload := loadConfig?_of_fileBytes (c := shortWalks) rfl (read_settingsTree _)
  refine ⟨hargs, hload, by decide +kernel,
    ["error: unrecognized statement: jump",
      "\x7b\"type\":\"Command\",\"value\":\x7b\"type\":\"Clear\"\x7d\x7d"], ?_, ?_⟩
  · rw [runProgram_check hargs hload]
    decide +kernel
  · decide +kernel

end CommandLine

end GridScript
