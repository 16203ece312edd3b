import GridScript.Proofs.CommandLine.Settings
import GridScript.Proofs.Session.Effects
import GridScript.Proofs.Session.Settings
import GridScript.Proofs.Text.Lines
import GridScript.Proofs.Text.Utf8

/-!
The turns of a script and of a prompt.

A turn is a line that was submitted, with what became of it. Both a script and a prompt take turns
until the game is over, and all that they print can be read off their turns. Each turn leaves the
session at rest, whether its frames sufficed or not, and so a blank line, which a prompt submits and
a script does not, changes nothing.
-/

namespace GridScript

lemma Scheduler.isBusy_eq_false_iff {s : Scheduler} :
    s.isBusy = false ↔ s.queue = [] ∧ s.motion = none ∧ s.executing = false := by
  simp [isBusy, and_assoc]

namespace CommandLine

/-- A line that was submitted, and what became of it. -/
structure Turn where
  line : List Char
  report : Report
  output : List String
  /-- How things stand afterwards. -/
  console : Console

/-- What a script prints in a turn. -/
def Turn.echoed (t : Turn) : List String := ("> " ++ String.ofList t.line) :: t.output

/-- What a prompt prints in a turn. -/
def Turn.answered (t : Turn) : String :=
  unlines (t.output ++ t.console.status) ++ if t.console.isGameOver then "" else promptText

/-- The line is not blank. -/
def hasText (line : List Char) : Bool := !(Text.trim line).isEmpty

namespace Console

def turn (c : Console) (line : List Char) : Turn :=
  ⟨line, (c.submit (String.ofList line)).1, (c.submit (String.ofList line)).2.1,
    (c.submit (String.ofList line)).2.2⟩

/-- The turns of some lines, up to the one after which the game is over. -/
def turns (c : Console) : List (List Char) → List Turn
  | [] => []
  | line :: lines =>
    c.turn line :: if (c.turn line).console.isGameOver then [] else turns (c.turn line).console lines

/-- How things stand after some turns. -/
def after (c : Console) : List Turn → Console
  | [] => c
  | t :: ts => t.console.after ts

/-! ### What is printed -/

lemma runLines_cons (c : Console) (l : List Char) (ls : List (List Char)) :
    c.runLines (l :: ls) =
      if (c.turn l).console.isGameOver then
        ((c.turn l).report.success, (c.turn l).echoed, (c.turn l).console)
      else
        let r := (c.turn l).console.runLines ls
        ((c.turn l).report.success && r.1, (c.turn l).echoed ++ r.2.1, r.2.2) := by
  rw [runLines, turn, Turn.echoed]

lemma answerLine_eq (c : Console) {l : List Char} (h : isQuit l = false) :
    answerLine c l =
      ⟨(c.turn l).answered, (c.turn l).console, !(c.turn l).console.isGameOver⟩ := by
  rw [answerLine, if_neg (Bool.eq_false_iff.1 h), turn, Turn.answered]
  generalize c.submit (String.ofList l) = r
  cases hover : r.2.2.isGameOver <;> simp [hover]

/-- A script takes the turns of its lines. -/
lemma runLines_eq (c : Console) (ls : List (List Char)) :
    c.runLines ls = ((c.turns ls).all (·.report.success), (c.turns ls).flatMap Turn.echoed,
      c.after (c.turns ls)) := by
  induction ls generalizing c with
  | nil => rfl
  | cons l ls ih =>
    rw [runLines_cons, turns]
    split
    · simp [after]
    · simp [after, ih]

/-- A prompt takes the turns of the lines that are typed. -/
lemma answerLines_eq (c : Console) {ls : List (List Char)} (h : ∀ l ∈ ls, isQuit l = false) :
    answerLines c ls =
      (String.join ((c.turns ls).map Turn.answered), c.after (c.turns ls)) := by
  induction ls generalizing c with
  | nil => rfl
  | cons l ls ih =>
    obtain ⟨hl, hls⟩ := List.forall_mem_cons.1 h
    rw [answerLines, answerLine_eq c hl, turns]
    cases hover : (c.turn l).console.isGameOver <;> simp [after, ih _ hls]

/-! ### At rest -/

lemma drain_of_not_busy {c : Console} (h : c.session.isBusy = false) (n : Nat) : drain n c = c := by
  cases n with
  | zero => rfl
  | succ n => simp [drain, h]

/-- A turn leaves the session at rest: what is left when the frames are used up is dropped. -/
lemma isBusy_turn (c : Console) (l : List Char) : (c.turn l).console.session.isBusy = false := by
  rw [turn, submit]
  dsimp only
  split
  · rfl
  · rename_i hbusy
    exact Bool.eq_false_iff.2 hbusy

/-- Without a member a line does nothing. -/
lemma submit_of_readLine_eq_nil {rules : Rules} {line : String}
    (h : Script.readLine rules.maxRepeat line.toList = []) (s : Scheduler) (w : World) :
    rules.submit line s w = ⟨⟨true, [], 0, false⟩, s, w⟩ := by
  simp only [Rules.submit, h]
  simp [Script.statements, Script.errors, Execution.start, Execution.settled]

lemma readLine_of_not_hasText {l : List Char} (h : hasText l = false) (limit : UInt32) :
    Script.readLine limit l = [] := by
  have hblank : Text.trim l = [] := by simpa [hasText] using h
  rw [Script.readLine, Script.lineParts, hblank]
  rfl

/-- A blank line passes without a trace. -/
lemma turn_of_not_hasText {c : Console} (hrest : c.session.isBusy = false) {l : List Char}
    (h : hasText l = false) : c.turn l = ⟨l, ⟨true, [], 0, false⟩, [], c⟩ := by
  have hread : Script.readLine c.session.rules.maxRepeat (String.ofList l).toList = [] := by
    rw [String.toList_ofList, readLine_of_not_hasText h]
  have hsubmit : c.session.submit (String.ofList l) = (⟨true, [], 0, false⟩, c.session) := by
    rw [Session.submit, submit_of_readLine_eq_nil hread]
  rw [turn, submit, hsubmit]
  simp only [drain_of_not_busy hrest, hrest]
  rfl

lemma isBusy_of_mem_turns {c : Console} {ls : List (List Char)} {t : Turn} (h : t ∈ c.turns ls) :
    t.console.session.isBusy = false := by
  induction ls generalizing c with
  | nil => cases h
  | cons l ls ih =>
    rw [turns] at h
    rcases List.mem_cons.1 h with rfl | h
    · exact c.isBusy_turn l
    · split at h
      · cases h
      · exact ih h

/-- Blank lines may be left out: they have turns that change nothing. -/
lemma turns_filter {c : Console} (hrest : c.session.isBusy = false) (hover : c.isGameOver = false)
    (ls : List (List Char)) :
    c.turns (ls.filter hasText) = (c.turns ls).filter (hasText ·.line) ∧
      c.after (c.turns (ls.filter hasText)) = c.after (c.turns ls) := by
  induction ls generalizing c with
  | nil => exact ⟨rfl, rfl⟩
  | cons l ls ih =>
    cases hl : hasText l with
    | false =>
      have hturns : c.turns (l :: ls) = ⟨l, ⟨true, [], 0, false⟩, [], c⟩ :: c.turns ls := by
        simp [turns, turn_of_not_hasText hrest hl, hover]
      obtain ⟨hfilter, hafter⟩ := ih hrest hover
      rw [List.filter_cons_of_neg (by simp [hl]), hturns, List.filter_cons_of_neg (by simp [hl])]
      exact ⟨hfilter, hafter⟩
    | true =>
      have hline : hasText (c.turn l).line = true := hl
      rw [List.filter_cons_of_pos hl, turns, turns,
        List.filter_cons_of_pos (p := fun t : Turn => hasText t.line) hline]
      split
      · exact ⟨rfl, rfl⟩
      · rename_i hgoes
        obtain ⟨hfilter, hafter⟩ := ih (c.isBusy_turn l) (Bool.eq_false_iff.2 hgoes)
        exact ⟨congrArg _ hfilter, hafter⟩

/-- Lines that get no turn come after the end of the game. -/
lemma exists_rest (c : Console) (ls : List (List Char)) :
    ∃ rest, ls = (c.turns ls).map (·.line) ++ rest ∧
      (rest ≠ [] → (c.after (c.turns ls)).isGameOver = true) := by
  induction ls generalizing c with
  | nil => exact ⟨[], rfl, fun h => absurd rfl h⟩
  | cons l ls ih =>
    rw [turns]
    split
    · rename_i hover
      exact ⟨ls, rfl, fun _ => hover⟩
    · obtain ⟨rest, hls, hrest⟩ := ih (c.turn l).console
      exact ⟨rest, congrArg (l :: ·) hls, hrest⟩

end Console

/-! ### Opening a console -/

lemma readText?_of_encode {reads : Reads} {path : String} {text : List Char}
    (h : reads path = .bytes (Text.Utf8.encode text)) : readText? reads path = some text := by
  rw [readText?, h]
  exact Text.Utf8.decode?_encode text

lemma openConsole?_eq {reads : Reads} {root path : String} {o : WorldOptions} {config : Config}
    {text : List Char} (hfps : o.fps ≠ 0) (hload : loadConfig? reads root = some config)
    (hmap : o.map = some path) (htext : readText? reads path = some text) :
    openConsole? reads root o = (Console.new config text o).toOption := by
  simp [openConsole?, hfps, hload, hmap, htext]

lemma exists_text_of_openConsole? {reads : Reads} {root : String} {o : WorldOptions} {c : Console}
    (h : openConsole? reads root o = some c) :
    ∃ config text, loadConfig? reads root = some config ∧
      (Console.new config text o).toOption = some c := by
  unfold openConsole? at h
  split at h
  · cases h
  · obtain ⟨config, hconfig, h⟩ := Option.bind_eq_some_iff.1 h
    split at h
    · obtain ⟨text, -, h⟩ := Option.bind_eq_some_iff.1 h
      exact ⟨config, text, hconfig, h⟩
    · obtain ⟨text, -, h⟩ := Option.bind_eq_some_iff.1 h
      exact ⟨config, text, hconfig, h⟩

/-- A console opens on a new session, on the map and with the settings that were read. -/
lemma exists_of_openConsole? {reads : Reads} {root : String} {o : WorldOptions} {c : Console}
    (h : openConsole? reads root o = some c) :
    ∃ config map, loadConfig? reads root = some config ∧ config.validate = .ok () ∧
      c.session = ⟨config, config.rules, Scheduler.new config,
        World.new map (map.cellOrigin o.col o.row) config⟩ := by
  obtain ⟨config, text, hconfig, h⟩ := exists_text_of_openConsole? h
  cases hsession : Session.ofMapText config text o.col o.row with
  | error e => simp [Console.new, hsession, bind, Except.bind, Except.toOption] at h
  | ok session =>
    obtain ⟨map, -, hnew⟩ := Session.ofMapText_eq_ok_iff.1 hsession
    obtain ⟨hvalid, hs⟩ := Session.new_eq_ok_iff.1 hnew
    have hc : ⟨session, 0, (max (1000 / o.fps) 1).toUInt64, o.maxTicks⟩ = c := by
      simpa [Console.new, hsession, bind, Except.bind, pure, Except.pure, Except.toOption] using h
    exact ⟨config, map, hconfig, hvalid, hc ▸ hs⟩

lemma isBusy_of_openConsole? {reads : Reads} {root : String} {o : WorldOptions} {c : Console}
    (h : openConsole? reads root o = some c) : c.session.isBusy = false := by
  obtain ⟨config, map, -, -, hsession⟩ := exists_of_openConsole? h
  rw [hsession]
  rfl

/-- Settings that are valid give some health to begin with. -/
lemma isGameOver_of_openConsole? {reads : Reads} {root : String} {o : WorldOptions} {c : Console}
    (h : openConsole? reads root o = some c) : c.isGameOver = false := by
  obtain ⟨config, map, -, hvalid, hsession⟩ := exists_of_openConsole? h
  have hhealth : config.maxHealth ≠ 0 :=
    Config.validate_eq_ok_iff_positives.1 hvalid ("max_health", config.maxHealth)
      (by simp [Config.positives])
  rw [Console.isGameOver, hsession]
  exact beq_false_of_ne hhealth

/-- **A script and a prompt agree**: on the same lines, whatever ends them, and with none that quits,
both take the turns of the lines that are not blank, with the same outcome; a prompt has turns of
blank lines besides, which change nothing. All that both print, a log apart, is what is printed in
their turns, around the prompt there and before the final state here. The lines that neither takes
are the same, and there are such only if the game is over. In the end the two consoles are equal, and
after each turn the session is at rest. -/
theorem run_and_repl_agree {reads : Reads} {root script : String} {o : WorldOptions} {c : Console}
    {ls : List (List Char)} {source input : List Char}
    (hopen : openConsole? reads root o = some c) (hscript : readText? reads script = some source)
    (hsource : Text.lines source = ls) (hinput : Text.lines input = ls)
    (hquit : ∀ l ∈ ls, isQuit l = false) :
    let scripted := c.turns (ls.filter hasText)
    let typed := c.turns ls
    let success := scripted.all (·.report.success)
    let run := (⟨root, .run script false o⟩ : Invocation).perform reads []
    let repl := (⟨root, .repl o⟩ : Invocation).perform reads input
    c.runLines (scriptLines source) =
        (success, scripted.flatMap Turn.echoed, c.after scripted) ∧
      answerLines c (Text.lines input) =
        (String.join (typed.map Turn.answered), c.after typed) ∧
      run = Result.success (unlines (scripted.flatMap Turn.echoed ++ (c.after scripted).status ++
        if success then [] else ["Script contained errors"])) ∧
      repl = Result.success (promptText ++ String.join (typed.map Turn.answered)) ∧
      scripted = typed.filter (hasText ·.line) ∧
      (∃ rest, ls = typed.map (·.line) ++ rest ∧
        ls.filter hasText = scripted.map (·.line) ++ rest.filter hasText ∧
        (rest ≠ [] → (c.after scripted).isGameOver = true)) ∧
      c.after scripted = c.after typed ∧
      ∀ t ∈ scripted ++ typed, t.console.session.isBusy = false ∧
        t.console.session.scheduler.queue = [] ∧ t.console.session.scheduler.motion = none := by
  intro scripted typed success run repl
  obtain ⟨hturns, hafter⟩ :=
    Console.turns_filter (isBusy_of_openConsole? hopen) (isGameOver_of_openConsole? hopen) ls
  have hlines : scriptLines source = ls.filter hasText := by
    rw [← hsource]
    rfl
  have hrun : c.runLines (scriptLines source) =
      (success, scripted.flatMap Turn.echoed, c.after scripted) := by
    rw [hlines, c.runLines_eq]
  have hrepl : answerLines c (Text.lines input) =
      (String.join (typed.map Turn.answered), c.after typed) := by
    rw [hinput, c.answerLines_eq hquit]
  refine ⟨hrun, hrepl, ?_, ?_, hturns, ?_, hafter, fun t ht => ?_⟩
  · simp only [run, Invocation.perform, hscript, hopen, runScript, hrun]
    rfl
  · simp only [repl, Invocation.perform, hopen, hrepl]
  · obtain ⟨rest, hrest, hover⟩ := c.exists_rest ls
    refine ⟨rest, hrest, ?_, fun hne => ?_⟩
    · have hfilter : ls.filter hasText =
          (typed.map (·.line) ++ rest).filter hasText := congrArg _ hrest
      rw [hfilter, List.filter_append, List.filter_map]
      congr 2
      exact hturns.symm
    · rw [hafter]
      exact hover hne
  · have hidle : t.console.session.isBusy = false :=
      (List.mem_append.1 ht).elim Console.isBusy_of_mem_turns Console.isBusy_of_mem_turns
    obtain ⟨hqueue, hmotion, -⟩ := Scheduler.isBusy_eq_false_iff.1 hidle
    exact ⟨hidle, hqueue, hmotion⟩

/-- A game in files: the settings, a map and a script. -/
def gameTree (settings map script : List UInt8) : FileTree :=
  FileTree.ofList [(".codequest/settings.json", settings), ("map.txt", map), ("lines.txt", script)]

/-- Settings under which one error ends the game. -/
def fragile : Config := { maxHealth := 1 }

def smallMap : List Char := "0 0 0 0\n0 0 0 0\n0 0 0 0\n".toList

lemma read_gameTree (settings map script : List UInt8) :
    (gameTree settings map script).read (settingsPath ".codequest") = .bytes settings ∧
      (gameTree settings map script).read "map.txt" = .bytes map ∧
      (gameTree settings map script).read "lines.txt" = .bytes script := ⟨rfl, rfl, rfl⟩

/-- Three frames do not suffice for a walk. -/
def fewFrames : WorldOptions := ⟨some "map.txt", 1, 1, 60, 3⟩

def fragileConsole : Console :=
  (Console.new fragile smallMap fewFrames).toOption.get (by decide +kernel)

/-- A walk, a line that ends the game, and a message that is never shown; two lines are blank. -/
def fatalLines : List (List Char) :=
  ["".toList, "walk 2 right".toList, "\t".toList, "bogus".toList, "print \"x\"".toList]

theorem run_and_repl_agree_fatal :
    let source := Text.terminated fatalLines
    let reads := (gameTree fragile.fileBytes (Text.Utf8.encode smallMap)
      (Text.Utf8.encode source)).read
    let c := fragileConsole
    openConsole? reads ".codequest" fewFrames = some c ∧
      readText? reads "lines.txt" = some source ∧
      Text.lines source = fatalLines ∧ (∀ l ∈ fatalLines, isQuit l = false) ∧
      (c.turns (fatalLines.filter hasText)).map (·.line) = ["walk 2 right".toList, "bogus".toList] ∧
      (c.turns fatalLines).map (·.line) = fatalLines.take 4 ∧
      c.after (c.turns (fatalLines.filter hasText)) = c.after (c.turns fatalLines) ∧
      (c.after (c.turns fatalLines)).isGameOver = true ∧
      ∀ t ∈ c.turns fatalLines, t.console.session.isBusy = false := by
  intro source reads c
  have hlines : Text.lines source = fatalLines := by
    rw [Text.lines_terminated (by decide)]
    rfl
  have hquit : ∀ l ∈ fatalLines, isQuit l = false := by decide +kernel
  have hscript : readText? reads "lines.txt" = some source :=
    readText?_of_encode (read_gameTree _ _ _).2.2
  have hload : loadConfig? reads ".codequest" = some fragile :=
    loadConfig?_of_fileBytes rfl (read_gameTree _ _ _).1
  have hmap : readText? reads "map.txt" = some smallMap :=
    readText?_of_encode (read_gameTree _ _ _).2.1
  have hopen : openConsole? reads ".codequest" fewFrames = some c :=
    (openConsole?_eq (by decide) hload rfl hmap).trans (Option.some_get _).symm
  obtain ⟨-, -, -, -, -, -, hafter, hidle⟩ :=
    run_and_repl_agree hopen hscript hlines hlines hquit
  refine ⟨hopen, hscript, hlines, hquit, by decide +kernel, by decide +kernel, hafter,
    by decide +kernel, fun t ht => (hidle t (List.mem_append_right _ ht)).1⟩

end CommandLine

end GridScript
