import GridScript.Proofs.CommandLine.Check
import GridScript.Proofs.CommandLine.Turns
import GridScript.Proofs.Session.Messages
import GridScript.Proofs.Session.Penalty

/-!
The account of a script.

Each line with an error costs the same, and nothing else that a script does costs any health: so the
settings and the lines alone decide how far a script gets and what is left in the end. What is
printed of it are lines, of which the kinds that tell of this are told apart by how they begin. A
log may put lines of its own among them, which begin otherwise.
-/

namespace GridScript

/-! ### What lines cost -/

lemma find?_inits_of_nil {α : Type} {p : List α → Bool} (h : p [] = true) (ls : List α) :
    ls.inits.find? p = some [] := by
  cases ls with
  | nil => exact List.find?_cons_of_pos h
  | cons l ls => exact (congrArg _ (List.inits_cons l ls)).trans (List.find?_cons_of_pos h)

namespace Config

variable (c : Config)

/-- There is an error in the line. -/
def fails (line : List Char) : Bool := !(Script.errors (Script.readLine c.maxRepeat line)).isEmpty

/-- The health that some lines cost. -/
def loss (ls : List (List Char)) : Nat := c.damagePerError.toNat * ls.countP c.fails

/-- What some lines leave of the health. -/
def healthAfter (ls : List (List Char)) : Nat :=
  c.maxHealth.toNat - min c.maxHealth.toNat (c.loss ls)

/-- The lines that a script gets to after some loss: those up to the first with which all health is
lost, and all of them if there is no such line. -/
def playedAfter (taken : Nat) (ls : List (List Char)) : List (List Char) :=
  (ls.inits.find? fun front => c.maxHealth.toNat ≤ taken + c.loss front).getD ls

def played (ls : List (List Char)) : List (List Char) := c.playedAfter 0 ls

lemma loss_cons (l : List Char) (ls : List (List Char)) :
    c.loss (l :: ls) = c.loss [l] + c.loss ls := by
  simp only [loss, List.countP_cons, List.countP_nil, Nat.zero_add, Nat.mul_add]
  exact Nat.add_comm _ _

lemma loss_singleton (l : List Char) :
    c.loss [l] = if c.fails l then c.damagePerError.toNat else 0 := by
  simp [loss, List.countP_cons]

lemma playedAfter_nil (taken : Nat) : c.playedAfter taken [] = [] := by
  cases hnil : decide (c.maxHealth.toNat ≤ taken + c.loss []) <;> simp [playedAfter, hnil]

/-- The first line is played if there is health left, and the others if it leaves some. -/
lemma playedAfter_cons {taken : Nat} (h : taken < c.maxHealth.toNat) (l : List Char)
    (ls : List (List Char)) :
    c.playedAfter taken (l :: ls) =
      l :: if c.maxHealth.toNat ≤ taken + c.loss [l] then []
        else c.playedAfter (taken + c.loss [l]) ls := by
  have hcons : (fun front => decide (c.maxHealth.toNat ≤ taken + c.loss (l :: front))) =
      fun front => decide (c.maxHealth.toNat ≤ taken + c.loss [l] + c.loss front) :=
    funext fun front => by rw [c.loss_cons, Nat.add_assoc]
  have hnil : ¬c.maxHealth.toNat ≤ taken + c.loss [] := Nat.not_le_of_lt h
  rw [playedAfter, List.inits_cons, List.find?_cons_of_neg (by simpa using hnil), List.find?_map,
    Option.getD_map, Function.comp_def, hcons]
  congr 1
  split
  · rename_i hlost
    rw [find?_inits_of_nil (decide_eq_true hlost), Option.getD_some]
  · rfl

end Config

namespace CommandLine

/-! ### Texts -/

/-- No line feed is in a text. -/
def OnOneLine (text : String) : Prop := '\n' ∉ text.toList

instance : DecidablePred OnOneLine := fun text => inferInstanceAs (Decidable ('\n' ∉ text.toList))

/-- The text begins with a character. -/
def opensWith (a : Char) (text : String) : Bool := text.toList.head? == some a

lemma onOneLine_append {a b : String} : OnOneLine (a ++ b) ↔ OnOneLine a ∧ OnOneLine b := by
  simp [OnOneLine, String.toList_append]

lemma onOneLine_natText (n : Nat) : OnOneLine (Text.natText n) := by
  rw [OnOneLine, Text.natText, String.toList_ofList]
  exact Json.newline_not_mem_digits n

lemma onOneLine_intText (i : Int) : OnOneLine (Text.intText i) := by
  rw [OnOneLine, Text.intText, String.toList_ofList, Text.integerDigits]
  split <;> simp [Json.newline_not_mem_digits]

lemma onOneLine_message {e : ParseError} (h : OnOneLine e.text) : OnOneLine e.message := by
  cases e <;> exact onOneLine_append.2 ⟨by decide, h⟩

/-! ### Turns -/

/-- The line of a turn is one line, its report tells whether it has an error, and what is printed
below it is indented. -/
structure Turn.Regular (config : Config) (t : Turn) : Prop where
  line : '\n' ∉ t.line
  success : t.report.success = !config.fails t.line
  output : ∀ o ∈ t.output, opensWith ' ' o = true ∧ OnOneLine o

namespace Console

/-- A console under some settings, whose agent has lost some health and whose messages are on one
line each. -/
structure Stands (config : Config) (taken : Nat) (c : Console) : Prop where
  rules : c.session.rules = config.rules
  health : c.session.world.health.Bears config.maxHealth taken
  tells : c.session.scheduler.Tells OnOneLine c.session.world

variable {config : Config} {taken : Nat} {c : Console} {l : List Char}

lemma Stands.isGameOver_iff (h : c.Stands config taken) :
    c.isGameOver = true ↔ config.maxHealth.toNat ≤ taken := by
  have hcurrent := h.health.current_eq
  rw [isGameOver, World.isGameOver, h.health.isDead_iff, ← UInt32.toNat_inj, hcurrent]
  exact Nat.sub_eq_zero_iff_le

lemma Stands.drain (h : c.Stands config taken) (n : Nat) : (drain n c).Stands config taken := by
  induction n generalizing c with
  | zero => exact h
  | succ n ih =>
    rw [Console.drain]
    split
    · refine ih ⟨h.rules, ?_, h.tells.tick c.clock⟩
      rw [step, Session.health_tick]
      exact h.health
    · exact h

lemma report_turn (c : Console) (l : List Char) :
    (c.turn l).report = (c.session.submit (String.ofList l)).1 := by
  rw [Console.turn, submit]
  dsimp only
  split <;> rfl

lemma Stands.errors_turn (h : c.Stands config taken) (l : List Char) :
    (c.turn l).report.errors = Script.errors (Script.readLine config.maxRepeat l) := by
  rw [report_turn, Session.submit, errors_submit, String.toList_ofList, h.rules]
  rfl

lemma Stands.success_turn (h : c.Stands config taken) (l : List Char) :
    (c.turn l).report.success = !config.fails l := by
  rw [Config.fails, Bool.not_not, ← h.errors_turn, report_turn]
  exact success_submit c.session.rules _ _ _

/-- A line costs what its errors cost, whatever becomes of the rest of it. -/
lemma Stands.turn (h : c.Stands config taken) (hl : '\n' ∉ l) :
    (c.turn l).console.Stands config (taken + config.loss [l]) := by
  have hdamaged : (c.session.submit (String.ofList l)).1.damaged = config.fails l := by
    rw [Bool.eq_iff_iff, Session.damaged_submit_iff, ← report_turn, h.errors_turn, Config.fails,
      Bool.not_eq_true', List.isEmpty_eq_false_iff]
  have hrules : (c.session.submit (String.ofList l)).2.rules = config.rules :=
    (c.session.rules_run [.submit (String.ofList l)]).trans h.rules
  have htells : (c.session.submit (String.ofList l)).2.scheduler.Tells OnOneLine
      (c.session.submit (String.ofList l)).2.world :=
    h.tells.submit c.session.rules fun text htext hfeed => by
      rw [String.toList_ofList] at htext
      exact hl (htext.subset hfeed)
  have hhealth : (c.session.submit (String.ofList l)).2.world.health.Bears config.maxHealth
      (taken + config.loss [l]) := by
    rw [Session.health_submit, hdamaged, config.loss_singleton, h.rules]
    split
    · exact h.health.damage config.damagePerError
    · exact h.health
  have hsubmitted : Stands config (taken + config.loss [l])
      { c with session := (c.session.submit (String.ofList l)).2 } := ⟨hrules, hhealth, htells⟩
  have hdone := hsubmitted.drain c.maxTicks
  rw [Console.turn, submit]
  dsimp only
  split
  · exact ⟨hdone.rules, hdone.health, fun _ h => absurd h List.not_mem_nil, hdone.tells.shown⟩
  · exact hdone

lemma Stands.regular_turn (h : c.Stands config taken) (hl : '\n' ∉ l) :
    (c.turn l).Regular config := by
  refine ⟨hl, h.success_turn l, fun o ho => ?_⟩
  have herror : ∀ o ∈ (c.turn l).report.errors.map fun e => "  error: " ++ e.message,
      opensWith ' ' o = true ∧ OnOneLine o := by
    intro o ho
    obtain ⟨e, he, rfl⟩ := List.mem_map.1 ho
    rw [h.errors_turn] at he
    obtain ⟨part, -, hpart, -, htext, -⟩ := Script.fault_of_mem_errors he
    have hpiece : e.text.toList <:+: l := (htext.trans hpart).trans (Script.trim_spec l).isInfix
    have hmessage := onOneLine_message fun hfeed => hl (hpiece.subset hfeed)
    exact ⟨by simp [opensWith], onOneLine_append.2 ⟨by decide, hmessage⟩⟩
  rw [report_turn] at herror
  rw [Console.turn, submit] at ho
  dsimp only at ho
  split at ho
  · rcases List.mem_append.1 ho with ho | ho
    · exact herror o ho
    · rw [List.mem_singleton.1 ho]
      refine ⟨by simp [opensWith], ?_⟩
      simp only [onOneLine_append, onOneLine_natText, and_true]
      decide
  · exact herror o ho

/-- **The account**: the turns are those of the lines that are played. -/
lemma Stands.turns (h : c.Stands config taken) {ls : List (List Char)} (hls : ∀ l ∈ ls, '\n' ∉ l)
    (halive : taken < config.maxHealth.toNat) :
    let ts := c.turns ls
    ts.map (·.line) = config.playedAfter taken ls ∧
      (c.after ts).Stands config (taken + config.loss (ts.map (·.line))) ∧
      ∀ t ∈ ts, t.Regular config := by
  induction ls generalizing c taken with
  | nil => exact ⟨(config.playedAfter_nil taken).symm, h, fun t ht => (nomatch ht)⟩
  | cons l ls ih =>
    obtain ⟨hl, hls⟩ := List.forall_mem_cons.1 hls
    have hturn := h.turn hl
    have hregular := h.regular_turn hl
    rw [config.playedAfter_cons halive, Console.turns]
    by_cases hover : (c.turn l).console.isGameOver = true
    · rw [if_pos hover, if_pos (hturn.isGameOver_iff.1 hover)]
      exact ⟨rfl, hturn, List.forall_mem_singleton.2 hregular⟩
    · have hleft := mt hturn.isGameOver_iff.2 hover
      obtain ⟨hlines, hafter, hrest⟩ := ih hturn hls (Nat.lt_of_not_le hleft)
      rw [if_neg hover, if_neg hleft]
      refine ⟨congrArg (l :: ·) hlines, ?_, List.forall_mem_cons.2 ⟨hregular, hrest⟩⟩
      rw [List.map_cons, config.loss_cons, ← Nat.add_assoc]
      exact hafter

end Console

/-! ### What is printed -/

/-- The line about the agent. -/
def agentText (place : String) (health max : Nat) : String :=
  "Position: " ++ (place ++ "  health " ++ Text.natText health ++ "/" ++ Text.natText max)

/-- The state is shown in a line about the agent, one with the message if there is any, and one that
says that the game is over if it is. -/
lemma Console.Stands.status {config : Config} {taken : Nat} {c : Console}
    (h : c.Stands config taken) :
    ∃ place messages, OnOneLine place ∧
      (∀ m ∈ messages, opensWith 'M' m = true ∧ OnOneLine m) ∧
      c.status =
        agentText place (config.maxHealth.toNat - taken) config.maxHealth.toNat :: messages ++
          if c.isGameOver then ["GAME OVER"] else [] := by
  have hmax := congrArg UInt32.toNat h.health.max_eq
  have hcurrent := h.health.current_eq
  refine ⟨c.session.world.agent.position.text ++ "  facing " ++ c.session.world.agent.facing.name,
    (c.session.world.messages.current.map ("Message: " ++ ·)).toList, ?_, ?_, ?_⟩
  · simp only [onOneLine_append, Position.text, onOneLine_intText, and_true]
    cases c.session.world.agent.facing <;> decide
  · intro m hm
    obtain ⟨text, htext, rfl⟩ := Option.map_eq_some_iff.1 (Option.mem_toList.1 hm)
    have hmessage := h.tells.shown text htext
    exact ⟨by simp [opensWith], onOneLine_append.2 ⟨by decide, hmessage⟩⟩
  · rw [← hcurrent, ← hmax, Console.status, agentText]
    simp only [String.append_assoc]
    cases c.session.world.messages.current <;> rfl

/-- The lines that are printed of a script: those of its turns, the state, and a note on errors. -/
def sheet (ts : List Turn) (agent : String) (messages : List String) (finished ok : Bool) :
    List String :=
  ts.flatMap Turn.echoed ++ (agent :: messages ++ if finished then ["GAME OVER"] else []) ++
    if ok then [] else ["Script contained errors"]

section Sheet

variable {config : Config} {ts : List Turn} {messages : List String} {place : String}

end Sheet

/-- Some lines with those of a log among them. A line of the log begins with none of the characters by
which the others are told apart. -/
structure Logged (shown stdout : List String) (isLog : String → Bool) : Prop where
  shown : stdout.filter (! isLog ·) = shown
  apart : ∀ o ∈ stdout, isLog o = true → ∀ a ∈ ['>', 'P', 'S', 'G'], opensWith a o = false

lemma Logged.refl (shown : List String) : Logged shown shown fun _ => false :=
  ⟨List.filter_eq_self.2 fun _ _ => rfl, fun _ _ hlog => nomatch hlog⟩

/-- What a run of a script prints: the sheet of its turns. -/
lemma Console.Stands.runScript {config : Config} {c : Console} (h : c.Stands config 0)
    (halive : 0 < config.maxHealth.toNat) (source : List Char) :
    let played := config.played (scriptLines source)
    ∃ ts place messages, ts.map Turn.line = played ∧ (∀ t ∈ ts, t.Regular config) ∧
      OnOneLine place ∧ (∀ m ∈ messages, opensWith 'M' m = true ∧ OnOneLine m) ∧
      runScript c false source = Result.success (unlines (sheet ts
        (agentText place (config.healthAfter played) config.maxHealth.toNat) messages
        (config.healthAfter played == 0) (!played.any config.fails))) := by
  intro played
  have hfeed : ∀ l ∈ scriptLines source, '\n' ∉ l := fun l hl =>
    Text.newline_not_mem_of_mem_lines (List.mem_filter.1 hl).1
  obtain ⟨hlines, hafter, hregular⟩ := h.turns hfeed halive
  generalize hts : c.turns (scriptLines source) = ts at hlines hafter hregular
  have hplayed : ts.map Turn.line = played := hlines
  replace hafter : (c.after ts).Stands config (config.loss played) := by
    rwa [hlines, Nat.zero_add] at hafter
  have hhealth : config.maxHealth.toNat - config.loss played = config.healthAfter played := by
    rw [Config.healthAfter]
    omega
  obtain ⟨place, messages, hplace, hmessages, hstatus⟩ := hafter.status
  rw [hhealth] at hstatus
  refine ⟨ts, place, messages, hplayed, hregular, hplace, hmessages, ?_⟩
  have hsuccess : (ts.all (·.report.success)) = !played.any config.fails := by
    rw [← hplayed, List.any_map, List.not_any_eq_all_not, Bool.eq_iff_iff]
    simp only [List.all_eq_true, Function.comp_apply]
    exact forall₂_congr fun t ht => by rw [(hregular t ht).success]
  have hover : (c.after ts).isGameOver = (config.healthAfter played == 0) := by
    rw [Bool.eq_iff_iff, hafter.isGameOver_iff, beq_iff_eq, ← hhealth]
    exact Nat.sub_eq_zero_iff_le.symm
  rw [CommandLine.runScript]
  simp only [Bool.false_eq_true, if_false, Console.runLines_eq, hts, hsuccess, hstatus, hover, sheet]

end CommandLine

end GridScript
