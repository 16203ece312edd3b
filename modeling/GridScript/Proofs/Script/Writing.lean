import GridScript.Proofs.Script.Repeats

/-!
Writing a statement as a text that is read back.

`Statement.write` is the text of a statement in its plain form: single spaces, numbers without
leading zeros, lower case directions, and messages in double quotes. The statements that can be read
at all are those with the nesting of the grammar, `Statement.Nested`. Each of them is read back from
its own text, since the grammar derives that text, `line_write`.
-/

namespace GridScript

open Script Script.Grammar

/-! ### Texts -/

def Comparison.token : Comparison → String
  | lt => "<"
  | gt => ">"
  | eq => "=="
  | ne => "!="
  | le => "<="
  | ge => ">="

def Condition.write (c : Condition) : List Char :=
  c.name.toList ++ [' '] ++ c.op.token.toList ++ [' '] ++ Text.digits c.value.toNat

def Command.write : Command → List Char
  | move d => moveText d.name.toList
  | walk d count => walkText (Text.digits count.toNat) d.name.toList
  | turn d => "turn ".toList ++ d.name.toList
  | wait none => "wait".toList
  | wait (some ms) => "wait ".toList ++ Text.digits ms.toNat
  | print message => "print \"".toList ++ message.toList ++ ['"']
  | clear => "clear".toList

/-- What a statement under a condition begins with. -/
def Condition.header (c : Condition) : List Char := "if ".toList ++ c.write ++ ": ".toList

def Statement.write : Statement → List Char
  | command c => c.write
  | loop name count body => loopHeader name.toList (Text.digits count.toNat) ++ body.write
  | guarded condition body => condition.header ++ body.write

/-! ### What can be read -/

def Statement.isCommand : Statement → Bool
  | command _ => true
  | _ => false

/-- A walk is not longer than the limit. -/
def Command.Within (limit : UInt32) : Command → Prop
  | walk _ count => count ≤ limit
  | _ => True

/-- The condition is about a name and a number that can be written. -/
structure Condition.Writable (c : Condition) : Prop where
  name : Name c.name.toList
  nonneg : 0 ≤ c.value
  lt : c.value < 2 ^ 63

namespace Statement

/-- A condition over a command. -/
inductive Guarded (limit : UInt32) : Statement → Prop where
  | mk {condition : Condition} {c : Command} (hcondition : condition.Writable)
    (hc : c.Within limit) : Guarded limit (guarded condition (command c))

/-- What may be the body of a loop. -/
inductive Body (limit : UInt32) : Statement → Prop where
  | guarded {st : Statement} (h : Guarded limit st) : Body limit st
  | command {c : Command} (h : c.Within limit) : Body limit (command c)

/-- The nesting of the grammar: a loop holds a condition or a command, and a condition a command. -/
inductive Nested (limit : UInt32) : Statement → Prop where
  | loop {name : String} {count : UInt32} {body : Statement} (hname : Name name.toList)
    (hcount : count ≤ limit) (hbody : Body limit body) : Nested limit (loop name count body)
  | body {st : Statement} (h : Body limit st) : Nested limit st

end Statement

variable {limit : UInt32}

/-! ### Whatever is read has that nesting -/

namespace Script.Grammar

lemma Cmd.within {cs : List Char} {c : Command} (h : Cmd limit cs c) : c.Within limit := by
  cases h with
  | walk _ _ hlimit => exact hlimit
  | move | turn | waitDefault | wait | print | clear | stop | call => trivial

lemma Cond.writable {cs : List Char} {condition : Condition} (h : Cond cs condition) :
    condition.Writable := by
  cases h with
  | mk hx _ _ _ _ hlt =>
    refine ⟨?_, Int.natCast_nonneg _, Int.ofNat_lt.2 hlt⟩
    rwa [String.toList_ofList]

lemma If.guarded {cs : List Char} {st : Statement} (h : If limit cs st) : st.Guarded limit := by
  cases h with
  | mk _ _ _ hc _ hbody => exact .mk hc.writable hbody.within

lemma LoopBody.body {cs : List Char} {st : Statement} (h : LoopBody limit cs st) :
    st.Body limit := by
  cases h with
  | guarded h => exact .guarded h.guarded
  | command h => exact .command h.within

lemma Line.nested {cs : List Char} {st : Statement} (h : Line limit cs st) : st.Nested limit := by
  cases h with
  | loop h =>
    cases h with
    | mk _ hx _ _ _ _ _ hlimit _ _ _ hbody =>
      refine .loop ?_ hlimit hbody.body
      rwa [String.toList_ofList]
  | guarded h => exact .body (.guarded h.guarded)
  | command h => exact .body (.command h.within)

end Script.Grammar

lemma Script.nested_of_readStatement {cs : List Char} {st : Statement}
    (h : readStatement limit cs = .ok st) : st.Nested limit :=
  (readTrimmed_eq_ok_iff.1 h).nested

/-! ### The grammar derives what is written -/

lemma Text.numeral_digits (n : Nat) : Numeral (Text.digits n) n :=
  natural?_eq_some_iff.1 (Text.natural?_digits n)

lemma Direction.word_name (d : Direction) : DirectionWord d.name.toList d := by
  rw [← ofWord?_eq_some_iff]
  cases d <;> rfl

lemma Comparison.operator_token (op : Comparison) : Operator op.token.toList op := by
  rw [← ofToken?_eq_some_iff]
  cases op <;> rfl

namespace Script

lemma isNameChar_of_mem_digits {n : Nat} {c : Char} (hc : c ∈ Text.digits n) : IsNameChar c :=
  .inr (.inl ((Text.numeral_digits n).digits.2 c hc))

lemma trims_digits (n : Nat) : Trims (Text.digits n) (Text.digits n) :=
  trims_of_isNameChar fun _ => isNameChar_of_mem_digits

/-- Only the quotes around it are taken off a message, whatever it is. -/
lemma message_quoted (m : List Char) : Message (' ' :: '"' :: m ++ ['"']) m := by
  have htrims : Trims ('"' :: m ++ ['"']) ('"' :: m ++ ['"']) :=
    trims_between (by decide) m (by simp) (trims_char (by decide))
  have hquote : IsQuote '"' := .inl rfl
  refine .bare (htrims.cons (by decide)) (fun u hu => ?_)
    (.intro (.inl ⟨'"', hquote, rfl⟩) (.inl ⟨'"', hquote, rfl⟩))
  cases hu

lemma cmd_write {c : Command} (h : c.Within limit) : Cmd limit c.write c := by
  cases c with
  | move d => exact cmd_moveText d.word_name
  | walk d count => exact cmd_walkText (Text.numeral_digits _) h d.word_name
  | turn d =>
    have htext : (Command.turn d).write = "turn".toList ++ [' '] ++ d.name.toList ++ [] := by
      unfold Command.write
      simp
    rw [htext]
    exact .turn space_single d.word_name gap_nil
  | wait ms? =>
    cases ms? with
    | none =>
      have htext : (Command.wait none).write = "wait".toList ++ [] := rfl
      rw [htext]
      exact .waitDefault gap_nil
    | some ms =>
      have htext : (Command.wait (some ms)).write =
          "wait".toList ++ [' '] ++ Text.digits ms.toNat ++ [] := by
        unfold Command.write
        simp
      rw [htext]
      exact .wait space_single.2 (.plain (Text.numeral_digits _)) gap_nil
        space_single.stops_nameChar
  | print message =>
    have htext : (Command.print message).write =
        "print".toList ++ [' '] ++ ('"' :: message.toList ++ ['"']) := by
      unfold Command.write
      simp
    have hprint : Cmd limit _ _ := .print (.inl (.inl rfl)) (message_quoted message.toList)
    rw [String.ofList_toList] at hprint
    rwa [htext]
  | clear =>
    have htext : Command.clear.write = "clear".toList ++ [] := rfl
    rw [htext]
    exact .clear gap_nil

lemma cond_write {condition : Condition} (h : condition.Writable) :
    Cond condition.write condition := by
  obtain ⟨name, op, value⟩ := condition
  obtain ⟨hname, hnonneg, hlt⟩ := h
  obtain ⟨n, rfl⟩ := Int.eq_ofNat_of_zero_le hnonneg
  have hcond := Cond.mk hname space_single.2 op.operator_token space_single.2
    (Text.numeral_digits n) (Int.ofNat_lt.1 hlt)
  rwa [String.ofList_toList] at hcond

/-- The colon after a condition is the first one. -/
lemma colon_not_mem_write {condition : Condition} (h : condition.Writable) :
    ':' ∉ condition.write := by
  have hname : ':' ∉ condition.name.toList := fun hmem => by
    simpa [IsNameChar, IsLetter, IsDigit] using h.name.isNameChar _ hmem
  have hdigits : ':' ∉ Text.digits condition.value.toNat := fun hmem => by
    simpa [IsNameChar, IsLetter, IsDigit] using isNameChar_of_mem_digits hmem
  have htoken : ':' ∉ condition.op.token.toList := by cases condition.op <;> decide
  simp [Condition.write, hname, htoken, hdigits]

lemma trims_condition {condition : Condition} (h : condition.Writable) :
    Trims condition.write condition.write := by
  have hname := trims_of_isNameChar h.name.isNameChar
  have hends := hname.append h.name.ne_nil (trims_digits condition.value.toNat)
    (Text.digits_ne_nil _) ([' '] ++ condition.op.token.toList ++ [' '])
  simpa only [Condition.write, List.append_assoc] using hends

lemma if_write {st : Statement} (h : st.Guarded limit) : If limit st.write st := by
  cases h with
  | @mk condition c hcondition hc =>
    have htext : (Statement.guarded condition (.command c)).write =
        "if".toList ++ [' '] ++ condition.write ++ [':'] ++ [' '] ++ c.write := by
      simp only [Statement.write]
      unfold Condition.header
      simp
    rw [htext]
    exact .mk (.inl rfl) (colon_not_mem_write hcondition)
      ((trims_condition hcondition).cons (by decide)) (cond_write hcondition) space_single.2
      (cmd_write hc)

lemma loopBody_write {st : Statement} (h : st.Body limit) : LoopBody limit st.write st := by
  cases h with
  | guarded h => exact .guarded (if_write h)
  | command h => exact .command (cmd_write h)

/-- The grammar derives the text of a statement that nests as it has to. -/
lemma line_write {st : Statement} (h : st.Nested limit) : Line limit st.write st := by
  cases h with
  | @loop name count body hname hcount hbody =>
    have hdigits := Text.numeral_digits count.toNat
    have hloop := for_loopHeader hname hdigits hcount (loopBody_write hbody)
    rw [String.ofList_toList] at hloop
    exact .loop hloop
  | body h =>
    cases h with
    | guarded h => exact .guarded (if_write h)
    | command h => exact .command (cmd_write h)

/-! ### Lines -/

lemma ne_nil_command {c : Command} : c.write ≠ [] := by
  cases c with
  | wait ms? => cases ms? <;> exact List.cons_ne_nil _ _
  | move | walk | turn | print | clear => exact List.cons_ne_nil _ _

lemma trims_command {c : Command} : Trims c.write c.write := by
  cases c with
  | move d => exact trims_of_direction d.word_name (by decide) _
  | turn d => exact trims_of_direction d.word_name (by decide) _
  | walk d count =>
    exact trims_of_direction d.word_name (by decide)
      ("alk ".toList ++ Text.digits count.toNat ++ [' '])
  | wait ms? =>
    cases ms? with
    | none =>
      exact trims_between (by decide) ['a', 'i'] (by simp) (trims_char (c := 't') (by decide))
    | some ms =>
      exact trims_between (by decide) _ (Text.digits_ne_nil _) (trims_digits ms.toNat)
  | print message =>
    exact trims_between (by decide) ("rint \"".toList ++ message.toList) (by simp)
      (trims_char (by decide))
  | clear =>
    exact trims_between (by decide) ['l', 'e', 'a'] (by simp) (trims_char (c := 'r') (by decide))

lemma trims_guarded {st : Statement} (h : st.Guarded limit) : Trims st.write st.write := by
  cases h with
  | @mk condition c hcondition hc =>
    exact trims_between (by decide) ("f ".toList ++ condition.write ++ ": ".toList) ne_nil_command
      trims_command

lemma trims_body {st : Statement} (h : st.Body limit) : Trims st.write st.write := by
  cases h with
  | guarded h => exact trims_guarded h
  | command h => exact trims_command

lemma trims_write {st : Statement} (h : st.Nested limit) : Trims st.write st.write := by
  cases h with
  | @loop name count body hname hcount hbody =>
    have hne : body.write ≠ [] := (body_spec (loopBody_write hbody).not_stops).1
    exact trims_between (by decide) ("or ".toList ++ name.toList ++ " in range(".toList ++
      Text.digits count.toNat ++ "): ".toList) hne (trims_body hbody)
  | body h => exact trims_body h

lemma claimsLine_write {st : Statement} (h : st.isCommand = false) :
    claimsLine st.write = true := by
  cases st with
  | command c => cases h
  | loop name count body => rfl
  | guarded condition body => rfl

lemma claimsLine_command (c : Command) : claimsLine c.write = false := by
  cases c with
  | wait ms? => cases ms? <;> rfl
  | move | walk | turn | print | clear => rfl

lemma lineParts_command {c : Command} (hsemicolon : ';' ∉ c.write) (hnewline : '\n' ∉ c.write) :
    lineParts c.write = [c.write] := by
  have hwhole : ∀ a ∈ c.write, isSeparator a = false := fun a ha => by
    have hne : a ≠ ';' ∧ a ≠ '\n' := ⟨fun h => hsemicolon (h ▸ ha), fun h => hnewline (h ▸ ha)⟩
    simpa [isSeparator] using hne
  exact lineParts_of_solid ⟨ne_nil_command, hwhole, trims_command⟩ (claimsLine_command c)

/-- A loop or a condition claims its line, whatever message it prints. -/
lemma lineParts_write {st : Statement} (h : st.Nested limit)
    (hwhole : st.isCommand = false ∨ (';' ∉ st.write ∧ '\n' ∉ st.write)) :
    lineParts st.write = [st.write] := by
  cases st with
  | command c =>
    obtain ⟨hsemicolon, hnewline⟩ := hwhole.resolve_left (by simp [Statement.isCommand])
    exact lineParts_command hsemicolon hnewline
  | loop | guarded => exact lineParts_of_claims (trims_write h) (claimsLine_write rfl)

end Script

/-- **Plain text reads back**: a statement with the nesting of the grammar is read from its text,
whatever message it prints, and alone on a line too if that text is a loop or a condition or has no
separator. Whatever is read, as one statement or from a line, has that nesting. -/
theorem Statement.reads_back_plain (limit : UInt32) (st : Statement) :
    (st.Nested limit → readStatement limit st.write = .ok st ∧
        (st.isCommand = false ∨ (';' ∉ st.write ∧ '\n' ∉ st.write) →
          readLine limit st.write = [.ok st])) ∧
      (∀ cs, readStatement limit cs = .ok st → st.Nested limit) ∧
      ∀ cs, .ok st ∈ readLine limit cs → st.Nested limit := by
  refine ⟨fun h => ?_, fun cs => nested_of_readStatement, fun cs hmem => ?_⟩
  · have hread := readStatement_of_line (trims_write h) (line_write h)
    refine ⟨hread, fun hwhole => ?_⟩
    rw [readLine, lineParts_write h hwhole, List.map_singleton, hread]
  · obtain ⟨part, -, hread⟩ := List.mem_map.1 hmem
    exact nested_of_readStatement hread

/-- A message that looks like more of its statement, under a condition in a loop, with the largest
numbers that there are. -/
def misleading : Statement :=
  .loop "_i9" 4294967295 <|
    .guarded ⟨"x", .ge, 9223372036854775807⟩ (.command (.print "\"(' a: b);\n)' "))

theorem Statement.reads_back_plain_misleading :
    misleading.Nested 4294967295 ∧
      misleading.write =
        "for _i9 in range(4294967295): if x >= 9223372036854775807: print \"\"(' a: b);\n)' \"".toList ∧
      readStatement 4294967295 misleading.write = .ok misleading ∧
      readLine 4294967295 misleading.write = [.ok misleading] := by
  have hdigits : ∀ c ∈ ['i', '9'], IsNameChar c := by simp [IsNameChar, IsLetter, IsDigit]
  have hvariable : Name "_i9".toList := .mk (.inr rfl) hdigits
  have hname : Name "x".toList := .mk (.inl (.inl (by decide))) (by simp)
  have hnested : misleading.Nested 4294967295 :=
    .loop hvariable (by decide) (.guarded (.mk ⟨hname, by decide, by decide⟩ trivial))
  obtain ⟨hback, -⟩ := reads_back_plain 4294967295 misleading
  obtain ⟨hread, hline⟩ := hback hnested
  exact ⟨hnested, by decide +kernel, hread, hline (.inl rfl)⟩

end GridScript
