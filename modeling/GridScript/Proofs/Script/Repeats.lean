import GridScript.Proofs.Script.Lines

/-!
Three lines for some steps in one direction: a walk, a loop of moves, and as many moves in a row.
-/

namespace GridScript.Script

open Grammar

def moveText (w : List Char) : List Char := "move ".toList ++ w

/-- A walk, with the number of its steps in digits. -/
def walkText (ds w : List Char) : List Char := "walk ".toList ++ ds ++ [' '] ++ w

/-- What a loop over a variable begins with. -/
def loopHeader (x ds : List Char) : List Char :=
  "for ".toList ++ x ++ " in range(".toList ++ ds ++ "): ".toList

/-- A loop over a variable, with a move for its body. -/
def loopText (x ds w : List Char) : List Char :=
  "for ".toList ++ x ++ " in range(".toList ++ ds ++ "): ".toList ++ moveText w

/-- Moves with semicolons between them. -/
def movesText (n : Nat) (w : List Char) : List Char := joined (List.replicate n (moveText w))

/-- The three lines for `n` steps, `ds` being that number in digits. -/
def repeats (x ds w : List Char) (n : Nat) : List String :=
  [String.ofList (walkText ds w), String.ofList (loopText x ds w), String.ofList (movesText n w)]

variable {limit n : UInt32} {d : Direction} {x ds w : List Char}

lemma toNat_of_isNameChar {c : Char} (h : IsNameChar c) : 48 ≤ c.toNat ∧ c.toNat ≤ 122 := by
  have hle : ∀ {a b : Char}, a ≤ b → a.toNat ≤ b.toNat := fun h => UInt32.le_iff_toNat_le.1 h
  rcases h with (⟨h₁, h₂⟩ | ⟨h₁, h₂⟩) | ⟨h₁, h₂⟩ | rfl
  · exact ⟨le_trans (by decide) (hle h₁), le_trans (hle h₂) (by decide)⟩
  · exact ⟨le_trans (by decide) (hle h₁), le_trans (hle h₂) (by decide)⟩
  · exact ⟨le_trans (by decide) (hle h₁), le_trans (hle h₂) (by decide)⟩
  · decide

lemma not_isBlank_of_isNameChar {c : Char} (h : IsNameChar c) : Text.isBlank c = false := by
  obtain ⟨h₁, h₂⟩ := toNat_of_isNameChar h
  simp [Text.isBlank]
  omega

lemma not_isSeparator_of_isNameChar {c : Char} (h : IsNameChar c) : isSeparator c = false := by
  refine Bool.eq_false_iff.2 fun hsep => ?_
  have hcases : c = ';' ∨ c = '\n' := by simpa [isSeparator] using hsep
  rcases hcases with rfl | rfl <;> simp [IsNameChar, IsLetter, IsDigit] at h

lemma trims_of_isNameChar {cs : List Char} (h : ∀ c ∈ cs, IsNameChar c) : Trims cs cs :=
  trims_self (fun c hc => not_isBlank_of_isNameChar (h c (List.mem_of_head? hc)))
    fun c hc => not_isBlank_of_isNameChar (h c (List.mem_of_getLast? hc))

/-- A text that begins with a letter and ends with a direction has no blanks at its ends. -/
lemma trims_of_direction (hw : DirectionWord w d) {c : Char} (hc : Text.isBlank c = false)
    (m : List Char) : Trims (c :: m ++ w) (c :: m ++ w) :=
  trims_between hc m hw.isNameChar.1 (trims_of_isNameChar hw.isNameChar.2)

lemma space_single : Space [' '] := ⟨by simp, by simp [Gap, IsGapChar]⟩

lemma gap_nil : Gap [] := by simp [Gap]

lemma whole_of_isNameChar {cs : List Char} (h : ∀ c ∈ cs, IsNameChar c) :
    ∀ c ∈ cs, isSeparator c = false :=
  fun c hc => not_isSeparator_of_isNameChar (h c hc)

/-! ### Each text is a statement -/

lemma cmd_moveText (hw : DirectionWord w d) : Cmd limit (moveText w) (.move d) := by
  have htext : moveText w = "move".toList ++ [' '] ++ w ++ [] := by
    -- not by its equation, for which the literal would be computed
    unfold moveText
    simp
  rw [htext]
  exact .move space_single hw gap_nil

lemma cmd_walkText (hds : Numeral ds n.toNat) (hn : n ≤ limit) (hw : DirectionWord w d) :
    Cmd limit (walkText ds w) (.walk d n) := by
  have htext : walkText ds w = "walk".toList ++ [' '] ++ ds ++ [' '] ++ w ++ [] := by
    unfold walkText
    simp
  rw [htext]
  exact .walk space_single (.plain hds) hn space_single hw gap_nil

lemma for_loopHeader {body : List Char} {st : Statement} (hx : Name x) (hds : Numeral ds n.toNat)
    (hn : n ≤ limit) (hbody : LoopBody limit body st) :
    For limit (loopHeader x ds ++ body) (.loop (String.ofList x) n st) := by
  have htext : loopHeader x ds ++ body =
      "for".toList ++ [' '] ++ x ++ [' '] ++ "in".toList ++ [' '] ++ "range".toList ++ [] ++
        ['('] ++ [] ++ ds ++ [] ++ [')'] ++ [] ++ [':'] ++ [' '] ++ body := by
    unfold loopHeader
    simp
  rw [htext]
  exact .mk space_single hx space_single space_single gap_nil gap_nil hds hn gap_nil gap_nil
    space_single.2 hbody

lemma for_loopText (hx : Name x) (hds : Numeral ds n.toNat) (hn : n ≤ limit)
    (hw : DirectionWord w d) :
    For limit (loopText x ds w) (.loop (String.ofList x) n (.command (.move d))) :=
  for_loopHeader hx hds hn (.command (cmd_moveText hw))

/-! ### Each text is a line -/

lemma solid_moveText (hw : DirectionWord w d) : Solid (moveText w) where
  ne_nil := List.cons_ne_nil _ _
  whole := by
    unfold moveText
    rw [List.forall_mem_append]
    exact ⟨by simp [isSeparator], whole_of_isNameChar hw.isNameChar.2⟩
  trimmed := trims_of_direction hw (by decide) _

lemma solid_walkText (hds : Numeral ds n.toNat) (hw : DirectionWord w d) :
    Solid (walkText ds w) where
  ne_nil := List.cons_ne_nil _ _
  whole := by
    have hdigits : ∀ c ∈ ds, IsNameChar c := fun c hc => .inr (.inl (hds.digits.2 c hc))
    unfold walkText
    simp only [List.forall_mem_append]
    exact ⟨⟨⟨by simp [isSeparator], whole_of_isNameChar hdigits⟩, by simp [isSeparator]⟩,
      whole_of_isNameChar hw.isNameChar.2⟩
  trimmed := trims_of_direction hw (by decide) ("alk ".toList ++ ds ++ [' '])

lemma readLine_walkText (hds : Numeral ds n.toNat) (hn : n ≤ limit) (hw : DirectionWord w d) :
    readLine limit (walkText ds w) = [.ok (.command (.walk d n))] := by
  have hsolid := solid_walkText hds hw
  rw [readLine, lineParts_of_solid hsolid rfl, List.map_singleton,
    readStatement_of_line hsolid.trimmed (.command (cmd_walkText hds hn hw))]

lemma readLine_loopText (hx : Name x) (hds : Numeral ds n.toNat) (hn : n ≤ limit)
    (hw : DirectionWord w d) : readLine limit (loopText x ds w) =
      [.ok (.loop (String.ofList x) n (.command (.move d)))] := by
  have htrims : Trims (loopText x ds w) (loopText x ds w) := by
    have htext : loopText x ds w =
        'f' :: ("or ".toList ++ x ++ " in range(".toList ++ ds ++ "): move ".toList) ++ w := by
      unfold loopText moveText
      simp
    rw [htext]
    exact trims_of_direction hw (by decide) _
  have hparts : lineParts (loopText x ds w) = [loopText x ds w] :=
    lineParts_of_claims htrims rfl
  rw [readLine, hparts, List.map_singleton,
    readStatement_of_line htrims (.loop (for_loopText hx hds hn hw))]

lemma readLine_movesText (hw : DirectionWord w d) (k : Nat) :
    readLine limit (movesText k w) = List.replicate k (.ok (.command (.move d))) := by
  have hsolid : ∀ t ∈ List.replicate k (moveText w), Solid t := by
    intro t ht
    rw [(List.mem_replicate.1 ht).2]
    exact solid_moveText hw
  have hplain : claimsLine (movesText k w) = false := by
    rcases k with _ | _ | k <;> rfl
  have hparts : lineParts (movesText k w) = List.replicate k (moveText w) :=
    lineParts_joined hsolid hplain
  rw [readLine, hparts, List.map_replicate,
    readStatement_of_line (solid_moveText hw).trimmed (.command (cmd_moveText hw))]

end GridScript.Script
