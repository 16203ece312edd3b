import GridScript.Proofs.Script.Words

/-!
Reading a command accepts exactly the texts of the grammar.

Each reader of a part succeeds with a result if and only if the text has that part as the grammar
writes it. A command other than a call is read by its keyword, `readKeyworded`.
-/

namespace GridScript.Script

open Grammar

/-! ### Directions -/

lemma isLetter_of_toLower {c : Char} (h : c.toLower.isLower = true) : IsLetter c := by
  by_cases hc : c.isUpper = true
  · exact .inr (isUpper_iff.1 hc)
  · have hsame : c.toLower = c := dif_neg fun hupper => hc (isUpper_iff.2 hupper)
    rw [hsame] at h
    exact .inl (isLower_iff.1 h)

lemma Grammar.DirectionWord.isNameChar {w : List Char} {d : Direction} (h : DirectionWord w d) :
    w ≠ [] ∧ ∀ c ∈ w, IsNameChar c := by
  obtain ⟨spelling, hmem, hw⟩ := h
  have htable : ∀ e ∈ Direction.aliases, e.1.toList ≠ [] ∧ e.1.toList.all Char.isLower = true := by
    decide
  obtain ⟨hne, hlower⟩ := htable _ hmem
  refine ⟨?_, fun c hc => .inl (isLetter_of_toLower ?_)⟩
  · rintro rfl
    exact hne hw.symm
  · exact List.all_eq_true.1 hlower _ (hw ▸ List.mem_map_of_mem hc)

lemma direction?_eq_some_iff {cs : List Char} {d : Direction} :
    direction? cs = some d ↔
      ∃ b w e, cs = b ++ (w ++ e) ∧ Space b ∧ DirectionWord w d ∧ Gap e := by
  refine ⟨fun h => ?_, ?_⟩
  · simp only [direction?, Option.bind_eq_bind, Option.bind_eq_some_iff, gap?_eq_some_iff,
      ofWord?_eq_some_iff] at h
    obtain ⟨r, ⟨b, rfl, hb, -⟩, d', hd, hdone⟩ := h
    split at hdone
    · rename_i he
      obtain rfl := Option.some.inj hdone
      exact ⟨b, _, _, by rw [← (word_split r).1], hb, hd, isDone_iff.1 he⟩
    · cases hdone
  · rintro ⟨b, w, e, rfl, hb, hw, he⟩
    obtain ⟨hne, hname⟩ := hw.isNameChar
    have hgap : gap? (b ++ (w ++ e)) = some (w ++ e) := gap?_eq_some_iff.2
      ⟨b, rfl, hb, stops_append hne fun c hc => not_isGapChar_of_isNameChar (hname c hc)⟩
    have hword : word (w ++ e) = (w, e) := word_eq_iff.2 ⟨rfl, hname, he.stops_nameChar⟩
    simp [direction?, hgap, hword, ofWord?_eq_some_iff.2 hw, isDone_iff.2 he]

lemma calledDirection?_eq_some_iff {cs : List Char} {d : Direction} :
    calledDirection? cs = some d ↔ ∃ w, cs = w ++ "()".toList ∧ DirectionWord w d := by
  simp only [calledDirection?, Option.bind_eq_some_iff, before?_eq_some_iff, ofWord?_eq_some_iff]

/-! ### Commands -/

lemma Grammar.Literal.ne_nil {n : List Char} {v : Nat} (h : Literal n v) : n ≠ [] := by
  rcases h with ⟨⟨ne, -⟩⟩ | ⟨-⟩
  · exact ne
  · simp

lemma Grammar.Literal.not_gap {n : List Char} {v : Nat} (h : Literal n v) :
    ∀ c ∈ n, ¬IsGapChar c := by
  have hdigit : ∀ c, IsDigit c → ¬IsGapChar c :=
    fun c hc => not_isGapChar_of_isNameChar (.inr (.inl hc))
  intro c hc
  cases h with
  | plain h =>
    cases h with
    | mk ne digits => exact hdigit c (digits c hc)
  | plus h =>
    cases h with
    | mk ne digits =>
      rcases List.mem_cons.1 hc with rfl | hc
      · simp [IsGapChar]
      · exact hdigit c (digits c hc)

lemma readWalk_eq_ok_iff {limit : UInt32} {src rest : List Char} {c : Command} :
    readWalk limit src rest = .ok c ↔
      ∃ b n b' w e count d, rest = b ++ (n ++ (b' ++ (w ++ e))) ∧ Space b ∧
        Literal n count.toNat ∧ count ≤ limit ∧ Space b' ∧ DirectionWord w d ∧ Gap e ∧
          c = .walk d count := by
  refine ⟨fun h => ?_, ?_⟩
  · simp only [readWalk, bind_eq_ok_iff, orElse_eq_ok_iff, gap?_eq_some_iff, readCount_eq_ok_iff,
      direction?_eq_some_iff] at h
    obtain ⟨r, ⟨b, rfl, hb, -⟩, count, ⟨hn, hlimit⟩, d, ⟨b', w, e, hsplit, hb', hw, he⟩, hc⟩ := h
    refine ⟨b, _, b', w, e, count, d, ?_, hb, hn, hlimit, hb', hw, he, (Except.ok.inj hc).symm⟩
    rw [← hsplit, ← (token_split r).1]
  · rintro ⟨b, n, b', w, e, count, d, rfl, hb, hn, hlimit, hb', hw, he, rfl⟩
    have hgap : gap? (b ++ (n ++ (b' ++ (w ++ e)))) = some (n ++ (b' ++ (w ++ e))) :=
      gap?_eq_some_iff.2 ⟨b, rfl, hb, stops_append hn.ne_nil hn.not_gap⟩
    have htoken : token (n ++ (b' ++ (w ++ e))) = (n, b' ++ (w ++ e)) :=
      token_eq_iff.2 ⟨rfl, hn.not_gap, stops_append hb'.1 fun c hc => not_not.2 (hb'.2 c hc)⟩
    have hd : direction? (b' ++ (w ++ e)) = some d :=
      direction?_eq_some_iff.2 ⟨b', w, e, rfl, hb', hw, he⟩
    simp only [readWalk, bind_eq_ok_iff, orElse_eq_ok_iff]
    refine ⟨_, hgap, count, ?_, d, ?_, rfl⟩
    · rw [htoken]
      exact readCount_eq_ok_iff.2 ⟨hn, hlimit⟩
    · rw [htoken]
      exact hd

lemma readWait_eq_ok_iff {src rest : List Char} {c : Command} :
    readWait src rest = .ok c ↔
      (Gap rest ∧ c = .wait none) ∨
        ∃ b n e ms, rest = b ++ (n ++ e) ∧ Gap b ∧ Literal n ms.toNat ∧ Gap e ∧
          c = .wait (some ms) := by
  unfold readWait
  refine ⟨fun h => ?_, ?_⟩
  · split at h
    · rename_i hdone
      exact .inl ⟨isDone_iff.1 hdone, (Except.ok.inj h).symm⟩
    · simp only [bind_eq_ok_iff, readMillis_eq_ok_iff] at h
      obtain ⟨ms, hn, h⟩ := h
      split at h
      · rename_i he
        obtain ⟨b, hrest, hb, -⟩ := skipGap_eq_iff.1 (rfl : skipGap rest = skipGap rest)
        refine .inr ⟨b, _, _, ms, ?_, hb, hn, isDone_iff.1 he, (Except.ok.inj h).symm⟩
        rw [← (token_split (skipGap rest)).1]
        exact hrest
      · cases h
  · rintro (⟨hrest, rfl⟩ | ⟨b, n, e, ms, rfl, hb, hn, he, rfl⟩)
    · rw [if_pos (isDone_iff.2 hrest)]
    · have hskip : skipGap (b ++ (n ++ e)) = n ++ e :=
        skipGap_append hb (stops_append hn.ne_nil hn.not_gap)
      have htoken : token (n ++ e) = (n, e) :=
        token_eq_iff.2 ⟨rfl, hn.not_gap, he.stops fun _ => not_not.2⟩
      have hnot : ¬isDone (b ++ (n ++ e)) = true := by
        rw [isDone_iff]
        intro hgap
        obtain ⟨c, n, rfl⟩ := List.exists_cons_of_ne_nil hn.ne_nil
        exact hn.not_gap c List.mem_cons_self (hgap c (by simp))
      rw [if_neg hnot]
      simp only [hskip, htoken, readMillis_eq_ok_iff.2 hn, isDone_iff.2 he]
      rfl

lemma Grammar.OpensMessage.not_isNameChar {c : Char} (h : OpensMessage c) : ¬IsNameChar c := by
  rcases h with h | rfl | rfl | rfl
  · exact h.not_isNameChar
  all_goals simp [IsNameChar, IsLetter, IsDigit]

lemma opensMessage_iff {c : Char} : opensMessage c = true ↔ OpensMessage c := by
  simp [opensMessage, OpensMessage, IsQuote, or_assoc]

lemma readPrint_eq_ok_iff {src rest : List Char} {c : Command} :
    readPrint src rest = .ok c ↔
      ∃ x raw m, rest = x :: raw ∧ OpensMessage x ∧ Message (x :: raw) m ∧
        c = .print (String.ofList m) := by
  unfold readPrint
  refine ⟨fun h => ?_, ?_⟩
  · split at h
    · rename_i hopens
      obtain ⟨x, hx, hopen⟩ := (Option.any_eq_true _ _).1 hopens
      obtain ⟨raw, rfl⟩ := List.head?_eq_some_iff.1 hx
      exact ⟨x, raw, _, rfl, opensMessage_iff.1 hopen, message_iff.2 rfl, (Except.ok.inj h).symm⟩
    · cases h
  · rintro ⟨x, raw, m, rfl, hx, hm, rfl⟩
    rw [if_pos (by simpa using opensMessage_iff.2 hx), message_iff.1 hm]

/-- A text begins with the call of a move only if its first word is `player`. -/
lemma after?_call_eq_none {k : String} {rest : List Char}
    (hk : k.toList.all isNameChar = true) (hne : k ≠ "player") (hrest : Stops IsNameChar rest) :
    after? "player.move" (k.toList ++ rest) = none := by
  rw [Option.eq_none_iff_forall_ne_some]
  intro r h
  rw [after?_eq_some_iff] at h
  have hdot : Stops IsNameChar (".move".toList ++ r) :=
    (stops_cons (c := '.')).2 (by simp [IsNameChar, IsLetter, IsDigit])
  have hcall : word (k.toList ++ rest) = ("player".toList, ".move".toList ++ r) := by
    rw [h]
    exact word_append (k := "player") (by decide) hdot
  rw [word_append hk hrest] at hcall
  exact hne (String.toList_inj.1 (Prod.mk.inj hcall).1)

/-- The command with a given keyword, from what follows it. -/
def readKeyworded (limit : UInt32) (src : List Char) (k : String) (rest : List Char) :
    Reading Command :=
  match k with
  | "move" => orElse (unrecognized src) ((direction? rest).map .move)
  | "turn" => orElse (unrecognized src) ((direction? rest).map .turn)
  | "walk" => readWalk limit src rest
  | "wait" => readWait src rest
  | "print" => readPrint src rest
  | "clear" | "stop" => if isDone rest then .ok .clear else .error (unrecognized src)
  | _ => .error (unrecognized src)

lemma readCommand_eq_readKeyworded {limit : UInt32} {src : List Char}
    (h : after? "player.move" src = none) :
    readCommand limit src =
      readKeyworded limit src (String.ofList (word src).1) (word src).2 := by
  rw [readCommand, h]
  rfl

lemma readKeyworded_sound {limit : UInt32} {k : String} {rest : List Char} {c : Command}
    (hrest : Stops IsNameChar rest)
    (h : readKeyworded limit (k.toList ++ rest) k rest = .ok c) :
    Cmd limit (k.toList ++ rest) c := by
  unfold readKeyworded at h
  split at h
  · simp only [orElse_eq_ok_iff, Option.map_eq_some_iff, direction?_eq_some_iff] at h
    obtain ⟨d, ⟨b, w, e, rfl, hb, hw, he⟩, rfl⟩ := h
    simpa only [List.append_assoc] using (.move hb hw he : Cmd limit _ _)
  · simp only [orElse_eq_ok_iff, Option.map_eq_some_iff, direction?_eq_some_iff] at h
    obtain ⟨d, ⟨b, w, e, rfl, hb, hw, he⟩, rfl⟩ := h
    simpa only [List.append_assoc] using (.turn hb hw he : Cmd limit _ _)
  · obtain ⟨b, n, b', w, e, count, d, rfl, hb, hn, hlimit, hb', hw, he, rfl⟩ :=
      readWalk_eq_ok_iff.1 h
    simpa only [List.append_assoc] using Cmd.walk hb hn hlimit hb' hw he
  · rcases readWait_eq_ok_iff.1 h with ⟨he, rfl⟩ | ⟨b, n, e, ms, rfl, hb, hn, he, rfl⟩
    · exact .waitDefault he
    · have hkeyword : Stops IsNameChar (b ++ n) := by
        have hne : b ++ n ≠ [] := by simp [hn.ne_nil]
        rw [← List.append_assoc] at hrest
        exact (stops_append_iff hne).1 hrest
      simpa only [List.append_assoc] using (.wait hb hn he hkeyword : Cmd limit _ _)
  · obtain ⟨x, raw, m, rfl, hx, hm, rfl⟩ := readPrint_eq_ok_iff.1 h
    simpa only [List.append_assoc, List.singleton_append] using (.print hx hm : Cmd limit _ _)
  · split at h
    · rename_i he
      obtain rfl := Except.ok.inj h
      exact .clear (isDone_iff.1 he)
    · cases h
  · split at h
    · rename_i he
      obtain rfl := Except.ok.inj h
      exact .stop (isDone_iff.1 he)
    · cases h
  · cases h

/-- A command other than a call begins with its keyword. -/
lemma readCommand_append {limit : UInt32} {k : String} {rest : List Char}
    (hk : k.toList.all isNameChar = true) (hne : k ≠ "player") (hrest : Stops IsNameChar rest) :
    readCommand limit (k.toList ++ rest) = readKeyworded limit (k.toList ++ rest) k rest := by
  rw [readCommand_eq_readKeyworded (after?_call_eq_none hk hne hrest),
    word_append hk hrest, String.ofList_toList]

lemma readCommand_call {limit : UInt32} {rest : List Char} :
    readCommand limit ("player.move".toList ++ rest) =
      orElse (unrecognized ("player.move".toList ++ rest))
        ((calledDirection? rest).map .move) := by
  have h : after? "player.move" ("player.move".toList ++ rest) = some rest :=
    after?_eq_some_iff.2 rfl
  rw [readCommand, h]

lemma readCommand_sound {limit : UInt32} {src : List Char} {c : Command}
    (h : readCommand limit src = .ok c) : Cmd limit src c := by
  cases hcall : after? "player.move" src with
  | some rest =>
    obtain rfl := after?_eq_some_iff.1 hcall
    simp only [readCommand_call, orElse_eq_ok_iff, Option.map_eq_some_iff,
      calledDirection?_eq_some_iff] at h
    obtain ⟨d, ⟨w, rfl, hw⟩, rfl⟩ := h
    simpa only [List.append_assoc] using (.call hw : Cmd limit _ _)
  | none =>
    obtain ⟨hsplit, -, hstops⟩ := word_split src
    rw [readCommand_eq_readKeyworded hcall] at h
    have := readKeyworded_sound (k := String.ofList (word src).1) hstops
      (by rwa [String.toList_ofList, ← hsplit])
    rwa [String.toList_ofList, ← hsplit] at this

lemma readCommand_complete {limit : UInt32} {src : List Char} {c : Command}
    (h : Cmd limit src c) : readCommand limit src = .ok c := by
  cases h with
  | move hb hw he =>
    simp only [List.append_assoc]
    rw [readCommand_append (by decide) (by decide) hb.stops_nameChar, readKeyworded,
      direction?_eq_some_iff.2 ⟨_, _, _, rfl, hb, hw, he⟩]
    rfl
  | turn hb hw he =>
    simp only [List.append_assoc]
    rw [readCommand_append (by decide) (by decide) hb.stops_nameChar, readKeyworded,
      direction?_eq_some_iff.2 ⟨_, _, _, rfl, hb, hw, he⟩]
    rfl
  | walk hb hn hlimit hb' hw he =>
    simp only [List.append_assoc]
    rw [readCommand_append (by decide) (by decide) hb.stops_nameChar]
    exact readWalk_eq_ok_iff.2 ⟨_, _, _, _, _, _, _, rfl, hb, hn, hlimit, hb', hw, he, rfl⟩
  | waitDefault he =>
    rw [readCommand_append (by decide) (by decide) he.stops_nameChar]
    exact readWait_eq_ok_iff.2 (.inl ⟨he, rfl⟩)
  | @wait b n e ms hb hn he keyword =>
    have hrest : Stops IsNameChar (b ++ (n ++ e)) := by
      have hne : b ++ n ≠ [] := by simp [hn.ne_nil]
      rw [← List.append_assoc]
      exact (stops_append_iff hne).2 keyword
    simp only [List.append_assoc]
    rw [readCommand_append (by decide) (by decide) hrest]
    exact readWait_eq_ok_iff.2 (.inr ⟨_, _, _, _, rfl, hb, hn, he, rfl⟩)
  | @print x raw m hx hm =>
    have hrest : Stops IsNameChar (x :: raw) := stops_cons.2 hx.not_isNameChar
    simp only [List.append_assoc, List.singleton_append]
    rw [readCommand_append (by decide) (by decide) hrest]
    exact readPrint_eq_ok_iff.2 ⟨_, _, _, rfl, hx, hm, rfl⟩
  | clear he =>
    rw [readCommand_append (by decide) (by decide) he.stops_nameChar]
    exact if_pos (isDone_iff.2 he)
  | stop he =>
    rw [readCommand_append (by decide) (by decide) he.stops_nameChar]
    exact if_pos (isDone_iff.2 he)
  | @call w d hw =>
    simp only [List.append_assoc]
    rw [readCommand_call, calledDirection?_eq_some_iff.2 ⟨w, rfl, hw⟩]
    rfl

lemma readCommand_eq_ok_iff {limit : UInt32} {src : List Char} {c : Command} :
    readCommand limit src = .ok c ↔ Cmd limit src c :=
  ⟨readCommand_sound, readCommand_complete⟩

end GridScript.Script
