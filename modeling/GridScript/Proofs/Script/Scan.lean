import GridScript.Script.Reader
import GridScript.Proofs.Script.Grammar
import Mathlib.Data.List.TakeWhile

/-!
The small readers against the words of the grammar.

Each statement gives the texts on which a reader succeeds: what it takes off the front belongs to
the grammar, and what it leaves does not go on with a character that it would have taken too.
-/

namespace GridScript.Script

open Grammar

/-! ### Characters -/

@[simp] lemma isGap_iff {c : Char} : isGap c = true ↔ IsGapChar c := by
  simp [isGap, IsGapChar]

@[simp] lemma isDigit_iff {c : Char} : Text.isDigit c = true ↔ IsDigit c := by
  simp [Text.isDigit, IsDigit]

lemma isUpper_iff {c : Char} : c.isUpper = true ↔ 'A' ≤ c ∧ c ≤ 'Z' := decide_eq_true_iff

lemma isLower_iff {c : Char} : c.isLower = true ↔ 'a' ≤ c ∧ c ≤ 'z' := by
  show (decide ('a'.val ≤ c.val) && decide (c.val ≤ 'z'.val)) = true ↔ _
  rw [Bool.and_eq_true, decide_eq_true_eq, decide_eq_true_eq]
  exact Iff.rfl

lemma isAlpha_iff {c : Char} : c.isAlpha = true ↔ IsLetter c := by
  show (c.isUpper || c.isLower) = true ↔ _
  rw [Bool.or_eq_true, isUpper_iff, isLower_iff]
  exact or_comm

@[simp] lemma isNameStart_iff {c : Char} : isNameStart c = true ↔ IsNameStart c := by
  simp [isNameStart, IsNameStart, isAlpha_iff]

@[simp] lemma isNameChar_iff {c : Char} : isNameChar c = true ↔ IsNameChar c := by
  have hdigit : c.isDigit = true ↔ IsDigit c := by
    simp [Char.isDigit, IsDigit, Char.le_def, UInt32.le_iff_toNat_le]
  simp [isNameChar, IsNameChar, Char.isAlphanum, isAlpha_iff, hdigit, or_assoc]

lemma Grammar.IsNameStart.isNameChar {c : Char} (h : IsNameStart c) : IsNameChar c := by
  rcases h with h | h
  · exact .inl h
  · exact .inr (.inr h)

lemma Grammar.IsGapChar.isBlank {c : Char} (h : IsGapChar c) : Text.isBlank c = true := by
  rcases h with rfl | rfl <;> decide

lemma Grammar.IsGapChar.not_isNameChar {c : Char} (h : IsGapChar c) : ¬IsNameChar c := by
  rcases h with rfl | rfl <;> simp [IsNameChar, IsLetter, IsDigit]

lemma not_isGapChar_of_isNameChar {c : Char} (h : IsNameChar c) : ¬IsGapChar c :=
  fun hgap => hgap.not_isNameChar h

lemma not_isGapChar_of_isDigit {c : Char} (h : IsDigit c) : ¬IsGapChar c :=
  not_isGapChar_of_isNameChar (.inr (.inl h))

/-! ### Runs -/

lemma stops_nil {P : Char → Prop} : Stops P [] := by
  intro c h
  cases h

lemma stops_cons {P : Char → Prop} {c : Char} {cs : List Char} : Stops P (c :: cs) ↔ ¬P c := by
  simp [Stops]

lemma stops_append_iff {P : Char → Prop} {cs rest : List Char} (hne : cs ≠ []) :
    Stops P (cs ++ rest) ↔ Stops P cs := by
  obtain ⟨c, cs, rfl⟩ := List.exists_cons_of_ne_nil hne
  rw [List.cons_append, stops_cons, stops_cons]

lemma stops_append {P : Char → Prop} {cs rest : List Char} (hne : cs ≠ []) (h : ∀ c ∈ cs, ¬P c) :
    Stops P (cs ++ rest) :=
  (stops_append_iff hne).2 fun c hc => h c (List.mem_of_head? hc)

/-- A run is the longest front with some property. -/
lemma run_eq_iff {p : Char → Bool} {P : Char → Prop} (hp : ∀ {c}, p c = true ↔ P c)
    {cs as rest : List Char} :
    run p cs = (as, rest) ↔ cs = as ++ rest ∧ (∀ c ∈ as, P c) ∧ Stops P rest := by
  refine ⟨fun h => ?_, ?_⟩
  · obtain ⟨rfl, rfl⟩ := Prod.mk.inj h
    refine ⟨List.takeWhile_append_dropWhile.symm, fun c hc => hp.1 (List.mem_takeWhile_imp hc), ?_⟩
    intro c hc hP
    have hnot := List.head?_dropWhile_not p cs
    rw [hc] at hnot
    exact absurd (hp.2 hP) (by simpa using hnot)
  · rintro ⟨rfl, has, hrest⟩
    have hp' : ∀ c ∈ as, p c = true := fun c hc => hp.2 (has c hc)
    rw [run, List.takeWhile_append_of_pos hp', List.dropWhile_append_of_pos hp']
    cases rest with
    | nil => simp
    | cons c rest =>
      have hc : ¬p c = true := fun h => stops_cons.1 hrest (hp.1 h)
      simp [hc]

lemma word_eq_iff {cs w rest : List Char} :
    word cs = (w, rest) ↔ cs = w ++ rest ∧ (∀ c ∈ w, IsNameChar c) ∧ Stops IsNameChar rest :=
  run_eq_iff isNameChar_iff

lemma digitRun_eq_iff {cs ds rest : List Char} :
    digitRun cs = (ds, rest) ↔ cs = ds ++ rest ∧ (∀ c ∈ ds, IsDigit c) ∧ Stops IsDigit rest :=
  run_eq_iff isDigit_iff

lemma token_eq_iff {cs t rest : List Char} :
    token cs = (t, rest) ↔
      cs = t ++ rest ∧ (∀ c ∈ t, ¬IsGapChar c) ∧ Stops (fun c => ¬IsGapChar c) rest :=
  run_eq_iff (by simp [← isGap_iff])

lemma word_split (cs : List Char) :
    cs = (word cs).1 ++ (word cs).2 ∧ (∀ c ∈ (word cs).1, IsNameChar c) ∧
      Stops IsNameChar (word cs).2 := word_eq_iff.1 rfl

lemma token_split (cs : List Char) :
    cs = (token cs).1 ++ (token cs).2 ∧ (∀ c ∈ (token cs).1, ¬IsGapChar c) ∧
      Stops (fun c => ¬IsGapChar c) (token cs).2 := token_eq_iff.1 rfl

/-! ### Gaps -/

lemma startsWithGap_iff {cs : List Char} : startsWithGap cs = true ↔ ¬Stops IsGapChar cs := by
  cases cs with
  | nil => simp [startsWithGap, stops_nil]
  | cons c cs => simp [startsWithGap, stops_cons]

lemma skipGap_eq_iff {cs rest : List Char} :
    skipGap cs = rest ↔ ∃ b, cs = b ++ rest ∧ Gap b ∧ Stops IsGapChar rest := by
  refine ⟨?_, ?_⟩
  · rintro rfl
    have h := (run_eq_iff isGap_iff).1 (rfl : run isGap cs = (cs.takeWhile isGap, skipGap cs))
    exact ⟨_, h⟩
  · rintro ⟨b, h⟩
    exact congrArg Prod.snd ((run_eq_iff isGap_iff).2 h)

lemma skipGap_split (cs : List Char) :
    ∃ b, cs = b ++ skipGap cs ∧ Gap b ∧ Stops IsGapChar (skipGap cs) :=
  skipGap_eq_iff.1 rfl

lemma skipGap_append {b rest : List Char} (hb : Gap b) (h : Stops IsGapChar rest) :
    skipGap (b ++ rest) = rest := skipGap_eq_iff.2 ⟨b, rfl, hb, h⟩

lemma gap?_eq_some_iff {cs rest : List Char} :
    gap? cs = some rest ↔ ∃ b, cs = b ++ rest ∧ Space b ∧ Stops IsGapChar rest := by
  unfold gap?
  split
  · rename_i hstart
    rw [startsWithGap_iff] at hstart
    rw [Option.some.injEq, skipGap_eq_iff]
    refine ⟨?_, ?_⟩
    · rintro ⟨b, rfl, hb, hrest⟩
      refine ⟨b, rfl, ⟨?_, hb⟩, hrest⟩
      rintro rfl
      exact hstart hrest
    · rintro ⟨b, h, hb, hrest⟩
      exact ⟨b, h, hb.2, hrest⟩
  · rename_i hstart
    rw [startsWithGap_iff, not_not] at hstart
    refine ⟨fun h => ?_, ?_⟩
    · cases h
    · rintro ⟨b, rfl, ⟨hne, hb⟩, -⟩
      obtain ⟨c, b, rfl⟩ := List.exists_cons_of_ne_nil hne
      exact absurd (hb c List.mem_cons_self) (stops_cons.1 hstart)

lemma isDone_iff {cs : List Char} : isDone cs = true ↔ Gap cs := by
  rw [isDone, List.isEmpty_iff, skipGap_eq_iff]
  refine ⟨?_, ?_⟩
  · rintro ⟨b, rfl, hb, -⟩
    simpa using hb
  · intro h
    exact ⟨cs, by simp, h, stops_nil⟩

/-! ### What a gap ends -/

lemma Grammar.Gap.stops {P : Char → Prop} {b : List Char} (hb : Gap b)
    (hP : ∀ c, IsGapChar c → ¬P c) : Stops P b := fun c hc => hP c (hb c (List.mem_of_head? hc))

lemma Grammar.Gap.stops_append {P : Char → Prop} {b rest : List Char} (hb : Gap b)
    (hP : ∀ c, IsGapChar c → ¬P c) (hrest : Stops P rest) : Stops P (b ++ rest) := by
  rcases b with _ | ⟨c, b⟩
  · exact hrest
  · exact stops_cons.2 (hP c (hb c List.mem_cons_self))

lemma Grammar.Gap.stops_nameChar {b : List Char} (h : Gap b) : Stops IsNameChar b :=
  h.stops fun _ => IsGapChar.not_isNameChar

lemma Grammar.Space.stops_nameChar {b rest : List Char} (h : Space b) :
    Stops IsNameChar (b ++ rest) :=
  stops_append h.1 fun c hc => (h.2 c hc).not_isNameChar

lemma stops_nameChar_of_gap {rest : List Char} (h : ¬Stops IsGapChar rest) :
    Stops IsNameChar rest := by
  rcases rest with _ | ⟨c, rest⟩
  · exact absurd stops_nil h
  · rw [stops_cons, not_not] at h
    exact stops_cons.2 h.not_isNameChar

/-! ### Names, keywords and symbols -/

lemma Grammar.Name.ne_nil {x : List Char} (h : Name x) : x ≠ [] := by
  cases h
  simp

lemma Grammar.Name.isNameChar {x : List Char} (h : Name x) : ∀ c ∈ x, IsNameChar c := by
  cases h with
  | mk first rest =>
    intro c hc
    rcases List.mem_cons.1 hc with rfl | hc
    · exact first.isNameChar
    · exact rest c hc

lemma name?_eq_some_iff {cs x rest : List Char} :
    name? cs = some (x, rest) ↔ cs = x ++ rest ∧ Name x ∧ Stops IsNameChar rest := by
  unfold name?
  split
  · rename_i hstart
    rw [Option.some.injEq, word_eq_iff]
    refine ⟨?_, ?_⟩
    · rintro ⟨rfl, hx, hrest⟩
      refine ⟨rfl, ?_, hrest⟩
      rcases x with _ | ⟨c, x⟩
      · obtain ⟨c, hc, hfirst⟩ := (Option.any_eq_true _ _).1 hstart
        exact absurd (isNameStart_iff.1 hfirst).isNameChar (hrest c hc)
      · have hfirst : IsNameStart c := by simpa using hstart
        exact .mk hfirst fun d hd => hx d (List.mem_cons_of_mem _ hd)
    · rintro ⟨rfl, hx, hrest⟩
      exact ⟨rfl, hx.isNameChar, hrest⟩
  · rename_i hstart
    refine ⟨fun h => ?_, ?_⟩
    · cases h
    · rintro ⟨rfl, hx, -⟩
      cases hx with
      | mk first => exact absurd (by simpa using first) hstart

/-- A text that begins with a whole keyword has that for its first word. -/
lemma word_append {k : String} {rest : List Char} (hk : k.toList.all isNameChar = true)
    (hrest : Stops IsNameChar rest) : word (k.toList ++ rest) = (k.toList, rest) :=
  word_eq_iff.2 ⟨rfl, fun c hc => isNameChar_iff.1 (List.all_eq_true.1 hk c hc), hrest⟩

/-- A keyword is a whole run of name characters. -/
lemma keyword?_eq_some_iff {k : String} (hk : k.toList.all isNameChar = true)
    {cs rest : List Char} :
    keyword? k cs = some rest ↔ cs = k.toList ++ rest ∧ Stops IsNameChar rest := by
  unfold keyword?
  split
  · rename_i hw
    rw [Option.some.injEq]
    refine ⟨fun h => ?_, ?_⟩
    · have hword : word cs = (k.toList, rest) := Prod.ext hw h
      have := word_eq_iff.1 hword
      exact ⟨this.1, this.2.2⟩
    · rintro ⟨rfl, hrest⟩
      rw [word_append hk hrest]
  · rename_i hw
    refine ⟨fun h => (Option.some_ne_none _ h.symm).elim, ?_⟩
    rintro ⟨rfl, hrest⟩
    rw [word_append hk hrest] at hw
    exact absurd rfl hw

lemma symbol?_eq_some_iff {s : Char} {cs rest : List Char} :
    symbol? s cs = some rest ↔ cs = s :: rest := by
  cases cs with
  | nil => simp [symbol?]
  | cons c cs =>
    simp only [symbol?, List.cons.injEq]
    split
    · rename_i h
      simp [h]
    · rename_i h
      simp [h]

lemma after?_eq_some_iff {start : String} {cs rest : List Char} :
    after? start cs = some rest ↔ cs = start.toList ++ rest := by
  unfold after?
  split
  · rename_i h
    obtain ⟨t, rfl⟩ := List.isPrefixOf_iff_prefix.1 h
    rw [← String.length_toList, List.drop_left, Option.some.injEq, List.append_cancel_left_eq]
  · rename_i h
    refine ⟨?_, ?_⟩
    · intro h'
      cases h'
    · rintro rfl
      exact absurd (List.isPrefixOf_iff_prefix.2 (List.prefix_append _ _)) h

lemma before?_eq_some_iff {stop : String} {cs front : List Char} :
    before? stop cs = some front ↔ cs = front ++ stop.toList := by
  unfold before?
  split
  · rename_i h
    obtain ⟨t, rfl⟩ := List.isSuffixOf_iff_suffix.1 h
    rw [← String.length_toList, List.length_append, Nat.add_sub_cancel, List.take_left,
      Option.some.injEq, List.append_cancel_right_eq]
  · rename_i h
    refine ⟨?_, ?_⟩
    · intro h'
      cases h'
    · rintro rfl
      exact absurd (List.isSuffixOf_iff_suffix.2 (List.suffix_append _ _)) h

/-- The text is cut at its first colon. -/
lemma atColon?_eq_some_iff {cs front rest : List Char} :
    atColon? cs = some (front, rest) ↔ cs = front ++ ':' :: rest ∧ ':' ∉ front := by
  have hp : ∀ {c : Char}, (c != ':') = true ↔ c ≠ ':' := bne_iff_ne
  unfold atColon?
  refine ⟨fun h => ?_, ?_⟩
  · split at h
    · cases h
    · rename_i fr c rs heq
      obtain ⟨rfl, rfl⟩ := Prod.mk.inj (Option.some.inj h)
      obtain ⟨h1, h2, h3⟩ := (run_eq_iff hp).1 heq
      have hc : c = ':' := not_not.1 (stops_cons.1 h3)
      exact ⟨hc ▸ h1, fun hmem => h2 _ hmem rfl⟩
  · rintro ⟨h, hnot⟩
    have : run (· != ':') cs = (front, ':' :: rest) :=
      (run_eq_iff hp).2 ⟨h, fun c hc hcolon => hnot (hcolon ▸ hc), stops_cons.2 (by simp)⟩
    rw [this]

end GridScript.Script
