import GridScript.Proofs.Json.Scan

/-!
Reading undoes writing.

A text of a value spells the tokens of that value, whatever white space and escapes it has, and the
reader makes the value of them. What is written on one line or with indentation is such a text, if
the strings are Unicode text and the numbers are integers, as they are in all that is ever written.
-/

namespace GridScript.Json

/-! ### The tokens of a value -/

mutual

/-- The tokens that a value is written with. -/
def tokens : Json → List Token
  | null => [.null]
  | bool b => [.bool b]
  | number n => [.number n]
  | string s => [.string s]
  | array [] => [.openArray, .closeArray]
  | array (v :: vs) => .openArray :: (tokens v ++ elementTokens vs)
  | object [] => [.openObject, .closeObject]
  | object ((key, v) :: ms) =>
    .openObject :: .string key :: .colon :: (tokens v ++ memberTokens ms)

/-- The tokens of the elements after the first, and of the closing bracket. -/
def elementTokens : List Json → List Token
  | [] => [.closeArray]
  | v :: vs => .comma :: (tokens v ++ elementTokens vs)

/-- The tokens of the members after the first, and of the closing brace. -/
def memberTokens : List (Option String × Json) → List Token
  | [] => [.closeObject]
  | (key, v) :: ms => .comma :: .string key :: .colon :: (tokens v ++ memberTokens ms)

end

/-! ### Texts of a value -/

lemma spells_nil_of_spaces {ws : List Char} (h : Spaces ws) : Spells ws [] := by
  simpa using spells_nil.spaces h

lemma Spells.around {before after cs : List Char} {ts : List Token} (h : Spells cs ts)
    (hbefore : Spaces before) (hafter : Spaces after) : Spells (before ++ cs ++ after) ts := by
  have hends : Ends after := by simpa using hafter.ends ends_nil
  simpa using (h.append (spells_nil_of_spaces hafter) hends).spaces hbefore

lemma KeyText.spells {key : Option String} {cs : List Char} (h : KeyText key cs) :
    Spells cs [.string key] := by
  obtain ⟨hkey, hbefore, hafter⟩ := h
  exact hkey.spells.around hbefore hafter

lemma Member.spells {m : Member} (hkey : KeyText m.key m.keyText)
    (h : Spells m.valueText (tokens m.value)) :
    Spells m.text (.string m.key :: .colon :: tokens m.value) :=
  hkey.spells.append (h.sign (by decide)) (ends_cons (by decide) _)

/-- The end of an array or an object: white space and the closing sign. -/
lemma spells_close {ws : List Char} (hws : Spaces ws) {c : Char} {t : Token} (h : (c, t) ∈ signs) :
    Spells (ws ++ [c]) [t] :=
  (spells_nil.sign h).spaces hws

lemma spells_elements {e : Json × List Char} {es : List (Json × List Char)} {ws : List Char}
    (he : Spells e.2 (tokens e.1)) (hes : ∀ d ∈ es, Spells d.2 (tokens d.1)) (hws : Spaces ws) :
    Spells (List.intercalate [','] ((e :: es).map Prod.snd) ++ (ws ++ [']']))
      (tokens e.1 ++ elementTokens (es.map Prod.fst)) := by
  induction es generalizing e with
  | nil =>
    have hclose := spells_close hws (c := ']') (t := .closeArray) (by decide)
    simpa [elementTokens] using he.append hclose (hws.ends (ends_cons (by decide) _))
  | cons d ds ih =>
    obtain ⟨hd, hds⟩ := List.forall_mem_cons.1 hes
    have hcomma := (ih hd hds).sign (c := ',') (t := .comma) (by decide)
    simpa [elementTokens, List.intercalate_cons_cons] using
      he.append hcomma (ends_cons (by decide) _)

lemma spells_members {m : Member} {ms : List Member} {ws : List Char}
    (hm : Spells m.text (.string m.key :: .colon :: tokens m.value))
    (hms : ∀ n ∈ ms, Spells n.text (.string n.key :: .colon :: tokens n.value)) (hws : Spaces ws) :
    Spells (List.intercalate [','] ((m :: ms).map Member.text) ++ (ws ++ ['\x7d']))
      (.string m.key :: .colon :: (tokens m.value ++ memberTokens (ms.map Member.field))) := by
  induction ms generalizing m with
  | nil =>
    have hclose := spells_close hws (c := '\x7d') (t := .closeObject) (by decide)
    simpa [memberTokens] using hm.append hclose (hws.ends (ends_cons (by decide) _))
  | cons n ns ih =>
    obtain ⟨hn, hns⟩ := List.forall_mem_cons.1 hms
    have hcomma := (ih hn hns).sign (c := ',') (t := .comma) (by decide)
    simpa [memberTokens, Member.field, List.intercalate_cons_cons] using
      hm.append hcomma (ends_cons (by decide) _)

/-- A text of a value spells its tokens. -/
lemma Written.spells {j : Json} {cs : List Char} (h : Written j cs) : Spells cs (tokens j) := by
  induction h with
  | null => exact spells_null
  | bool b => exact spells_writeBool b
  | number h => exact h.spells
  | string h => exact h.spells
  | @array es ws h hws ih =>
    cases es with
    | nil =>
      have hclose := spells_close hws (c := ']') (t := .closeArray) (by decide)
      simpa [tokens] using hclose.sign (c := '[') (t := .openArray) (by decide)
    | cons e es =>
      obtain ⟨he, hes⟩ := List.forall_mem_cons.1 ih
      have hopen := (spells_elements he hes hws).sign (c := '[') (t := .openArray) (by decide)
      simpa [tokens] using hopen
  | @object ms ws hkeys h hws ih =>
    have hmembers : ∀ m ∈ ms, Spells m.text (.string m.key :: .colon :: tokens m.value) :=
      fun m hm => Member.spells (hkeys m hm) (ih m hm)
    cases ms with
    | nil =>
      have hclose := spells_close hws (c := '\x7d') (t := .closeObject) (by decide)
      simpa [tokens] using hclose.sign (c := '\x7b') (t := .openObject) (by decide)
    | cons m ms =>
      obtain ⟨hm, hms⟩ := List.forall_mem_cons.1 hmembers
      have hopen := (spells_members hm hms hws).sign (c := '\x7b') (t := .openObject) (by decide)
      simpa [tokens, Member.field] using hopen
  | spaced _ hbefore hafter ih => exact ih.around hbefore hafter

/-! ### Reading -/

/-- The tokens of a value do not close anything at their front. -/
lemma tokens_cons (j : Json) : ∃ t ts, tokens j = t :: ts ∧ t ≠ .closeArray := by
  unfold tokens
  split <;> exact ⟨_, _, rfl, by simp⟩

/-- The reader makes a value of its tokens, whatever follows them. -/
def Reads (j : Json) : Prop :=
  ∀ fuel rest, 2 * (tokens j).length ≤ fuel → value fuel (tokens j ++ rest) = some (j, rest)

lemma elements_tokens {v : Json} {vs : List Json} (hv : Reads v) (hvs : ∀ w ∈ vs, Reads w)
    (fuel : Nat) (rest : List Token)
    (hfuel : 2 * (tokens v ++ elementTokens vs).length ≤ fuel) :
    elements fuel (tokens v ++ elementTokens vs ++ rest) = some (v :: vs, rest) := by
  -- a token has fuel for two steps: one over the elements, and one into the value
  induction vs generalizing v fuel with
  | nil =>
    simp only [elementTokens, List.length_append, List.length_singleton] at hfuel
    obtain ⟨n, rfl⟩ : ∃ n, fuel = n + 1 := ⟨fuel - 1, by omega⟩
    have hvalue := hv n (.closeArray :: rest) (by omega)
    simp [elements, elementTokens, hvalue]
  | cons w ws ih =>
    obtain ⟨hw, hws⟩ := List.forall_mem_cons.1 hvs
    simp only [elementTokens, List.length_append, List.length_cons] at hfuel
    obtain ⟨n, rfl⟩ : ∃ n, fuel = n + 1 := ⟨fuel - 1, by omega⟩
    have hvalue := hv n (.comma :: (tokens w ++ elementTokens ws ++ rest)) (by omega)
    have hlater := ih hw hws n (by rw [List.length_append]; omega)
    have hsplit : tokens v ++ elementTokens (w :: ws) ++ rest =
        tokens v ++ .comma :: (tokens w ++ elementTokens ws ++ rest) := by simp [elementTokens]
    rw [hsplit, elements, hvalue]
    simp only [hlater, Option.map_some]

lemma members_tokens (key : Option String) {v : Json} {ms : List (Option String × Json)}
    (hv : Reads v) (hms : ∀ m ∈ ms, Reads m.2) (fuel : Nat) (rest : List Token)
    (hfuel : 2 * (tokens v ++ memberTokens ms).length < fuel) :
    members fuel (.string key :: .colon :: (tokens v ++ memberTokens ms ++ rest)) =
      some ((key, v) :: ms, rest) := by
  induction ms generalizing key v fuel with
  | nil =>
    simp only [memberTokens, List.length_append, List.length_singleton] at hfuel
    obtain ⟨n, rfl⟩ : ∃ n, fuel = n + 1 := ⟨fuel - 1, by omega⟩
    have hvalue := hv n (.closeObject :: rest) (by omega)
    simp [members, memberTokens, hvalue]
  | cons m ms ih =>
    obtain ⟨hm, hms⟩ := List.forall_mem_cons.1 hms
    simp only [memberTokens, List.length_append, List.length_cons] at hfuel
    obtain ⟨n, rfl⟩ : ∃ n, fuel = n + 1 := ⟨fuel - 1, by omega⟩
    have hvalue := hv n
      (.comma :: .string m.1 :: .colon :: (tokens m.2 ++ memberTokens ms ++ rest)) (by omega)
    have hlater := ih m.1 hm hms n (by rw [List.length_append]; omega)
    have hsplit : tokens v ++ memberTokens (m :: ms) ++ rest =
        tokens v ++ .comma :: .string m.1 :: .colon :: (tokens m.2 ++ memberTokens ms ++ rest) := by
      simp [memberTokens]
    rw [hsplit, members, hvalue]
    simp only [hlater, Option.map_some]

/-- One step of the reader is enough for a scalar, and for a container without content. -/
lemma reads_of_step {j : Json}
    (h : ∀ fuel rest, value (fuel + 1) (tokens j ++ rest) = some (j, rest)) : Reads j := by
  intro fuel rest hfuel
  obtain ⟨t, ts, hts, -⟩ := tokens_cons j
  rw [hts, List.length_cons] at hfuel
  obtain ⟨n, rfl⟩ : ∃ n, fuel = n + 1 := ⟨fuel - 1, by omega⟩
  exact h n rest

lemma reads_array {v : Json} {vs : List Json} (hv : Reads v) (hvs : ∀ w ∈ vs, Reads w) :
    Reads (array (v :: vs)) := by
  intro fuel rest hfuel
  simp only [tokens, List.length_cons] at hfuel
  obtain ⟨n, rfl⟩ : ∃ n, fuel = n + 1 := ⟨fuel - 1, by omega⟩
  have helements := elements_tokens hv hvs n rest (by omega)
  obtain ⟨t, ts, hts, hclose⟩ := tokens_cons v
  simp only [tokens, hts, List.cons_append] at helements ⊢
  rw [value, helements]
  · rfl
  · rintro _ h
    exact hclose (List.cons.inj h).1

lemma reads_object {key : Option String} {v : Json} {ms : List (Option String × Json)}
    (hv : Reads v) (hms : ∀ m ∈ ms, Reads m.2) : Reads (object ((key, v) :: ms)) := by
  intro fuel rest hfuel
  simp only [tokens, List.length_cons] at hfuel
  obtain ⟨n, rfl⟩ : ∃ n, fuel = n + 1 := ⟨fuel - 1, by omega⟩
  have hmembers := members_tokens key hv hms n rest (by omega)
  simp only [tokens, List.cons_append] at hmembers ⊢
  rw [value, hmembers]
  · rfl
  · rintro _ h
    cases h

mutual

/-- The reader makes every value of its tokens. -/
lemma reads : ∀ j : Json, Reads j
  | null | bool _ | number _ | string _ | array [] | object [] => reads_of_step fun _ _ => rfl
  | array (v :: vs) => reads_array (reads v) (reads_of_mem vs)
  | object ((_, v) :: ms) => reads_object (reads v) (reads_of_field ms)

lemma reads_of_mem : ∀ vs : List Json, ∀ v ∈ vs, Reads v
  | [], _, h => nomatch h
  | v :: vs, w, h => (List.mem_cons.1 h).elim (fun hw => hw ▸ reads v) (reads_of_mem vs w)

lemma reads_of_field : ∀ ms : List (Option String × Json), ∀ m ∈ ms, Reads m.2
  | [], _, h => nomatch h
  | (_, v) :: ms, n, h => (List.mem_cons.1 h).elim (fun hn => hn ▸ reads v) (reads_of_field ms n)

end

/-- **A text of a value reads as that value.** -/
theorem Written.parse? {j : Json} {cs : List Char} (h : Written j cs) :
    Json.parse? (cs.map some) = some j := by
  have hscan : Token.scan (cs.map some) = some (tokens j) := by
    have hscans := h.spells [] [] delimits_nil scans_nil
    rw [List.append_nil, List.append_nil] at hscans
    exact hscans _ (Nat.le_refl _)
  have hvalue := reads j (2 * (tokens j).length + 1) [] (by omega)
  rw [List.append_nil] at hvalue
  simp only [Json.parse?, hscan, Option.bind_some, ofTokens?, hvalue]

/-! ### What is written -/

/-- Every string is Unicode text, and every number an integer. -/
inductive Plain : Json → Prop where
  | null : Plain null
  | bool (b : Bool) : Plain (bool b)
  | ofInt (i : Int) : Plain (ofInt i)
  | ofString (s : String) : Plain (ofString s)
  | array {vs : List Json} (h : ∀ v ∈ vs, Plain v) : Plain (array vs)
  | object {ms : List (Option String × Json)} (hkeys : ∀ m ∈ ms, m.1.isSome = true)
      (h : ∀ m ∈ ms, Plain m.2) : Plain (object ms)

/-- Texts that follow each other with commas between them, up to what closes them. -/
lemma append_eq_intercalate {f : α → List Char} {rest : List α → List Char}
    (h : ∀ a as, rest (a :: as) = ',' :: (f a ++ rest as)) (a : α) (as : List α) :
    f a ++ rest as = List.intercalate [','] ((a :: as).map f) ++ rest [] := by
  induction as generalizing a with
  | nil => simp
  | cons b bs ih => simp [h, ih, List.intercalate_cons_cons]

lemma written_array (f : Json → List Char) {vs : List Json} (h : ∀ v ∈ vs, Written v (f v))
    {ws : List Char} (hws : Spaces ws) :
    Written (array vs) ('[' :: List.intercalate [','] (vs.map f) ++ ws ++ [']']) := by
  have hes : ∀ e ∈ vs.map fun v => (v, f v), Written e.1 e.2 := List.forall_mem_map.2 h
  simpa [Function.comp_def] using Written.array hes hws

lemma written_object (key : Option String → List Char) (f : Json → List Char)
    {ms : List (Option String × Json)} (hkeys : ∀ m ∈ ms, KeyText m.1 (key m.1))
    (h : ∀ m ∈ ms, Written m.2 (f m.2)) {ws : List Char} (hws : Spaces ws) :
    Written (object ms)
      ('\x7b' :: List.intercalate [','] (ms.map fun m => key m.1 ++ ':' :: f m.2) ++ ws ++
        ['\x7d']) := by
  have hobject : Written (object ((ms.map fun m => ⟨m.1, m.2, key m.1, f m.2⟩).map Member.field)) _ :=
    .object (List.forall_mem_map.2 hkeys) (List.forall_mem_map.2 h) hws
  simpa [Function.comp_def, Member.field, Member.text] using hobject

lemma keyText_writeString {key : Option String} (hkey : key.isSome = true) {before : List Char}
    (hbefore : Spaces before) : KeyText key (before ++ writeString key) := by
  obtain ⟨text, rfl⟩ := Option.isSome_iff_exists.1 hkey
  simpa using KeyText.intro (stringText_writeString text) hbefore spaces_nil

lemma written_compact {j : Json} (h : j.Plain) : Written j (compact j) := by
  induction h with
  | null => exact .null
  | bool b => exact .bool b
  | ofInt i => exact .number (numberText_ofInt i)
  | ofString s => exact .string (stringText_writeString s)
  | @array vs h ih =>
    have harray := written_array compact ih spaces_nil
    cases vs with
    | nil => exact harray
    | cons v vs =>
      have hrest : ∀ w ws, compactElements (w :: ws) = ',' :: (compact w ++ compactElements ws) :=
        fun _ _ => rfl
      have hline := append_eq_intercalate hrest v vs
      simpa [compact, compactElements, hline] using harray
  | @object ms hkeys h ih =>
    have hobject := written_object writeString compact
      (fun m hm => keyText_writeString (hkeys m hm) spaces_nil) ih spaces_nil
    cases ms with
    | nil => exact hobject
    | cons m ms =>
      have hrest : ∀ n ns, compactMembers (n :: ns) =
          ',' :: (writeString n.1 ++ ':' :: compact n.2 ++ compactMembers ns) := by
        simp [compactMembers]
      have hline := append_eq_intercalate hrest m ms
      simp only [List.append_assoc, List.cons_append] at hline
      simpa [compact, compactMembers, hline] using hobject

lemma written_pretty {j : Json} (h : j.Plain) (level : Nat) : Written j (pretty level j) := by
  induction h generalizing level with
  | null => exact .null
  | bool b => exact .bool b
  | ofInt i => exact .number (numberText_ofInt i)
  | ofString s => exact .string (stringText_writeString s)
  | @array vs h ih =>
    cases vs with
    | nil => exact written_array compact (by simp) spaces_nil
    | cons v vs =>
      have hvalues : ∀ w ∈ v :: vs, Written w (newline (level + 1) ++ pretty (level + 1) w) := by
        intro w hw
        simpa using (ih w hw (level + 1)).spaced (spaces_newline (level + 1)) spaces_nil
      have hrest : ∀ w ws, prettyElements level (w :: ws) =
          ',' :: (newline (level + 1) ++ pretty (level + 1) w ++ prettyElements level ws) := by
        simp [prettyElements]
      have hlines := append_eq_intercalate hrest v vs
      rw [List.append_assoc] at hlines
      simpa [pretty, prettyElements, hlines] using written_array _ hvalues (spaces_newline level)
  | @object ms hkeys h ih =>
    cases ms with
    | nil => exact written_object writeString compact (by simp) (by simp) spaces_nil
    | cons m ms =>
      have hvalues : ∀ n ∈ m :: ms, Written n.2 (' ' :: pretty (level + 1) n.2) := by
        intro n hn
        simpa using (ih n hn (level + 1)).spaced spaces_blank spaces_nil
      have hrest : ∀ n ns, prettyMembers level (n :: ns) =
          ',' :: (newline (level + 1) ++ writeString n.1 ++ ':' :: ' ' :: pretty (level + 1) n.2 ++
            prettyMembers level ns) := by
        simp [prettyMembers]
      have hlines := append_eq_intercalate hrest m ms
      have hobject := written_object (fun key => newline (level + 1) ++ writeString key)
        (fun w => ' ' :: pretty (level + 1) w)
        (fun n hn => keyText_writeString (hkeys n hn) (spaces_newline (level + 1))) hvalues
        (spaces_newline level)
      simp only [List.append_assoc, List.cons_append] at hlines
      simpa [pretty, prettyMembers, hlines] using hobject

/-- A value written on one line reads as that value. -/
lemma parse?_compact {j : Json} (h : j.Plain) : parse? (j.compact.map some) = some j :=
  (written_compact h).parse?

/-- A value written with indentation reads as that value. -/
lemma parse?_pretty {j : Json} (h : j.Plain) (level : Nat) :
    parse? ((j.pretty level).map some) = some j :=
  (written_pretty h level).parse?

end GridScript.Json
