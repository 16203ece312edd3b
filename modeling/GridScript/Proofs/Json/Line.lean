import GridScript.Proofs.Json.Scan
import GridScript.Proofs.Json.RoundTrip

/-!
The text of a value on one line is one line: a line feed in a string is written as an escape.
-/

namespace GridScript.Json

lemma hexDigit_ne_newline : ∀ n < 16, hexDigit n ≠ '\n' := by decide

lemma newline_not_mem_escapeChar (c : Char) : '\n' ∉ escapeChar c := by
  unfold escapeChar
  split
  all_goals try decide
  rename_i hnewline _ _
  split
  · rename_i hcontrol
    have hhigh := hexDigit_ne_newline (c.toNat / 16) (by omega)
    have hlow := hexDigit_ne_newline (c.toNat % 16) (by omega)
    simp [hhigh.symm, hlow.symm]
  · simpa using Ne.symm hnewline

lemma newline_not_mem_digits (n : Nat) : '\n' ∉ Text.digits n := fun h =>
  absurd (Text.isDigit_of_mem_digits h) (by decide)

lemma newline_not_mem_writeString (s : Option String) : '\n' ∉ writeString s := by
  cases s with
  | none => decide
  | some s => simp [writeString, quoted, newline_not_mem_escapeChar]

lemma newline_not_mem_compactElements {vs : List Json} (h : ∀ v ∈ vs, '\n' ∉ v.compact) :
    '\n' ∉ compactElements vs := by
  induction vs with
  | nil => simp [compactElements]
  | cons v vs ih =>
    obtain ⟨hv, hvs⟩ := List.forall_mem_cons.1 h
    simp [compactElements, hv, ih hvs]

lemma newline_not_mem_compactMembers {ms : List (Option String × Json)}
    (h : ∀ m ∈ ms, '\n' ∉ m.2.compact) : '\n' ∉ compactMembers ms := by
  induction ms with
  | nil => simp [compactMembers]
  | cons m ms ih =>
    obtain ⟨hm, hms⟩ := List.forall_mem_cons.1 h
    simp [compactMembers, newline_not_mem_writeString, hm, ih hms]

/-- The text of a value on one line holds no line feed. -/
lemma newline_not_mem_compact {j : Json} (h : j.Plain) : '\n' ∉ j.compact := by
  induction h with
  | null => simp [compact]
  | bool b => cases b <;> simp [compact, writeBool]
  | ofInt i =>
    rw [ofInt, compact, writeNumber_ofInt]
    split <;> simp [newline_not_mem_digits]
  | ofString s =>
    rw [ofString, compact]
    exact newline_not_mem_writeString (some s)
  | @array vs _ ih =>
    cases vs with
    | nil => simp [compact]
    | cons v vs =>
      obtain ⟨hv, hvs⟩ := List.forall_mem_cons.1 ih
      simp [compact, hv, newline_not_mem_compactElements hvs]
  | @object ms _ _ ih =>
    cases ms with
    | nil => simp [compact]
    | cons m ms =>
      obtain ⟨hm, hms⟩ := List.forall_mem_cons.1 ih
      simp [compact, newline_not_mem_writeString, hm, newline_not_mem_compactMembers hms]

end GridScript.Json
