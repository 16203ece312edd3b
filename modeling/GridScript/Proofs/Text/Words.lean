import GridScript.Proofs.Script.Words
import GridScript.Text.Split

/-!
The words of a text.

Blanks at the ends of a text add no word to it, and a text without words is blank. So the words of a
line do not depend on how it ends.
-/

namespace GridScript.Text

open Script

/-- The text is nothing but blanks. -/
def Blank (cs : List Char) : Prop := ∀ c ∈ cs, isBlank c = true

lemma words_cons_of_blank {c : Char} (h : isBlank c = true) (cs : List Char) :
    words (c :: cs) = words cs :=
  words_append_blank h [] cs

lemma words_blanks_append {a : List Char} (h : Blank a) (cs : List Char) :
    words (a ++ cs) = words cs := by
  induction a with
  | nil => rfl
  | cons c a ih =>
    obtain ⟨hc, ha⟩ := List.forall_mem_cons.1 h
    rw [List.cons_append, words_cons_of_blank hc, ih ha]

lemma words_of_blank {cs : List Char} (h : Blank cs) : words cs = [] := by
  rw [← List.append_nil cs, words_blanks_append h]
  rfl

lemma words_append_blanks {z : List Char} (h : Blank z) (cs : List Char) :
    words (cs ++ z) = words cs := by
  cases z with
  | nil => rw [List.append_nil]
  | cons c z =>
    obtain ⟨hc, hz⟩ := List.forall_mem_cons.1 h
    rw [words_append_blank hc, words_of_blank hz, List.append_nil]

lemma words_eq_nil_iff {cs : List Char} : words cs = [] ↔ Blank cs := by
  refine ⟨fun h => ?_, words_of_blank⟩
  induction cs with
  | nil => simp [Blank]
  | cons c cs ih =>
    by_cases hc : isBlank c = true
    · rw [words_cons_of_blank hc] at h
      exact List.forall_mem_cons.2 ⟨hc, ih h⟩
    · -- the first piece is not empty, so it is a word
      obtain ⟨w, ws, hw⟩ := List.exists_cons_of_ne_nil (split_ne_nil isBlank cs)
      simp [words, split, hc, hw] at h

/-- Trimming takes no word away. -/
lemma words_trim (cs : List Char) : words (trim cs) = words cs := by
  obtain ⟨⟨a, z, hcs, ha, hz⟩, -, -⟩ := trim_spec cs
  conv_rhs => rw [hcs]
  rw [words_append_blanks hz, words_blanks_append ha]

lemma trim_eq_nil_iff {cs : List Char} : trim cs = [] ↔ Blank cs := by
  rw [← words_eq_nil_iff, ← words_trim, words_eq_nil_iff]
  obtain ⟨-, hhead, -⟩ := trim_spec cs
  refine ⟨fun h => ?_, fun h => ?_⟩
  · rw [h]
    exact fun c hc => absurd hc List.not_mem_nil
  · by_contra hne
    obtain ⟨c, t, ht⟩ := List.exists_cons_of_ne_nil hne
    have hblank := h c (ht ▸ List.mem_cons_self)
    rw [hhead c (by rw [ht]; rfl)] at hblank
    cases hblank

/-! ### Lines -/

lemma words_dropReturn (cs : List Char) : words (dropReturn cs) = words cs := by
  unfold dropReturn
  split
  · rename_i h
    have hreturn : Blank ['\r'] := List.forall_mem_singleton.2 (by decide)
    rw [← words_append_blanks hreturn, List.dropLast_append_getLast? _ h]
  · rfl

/-- The words of the lines are those between the line feeds. -/
lemma filter_words_lines (cs : List Char) :
    ((lines cs).map words).filter (! ·.isEmpty) =
      ((split (· == '\n') cs).map words).filter (! ·.isEmpty) := by
  obtain ⟨pieces, rest, hsplit⟩ :=
    (List.eq_nil_or_concat' _).resolve_left (split_ne_nil (· == '\n') cs)
  have hrest : ((if rest.isEmpty then [] else [rest]).map words).filter (! ·.isEmpty) =
      [words rest].filter (! ·.isEmpty) := by
    cases rest <;> rfl
  simp only [lines, hsplit, List.dropLast_concat, List.getLast?_concat, Option.getD_some,
    List.map_append, List.map_map, Function.comp_def, words_dropReturn, List.filter_append, hrest,
    List.map_singleton]

end GridScript.Text
