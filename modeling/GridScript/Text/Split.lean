import GridScript.Text.Blank

/-!
Cutting a text at separators: pieces, words and lines.

A piece lies between two neighbouring separators, so there is always one piece more than there are
separators. Words are the non-empty pieces between blanks; a line ends at a line feed, and a
carriage return before that line feed belongs to the line end.
-/

namespace GridScript.Text

/-- The pieces between the separators `p`, empty ones included. -/
def split (p : Char → Bool) : List Char → List (List Char)
  | [] => [[]]
  | c :: cs =>
    if p c then [] :: split p cs
    else
      match split p cs with
      | [] => [[c]]
      | piece :: pieces => (c :: piece) :: pieces

def words (cs : List Char) : List (List Char) :=
  (split isBlank cs).filter (! ·.isEmpty)

/-- Drops a carriage return at the end. -/
def dropReturn (cs : List Char) : List Char :=
  if cs.getLast? = some '\r' then cs.dropLast else cs

/-- The lines of a text. What follows the last line feed is a line unless it is empty, and its
carriage return is its own. -/
def lines (cs : List Char) : List (List Char) :=
  let pieces := split (· == '\n') cs
  let rest := pieces.getLast?.getD []
  pieces.dropLast.map dropReturn ++ if rest.isEmpty then [] else [rest]

theorem split_ne_nil (p : Char → Bool) (cs : List Char) : split p cs ≠ [] := by
  cases cs with
  | nil => simp [split]
  | cons c cs =>
    unfold split
    split
    · simp
    · split <;> simp

@[simp] theorem split_cons_separator {p : Char → Bool} {c : Char} (h : p c = true)
    (cs : List Char) : split p (c :: cs) = [] :: split p cs := by
  simp [split, h]

/-- Cutting at a separator cuts the two sides on their own. -/
theorem split_append_separator {p : Char → Bool} {c : Char} (h : p c = true) (as bs : List Char) :
    split p (as ++ c :: bs) = split p as ++ split p bs := by
  induction as with
  | nil => simp [split, h]
  | cons a as ih =>
    by_cases ha : p a = true
    · simp [ha, ih]
    · rcases hs : split p as with _ | ⟨w, ws⟩
      · exact absurd hs (split_ne_nil p as)
      · simp [split, ha, ih, hs]

theorem split_eq_singleton {p : Char → Bool} {cs : List Char} (h : ∀ c ∈ cs, p c = false) :
    split p cs = [cs] := by
  induction cs with
  | nil => rfl
  | cons c cs ih =>
    simp [split, h c (by simp), ih fun d hd => h d (by simp [hd])]

/-- No piece holds a separator. -/
theorem not_separator_of_mem_split {p : Char → Bool} {cs w : List Char} (hw : w ∈ split p cs) :
    ∀ c ∈ w, p c = false := by
  induction cs generalizing w with
  | nil => simp_all [split]
  | cons a as ih =>
    by_cases ha : p a = true
    · rw [split_cons_separator ha, List.mem_cons] at hw
      rcases hw with rfl | hw
      · simp
      · exact ih hw
    · rcases hs : split p as with _ | ⟨v, vs⟩
      · exact absurd hs (split_ne_nil p as)
      · simp only [split, ha, hs] at hw
        intro c hc
        rcases List.mem_cons.1 hw with rfl | hw
        · rcases List.mem_cons.1 hc with rfl | hc
          · simpa using ha
          · exact ih (hs ▸ List.mem_cons_self) c hc
        · exact ih (hs ▸ List.mem_cons_of_mem _ hw) c hc

/-! ### Words -/

/-- A blank parts the words on its two sides. -/
theorem words_append_blank {c : Char} (h : isBlank c = true) (as bs : List Char) :
    words (as ++ c :: bs) = words as ++ words bs := by
  rw [words, split_append_separator h, List.filter_append]
  rfl

theorem words_of_not_blank {w : List Char} (hne : w ≠ []) (h : ∀ c ∈ w, isBlank c = false) :
    words w = [w] := by
  have : w.isEmpty = false := by simpa using hne
  simp [words, split_eq_singleton h, this]

end GridScript.Text
