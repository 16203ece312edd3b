import GridScript.Text.Split
import Mathlib.Tactic.Common

/-!
Texts that are put together from lines.

Texts that hold no separator are found again between the separators that part them, and so are lines
that hold no line feed between the line feeds that end them.
-/

namespace GridScript.Text

lemma split_intercalate {p : Char → Bool} {c : Char} (hc : p c = true) {ts : List (List Char)}
    (hne : ts ≠ []) (h : ∀ t ∈ ts, ∀ d ∈ t, p d = false) :
    split p (List.intercalate [c] ts) = ts := by
  induction ts with
  | nil => exact absurd rfl hne
  | cons t ts ih =>
    obtain ⟨ht, hts⟩ := List.forall_mem_cons.1 h
    cases ts with
    | nil => simpa using split_eq_singleton ht
    | cons u ts =>
      rw [List.intercalate_cons_cons, List.append_assoc, List.singleton_append,
        split_append_separator hc, split_eq_singleton ht, ih (List.cons_ne_nil u ts) hts,
        List.singleton_append]

/-- A piece stands in the text as it is. -/
lemma infix_of_mem_split {p : Char → Bool} {cs t : List Char} (h : t ∈ split p cs) : t <:+: cs := by
  suffices hprefix : ∃ q ts, split p cs = q :: ts ∧ q <+: cs ∧ ∀ u ∈ ts, u <:+: cs by
    obtain ⟨q, ts, hsplit, hq, hts⟩ := hprefix
    rw [hsplit] at h
    exact (List.mem_cons.1 h).elim (fun heq => heq ▸ hq.isInfix) (hts t)
  clear h
  induction cs with
  | nil => exact ⟨[], [], rfl, List.nil_prefix, by simp⟩
  | cons c cs ih =>
    obtain ⟨q, ts, hsplit, hq, hts⟩ := ih
    by_cases hc : p c = true
    · refine ⟨[], q :: ts, by rw [split_cons_separator hc, hsplit], List.nil_prefix, ?_⟩
      exact List.forall_mem_cons.2
        ⟨List.infix_cons hq.isInfix, fun u hu => List.infix_cons (hts u hu)⟩
    · refine ⟨c :: q, ts, by simp [split, hc, hsplit], List.prefix_cons_inj c |>.2 hq, ?_⟩
      exact fun u hu => List.infix_cons (hts u hu)

/-- Some lines, each with a line feed at its end. -/
def terminated (ls : List (List Char)) : List Char := ls.flatMap (· ++ ['\n'])

lemma split_terminated {ls : List (List Char)} (h : ∀ l ∈ ls, '\n' ∉ l) :
    split (· == '\n') (terminated ls) = ls ++ [[]] := by
  induction ls with
  | nil => rfl
  | cons l ls ih =>
    obtain ⟨hl, hls⟩ := List.forall_mem_cons.1 h
    have hwhole : ∀ c ∈ l, (c == '\n') = false := fun c hc => by
      simpa using fun heq : c = '\n' => hl (heq ▸ hc)
    have hcons : terminated (l :: ls) = l ++ '\n' :: terminated ls := by simp [terminated]
    rw [hcons, split_append_separator (by decide), split_eq_singleton hwhole, ih hls]
    rfl

/-- A carriage return at the end of a line belongs to the line end. -/
lemma lines_terminated {ls : List (List Char)} (h : ∀ l ∈ ls, '\n' ∉ l) :
    lines (terminated ls) = ls.map dropReturn := by
  rw [lines, split_terminated h]
  simp

/-- No line holds a line feed. -/
lemma newline_not_mem_of_mem_lines {cs l : List Char} (h : l ∈ lines cs) : '\n' ∉ l := by
  have hpiece : ∀ p ∈ split (· == '\n') cs, '\n' ∉ p := fun p hp hfeed => by
    simpa using not_separator_of_mem_split hp _ hfeed
  rcases List.mem_append.1 h with h | h
  · obtain ⟨p, hp, rfl⟩ := List.mem_map.1 h
    have hnot := hpiece p (List.dropLast_subset _ hp)
    unfold dropReturn
    split
    · exact fun hfeed => hnot (List.dropLast_subset _ hfeed)
    · exact hnot
  · cases hlast : (split (· == '\n') cs).getLast? with
    | none => simp [hlast] at h
    | some p =>
      rw [hlast, Option.getD_some] at h
      split at h
      · cases h
      · exact List.mem_singleton.1 h ▸ hpiece p (List.mem_of_getLast? hlast)

end GridScript.Text
