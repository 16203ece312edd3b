import GridScript.Proofs.Script.Statements
import GridScript.Proofs.Text.Lines

/-!
Lines of several statements.

Texts that hold no separator and have no blank at their ends are the parts of the line in which they
stand between semicolons, unless that line is one loop or one condition.
-/

namespace GridScript.Script

open Grammar

/-- A text that is found in a line as it is written there. -/
structure Solid (t : List Char) : Prop where
  ne_nil : t ≠ []
  whole : ∀ c ∈ t, isSeparator c = false
  trimmed : Trims t t

/-- Texts in one line. -/
def joined (ts : List (List Char)) : List Char := List.intercalate [';'] ts

lemma trims_self {t : List Char} (hhead : ∀ c, t.head? = some c → Text.isBlank c = false)
    (hlast : ∀ c, t.getLast? = some c → Text.isBlank c = false) : Trims t t :=
  ⟨⟨[], [], by simp, by simp, by simp⟩, hhead, hlast⟩

lemma trim_trim (cs : List Char) : Text.trim (Text.trim cs) = Text.trim cs := by
  obtain ⟨-, hhead, hlast⟩ := trim_spec cs
  exact (trims_iff.1 (trims_self hhead hlast)).symm

lemma readStatement_trim (limit : UInt32) (cs : List Char) :
    readStatement limit (Text.trim cs) = readStatement limit cs := by
  rw [readStatement, trim_trim, readStatement]

/-- What stands between the ends of a text does not matter for trimming it. -/
lemma Grammar.Trims.append {a z : List Char} (ha : Trims a a) (hane : a ≠ []) (hz : Trims z z)
    (hzne : z ≠ []) (m : List Char) : Trims (a ++ m ++ z) (a ++ m ++ z) := by
  refine trims_self (fun c hc => ha.head c ?_) (fun c hc => hz.last c ?_)
  · obtain ⟨b, a, rfl⟩ := List.exists_cons_of_ne_nil hane
    exact hc
  · obtain ⟨z, b, rfl⟩ := (List.eq_nil_or_concat' z).resolve_left hzne
    simpa [← List.append_assoc] using hc

lemma Grammar.Trims.cons {b : Char} {cs t : List Char} (hb : Text.isBlank b = true)
    (h : Trims cs t) : Trims (b :: cs) t := by
  obtain ⟨⟨a, z, rfl, ha, hz⟩, hhead, hlast⟩ := h
  exact ⟨⟨b :: a, z, rfl, List.forall_mem_cons.2 ⟨hb, ha⟩, hz⟩, hhead, hlast⟩

lemma trims_char {c : Char} (hc : Text.isBlank c = false) : Trims [c] [c] :=
  trims_self (by simpa using hc) (by simpa using hc)

/-- Text that begins and ends with something else than a blank. -/
lemma trims_between {c : Char} (hc : Text.isBlank c = false) (m : List Char) {z : List Char}
    (hne : z ≠ []) (hz : Trims z z) : Trims (c :: m ++ z) (c :: m ++ z) :=
  (trims_char hc).append (List.cons_ne_nil c []) hz hne m

lemma joined_cons {t : List Char} {ts : List (List Char)} (h : ts ≠ []) :
    joined (t :: ts) = t ++ [';'] ++ joined ts := by
  obtain ⟨u, ts, rfl⟩ := List.exists_cons_of_ne_nil h
  exact List.intercalate_cons_cons

lemma split_joined {ts : List (List Char)} (hne : ts ≠ []) (h : ∀ t ∈ ts, Solid t) :
    Text.split isSeparator (joined ts) = ts :=
  Text.split_intercalate (by decide) hne fun t ht => (h t ht).whole

lemma trims_joined {ts : List (List Char)} (hne : ts ≠ []) (h : ∀ t ∈ ts, Solid t) :
    joined ts ≠ [] ∧ Trims (joined ts) (joined ts) := by
  induction ts with
  | nil => exact absurd rfl hne
  | cons t ts ih =>
    have ht := h t List.mem_cons_self
    rcases eq_or_ne ts [] with rfl | hts
    · simpa [joined] using ⟨ht.ne_nil, ht.trimmed⟩
    · obtain ⟨hjoined, htrims⟩ := ih hts fun u hu => h u (List.mem_cons_of_mem t hu)
      rw [joined_cons hts]
      exact ⟨by simp, ht.trimmed.append ht.ne_nil htrims hjoined _⟩

lemma lineParts_of_claims {cs : List Char} (htrims : Trims cs cs) (h : claimsLine cs = true) :
    lineParts cs = [cs] := by
  rw [lineParts, ← trims_iff.1 htrims, if_pos h]

lemma lineParts_joined {ts : List (List Char)} (h : ∀ t ∈ ts, Solid t)
    (hplain : claimsLine (joined ts) = false) : lineParts (joined ts) = ts := by
  rcases eq_or_ne ts [] with rfl | hne
  · rfl
  · have htrim : ∀ t ∈ ts, Text.trim t = id t := fun t ht => (trims_iff.1 (h t ht).trimmed).symm
    rw [lineParts, ← trims_iff.1 (trims_joined hne h).2, if_neg (Bool.eq_false_iff.1 hplain),
      split_joined hne h, List.map_congr_left htrim, List.map_id, List.filter_eq_self]
    intro t ht
    simpa using (h t ht).ne_nil

lemma lineParts_of_solid {t : List Char} (h : Solid t) (hplain : claimsLine t = false) :
    lineParts t = [t] := by
  have ht : joined [t] = t := List.intercalate_singleton
  calc lineParts t = lineParts (joined [t]) := by rw [ht]
    _ = [t] := lineParts_joined (by simpa using h) (by rw [ht, hplain])

lemma readStatement_of_line {limit : UInt32} {cs : List Char} {st : Statement}
    (htrims : Trims cs cs) (h : Line limit cs st) : readStatement limit cs = .ok st := by
  rw [readStatement, ← trims_iff.1 htrims, readTrimmed_eq_ok_iff]
  exact h

end GridScript.Script
