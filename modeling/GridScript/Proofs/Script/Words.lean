import GridScript.Proofs.Script.Scan
import Mathlib.Data.Nat.Digits.Lemmas

/-!
Numbers, words for directions, signs of comparison, trimming and messages, each as the grammar has
it.
-/

namespace GridScript

namespace Script

open Grammar

lemma orElse_eq_ok_iff {e : ParseError} {o : Option α} {a : α} :
    orElse e o = .ok a ↔ o = some a := by
  cases o <;> simp [orElse]

lemma bind_eq_ok_iff {x : Reading α} {f : α → Reading β} {b : β} :
    (x >>= f) = .ok b ↔ ∃ a, x = .ok a ∧ f a = .ok b := by
  cases x <;> simp [bind, Except.bind]

lemma map_eq_ok_iff {x : Reading α} {f : α → β} {b : β} :
    x.map f = .ok b ↔ ∃ a, x = .ok a ∧ f a = b := by
  cases x <;> simp [Except.map]

/-! ### Numbers -/

lemma Grammar.denotes_concat (ds : List Char) (c : Char) :
    denotes (ds ++ [c]) = 10 * denotes ds + (c.toNat - '0'.toNat) := by
  simp [denotes, Nat.ofDigits_cons, Nat.add_comm]

lemma numeralValue_eq_denotes (ds : List Char) : Text.numeralValue ds = denotes ds := by
  induction ds using List.reverseRecOn with
  | nil => rfl
  | append_singleton ds c ih =>
    rw [Text.numeralValue_concat, denotes_concat, ih]
    rfl

lemma natural?_eq_some_iff {cs : List Char} {n : Nat} :
    Text.natural? cs = some n ↔ Numeral cs n := by
  unfold Text.natural?
  rw [numeralValue_eq_denotes]
  split
  · rename_i h
    simp only [Bool.and_eq_true, Bool.not_eq_true', List.isEmpty_eq_false_iff,
      List.all_eq_true, isDigit_iff] at h
    refine ⟨fun hn => ?_, ?_⟩
    · obtain rfl := Option.some.inj hn
      exact .mk h.1 h.2
    · rintro ⟨⟩
      rfl
  · rename_i h
    refine ⟨fun hn => ?_, ?_⟩
    · cases hn
    · rintro ⟨ne, digits⟩
      exact absurd (by simpa [ne] using digits) h

lemma Grammar.Numeral.digits {ds : List Char} {n : Nat} (h : Numeral ds n) :
    ds ≠ [] ∧ ∀ c ∈ ds, IsDigit c := by
  cases h with
  | mk ne digits => exact ⟨ne, digits⟩

lemma not_numeral_plus {ds : List Char} {n : Nat} : ¬Numeral ('+' :: ds) n := by
  rintro ⟨-, digits⟩
  exact absurd (digits '+' List.mem_cons_self) (by unfold IsDigit; decide)

lemma unsigned?_eq_some_iff {cs : List Char} {n : Nat} :
    Text.unsigned? cs = some n ↔ Literal cs n := by
  unfold Text.unsigned?
  split
  · rename_i ds
    rw [natural?_eq_some_iff]
    refine ⟨?_, ?_⟩
    · exact .plus
    · intro h
      cases h with
      | plain h => exact absurd h not_numeral_plus
      | plus h => exact h
  · rename_i hplus
    rw [natural?_eq_some_iff]
    refine ⟨?_, ?_⟩
    · exact .plain
    · intro h
      cases h with
      | plain h => exact h
      | plus h => exact absurd rfl (hplus _)

lemma word32?_eq_some_iff {n : Nat} {w : UInt32} : Text.word32? n = some w ↔ w.toNat = n := by
  unfold Text.word32?
  split
  · rename_i h
    rw [Option.some.injEq, ← UInt32.toNat_inj, Nat.toUInt32_eq, UInt32.toNat_ofNat_of_lt' h]
    exact eq_comm
  · rename_i h
    refine ⟨fun hw => ?_, ?_⟩
    · cases hw
    · rintro rfl
      exact absurd w.toNat_lt h

lemma word64?_eq_some_iff {n : Nat} {w : UInt64} : Text.word64? n = some w ↔ w.toNat = n := by
  unfold Text.word64?
  split
  · rename_i h
    rw [Option.some.injEq, ← UInt64.toNat_inj, Nat.toUInt64_eq, UInt64.toNat_ofNat_of_lt' h]
    exact eq_comm
  · rename_i h
    refine ⟨fun hw => ?_, ?_⟩
    · cases hw
    · rintro rfl
      exact absurd w.toNat_lt h

lemma readCount_eq_ok_iff {limit : UInt32} {cs : List Char} {count : UInt32} :
    readCount limit cs = .ok count ↔ Literal cs count.toNat ∧ count ≤ limit := by
  simp only [readCount, orElse_eq_ok_iff, Option.filter_eq_some_iff, Option.bind_eq_some_iff,
    word32?_eq_some_iff, unsigned?_eq_some_iff, decide_eq_true_eq, exists_eq_right']

lemma readMillis_eq_ok_iff {cs : List Char} {ms : UInt64} :
    readMillis cs = .ok ms ↔ Literal cs ms.toNat := by
  simp only [readMillis, orElse_eq_ok_iff, Option.bind_eq_some_iff, word64?_eq_some_iff,
    unsigned?_eq_some_iff, exists_eq_right']

lemma readBound_eq_ok_iff {cs : List Char} {v : Int} :
    readBound cs = .ok v ↔ ∃ n : Nat, Numeral cs n ∧ n < 2 ^ 63 ∧ v = n := by
  simp only [readBound, orElse_eq_ok_iff, Option.map_eq_some_iff, Option.filter_eq_some_iff,
    natural?_eq_some_iff, decide_eq_true_eq, and_assoc]
  refine ⟨?_, ?_⟩
  · rintro ⟨n, h, hlt, rfl⟩
    exact ⟨n, h, hlt, rfl⟩
  · rintro ⟨n, h, hlt, rfl⟩
    exact ⟨n, h, hlt, rfl⟩

/-- In digits alone a literal is a numeral. -/
lemma Grammar.Literal.numeral {ds : List Char} {n : Nat} (h : Literal ds n)
    (hds : ∀ c ∈ ds, IsDigit c) : Numeral ds n := by
  cases h with
  | plain h => exact h
  | plus h => exact absurd (hds '+' List.mem_cons_self) (by unfold IsDigit; decide)

/-! ### Words from a table -/

/-- In a table without repeated keys, looking up finds exactly the rows. -/
lemma lookup_eq_some_iff {l : List (String × β)} (hl : (l.map Prod.fst).Nodup) {k : String}
    {v : β} : l.lookup k = some v ↔ (k, v) ∈ l := by
  induction l with
  | nil => simp
  | cons e l ih =>
    obtain ⟨k', v'⟩ := e
    obtain ⟨hnot, hl⟩ := List.nodup_cons.1 hl
    rw [List.mem_cons, Prod.mk.injEq]
    by_cases hk : k = k'
    · subst hk
      have hmem : (k, v) ∉ l := fun h => hnot (List.mem_map.2 ⟨_, h, rfl⟩)
      simp [hmem, eq_comm]
    · simp [List.lookup_cons, beq_false_of_ne hk, hk, ih hl]

lemma ofWord?_eq_some_iff {w : List Char} {d : Direction} :
    Direction.ofWord? w = some d ↔ DirectionWord w d := by
  rw [Direction.ofWord?, lookup_eq_some_iff (by decide), DirectionWord]
  refine ⟨fun h => ?_, ?_⟩
  · exact ⟨_, h, by simp⟩
  · rintro ⟨spelling, h, hw⟩
    rwa [hw, String.ofList_toList]

lemma ofToken?_eq_some_iff {o : List Char} {op : Comparison} :
    Comparison.ofToken? o = some op ↔ Operator o op := by
  rw [Comparison.ofToken?, lookup_eq_some_iff (by decide), Operator]
  refine ⟨fun h => ?_, ?_⟩
  · exact ⟨_, h, by simp⟩
  · rintro ⟨token, h, rfl⟩
    rwa [String.ofList_toList]

/-! ### Trimming -/

lemma trimEnd_spec (cs : List Char) :
    ∃ z, cs = Text.trimEnd cs ++ z ∧ (∀ c ∈ z, Text.isBlank c = true) ∧
      ∀ c, (Text.trimEnd cs).getLast? = some c → Text.isBlank c = false := by
  refine ⟨(cs.reverse.takeWhile Text.isBlank).reverse, ?_, ?_, ?_⟩
  · rw [Text.trimEnd, ← List.reverse_append, List.takeWhile_append_dropWhile, List.reverse_reverse]
  · intro c hc
    exact List.mem_takeWhile_imp (List.mem_reverse.1 hc)
  · intro c hc
    have hnot := List.head?_dropWhile_not Text.isBlank cs.reverse
    rw [Text.trimEnd, List.getLast?_reverse] at hc
    rw [hc] at hnot
    simpa using hnot

lemma trim_spec (cs : List Char) : Trims cs (Text.trim cs) := by
  obtain ⟨z, hz, hblank, hlast⟩ := trimEnd_spec (Text.trimStart cs)
  have hstart : cs = cs.takeWhile Text.isBlank ++ Text.trimStart cs :=
    List.takeWhile_append_dropWhile.symm
  refine ⟨⟨cs.takeWhile Text.isBlank, z, ?_, fun c hc => List.mem_takeWhile_imp hc, hblank⟩, ?_,
    hlast⟩
  · rw [List.append_assoc, Text.trim, ← hz]
    exact hstart
  · intro c hc
    -- the first character of what is left is the first one that is not blank
    have hnot := List.head?_dropWhile_not Text.isBlank cs
    have hhead : (Text.trimStart cs).head? = some c := by
      rw [hz, List.head?_append]
      exact Option.or_eq_some_iff.2 (.inl hc)
    rw [show cs.dropWhile Text.isBlank = Text.trimStart cs from rfl, hhead] at hnot
    simpa using hnot

lemma Grammar.Trims.eq_trim {cs t : List Char} (h : Trims cs t) : t = Text.trim cs := by
  obtain ⟨⟨a, z, rfl, ha, hz⟩, hhead, hlast⟩ := h
  rcases t.eq_nil_or_concat' with rfl | ⟨u, c, rfl⟩
  · have hall : ∀ c ∈ a ++ [] ++ z, Text.isBlank c = true := by
      intro c hc
      rw [List.append_nil, List.mem_append] at hc
      exact hc.elim (ha c) (hz c)
    have hstart : Text.trimStart (a ++ [] ++ z) = [] := List.dropWhile_eq_nil_iff.2 hall
    rw [Text.trim, hstart, Text.trimEnd_nil]
  · have hstart : Text.trimStart (a ++ (u ++ [c]) ++ z) = u ++ [c] ++ z := by
      rw [Text.trimStart, List.append_assoc, List.dropWhile_append_of_pos ha]
      rcases hu : u ++ [c] ++ z with _ | ⟨b, r⟩
      · rfl
      · have hb : Text.isBlank b = false := hhead b (by
          rcases u with _ | ⟨b', u⟩ <;> simp_all)
        simp [hb]
    have hc : Text.isBlank c = false := hlast c (by simp)
    rw [Text.trim, hstart, Text.trimEnd, List.reverse_append,
      List.dropWhile_append_of_pos fun d hd => hz d (List.mem_reverse.1 hd)]
    simp [hc]

lemma trims_iff {cs t : List Char} : Trims cs t ↔ t = Text.trim cs :=
  ⟨fun h => h.eq_trim, fun h => h ▸ trim_spec cs⟩

/-! ### Messages -/

lemma isQuote_iff {c : Char} : (c == '"' || c == '\'') = true ↔ IsQuote c := by
  simp [IsQuote]

lemma frontQuote_iff {t u : List Char} :
    ((∃ q, IsQuote q ∧ t = q :: u) ∨ (Stops IsQuote t ∧ t = u)) ↔
      u = if t.head?.any (fun c => c == '"' || c == '\'') then t.tail else t := by
  cases t with
  | nil => simp [stops_nil, eq_comm]
  | cons c t =>
    by_cases hc : IsQuote c
    · simp [isQuote_iff.2 hc, stops_cons, hc, eq_comm]
    · have hc' : (c == '"' || c == '\'') = false :=
        Bool.eq_false_iff.2 fun h => hc (isQuote_iff.1 h)
      simp only [List.head?_cons, Option.any_some, hc', stops_cons, List.cons.injEq]
      refine ⟨?_, ?_⟩
      · rintro (⟨q, hq, rfl, -⟩ | ⟨-, h⟩)
        · exact absurd hq hc
        · exact h.symm
      · intro h
        exact .inr ⟨hc, h.symm⟩

lemma backQuote_iff {u m : List Char} :
    ((∃ q, IsQuote q ∧ u = m ++ [q]) ∨ (Stops IsQuote u.reverse ∧ u = m)) ↔
      m = if u.getLast?.any (fun c => c == '"' || c == '\'') then u.dropLast else u := by
  have h := frontQuote_iff (t := u.reverse) (u := m.reverse)
  have hif : (if u.reverse.head?.any (fun c => c == '"' || c == '\'') then u.reverse.tail
      else u.reverse) =
      (if u.getLast?.any (fun c => c == '"' || c == '\'') then u.dropLast else u).reverse := by
    rw [List.head?_reverse, List.tail_reverse]
    split <;> rfl
  rw [hif] at h
  simpa only [List.reverse_eq_cons_iff, List.reverse_reverse, List.reverse_inj] using h

lemma unquotes_iff {t m : List Char} : Unquotes t m ↔ m = unquote t := by
  refine ⟨?_, ?_⟩
  · rintro ⟨front, back⟩
    rw [backQuote_iff, frontQuote_iff.1 front] at back
    exact back
  · rintro rfl
    exact .intro (frontQuote_iff.2 rfl) (backQuote_iff.2 rfl)

lemma parens_iff {t : List Char} :
    (t.head? = some '(' ∧ t.getLast? = some ')') ↔ ∃ u, t = '(' :: (u ++ [')']) := by
  refine ⟨?_, ?_⟩
  · rintro ⟨hhead, hlast⟩
    obtain ⟨r, rfl⟩ := List.head?_eq_some_iff.1 hhead
    rcases r.eq_nil_or_concat' with rfl | ⟨u, c, rfl⟩
    · simp at hlast
    · rw [← List.cons_append, List.getLast?_concat, Option.some.injEq] at hlast
      exact ⟨u, by rw [hlast]⟩
  · rintro ⟨u, rfl⟩
    rw [← List.cons_append, List.getLast?_concat]
    exact ⟨rfl, rfl⟩

lemma message_eq (raw : List Char) :
    message raw = unquote (if (Text.trim raw).head? = some '(' ∧ (Text.trim raw).getLast? = some ')'
      then Text.trim (Text.trim raw).tail.dropLast else Text.trim raw) := rfl

lemma message_iff {raw m : List Char} : Message raw m ↔ m = message raw := by
  rw [message_eq]
  refine ⟨?_, ?_⟩
  · rintro (⟨ht, hno, hm⟩ | ⟨ht, hu, hm⟩)
    · rw [trims_iff.1 ht] at hno hm
      rw [if_neg fun h => (parens_iff.1 h).elim hno]
      exact unquotes_iff.1 hm
    · rw [if_pos (parens_iff.2 ⟨_, (trims_iff.1 ht).symm⟩), ← trims_iff.1 ht]
      rw [trims_iff.1 hu] at hm
      simpa using unquotes_iff.1 hm
  · rintro rfl
    by_cases h : (Text.trim raw).head? = some '(' ∧ (Text.trim raw).getLast? = some ')'
    · obtain ⟨u, hu⟩ := parens_iff.1 h
      rw [if_pos h]
      refine .parens (u := u) (t := Text.trim u) (hu ▸ trim_spec raw) (trim_spec u) ?_
      rw [hu]
      exact unquotes_iff.2 (by simp)
    · rw [if_neg h]
      exact .bare (trim_spec raw) (fun u hu => h (parens_iff.2 ⟨u, hu⟩)) (unquotes_iff.2 rfl)

end Script

end GridScript
