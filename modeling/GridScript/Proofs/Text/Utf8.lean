import GridScript.Text.Utf8
import Mathlib.Tactic.Common

/-!
Decoding undoes encoding.

The bytes of a character begin with a lead byte from which, and from the byte after it, the length
of the piece is read; the numbers that a lead byte may not have are those that no character needs.
-/

namespace GridScript.Text.Utf8

lemma isContinuation_iff {b : UInt8} :
    isContinuation b = true ↔ 0x80 ≤ b.toNat ∧ b.toNat ≤ 0xBF := by
  simp [isContinuation, UInt8.le_iff_toNat_le]

/-- A continuation byte may follow a lead byte unless the piece would be a long form, a surrogate or
beyond the last code point. -/
lemma isSecond_of_isContinuation {lead b : UInt8} (h : isContinuation b = true)
    (hE0 : lead.toNat = 0xE0 → 0xA0 ≤ b.toNat) (hED : lead.toNat = 0xED → b.toNat ≤ 0x9F)
    (hF0 : lead.toNat = 0xF0 → 0x90 ≤ b.toNat) (hF4 : lead.toNat = 0xF4 → b.toNat ≤ 0x8F) :
    isSecond lead b = true := by
  have hb := isContinuation_iff.1 h
  simp only [isSecond, beq_iff_eq, ← UInt8.toNat_inj, UInt8.reduceToNat]
  split_ifs with h1 h2 h3 h4
  · simp [UInt8.le_iff_toNat_le, hE0 h1, hb.2]
  · simp [UInt8.le_iff_toNat_le, hED h2, hb.1]
  · simp [UInt8.le_iff_toNat_le, hF0 h3, hb.2]
  · simp [UInt8.le_iff_toNat_le, hF4 h4, hb.1]
  · exact h

/-! ### One character -/

lemma toNat_toUInt8 {n : Nat} (h : n < 256) : n.toUInt8.toNat = n :=
  UInt8.toNat_ofNat_of_lt' h

lemma isContinuation_toUInt8 {n : Nat} (h : n < 64) :
    isContinuation (0x80 + n).toUInt8 = true ∧ low (0x80 + n).toUInt8 = n := by
  rw [isContinuation_iff, low, toNat_toUInt8 (by omega)]
  omega

lemma piece_one {lead : UInt8} (h : lead.toNat < 0x80) (rest : List UInt8) :
    piece lead rest = .character (Char.ofNat lead.toNat) 1 := by
  have hlead : lead < 0x80 := by simpa [UInt8.lt_iff_toNat_lt] using h
  simp [piece, hlead]

/-- A lead byte of more than one byte is no byte of ASCII, and none that begins a long form or
something beyond the last code point. -/
lemma not_one_of_lead (lead : UInt8) (h : 0xC2 ≤ lead.toNat ∧ lead.toNat ≤ 0xF4) :
    ¬lead < 0x80 ∧ (decide (lead < 0xC2) || decide (0xF4 < lead)) = false := by
  simp only [UInt8.lt_iff_toNat_lt, UInt8.reduceToNat, Bool.or_eq_false_iff,
    decide_eq_false_iff_not]
  omega

lemma piece_two {lead b : UInt8} (h : 0xC2 ≤ lead.toNat ∧ lead.toNat < 0xE0)
    (hb : isSecond lead b = true) (rest : List UInt8) :
    piece lead (b :: rest) = .character (Char.ofNat (lead.toNat % 32 * 64 + low b)) 2 := by
  obtain ⟨h1, h2⟩ := not_one_of_lead lead (by omega)
  have h3 : lead < 0xE0 := by simpa [UInt8.lt_iff_toNat_lt] using h.2
  simp [piece, h1, h2, h3, hb]

lemma piece_three {lead b c : UInt8} (h : 0xE0 ≤ lead.toNat ∧ lead.toNat < 0xF0)
    (hb : isSecond lead b = true) (hc : isContinuation c = true) (rest : List UInt8) :
    piece lead (b :: c :: rest) =
      .character (Char.ofNat ((lead.toNat % 16 * 64 + low b) * 64 + low c)) 3 := by
  obtain ⟨h1, h2⟩ := not_one_of_lead lead (by omega)
  have h3 : ¬lead < 0xE0 := by simpa [UInt8.lt_iff_toNat_lt] using h.1
  have h4 : lead < 0xF0 := by simpa [UInt8.lt_iff_toNat_lt] using h.2
  simp [piece, h1, h2, h3, h4, hb, hc]

lemma piece_four {lead b c d : UInt8} (h : 0xF0 ≤ lead.toNat ∧ lead.toNat ≤ 0xF4)
    (hb : isSecond lead b = true) (hc : isContinuation c = true) (hd : isContinuation d = true)
    (rest : List UInt8) :
    piece lead (b :: c :: d :: rest) =
      .character (Char.ofNat (((lead.toNat % 8 * 64 + low b) * 64 + low c) * 64 + low d)) 4 := by
  obtain ⟨h1, h2⟩ := not_one_of_lead lead (by omega)
  have h3 : ¬lead < 0xE0 := by
    simp only [UInt8.lt_iff_toNat_lt, UInt8.reduceToNat]
    omega
  have h4 : ¬lead < 0xF0 := by simpa [UInt8.lt_iff_toNat_lt] using h.1
  simp [piece, h1, h2, h3, h4, hb, hc, hd]

/-- The piece that the bytes of a character are. -/
lemma piece_encodeChar (c : Char) (rest : List UInt8) :
    ∃ lead bs, encodeChar c = lead :: bs ∧
      piece lead (bs ++ rest) = .character c (bs.length + 1) := by
  have hvalid : c.toNat < 0xD800 ∨ 0xDFFF < c.toNat ∧ c.toNat < 0x110000 := c.valid
  have hofNat : ∀ n, n = c.toNat → Char.ofNat n = c := by
    rintro _ rfl
    exact c.ofNat_toNat
  unfold encodeChar
  dsimp only
  split_ifs with h1 h2 h3
  · refine ⟨_, _, rfl, ?_⟩
    have hlead := toNat_toUInt8 (n := c.toNat) (by omega)
    rw [piece_one (by omega), hofNat _ hlead]
    rfl
  · refine ⟨_, _, rfl, ?_⟩
    have hlead := toNat_toUInt8 (n := 0xC0 + c.toNat / 64) (by omega)
    obtain ⟨hb, hlow⟩ := isContinuation_toUInt8 (n := c.toNat % 64) (by omega)
    rw [List.singleton_append, piece_two (by omega), hofNat _ (by omega)]
    · rfl
    · exact isSecond_of_isContinuation hb (by omega) (by omega) (by omega) (by omega)
  · refine ⟨_, _, rfl, ?_⟩
    have hlead := toNat_toUInt8 (n := 0xE0 + c.toNat / 4096) (by omega)
    have hsecond := toNat_toUInt8 (n := 0x80 + c.toNat / 64 % 64) (by omega)
    obtain ⟨hb, hlow⟩ := isContinuation_toUInt8 (n := c.toNat / 64 % 64) (by omega)
    obtain ⟨hb', hlow'⟩ := isContinuation_toUInt8 (n := c.toNat % 64) (by omega)
    rw [List.cons_append, List.singleton_append, piece_three (by omega) _ hb', hofNat _ (by omega)]
    · rfl
    · exact isSecond_of_isContinuation hb (by omega) (by omega) (by omega) (by omega)
  · refine ⟨_, _, rfl, ?_⟩
    have hlead := toNat_toUInt8 (n := 0xF0 + c.toNat / 262144) (by omega)
    have hsecond := toNat_toUInt8 (n := 0x80 + c.toNat / 4096 % 64) (by omega)
    obtain ⟨hb, hlow⟩ := isContinuation_toUInt8 (n := c.toNat / 4096 % 64) (by omega)
    obtain ⟨hb', hlow'⟩ := isContinuation_toUInt8 (n := c.toNat / 64 % 64) (by omega)
    obtain ⟨hb'', hlow''⟩ := isContinuation_toUInt8 (n := c.toNat % 64) (by omega)
    rw [List.cons_append, List.cons_append, List.singleton_append,
      piece_four (by omega) _ hb' hb'', hofNat _ (by omega)]
    · rfl
    · exact isSecond_of_isContinuation hb (by omega) (by omega) (by omega) (by omega)

/-! ### Texts -/

lemma decode_encodeChar_append (c : Char) (rest : List UInt8) :
    decode (encodeChar c ++ rest) = some c :: decode rest := by
  obtain ⟨lead, bs, henc, hpiece⟩ := piece_encodeChar c rest
  rw [henc, List.cons_append, decode, hpiece]
  simp

/-- Every text comes back from its bytes, with no ill-formed piece. -/
theorem decode_encode (cs : List Char) : decode (encode cs) = cs.map some := by
  induction cs with
  | nil => simp [encode, decode]
  | cons c cs ih =>
    rw [encode, List.flatMap_cons, decode_encodeChar_append, List.map_cons, ← ih, encode]

lemma decode?_encode (cs : List Char) : decode? (encode cs) = some cs := by
  rw [decode?, decode_encode]
  induction cs with
  | nil => rfl
  | cons c cs ih => simp [ih]

end GridScript.Text.Utf8
