import GridScript.Grid.MapText
import GridScript.Proofs.Grid.Tiles
import GridScript.Proofs.Script.Words
import Mathlib.Algebra.BigOperators.Group.List.Basic

/-!
Rows of words that are read as the tiles of a map.

A row is sound if all its words are ids and it has the width of the map. Sound rows are read as
their ids, one row after the other; of others the first fault is reported, and a word that is no id
comes before the length of its row.
-/

namespace GridScript.TileMap

/-! ### The first that fails -/

open Classical in
lemma forall_or_first {α : Type*} (P : α → Prop) (l : List α) :
    (∀ a ∈ l, P a) ∨ ∃ before a after, l = before ++ a :: after ∧ (∀ b ∈ before, P b) ∧ ¬P a := by
  cases h : l.find? fun a => !decide (P a) with
  | none => exact .inl fun a ha => by simpa using List.find?_eq_none.1 h a ha
  | some a =>
    obtain ⟨ha, before, after, rfl, hbefore⟩ := List.find?_eq_some_iff_append.1 h
    exact .inr ⟨before, a, after, rfl, fun b hb => by simpa using hbefore b hb, by simpa using ha⟩

lemma exists_forall₂ {α β : Type*} {R : α → β → Prop} {l : List α} (h : ∀ a ∈ l, ∃ b, R a b) :
    ∃ bs, List.Forall₂ R l bs := by
  induction l with
  | nil => exact ⟨[], .nil⟩
  | cons a l ih =>
    obtain ⟨⟨b, hb⟩, hl⟩ := List.forall_mem_cons.1 h
    obtain ⟨bs, hbs⟩ := ih hl
    exact ⟨b :: bs, .cons hb hbs⟩

/-! ### Ids -/

/-- The word stands for an id: digits that one plus sign may precede, for a number of 8 bits. -/
def Denotes (token : List Char) (id : UInt8) : Prop := Script.Grammar.Literal token id.toNat

def IsId (token : List Char) : Prop := ∃ id, Denotes token id

lemma word8?_eq_some_iff {n : Nat} {w : UInt8} : Text.word8? n = some w ↔ w.toNat = n := by
  unfold Text.word8?
  split
  · rename_i h
    rw [Option.some.injEq, ← UInt8.toNat_inj, Nat.toUInt8_eq, UInt8.toNat_ofNat_of_lt' h]
    exact eq_comm
  · rename_i h
    refine ⟨fun hw => ?_, ?_⟩
    · cases hw
    · rintro rfl
      exact absurd w.toNat_lt h

lemma readTile?_eq_some_iff {token : List Char} {id : UInt8} :
    readTile? token = some id ↔ Denotes token id := by
  simp only [readTile?, Option.bind_eq_some_iff, word8?_eq_some_iff, Script.unsigned?_eq_some_iff,
    exists_eq_right', Denotes]

lemma readTile?_eq_none_iff {token : List Char} : readTile? token = none ↔ ¬IsId token := by
  simp only [Option.eq_none_iff_forall_ne_some, ne_eq, readTile?_eq_some_iff, IsId, not_exists]

/-! ### One row -/

/-- All words of a row are ids, and there are so many. -/
structure SoundRow (columns : Nat) (tokens : List (List Char)) : Prop where
  ids : ∀ token ∈ tokens, IsId token
  length : tokens.length = columns

/-- The fault of a row: its first word that is no id, or else its length. -/
inductive RowFault (columns row : Nat) : List (List Char) → MapError → Prop where
  | invalidTile {before after : List (List Char)} {token : List Char}
      (hbefore : ∀ t ∈ before, IsId t) (htoken : ¬IsId token) :
    RowFault columns row (before ++ token :: after)
      (.invalidTile row before.length (String.ofList token))
  | raggedRow {tokens : List (List Char)} (hids : ∀ t ∈ tokens, IsId t)
      (hlength : tokens.length ≠ columns) :
    RowFault columns row tokens (.raggedRow row columns tokens.length)

lemma exists_rowFault {columns : Nat} {tokens : List (List Char)} (h : ¬SoundRow columns tokens)
    (row : Nat) : ∃ e, RowFault columns row tokens e := by
  rcases forall_or_first IsId tokens with hids | ⟨before, token, after, rfl, hbefore, htoken⟩
  · exact ⟨_, .raggedRow hids fun hlength => h ⟨hids, hlength⟩⟩
  · exact ⟨_, .invalidTile hbefore htoken⟩

lemma exists_ids {tokens : List (List Char)} (h : ∀ token ∈ tokens, IsId token) :
    ∃ ids, List.Forall₂ Denotes tokens ids := exists_forall₂ h

lemma readRow_of_denotes {tokens : List (List Char)} {ids : List UInt8}
    (h : List.Forall₂ Denotes tokens ids) (row column : Nat) :
    readRow row column tokens = .ok ids := by
  induction h generalizing column with
  | nil => rfl
  | cons hid _ ih => simp [readRow, readTile?_eq_some_iff.2 hid, ih, Except.map]

lemma readRow_of_not_isId {before after : List (List Char)} {token : List Char}
    (hbefore : ∀ t ∈ before, IsId t) (htoken : ¬IsId token) (row column : Nat) :
    readRow row column (before ++ token :: after) =
      .error (.invalidTile row (column + before.length) (String.ofList token)) := by
  induction before generalizing column with
  | nil => simp [readRow, readTile?_eq_none_iff.2 htoken]
  | cons t before ih =>
    obtain ⟨⟨id, hid⟩, hbefore⟩ := List.forall_mem_cons.1 hbefore
    simp only [List.cons_append, readRow, readTile?_eq_some_iff.2 hid, ih hbefore, Except.map,
      List.length_cons]
    congr 2
    omega

/-! ### Rows -/

lemma readRows_cons_of_ids {columns : Nat} {tokens : List (List Char)} {ids : List UInt8}
    (h : List.Forall₂ Denotes tokens ids) (hlength : tokens.length = columns) (row : Nat)
    (rest : List (List (List Char))) :
    readRows columns row (tokens :: rest) = (readRows columns (row + 1) rest).map (ids ++ ·) := by
  simp only [readRows, readRow_of_denotes h, hlength, if_true]
  rfl

lemma readRows_cons_of_rowFault {columns row : Nat} {tokens : List (List Char)} {e : MapError}
    (h : RowFault columns row tokens e) (rest : List (List (List Char))) :
    readRows columns row (tokens :: rest) = .error e := by
  cases h with
  | invalidTile hbefore htoken =>
    simp only [readRows, readRow_of_not_isId hbefore htoken, Nat.zero_add]
    rfl
  | raggedRow hids hlength =>
    obtain ⟨ids, hids⟩ := exists_ids hids
    simp only [readRows, readRow_of_denotes hids, hlength, if_false]
    rfl

lemma readRows_of_denotes {columns : Nat} {rows : List (List (List Char))} {grid : List (List UInt8)}
    (h : List.Forall₂ (List.Forall₂ Denotes) rows grid)
    (hlength : ∀ tokens ∈ rows, tokens.length = columns) (row : Nat) :
    readRows columns row rows = .ok grid.flatten := by
  induction h generalizing row with
  | nil => rfl
  | cons hids _ ih =>
    obtain ⟨htokens, hrows⟩ := List.forall_mem_cons.1 hlength
    rw [readRows_cons_of_ids hids htokens, ih hrows]
    rfl

lemma readRows_of_rowFault {columns : Nat} {before after : List (List (List Char))}
    {tokens : List (List Char)} {e : MapError} {row : Nat}
    (hbefore : ∀ b ∈ before, SoundRow columns b)
    (h : RowFault columns (row + before.length) tokens e) :
    readRows columns row (before ++ tokens :: after) = .error e := by
  induction before generalizing row with
  | nil => exact readRows_cons_of_rowFault h after
  | cons b before ih =>
    obtain ⟨hb, hbefore⟩ := List.forall_mem_cons.1 hbefore
    obtain ⟨ids, hids⟩ := exists_ids hb.ids
    rw [List.length_cons, ← Nat.add_assoc, Nat.add_right_comm] at h
    have hrest := ih hbefore h
    rw [List.cons_append, readRows_cons_of_ids hids hb.length, hrest]
    rfl

/-! ### Maps of rows -/

/-- The map with these rows of tiles. -/
def ofRows (columns : Nat) (tileSize : UInt32) (grid : List (List UInt8)) : TileMap where
  columns := columns
  rows := grid.length
  tileSize := atLeastOne tileSize
  tiles := grid.flatten.toArray
  solid := defaultSolid

/-- Rows of one length, one after the other. -/
lemma flatten_getElem? {α : Type*} {n : Nat} {grid : List (List α)} (h : ∀ l ∈ grid, l.length = n)
    {col row : Nat} (hcol : col < n) :
    grid.flatten[row * n + col]? = grid[row]?.bind (·[col]?) := by
  induction grid generalizing row with
  | nil => rfl
  | cons l grid ih =>
    obtain ⟨hl, hgrid⟩ := List.forall_mem_cons.1 h
    cases row with
    | zero => simp [List.getElem?_append_left (hl ▸ hcol : col < l.length)]
    | succ row =>
      have hindex : (row + 1) * n + col = l.length + (row * n + col) := by
        rw [hl, Nat.add_mul]
        omega
      rw [List.flatten_cons, hindex, List.getElem?_append_right (Nat.le_add_right _ _),
        Nat.add_sub_cancel_left, ih hgrid]
      rfl

lemma length_flatten {α : Type*} {n : Nat} {grid : List (List α)} (h : ∀ l ∈ grid, l.length = n) :
    grid.flatten.length = n * grid.length := by
  rw [List.length_flatten, List.sum_eq_card_nsmul _ n (List.forall_mem_map.2 h), List.length_map]
  exact Nat.mul_comm _ _

lemma tile?_ofRows {columns : Nat} {tileSize : UInt32} {grid : List (List UInt8)}
    (h : ∀ ids ∈ grid, ids.length = columns) (col row : Nat) :
    (ofRows columns tileSize grid).tile? col row = grid[row]?.bind (·[col]?) := by
  unfold tile? ofRows
  dsimp only
  split
  · rename_i hcell
    simpa using flatten_getElem? h hcell.1
  · rename_i hcell
    symm
    rw [Option.bind_eq_none_iff]
    intro ids hids
    obtain ⟨hrow, rfl⟩ := List.getElem?_eq_some_iff.1 hids
    rw [List.getElem?_eq_none_iff, h _ (List.getElem_mem hrow)]
    omega

lemma filled_ofRows {columns : Nat} {tileSize : UInt32} {grid : List (List UInt8)}
    (h : ∀ ids ∈ grid, ids.length = columns) : (ofRows columns tileSize grid).Filled := by
  show grid.flatten.toArray.size = columns * grid.length
  rw [List.size_toArray, length_flatten h]

end GridScript.TileMap
