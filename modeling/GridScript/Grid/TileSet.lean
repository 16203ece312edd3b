/-!
Sets of tile ids, as ascending lists without repetition.

Two sets with the same list are equal; that is `TileSet.ext`.
-/

namespace GridScript

@[ext]
structure TileSet where
  ids : List UInt8
  ascending : ids.Pairwise (· < ·)
deriving DecidableEq

namespace TileSet

/-- Puts an id into its place in an ascending list. -/
def insertId (id : UInt8) : List UInt8 → List UInt8
  | [] => [id]
  | i :: is => if id < i then id :: i :: is else if id = i then i :: is else i :: insertId id is

theorem mem_insertId {id j : UInt8} {is : List UInt8} :
    j ∈ insertId id is ↔ j = id ∨ j ∈ is := by
  induction is with
  | nil => simp [insertId]
  | cons i is ih =>
    unfold insertId
    split
    · simp
    · split
      · simp_all
      · simp only [List.mem_cons, ih]
        grind

theorem pairwise_insertId {id : UInt8} {is : List UInt8} (h : is.Pairwise (· < ·)) :
    (insertId id is).Pairwise (· < ·) := by
  induction is with
  | nil => simp [insertId]
  | cons i is ih =>
    have hi : ∀ j ∈ is, i < j := (List.pairwise_cons.1 h).1
    unfold insertId
    split
    · rename_i hlt
      refine List.pairwise_cons.2 ⟨fun j hj => ?_, h⟩
      rcases List.mem_cons.1 hj with rfl | hj
      · exact hlt
      · exact UInt8.lt_trans hlt (hi j hj)
    · rename_i hlt
      split
      · exact h
      · rename_i hne
        refine List.pairwise_cons.2 ⟨fun j hj => ?_, ih (List.pairwise_cons.1 h).2⟩
        rcases mem_insertId.1 hj with rfl | hj
        · exact UInt8.lt_of_le_of_ne (UInt8.not_lt.1 hlt) (Ne.symm hne)
        · exact hi j hj

def empty : TileSet := ⟨[], List.Pairwise.nil⟩

def insert (id : UInt8) (s : TileSet) : TileSet := ⟨insertId id s.ids, pairwise_insertId s.ascending⟩

def ofList (ids : List UInt8) : TileSet := ids.foldr insert empty

instance : Membership UInt8 TileSet := ⟨fun s id => id ∈ s.ids⟩

instance (id : UInt8) (s : TileSet) : Decidable (id ∈ s) :=
  inferInstanceAs (Decidable (id ∈ s.ids))

def contains (s : TileSet) (id : UInt8) : Bool := s.ids.contains id

theorem contains_iff {s : TileSet} {id : UInt8} : s.contains id = true ↔ id ∈ s := by
  simp [contains, Membership.mem]

theorem mem_ofList {ids : List UInt8} {id : UInt8} : id ∈ ofList ids ↔ id ∈ ids := by
  induction ids with
  | nil => simp [ofList, empty, Membership.mem]
  | cons i is ih =>
    show id ∈ insertId i (ofList is).ids ↔ _
    rw [mem_insertId, List.mem_cons]
    exact or_congr Iff.rfl ih

end TileSet

end GridScript
