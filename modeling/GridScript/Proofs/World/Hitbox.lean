import GridScript.Proofs.World.Collision

/-!
How large a tile has to be for obstacles to stop the agent.

The solid area of a new agent is half a tile wide and high, rounded down. A tile of one pixel leaves
nothing of it, and then no tile touches it. Things and persons are in the way only if more than five
rows and columns are common, and below twelve pixels a tile the agent does not have that many.
-/

namespace GridScript

/-- The cell lies in the grid. -/
def TileMap.InGrid (m : TileMap) (c : Cell) : Prop :=
  (0 ≤ c.col ∧ c.col < m.columns) ∧ 0 ≤ c.row ∧ c.row < m.rows

/-- The world of a map with some things and persons in it. -/
def World.furnished (m : TileMap) (start : Position) (c : Config) (objects : List MapObject)
    (npcs : List Npc) : World :=
  { World.new m start c with objects := objects, npcs := npcs }

/-! ### The solid area of a new agent -/

/-- The solid area of a new agent on a map. -/
def TileMap.hitbox (m : TileMap) (p : Position) : Rect :=
  Rect.translated ⟨m.edge / 8, m.edge / 4, m.edge / 2, m.edge / 2⟩ p.x p.y

namespace World

variable {m : TileMap} {start : Position} {c : Config} {objects : List MapObject} {npcs : List Npc}

lemma solidAt_furnished (p : Position) :
    Scene.solidAt (furnished m start c objects npcs) p = m.hitbox p := rfl

lemma blockedAt_furnished (p : Position) :
    Scene.blockedAt (furnished m start c objects npcs) p = true ↔
      m.blocks (m.hitbox p) = true ∨ (∃ o ∈ objects, o.solid = true ∧ (m.hitbox p).Overlaps o.area) ∨
        ∃ n ∈ npcs, (m.hitbox p).Overlaps n.area := by
  show (m.blocks (m.hitbox p) || objects.any (fun o => o.solid && collides (m.hitbox p) o.area) ||
    npcs.any fun n => collides (m.hitbox p) n.area) = true ↔ _
  simp only [Bool.or_eq_true, List.any_eq_true, Bool.and_eq_true, collides_iff, or_assoc]

end World

namespace TileMap

variable {m : TileMap}

lemma le_edge {n : ℕ} (hn : n ≤ maxLength) (h : n ≤ m.tileSize.toNat) : (n : ℤ) ≤ m.edge := by
  unfold edge pixels
  omega

/-! ### Tiles -/

/-- On one axis: a point of a cell that is none of the `n` cells of the map lies off the map. -/
lemma not_between_of_not_cell {n : ℕ} {i k : ℤ} (hn : n * m.tileSize.toNat ≤ maxLength) (hk : 0 ≤ k)
    (hlt : k < m.edge) (hout : ¬(0 ≤ i ∧ i < n)) :
    ¬(0 ≤ k + i * m.edge ∧ k + i * m.edge < (n * m.tileSize.toNat : ℕ)) := by
  rintro ⟨hfirst, hlast⟩
  rcases lt_or_ge i 0 with hneg | hpos
  · have : i * m.edge ≤ -1 * m.edge := Int.mul_le_mul_of_nonneg_right (by omega) (by omega)
    omega
  · have hin : (n : ℤ) * m.edge ≤ i * m.edge := Int.mul_le_mul_of_nonneg_right (by omega) (by omega)
    rcases Nat.eq_zero_or_pos n with rfl | hn0
    · rw [Nat.zero_mul] at hlast
      rw [Nat.cast_zero, Int.zero_mul] at hin
      omega
    · have hfits : m.tileSize.toNat ≤ maxLength := (Nat.le_mul_of_pos_left _ hn0).trans hn
      have hedge : m.edge = m.tileSize.toNat := le_antisymm m.edge_le (le_edge hfits le_rfl)
      rw [hedge] at hin hlast
      push_cast at hlast
      omega

section Tiles

variable (hmade : m.Made) (hextent : m.HasExtent) (htwo : 2 ≤ m.tileSize.toNat)

include hmade hextent htwo

/-- The agent is blocked where the map bars the first point of its solid area. -/
lemma blocks_hitbox {p : Position} (hbars : m.Bars ⟨m.edge / 8 + p.x, m.edge / 4 + p.y⟩) :
    m.blocks (m.hitbox p) = true := by
  have hedge : 2 ≤ m.edge := le_edge (by decide) htwo
  have hsize : 0 < m.edge / 2 := by omega
  refine (blocks_iff hmade hextent (r := m.hitbox p) hsize hsize).2 ⟨_, ?_, hbars⟩
  simp only [Rect.Holds, hitbox, Rect.translated, Rect.right, Rect.bottom]
  omega

/-- The first point of the solid area lies on the cell at whose corner the agent stands. -/
lemma blocks_hitbox_of_isSolid {col row : ℕ} (h : m.isSolid col row = true) :
    m.blocks (m.hitbox (m.cellOrigin col row)) = true := by
  obtain ⟨id, hid, hsolid⟩ := isSolid_eq_true_iff.1 h
  obtain ⟨hcol, hrow⟩ : col < m.columns ∧ row < m.rows := by
    unfold tile? at hid
    split at hid
    · assumption
    · cases hid
  have ht := hmade.tileSize_pos
  have hedge := hextent.edge_eq (by omega)
  have horigin : m.cellOrigin col row = m.corner ⟨col, row⟩ :=
    cellOrigin_eq_corner ((extent_le hcol.le).trans hextent.columns_le)
      ((extent_le hrow.le).trans hextent.rows_le)
  have hfirst : ∀ n : ℕ, ∀ k : ℤ, 0 ≤ k → k < m.edge → (k + n * m.edge) / m.tileSize.toNat = n := by
    intro n k hk hlt
    rw [hedge] at hlt ⊢
    rw [Int.add_mul_ediv_right _ _ (by omega), Int.ediv_eq_zero_of_lt hk hlt, zero_add]
  refine blocks_hitbox hmade hextent htwo (.inr ⟨id, ?_, hsolid⟩)
  rw [horigin, tileAt?, corner,
    hfirst col _ (by omega) (by omega), hfirst row _ (by omega) (by omega)]
  exact hid

/-- Off the grid, the first point of the solid area lies off the map. -/
lemma blocks_hitbox_of_not_inGrid {cell : Cell} (h : ¬m.InGrid cell) :
    m.blocks (m.hitbox (m.corner cell)) = true := by
  have hedge : 2 ≤ m.edge := le_edge (by decide) htwo
  refine blocks_hitbox hmade hextent htwo (.inl fun hcovers => h ⟨?_, ?_⟩)
  · by_contra hout
    exact not_between_of_not_cell hextent.columns (by omega) (by omega) hout hcovers.1
  · by_contra hout
    exact not_between_of_not_cell hextent.rows (by omega) (by omega) hout hcovers.2

end Tiles

/-- Without a width, the agent touches no tile. -/
lemma blocks_hitbox_of_one (hone : m.tileSize.toNat = 1) (p : Position) :
    m.blocks (m.hitbox p) = !m.bounds.contains (m.hitbox p) := by
  have hedge : m.edge = 1 := by simp [edge, pixels, hone, maxLength]
  simp [blocks, hitbox, Rect.translated, hedge]

/-! ### Things and persons -/

/-- A rectangle that covers the solid area of the agent overlaps it if that is large enough. -/
lemma overlaps_hitbox (htwelve : 12 ≤ m.tileSize.toNat) {area : Rect} {p : Position}
    (h : area.contains (m.hitbox p) = true) : (m.hitbox p).Overlaps area := by
  have hedge : 12 ≤ m.edge := le_edge (by decide) htwelve
  simp only [Rect.contains, Bool.and_eq_true, decide_eq_true_eq] at h
  rw [Rect.overlaps_iff]
  simp only [hitbox, Rect.translated, Rect.right, Rect.bottom] at h ⊢
  omega

lemma not_overlaps_hitbox (hsmall : m.tileSize.toNat < 12) (p : Position) (area : Rect) :
    ¬(m.hitbox p).Overlaps area := by
  have hle := m.edge_le
  rw [Rect.overlaps_iff]
  simp only [hitbox, Rect.translated, Rect.right, Rect.bottom]
  omega

end TileMap

namespace World

/-- **Which obstacles stop a new agent**, on a map that comes of an empty map or of a text, whatever
things and persons stand on it. With tiles of two pixels at least, it cannot stand at the corner of
a solid tile or of a cell off the map. With tiles of twelve pixels at least, it cannot stand with
its solid area within a solid thing or a person. Below that no thing and no person stops it, and
with tiles of one pixel no tile does: only the bounds of the map are left. -/
theorem obstacles_stop_agent {m : TileMap} (hmade : m.Made) (hextent : m.HasExtent)
    (start : Position) {c : Config} (htile : m.tileSize = c.tileSize) (objects : List MapObject)
    (npcs : List Npc) :
    let w := furnished m start c objects npcs
    let tile := c.tileSize.toNat
    (2 ≤ tile →
        (∀ col row, m.isSolid col row = true → Scene.blockedAt w (m.cellOrigin col row) = true) ∧
          ∀ cell, ¬m.InGrid cell → Scene.blockedAt w (m.corner cell) = true) ∧
      (12 ≤ tile → ∀ p,
        (∀ o ∈ objects, o.solid = true → o.area.contains (Scene.solidAt w p) = true →
            Scene.blockedAt w p = true) ∧
          ∀ n ∈ npcs, n.area.contains (Scene.solidAt w p) = true → Scene.blockedAt w p = true) ∧
      (tile < 12 → ∀ p, Scene.blockedAt w p = m.blocks (Scene.solidAt w p)) ∧
      (tile = 1 → ∀ p, Scene.blockedAt w p = !m.bounds.contains (Scene.solidAt w p)) := by
  intro w tile
  have hsize : m.tileSize.toNat = tile := congrArg UInt32.toNat htile
  have hbare : tile < 12 → ∀ p, Scene.blockedAt w p = m.blocks (Scene.solidAt w p) := by
    intro hsmall p
    have hnone := m.not_overlaps_hitbox (hsize.trans_lt hsmall) p
    rw [Bool.eq_iff_iff, blockedAt_furnished, solidAt_furnished]
    simp [hnone]
  refine ⟨fun htwo => ⟨fun col row h => ?_, fun cell h => ?_⟩,
    fun htwelve p => ⟨fun o ho hsolid hin => ?_, fun n hn hin => ?_⟩, hbare, fun hone p => ?_⟩
  · exact (blockedAt_furnished _).2
      (.inl (TileMap.blocks_hitbox_of_isSolid hmade hextent (hsize ▸ htwo) h))
  · exact (blockedAt_furnished _).2
      (.inl (TileMap.blocks_hitbox_of_not_inGrid hmade hextent (hsize ▸ htwo) h))
  · exact (blockedAt_furnished p).2
      (.inr (.inl ⟨o, ho, hsolid, TileMap.overlaps_hitbox (hsize ▸ htwelve) hin⟩))
  · exact (blockedAt_furnished p).2
      (.inr (.inr ⟨n, hn, TileMap.overlaps_hitbox (hsize ▸ htwelve) hin⟩))
  · rw [hbare (by omega) p]
    exact TileMap.blocks_hitbox_of_one (hsize.trans hone) p

/-- A solid thing that covers a whole map of three tiles. -/
def slab (tileSize : UInt32) : MapObject :=
  ⟨"slab", ⟨0, 0, 3 * tileSize.toNat, tileSize.toNat⟩, true⟩

/-- With tiles of eleven pixels the agent stands within a solid thing, and with tiles of one pixel
on a solid tile and to the right of the map. Configurations with such tiles are valid. -/
theorem small_agent_not_stopped :
    (({ tileSize := 11 } : Config).validate = .ok () ∧
      let w := furnished (TileMap.ofSize 3 1 11) ⟨0, 0⟩ { tileSize := 11 } [slab 11] []
      (slab 11).area.contains (Scene.solidAt w ⟨11, 0⟩) = true ∧
        Scene.blockedAt w ⟨11, 0⟩ = false) ∧
    ({ tileSize := 1 } : Config).validate = .ok () ∧
      ∃ m, TileMap.parse "0 3".toList 1 = .ok m ∧
        let w := World.new m ⟨0, 0⟩ { tileSize := 1 }
        m.isSolid 1 0 = true ∧ Scene.blockedAt w (m.cellOrigin 1 0) = false ∧
          ¬m.InGrid ⟨2, 0⟩ ∧ Scene.blockedAt w (m.corner ⟨2, 0⟩) = false := by
  refine ⟨by decide +kernel, by decide +kernel, _, rfl, by decide +kernel, by decide +kernel,
    fun h => absurd h.1.2 (by decide +kernel), by decide +kernel⟩

/-- Twelve pixels are enough for the slab, and two for the edge of the map. -/
theorem obstacles_stop_agent_twelve :
    let m := TileMap.ofSize 3 1 12
    let w := furnished m ⟨0, 0⟩ { tileSize := 12 } [slab 12] []
    m.Made ∧ m.HasExtent ∧ (slab 12).area.contains (Scene.solidAt w ⟨12, 0⟩) = true ∧
      Scene.blockedAt w ⟨12, 0⟩ = true ∧ Scene.blockedAt w (m.corner ⟨3, 0⟩) = true := by
  intro m w
  have hmade : m.Made := .ofSize 3 1 12
  have hextent : m.HasExtent := ⟨by decide, by decide⟩
  have hin : (slab 12).area.contains (Scene.solidAt w ⟨12, 0⟩) = true := by decide +kernel
  obtain ⟨htiles, hthings, -⟩ :=
    obstacles_stop_agent hmade hextent ⟨0, 0⟩ (c := { tileSize := 12 }) rfl [slab 12] []
  refine ⟨hmade, hextent, hin, (hthings (by decide) ⟨12, 0⟩).1 _ (by simp) rfl hin, ?_⟩
  exact (htiles (by decide)).2 ⟨3, 0⟩ fun h => absurd h.1.2 (by decide)

end World

end GridScript
