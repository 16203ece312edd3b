import GridScript.Proofs.Config.Store
import GridScript.Proofs.Script.Encoding
import GridScript.Proofs.Session.Inputs
import GridScript.Session.Encoding
import GridScript.World.Encoding

/-!
What is written reads back.

The text of a value reads as that value again, as long as its numbers lie in the range that the text
is read with: 32 bits for coordinates, 64 bits for counts. So a world may be written and read in the
middle of a game.
-/

namespace GridScript

/-! ### Points and rectangles -/

lemma IsCoordinate.asInt32?_ofInt {i : Int} (h : IsCoordinate i) :
    (Json.ofInt i).asInt32? = some i := Json.asIntegerIn?_ofInt h

lemma Position.plain_toJson (p : Position) : p.toJson.Plain := by
  simp [toJson]

lemma Position.ofJson?_toJson {p : Position} (h : p.InRange) (room : Nat) :
    Position.ofJson? (room + 1) p.toJson = some p := by
  rw [ofJson?, toJson, Json.record?_record]
  · simp [h.x.asInt32?_ofInt, h.y.asInt32?_ofInt]
  · decide
  · rfl

structure Rect.InRange (r : Rect) : Prop where
  x : IsCoordinate r.x
  y : IsCoordinate r.y
  width : IsCoordinate r.width
  height : IsCoordinate r.height

lemma Rect.plain_toJson (r : Rect) : r.toJson.Plain := by
  simp [toJson]

lemma Rect.ofJson?_toJson {r : Rect} (h : r.InRange) (room : Nat) :
    Rect.ofJson? (room + 1) r.toJson = some r := by
  rw [ofJson?, toJson, Json.record?_record]
  · simp [h.x.asInt32?_ofInt, h.y.asInt32?_ofInt, h.width.asInt32?_ofInt,
      h.height.asInt32?_ofInt]
  · decide
  · rfl

/-! ### Maps -/

namespace TileSet

lemma insertId_of_lt {id : UInt8} {is : List UInt8} (h : ∀ i ∈ is, id < i) :
    insertId id is = id :: is := by
  cases is with
  | nil => rfl
  | cons i is => rw [insertId, if_pos (h i List.mem_cons_self)]

lemma ids_ofList {ids : List UInt8} (h : ids.Pairwise (· < ·)) : (ofList ids).ids = ids := by
  induction ids with
  | nil => rfl
  | cons id is ih =>
    obtain ⟨hid, his⟩ := List.pairwise_cons.1 h
    show insertId id (ofList is).ids = id :: is
    rw [ih his, insertId_of_lt hid]

lemma ofList_ids (s : TileSet) : ofList s.ids = s := TileSet.ext (ids_ofList s.ascending)

end TileSet

namespace TileMap

structure InRange (m : TileMap) : Prop where
  columns : m.columns < UInt64.size
  rows : m.rows < UInt64.size

lemma plain_toJson (m : TileMap) : m.toJson.Plain := by
  simp [toJson, tileToJson]

lemma tilesOfJson?_ofList (room : Nat) (ids : List UInt8) :
    tilesOfJson? (room + 1) (Json.ofList tileToJson ids) = some ids :=
  Json.asList?_ofList fun id _ => Json.asWord8?_ofNat id

lemma ofJson?_toJson {m : TileMap} (h : m.InRange) (room : Nat) :
    TileMap.ofJson? (room + 2) m.toJson = some m := by
  have hcolumns : (Json.ofNat m.columns).asNat64? = some m.columns := Json.asNat64?_ofNat h.columns
  have hrows : (Json.ofNat m.rows).asNat64? = some m.rows := Json.asNat64?_ofNat h.rows
  rw [ofJson?, toJson, Json.record?_record]
  · simp [hcolumns, hrows, tilesOfJson?_ofList, TileSet.ofList_ids]
  · decide
  · rfl

end TileMap

/-! ### The parts of a world -/

namespace MapObject

def InRange (o : MapObject) : Prop := o.area.InRange

lemma plain_toJson (o : MapObject) : o.toJson.Plain := by
  simp [toJson, Rect.plain_toJson]

lemma ofJson?_toJson {o : MapObject} (h : o.InRange) (room : Nat) :
    MapObject.ofJson? (room + 2) o.toJson = some o := by
  rw [ofJson?, toJson, Json.record?_record]
  · simp [Rect.ofJson?_toJson h]
  · decide
  · rfl

end MapObject

namespace Npc

structure InRange (n : Npc) : Prop where
  position : n.position.InRange
  solidArea : n.solidArea.InRange

lemma plain_toJson (n : Npc) : n.toJson.Plain := by
  simp [toJson, Position.plain_toJson, Rect.plain_toJson]

lemma ofJson?_toJson {n : Npc} (h : n.InRange) (room : Nat) :
    Npc.ofJson? (room + 2) n.toJson = some n := by
  rw [ofJson?, toJson, Json.record?_record]
  · simp [Position.ofJson?_toJson h.position, Rect.ofJson?_toJson h.solidArea]
  · decide
  · rfl

end Npc

namespace Agent

structure InRange (a : Agent) : Prop where
  position : a.position.InRange
  solidArea : a.solidArea.InRange

lemma plain_toJson (a : Agent) : a.toJson.Plain := by
  simp [toJson, Position.plain_toJson, Direction.plain_toJson, Rect.plain_toJson]

lemma ofJson?_toJson {a : Agent} (h : a.InRange) (room : Nat) :
    Agent.ofJson? (room + 2) a.toJson = some a := by
  rw [ofJson?, toJson, Json.record?_record]
  · simp [Position.ofJson?_toJson h.position, Direction.ofJson?_toJson,
      Rect.ofJson?_toJson h.solidArea]
  · decide
  · rfl

end Agent

namespace Health

lemma plain_toJson (h : Health) : h.toJson.Plain := by
  simp [toJson]

lemma ofJson?_toJson (room : Nat) (h : Health) : Health.ofJson? (room + 1) h.toJson = some h := by
  rw [ofJson?, toJson, Json.record?_record]
  · simp
  · decide
  · rfl

end Health

namespace MessageBar

lemma plain_toJson (b : MessageBar) : b.toJson.Plain := by
  simp [toJson, Json.plain_ofOption, shownToJson]

lemma shownOfJson?_shownToJson (room : Nat) (text : String) :
    shownOfJson? (room + 1) (shownToJson text) = some text := by
  rw [shownOfJson?, shownToJson, Json.record?_record]
  · simp
  · decide
  · rfl

lemma ofJson?_toJson (room : Nat) (b : MessageBar) :
    MessageBar.ofJson? (room + 3) b.toJson = some b := by
  have hcurrent := Json.asOption?_ofOption (fun _ => rfl) Json.asString?_ofString b.current
  have hhistory : (Json.ofList shownToJson b.history).asList? (room + 2) shownOfJson? =
      some b.history := Json.asList?_ofList fun text _ => shownOfJson?_shownToJson room text
  rw [ofJson?, toJson, Json.record?_record]
  · simp [hcurrent, hhistory]
  · decide
  · rfl

end MessageBar

namespace World

structure InRange (w : World) : Prop where
  map : w.map.InRange
  objects : ∀ o ∈ w.objects, o.InRange
  npcs : ∀ n ∈ w.npcs, n.InRange
  agent : w.agent.InRange

lemma plain_toJson (w : World) : w.toJson.Plain := by
  simp [toJson, TileMap.plain_toJson, MapObject.plain_toJson, Npc.plain_toJson,
    Agent.plain_toJson, Health.plain_toJson, MessageBar.plain_toJson]

lemma ofJson?_toJson {w : World} (h : w.InRange) (room : Nat) :
    World.ofJson? (room + 4) w.toJson = some w := by
  have hobjects : (Json.ofList MapObject.toJson w.objects).asList? (room + 3) MapObject.ofJson? =
      some w.objects :=
    Json.asList?_ofList fun o ho => MapObject.ofJson?_toJson (h.objects o ho) room
  have hnpcs : (Json.ofList Npc.toJson w.npcs).asList? (room + 3) Npc.ofJson? = some w.npcs :=
    Json.asList?_ofList fun n hn => Npc.ofJson?_toJson (h.npcs n hn) room
  rw [ofJson?, toJson, Json.record?_record]
  · simp [TileMap.ofJson?_toJson h.map, hobjects, hnpcs, Agent.ofJson?_toJson h.agent,
      Health.ofJson?_toJson, MessageBar.ofJson?_toJson]
  · decide
  · rfl

end World

/-! ### Reports -/

namespace Report

lemma plain_toJson (r : Report) : r.toJson.Plain := by
  simp [toJson]

lemma ofJson?_toJson {r : Report} (h : r.staged < UInt64.size) (room : Nat) :
    Report.ofJson? (room + 1) r.toJson = some { r with errors := [] } := by
  have hstaged : (Json.ofNat r.staged).asNat64? = some r.staged := Json.asNat64?_ofNat h
  rw [ofJson?, toJson, Json.record?_record]
  · simp [hstaged]
  · decide
  · rfl

end Report

/-! ### Texts -/

/-- **What is written reads back**: the text of a value, on one line or indented, reads as that
value, whatever its strings are and whatever its numbers are in their range. A statement must not
nest beyond the reader's room, and a report loses its errors. So a world that is read from its own
text can take its place in the middle of a game, and nothing that follows will differ. -/
theorem reads_back :
    (∀ s : Statement, s.InRange → s.toJson.nesting ≤ Json.maxNesting →
        Json.ReadsAs (Statement.ofJson? .direct) s.toJson s) ∧
      (∀ c : Command, Json.ReadsAs (Command.ofJson? .direct) c.toJson c) ∧
      (∀ c : Condition, c.InRange → Json.ReadsAs (Condition.ofJson? .direct) c.toJson c) ∧
      (∀ a : Action, Json.ReadsAs (Action.ofJson? .direct) a.toJson a) ∧
      (∀ c : Config, Json.ReadsAs Config.ofJson? c.toJson c) ∧
      (∀ r : Rect, r.InRange → Json.ReadsAs Rect.ofJson? r.toJson r) ∧
      (∀ m : TileMap, m.InRange → Json.ReadsAs TileMap.ofJson? m.toJson m) ∧
      (∀ o : MapObject, o.InRange → Json.ReadsAs MapObject.ofJson? o.toJson o) ∧
      (∀ n : Npc, n.InRange → Json.ReadsAs Npc.ofJson? n.toJson n) ∧
      (∀ a : Agent, a.InRange → Json.ReadsAs Agent.ofJson? a.toJson a) ∧
      (∀ h : Health, Json.ReadsAs Health.ofJson? h.toJson h) ∧
      (∀ w : World, w.InRange → Json.ReadsAs World.ofJson? w.toJson w) ∧
      (∀ r : Report, r.staged < UInt64.size →
        Json.ReadsAs Report.ofJson? r.toJson { r with errors := [] }) ∧
      ∀ w w' : World, w.InRange →
        Json.decode? World.ofJson? (Json.Source.ofString w.toJson.compactText) = some w' →
          ∀ (s : Scheduler) (is : List (Input World)),
            (⟨s, w'⟩ : Play World).observed is = (⟨s, w⟩ : Play World).observed is := by
  have hworld : ∀ w : World, w.InRange → Json.ReadsAs World.ofJson? w.toJson w := fun w h =>
    Json.readsAs_of_plain w.plain_toJson (World.ofJson?_toJson h 123)
  refine ⟨fun s hrange h => ?_, fun c => ?_, fun c h => ?_, fun a => ?_, fun c => ?_,
    fun r h => ?_, fun m h => ?_, fun o h => ?_, fun n h => ?_, fun a h => ?_, fun h => ?_, hworld,
    fun r h => ?_, fun w w' h hread s is => ?_⟩
  · exact Json.readsAs_of_plain s.plain_toJson (Statement.ofJson?_toJson .direct hrange h)
  · have hnesting : c.toJson.nesting ≤ Json.maxNesting :=
      Nat.le_trans c.nesting_le_two (by decide)
    exact Json.readsAs_of_plain c.plain_toJson (Command.ofJson?_toJson .direct hnesting)
  · exact Json.readsAs_of_plain c.plain_toJson (Condition.ofJson?_toJson h .direct 126)
  · exact Json.readsAs_of_plain a.plain_toJson (Action.ofJson?_toJson .direct 125 a)
  · exact Json.readsAs_of_plain c.plain_toJson (Config.ofJson?_toJson 126 c)
  · exact Json.readsAs_of_plain r.plain_toJson (Rect.ofJson?_toJson h 126)
  · exact Json.readsAs_of_plain m.plain_toJson (TileMap.ofJson?_toJson h 125)
  · exact Json.readsAs_of_plain o.plain_toJson (MapObject.ofJson?_toJson h 125)
  · exact Json.readsAs_of_plain n.plain_toJson (Npc.ofJson?_toJson h 125)
  · exact Json.readsAs_of_plain a.plain_toJson (Agent.ofJson?_toJson h 125)
  · exact Json.readsAs_of_plain h.plain_toJson (Health.ofJson?_toJson 126 h)
  · exact Json.readsAs_of_plain r.plain_toJson (Report.ofJson?_toJson h 126)
  · -- the text can be read as one world only
    obtain rfl : w' = w := Option.some.inj (hread.symm.trans (hworld w h).1)
    rfl

/-- A rectangle as far out and as large as can be. -/
def farRect : Rect := ⟨-2147483648, 2147483647, -2147483648, 2147483647⟩

def farCondition : Condition := ⟨"\"\\\x00", .le, -9223372036854775808⟩

/-- A statement whose names need escapes, with the largest numbers there are. -/
def farStatement : Statement :=
  .guarded farCondition <|
    .loop "\n\x1f\u00fc" 4294967295 (.command (.wait (some 18446744073709551615)))

/-- A world with the largest numbers there are, whose tiles do not fill its map. -/
def farWorld : World where
  map := ⟨18446744073709551615, 1, 4294967295, #[3, 255], TileSet.ofList [255, 3]⟩
  objects := [⟨"\t", farRect, true⟩]
  npcs := [⟨"", ⟨-2147483648, 2147483647⟩, farRect⟩]
  agent := ⟨⟨2147483647, -2147483648⟩, .left, 255, farRect⟩
  health := ⟨4294967295, 0, true⟩
  messages := ⟨none, ["\x7f", "\\"]⟩

lemma inRange_farRect : farRect.InRange := by
  constructor <;> decide

lemma inRange_farWorld : farWorld.InRange where
  map := by constructor <;> decide
  objects := by simpa [farWorld, MapObject.InRange] using inRange_farRect
  npcs := by
    simp only [farWorld, List.mem_singleton, forall_eq]
    exact ⟨by constructor <;> decide, inRange_farRect⟩
  agent := ⟨by constructor <;> decide, inRange_farRect⟩

/-- A world is read from its text before a line is submitted and the clock ticks. -/
theorem reads_back_far :
    farStatement.InRange ∧ farStatement.toJson.nesting ≤ Json.maxNesting ∧
      Json.ReadsAs (Statement.ofJson? .direct) farStatement.toJson farStatement ∧
      farCondition.InRange ∧
      Json.ReadsAs (Condition.ofJson? .direct) farCondition.toJson farCondition ∧
      farRect.InRange ∧ Json.ReadsAs Rect.ofJson? farRect.toJson farRect ∧
      farWorld.map.InRange ∧ Json.ReadsAs TileMap.ofJson? farWorld.map.toJson farWorld.map ∧
      (∀ o ∈ farWorld.objects, o.InRange ∧ Json.ReadsAs MapObject.ofJson? o.toJson o) ∧
      (∀ n ∈ farWorld.npcs, n.InRange ∧ Json.ReadsAs Npc.ofJson? n.toJson n) ∧
      farWorld.agent.InRange ∧ Json.ReadsAs Agent.ofJson? farWorld.agent.toJson farWorld.agent ∧
      farWorld.InRange ∧ Json.ReadsAs World.ofJson? farWorld.toJson farWorld ∧
      Json.ReadsAs Report.ofJson?
        (Report.toJson ⟨false, [.badNumber "9"], 18446744073709551615, true⟩)
        ⟨false, [], 18446744073709551615, true⟩ ∧
      ∀ w', Json.decode? World.ofJson? (Json.Source.ofString farWorld.toJson.compactText) = some w' →
        (⟨Scheduler.new {}, w'⟩ : Play World).observed
            [.submit (Config.rules {}) "move up", .event (.tick 0)] =
          (⟨Scheduler.new {}, farWorld⟩ : Play World).observed
            [.submit (Config.rules {}) "move up", .event (.tick 0)] := by
  have hcondition : farCondition.InRange := by unfold Condition.InRange; decide
  have hstatement : farStatement.InRange := ⟨hcondition, trivial⟩
  have hnesting : farStatement.toJson.nesting ≤ Json.maxNesting := by decide +kernel
  obtain ⟨hstatements, -, hconditions, -, -, hrects, hmaps, hobjects, hnpcs, hagents, -, hworlds,
    hreports, hgames⟩ := reads_back
  have hworld := inRange_farWorld
  exact ⟨hstatement, hnesting, hstatements _ hstatement hnesting, hcondition,
    hconditions _ hcondition, inRange_farRect, hrects _ inRange_farRect, hworld.map,
    hmaps _ hworld.map, fun o ho => ⟨hworld.objects o ho, hobjects o (hworld.objects o ho)⟩,
    fun n hn => ⟨hworld.npcs n hn, hnpcs n (hworld.npcs n hn)⟩, hworld.agent,
    hagents _ hworld.agent, hworld, hworlds _ hworld, hreports _ (by decide),
    fun w' hread => hgames _ w' hworld hread _ _⟩

end GridScript
