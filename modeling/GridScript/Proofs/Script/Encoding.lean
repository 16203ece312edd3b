import GridScript.Motion.Encoding
import GridScript.Proofs.Json.Shape

/-!
Statements and actions read back.

A written statement reads as itself whatever its strings and numbers are, as long as its text does
not nest beyond the room that the reader has.
-/

namespace GridScript

/-! ### Names -/

lemma Direction.plain_toJson (d : Direction) : d.toJson.Plain := .ofString _

@[simp] lemma Direction.ofJson?_toJson (mode : Json.Mode) (room : Nat) (d : Direction) :
    Direction.ofJson? mode room d.toJson = some d := by
  cases d <;> rfl

lemma Comparison.name?_name (mode : Json.Mode) (room : Nat) (op : Comparison) :
    (Json.ofString op.name).name? mode room Comparison.names = some op := by
  cases op <;> rfl

/-! ### Conditions -/

namespace Condition

/-- The number has 64 bits. -/
def InRange (c : Condition) : Prop :=
  -9223372036854775808 ≤ c.value ∧ c.value ≤ 9223372036854775807

lemma plain_toJson (c : Condition) : c.toJson.Plain := by
  simp [toJson]

lemma ofJson?_toJson {c : Condition} (h : c.InRange) (mode : Json.Mode) (room : Nat) :
    ofJson? mode (room + 1) c.toJson = some c := by
  have hvalue : (Json.ofInt c.value).asInt64? = some c.value := Json.asIntegerIn?_ofInt h
  rw [ofJson?, toJson, Json.record?_record]
  · simp [Comparison.name?_name, hvalue]
  · decide
  · rfl

end Condition

/-! ### Commands -/

lemma plain_walkToJson (d : Direction) (count : UInt32) : (walkToJson d count).Plain := by
  simp [walkToJson, d.plain_toJson]

@[simp] lemma walkOfJson?_walkToJson (mode : Json.Mode) (room : Nat) (d : Direction) (count : UInt32) :
    walkOfJson? mode (room + 1) (walkToJson d count) = some (d, count) := by
  simp [walkOfJson?, walkToJson, Json.asTuple?, Direction.ofJson?_toJson]

lemma nesting_walkToJson (d : Direction) (count : UInt32) : (walkToJson d count).nesting = 1 := by
  simp [walkToJson, Direction.toJson, Json.nesting, Json.elementsNesting]

namespace Command

lemma plain_toJson (c : Command) : c.toJson.Plain := by
  cases c with
  | move d | turn d => exact Json.plain_taggedRecord _ d.plain_toJson
  | walk d count => exact Json.plain_taggedRecord _ (plain_walkToJson d count)
  | wait ms => exact Json.plain_taggedRecord _ (Json.plain_ofOption (by simp) ms)
  | print text => exact Json.plain_taggedRecord _ (.ofString text)
  | clear => simp [toJson]

lemma nesting_pos (c : Command) : 0 < c.toJson.nesting := by
  cases c <;> exact Nat.succ_pos _

lemma nesting_le_two (c : Command) : c.toJson.nesting ≤ 2 := by
  cases c with
  | move d | turn d => simp [toJson, Direction.toJson]
  | walk d count => simp [toJson, nesting_walkToJson]
  | wait ms => cases ms <;> simp [toJson, Json.ofOption, Json.nesting]
  | print text => simp [toJson]
  | clear => simp [toJson, Json.record, Json.nesting, Json.membersNesting]

lemma ofJson?_toJson (mode : Json.Mode) {room : Nat} {c : Command} (h : c.toJson.nesting ≤ room) :
    ofJson? mode room c.toJson = some c := by
  cases c with
  | move d | turn d =>
    obtain ⟨n, rfl, -⟩ := Json.exists_room_of_taggedRecord h
    simp [ofJson?, toJson, Kind.names, List.lookup_cons]
  | walk d count =>
    obtain ⟨_, rfl, hn⟩ := Json.exists_room_of_taggedRecord h
    rw [nesting_walkToJson] at hn
    obtain ⟨n, rfl⟩ := Nat.exists_eq_add_of_le' hn
    simp [ofJson?, toJson, Kind.names, List.lookup_cons]
  | wait ms =>
    obtain ⟨n, rfl, -⟩ := Json.exists_room_of_taggedRecord h
    have hms := Json.asOption?_ofOption (fun _ => rfl) Json.asWord64?_ofNat ms
    simp [ofJson?, toJson, Kind.names, List.lookup_cons, hms]
  | print text =>
    obtain ⟨n, rfl, -⟩ := Json.exists_room_of_taggedRecord h
    simp [ofJson?, toJson, Kind.names, List.lookup_cons]
  | clear =>
    obtain ⟨n, rfl, -⟩ := Json.exists_room h
    rfl

end Command

/-! ### Statements -/

namespace Statement

/-- The numbers of its conditions have 64 bits. -/
def InRange : Statement → Prop
  | command _ => True
  | loop _ _ body => body.InRange
  | guarded condition body => condition.InRange ∧ body.InRange

lemma plain_toJson (s : Statement) : s.toJson.Plain := by
  induction s with
  | command c => exact Json.plain_taggedRecord _ c.plain_toJson
  | loop name count body ih => exact Json.plain_taggedRecord _ (by simp [ih])
  | guarded condition body ih =>
    exact Json.plain_taggedRecord _ (by simp [ih, condition.plain_toJson])

/-- The tag tells the reader which record to expect. -/
lemma ofJson?_loop (mode : Json.Mode) {room : Nat} {v name count body : Json}
    (hv : v.objectRecord? (room + 1) ["var", "count", "body"] = some [name, count, body]) :
    ofJson? mode (room + 2) (Json.taggedRecord "For" v) = (do
      pure (.loop (← name.asString?) (← count.asWord32?) (← ofJson? mode room body))) := by
  simp [ofJson?, Kind.names, List.lookup_cons, hv]

lemma ofJson?_guarded (mode : Json.Mode) {room : Nat} {v condition body : Json}
    (hv : v.objectRecord? (room + 1) ["condition", "body"] = some [condition, body]) :
    ofJson? mode (room + 2) (Json.taggedRecord "If" v) = (do
      pure (.guarded (← Condition.ofJson? mode room condition) (← ofJson? mode room body))) := by
  simp [ofJson?, Kind.names, List.lookup_cons, hv]

lemma ofJson?_toJson (mode : Json.Mode) {room : Nat} {s : Statement} (hrange : s.InRange)
    (h : s.toJson.nesting ≤ room) : ofJson? mode room s.toJson = some s := by
  induction s generalizing room with
  | command c =>
    obtain ⟨_, rfl, hn⟩ := Json.exists_room_of_taggedRecord h
    obtain ⟨m, rfl⟩ := Nat.exists_eq_add_of_le' (Nat.le_trans c.nesting_pos hn)
    have hc := Command.ofJson?_toJson mode hn
    simp [ofJson?, toJson, Kind.names, hc]
  | loop name count body ih =>
    obtain ⟨_, rfl, hn⟩ := Json.exists_room_of_taggedRecord h
    obtain ⟨m, rfl, hmembers⟩ := Json.exists_room hn
    have hbody := ih hrange (hmembers ("body", body.toJson) (by simp))
    have hkeys : ["var", "count", "body"].Nodup := by decide
    rw [toJson, ofJson?_loop mode (Json.objectRecord?_record m hkeys rfl)]
    simp [hbody]
  | guarded condition body ih =>
    obtain ⟨_, rfl, hn⟩ := Json.exists_room_of_taggedRecord h
    obtain ⟨m, rfl, hmembers⟩ := Json.exists_room hn
    have hbody := ih hrange.2 (hmembers ("body", body.toJson) (by simp))
    obtain ⟨k, rfl, -⟩ := Json.exists_room (hmembers ("condition", condition.toJson) (by simp))
    have hkeys : ["condition", "body"].Nodup := by decide
    rw [toJson, ofJson?_guarded mode (Json.objectRecord?_record (k + 1) hkeys rfl)]
    simp [hbody, Condition.ofJson?_toJson hrange.1]

end Statement

/-! ### Actions -/

namespace Action

lemma plain_toJson (a : Action) : a.toJson.Plain := by
  cases a with
  | step d | turn d => exact Json.plain_taggedRecord _ d.plain_toJson
  | walk d count => exact Json.plain_taggedRecord _ (plain_walkToJson d count)
  | wait ms => exact Json.plain_taggedRecord _ (.ofInt _)
  | print text => exact Json.plain_taggedRecord _ (.ofString text)

lemma ofJson?_toJson (mode : Json.Mode) (room : Nat) (a : Action) :
    ofJson? mode (room + 2) a.toJson = some a := by
  cases a <;> simp [ofJson?, toJson, Kind.names, List.lookup_cons]

end Action

end GridScript
