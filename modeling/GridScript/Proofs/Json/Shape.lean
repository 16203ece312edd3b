import GridScript.Json.Shape
import GridScript.Proofs.Json.RoundTrip

/-!
Shapes read back.

Each reader of a shape undoes its writer: scalars, optional values, lists, records and tagged
values. A record needs keys that differ, and a container a level that may still nest.
-/

namespace GridScript.Json

/-! ### What is plain -/

@[simp] lemma plain_bool (b : Bool) : (Json.bool b).Plain := .bool b

@[simp] lemma plain_ofInt (i : Int) : (ofInt i).Plain := .ofInt i

@[simp] lemma plain_ofNat (n : Nat) : (ofNat n).Plain := .ofInt n

@[simp] lemma plain_ofString (s : String) : (ofString s).Plain := .ofString s

@[simp] lemma plain_array {vs : List Json} : (array vs).Plain ↔ ∀ v ∈ vs, v.Plain :=
  ⟨fun h => by cases h; assumption, .array⟩

lemma plain_ofOption {f : α → Json} (h : ∀ a, (f a).Plain) (o : Option α) : (ofOption f o).Plain := by
  cases o with
  | none => exact .null
  | some a => exact h a

@[simp] lemma plain_ofList {f : α → Json} {as : List α} :
    (ofList f as).Plain ↔ ∀ a ∈ as, (f a).Plain := by
  simp [ofList]

@[simp] lemma plain_record {ms : List (String × Json)} :
    (record ms).Plain ↔ ∀ m ∈ ms, m.2.Plain := by
  refine ⟨fun h => ?_, fun h => ?_⟩
  · unfold record at h
    cases h with
    | object hkeys h => exact fun m hm => h (some m.1, m.2) (List.mem_map_of_mem hm)
  · exact .object (List.forall_mem_map.2 fun _ _ => rfl) (List.forall_mem_map.2 h)

lemma plain_taggedRecord (tag : String) {content : Json} (h : content.Plain) :
    (taggedRecord tag content).Plain := by
  simp [taggedRecord, h]

/-! ### Scalars -/

lemma asIntegerIn?_ofInt {lo hi i : Int} (h : lo ≤ i ∧ i ≤ hi) :
    (ofInt i).asIntegerIn? lo hi = some i := by
  simp [asIntegerIn?, ofInt, asInteger?, h]

lemma asNatBelow?_ofNat {bound n : Nat} (h : n < bound) :
    (ofNat n).asNatBelow? bound = some n := by
  simp [asNatBelow?, ofNat, ofInt, asInteger?, Int.toNat?, Option.filter, h]

lemma asNat64?_ofNat {n : Nat} (h : n < UInt64.size) : (ofNat n).asNat64? = some n :=
  asNatBelow?_ofNat h

@[simp] lemma asWord8?_ofNat (n : UInt8) : (ofNat n.toNat).asWord8? = some n := by
  simp [asWord8?, asNatBelow?_ofNat n.toNat_lt_size]

@[simp] lemma asWord32?_ofNat (n : UInt32) : (ofNat n.toNat).asWord32? = some n := by
  simp [asWord32?, asNatBelow?_ofNat n.toNat_lt_size]

@[simp] lemma asWord64?_ofNat (n : UInt64) : (ofNat n.toNat).asWord64? = some n := by
  simp [asWord64?, asNatBelow?_ofNat n.toNat_lt_size]

@[simp] lemma asString?_ofString (s : String) : (ofString s).asString? = some s := rfl

@[simp] lemma asBool?_bool (b : Bool) : (Json.bool b).asBool? = some b := rfl

lemma asOption?_ofOption {f : α → Json} {g : Json → Option α} (hnull : ∀ a, (f a).isNull = false)
    (h : ∀ a, g (f a) = some a) (o : Option α) : (ofOption f o).asOption? g = some o := by
  cases o with
  | none => rfl
  | some a =>
    have hsome : (f a).asOption? g = (g (f a)).map some := by
      rw [asOption?]
      intro hf
      have hne := hnull a
      rw [hf] at hne
      cases hne
    rw [ofOption, hsome, h, Option.map_some]

/-! ### Lists and records -/

lemma mapM_map_eq_some {f : α → β} {g : β → Option γ} {k : α → γ} {as : List α}
    (h : ∀ a ∈ as, g (f a) = some (k a)) : (as.map f).mapM g = some (as.map k) := by
  induction as with
  | nil => rfl
  | cons a as ih =>
    obtain ⟨ha, has⟩ := List.forall_mem_cons.1 h
    simp [ha, ih has]

lemma mapM_eq_none {g : α → Option β} {as : List α} {a : α} (ha : a ∈ as) (h : g a = none) :
    as.mapM g = none := by
  obtain ⟨before, after, rfl⟩ := List.append_of_mem ha
  simp [List.mapM_append, List.mapM_cons, h]

lemma asList?_ofList {f : α → Json} {g : Nat → Json → Option α} {room : Nat} {as : List α}
    (h : ∀ a ∈ as, g room (f a) = some a) : (ofList f as).asList? (room + 1) g = some as := by
  simpa [ofList, asList?] using mapM_map_eq_some h

/-- The members that are there, of some that need not be. -/
def given (es : List (String × Option Json)) : List (String × Json) :=
  es.filterMap fun e => e.2.map (e.1, ·)

lemma given_cons (e : String × Option Json) (es : List (String × Option Json)) :
    given (e :: es) = (e.2.map (e.1, ·)).toList ++ given es := by
  cases h : e.2 <;> simp [given, h]

lemma mem_keys_of_mem_given {es : List (String × Option Json)} {m : String × Json}
    (h : m ∈ given es) : m.1 ∈ es.map Prod.fst := by
  obtain ⟨e, he, hm⟩ := List.mem_filterMap.1 h
  obtain ⟨v, -, rfl⟩ := Option.map_eq_some_iff.1 hm
  exact List.mem_map_of_mem he

lemma occurrences_map (key : String) (ms : List (String × Json)) :
    occurrences key (ms.map fun m => (some m.1, m.2)) = (ms.filter (·.1 = key)).map Prod.snd := by
  induction ms with
  | nil => rfl
  | cons m ms ih =>
    simp only [occurrences, List.map_cons, List.filterMap_cons, List.filter_cons, Option.some.injEq]
      at ih ⊢
    split <;> simp_all

lemma filter_given {es : List (String × Option Json)} (h : (es.map Prod.fst).Nodup)
    {e : String × Option Json} (he : e ∈ es) :
    ((given es).filter (·.1 = e.1)).map Prod.snd = e.2.toList := by
  induction es with
  | nil => cases he
  | cons d ds ih =>
    obtain ⟨hd, hds⟩ := List.nodup_cons.1 h
    rw [given_cons, List.filter_append]
    rcases List.mem_cons.1 he with rfl | he
    · have hothers : (given ds).filter (·.1 = e.1) = [] := by
        refine List.filter_eq_nil_iff.2 fun m hm heq => hd ?_
        rw [← of_decide_eq_true heq]
        exact mem_keys_of_mem_given hm
      rw [hothers, List.append_nil]
      cases e.2 <;> simp
    · have hdiffer : d.1 ≠ e.1 := fun heq => hd (heq ▸ List.mem_map_of_mem he)
      rw [List.map_append, ih hds he]
      cases d.2 <;> simp [hdiffer]

/-- Members in any order, among others, each of them once if it is there. -/
lemma occurrences_of_perm {es : List (String × Option Json)} (hkeys : (es.map Prod.fst).Nodup)
    {ms : List (String × Json)} (h : (ms.filter (·.1 ∈ es.map Prod.fst)).Perm (given es))
    {e : String × Option Json} (he : e ∈ es) :
    occurrences e.1 (ms.map fun m => (some m.1, m.2)) = e.2.toList := by
  have hknown : (ms.filter (·.1 ∈ es.map Prod.fst)).filter (·.1 = e.1) =
      ms.filter (·.1 = e.1) := by
    rw [List.filter_filter]
    refine List.filter_congr fun m _ => ?_
    rw [Bool.and_eq_left_iff_imp]
    intro hm
    rw [decide_eq_true_iff] at hm ⊢
    exact hm ▸ List.mem_map_of_mem he
  have hperm := (h.filter (·.1 = e.1)).map Prod.snd
  rw [hknown, filter_given hkeys he] at hperm
  rw [occurrences_map]
  generalize e.2 = value at hperm
  cases value with
  | none => exact List.perm_nil.1 hperm
  | some v => exact List.perm_singleton.1 hperm

/-- A record is opened whatever the order of its members is, and whatever others there are. -/
lemma openRecord?_of_perm (es : List (String × Option Json)) (room : Nat)
    (hkeys : (es.map Prod.fst).Nodup) {ms : List (String × Json)}
    (h : (ms.filter (·.1 ∈ es.map Prod.fst)).Perm (given es)) :
    (record ms).openRecord? (room + 1) (es.map Prod.fst) = some (es.map Prod.snd) := by
  have hall : (ms.map fun m => (some m.1, m.2)).all (·.1.isSome) = true := by simp
  simp only [record, openRecord?, Nat.add_one_ne_zero, if_false, lookup?, hall, if_true]
  refine mapM_map_eq_some fun e he => ?_
  rw [occurrences_of_perm hkeys h he]
  cases e.2 <;> rfl

lemma openRecord?_record {ms : List (String × Json)} {names : List String} (room : Nat)
    (hnames : names.Nodup) (h : ms.map Prod.fst = names) :
    (record ms).openRecord? (room + 1) names = some (ms.map fun m => some m.2) := by
  have hfst : (ms.map fun m => (m.1, some m.2)).map Prod.fst = names := by
    rw [← h, List.map_map]
    rfl
  have hgiven : given (ms.map fun m => (m.1, some m.2)) = ms := by
    rw [given, List.filterMap_map]
    exact List.filterMap_some
  have hall : ms.filter (·.1 ∈ names) = ms :=
    List.filter_eq_self.2 fun m hm => decide_eq_true (h ▸ List.mem_map_of_mem hm)
  have hopen := openRecord?_of_perm (ms.map fun m => (m.1, some m.2)) room (hfst ▸ hnames)
    (by rw [hfst, hgiven, hall])
  rw [hfst, List.map_map] at hopen
  exact hopen

lemma length_occurrences (key : String) (ms : List (Option String × Json)) :
    (occurrences key ms).length = (ms.map Prod.fst).count (some key) := by
  induction ms with
  | nil => rfl
  | cons m ms ih =>
    simp only [occurrences, List.filterMap_cons, List.map_cons, List.count_cons, beq_iff_eq] at ih ⊢
    split <;> simp_all

/-- A record that repeats one of its keys is not opened. -/
lemma openRecord?_of_repeated {ms : List (Option String × Json)} {names : List String}
    {name : String} (hname : name ∈ names) (h : 2 ≤ (ms.map Prod.fst).count (some name))
    (room : Nat) : (object ms).openRecord? room names = none := by
  rw [← length_occurrences] at h
  rw [openRecord?, lookup?]
  split
  · rfl
  split
  · refine mapM_eq_none hname ?_
    split <;> simp_all
  · rfl

lemma record?_record {ms : List (String × Json)} {names : List String} (room : Nat)
    (hnames : names.Nodup) (h : ms.map Prod.fst = names) :
    (record ms).record? (room + 1) names = some (ms.map Prod.snd) := by
  rw [record?, openRecord?_record room hnames h, Option.bind_some]
  exact mapM_map_eq_some fun _ _ => rfl

lemma objectRecord?_record {ms : List (String × Json)} {names : List String} (room : Nat)
    (hnames : names.Nodup) (h : ms.map Prod.fst = names) :
    (record ms).objectRecord? (room + 1) names = some (ms.map Prod.snd) :=
  record?_record room hnames h

/-! ### Tagged values -/

/-- A written tag comes before its value, which is read as it stands. -/
@[simp] lemma tagged?_taggedRecord (mode : Mode) (room : Nat) (table : List (String × α)) (tag : String)
    (content : Json) :
    (taggedRecord tag content).tagged? mode (room + 1) table =
      (table.lookup tag).map fun a => ⟨a, some content, mode⟩ := by
  simp [taggedRecord, record, tagged?, lookup?, occurrences, isValueFirst, name?, ofString]

/-! ### Nesting -/

mutual

/-- The levels of containers of a value. -/
def nesting : Json → Nat
  | array vs => elementsNesting vs + 1
  | object ms => membersNesting ms + 1
  | _ => 0

def elementsNesting : List Json → Nat
  | [] => 0
  | v :: vs => max v.nesting (elementsNesting vs)

def membersNesting : List (Option String × Json) → Nat
  | [] => 0
  | (_, v) :: ms => max v.nesting (membersNesting ms)

end

@[simp] lemma nesting_ofString (s : String) : (ofString s).nesting = 0 := by
  simp [ofString, nesting]

@[simp] lemma nesting_ofNat (n : Nat) : (ofNat n).nesting = 0 := by
  simp [ofNat, ofInt, nesting]

@[simp] lemma nesting_taggedRecord (tag : String) (content : Json) :
    (taggedRecord tag content).nesting = content.nesting + 1 := by
  simp [taggedRecord, record, nesting, membersNesting]

lemma nesting_le_membersNesting {key : Option String} {v : Json}
    {ms : List (Option String × Json)} (h : (key, v) ∈ ms) : v.nesting ≤ membersNesting ms := by
  induction ms with
  | nil => cases h
  | cons m ms ih =>
    rw [membersNesting]
    rcases List.mem_cons.1 h with rfl | h
    · exact Nat.le_max_left _ _
    · exact Nat.le_trans (ih h) (Nat.le_max_right _ _)

/-- A record takes one level of the room, and leaves the rest of it to each member. -/
lemma exists_room {ms : List (String × Json)} {room : Nat} (h : (record ms).nesting ≤ room) :
    ∃ inner, room = inner + 1 ∧ ∀ m ∈ ms, m.2.nesting ≤ inner := by
  rw [record, nesting] at h
  refine ⟨room - 1, by omega, fun m hm => ?_⟩
  have hle : m.2.nesting ≤ membersNesting (ms.map fun m => (some m.1, m.2)) :=
    nesting_le_membersNesting (List.mem_map.2 ⟨m, hm, rfl⟩)
  omega

lemma exists_room_of_taggedRecord {tag : String} {content : Json} {room : Nat}
    (h : (taggedRecord tag content).nesting ≤ room) :
    ∃ inner, room = inner + 1 ∧ content.nesting ≤ inner := by
  obtain ⟨inner, hroom, hmembers⟩ := exists_room h
  exact ⟨inner, hroom, hmembers ("value", content) (by simp)⟩

/-! ### Texts -/

/-- The text of a value, on one line or indented, reads as `a`. -/
def ReadsAs (f : Nat → Json → Option α) (j : Json) (a : α) : Prop :=
  decode? f (Source.ofString j.compactText) = some a ∧
    decode? f (Source.ofString j.prettyText) = some a

lemma readsAs_of_plain {f : Nat → Json → Option α} {j : Json} {a : α} (h : j.Plain)
    (hf : f maxNesting j = some a) : ReadsAs f j a := by
  have hcompact := parse?_compact h
  have hpretty := parse?_pretty h 0
  refine ⟨?_, ?_⟩
  · simpa [decode?, Source.ofString, compactText, hcompact] using hf
  · simpa [decode?, Source.ofString, prettyText, hpretty] using hf

end GridScript.Json
