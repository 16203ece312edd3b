import GridScript.CommandLine.Files
import Mathlib.Tactic.Common

/-!
Files that are written.

A walk goes on from places that are open: directories where no file lies. What a write does, also
where it fails, keeps all open places open, so that every walk that came through still does, to the
same place. It remains to see what lies there: a write that fails changes no file, and any other puts
its content where the path of the file leads, also if its directory cannot be synced.
-/

namespace GridScript.CommandLine

namespace FilePath

/-- The name stands for something in a directory. -/
structure IsFileName (name : String) : Prop where
  slash : '/' ∉ name.toList
  here : isHere name = false
  above : name ≠ ".."
  long : isLongName name = false

variable {directory name : String}

/-- The path of a file in a directory has the names of the directory and that of the file. -/
lemma names_inDirectory (h : IsFileName name) (directory : String) :
    ∃ ns, (names directory = ns ∨ names directory = ns ++ [""]) ∧
      names (inDirectory directory name) = ns ++ [name] := by
  have hname : Text.split (· == '/') name.toList = [name.toList] :=
    Text.split_eq_singleton fun c hc => by
      simpa using fun heq : c = '/' => h.slash (heq ▸ hc)
  rw [inDirectory]
  split
  · rename_i hlast
    obtain ⟨cs, hcs⟩ := List.getLast?_eq_some_iff.1 hlast
    refine ⟨(Text.split (· == '/') cs).map String.ofList, .inr ?_, ?_⟩
    · rw [names, hcs, Text.split_append_separator (by decide)]
      simp [Text.split]
    · rw [names, String.toList_append, hcs, List.append_assoc, List.singleton_append,
        Text.split_append_separator (by decide), hname]
      simp
  · refine ⟨names directory, .inl rfl, ?_⟩
    have hlist : (directory ++ "/" ++ name).toList = directory.toList ++ '/' :: name.toList := by
      simp
    rw [names, hlist, Text.split_append_separator (by decide), hname]
    simp [names]

lemma start_inDirectory (h : directory ≠ "") (name : String) :
    start (inDirectory directory name) = start directory := by
  obtain ⟨c, cs, hcs⟩ : ∃ c cs, directory.toList = c :: cs :=
    List.exists_cons_of_ne_nil (by simpa using h)
  have hhead : (inDirectory directory name).toList.head? = directory.toList.head? := by
    rw [inDirectory]
    split <;> simp [hcs]
  rw [start, start, hhead]

/-- A path can be used if one with a longer name at its end can. -/
lemma isLong_inDirectory {more : String}
    (h : isLong (inDirectory directory (name ++ more)) = false) :
    isLong (inDirectory directory name) = false := by
  have hle : (inDirectory directory name).utf8ByteSize ≤
      (inDirectory directory (name ++ more)).utf8ByteSize := by
    unfold inDirectory
    split <;> simp only [String.utf8ByteSize_append] <;> omega
  have hbound := of_decide_eq_false h
  exact decide_eq_false (by omega)

end FilePath

open FilePath

namespace Place

lemma isWithin_iff {p d : Place} :
    p.isWithin d = true ↔ p.origin = d.origin ∧ d.names <+: p.names := by
  simp [isWithin]

/-- What lies in a directory lies below all that the directory lies in. -/
lemma isBelow_child {p d : Place} {name : String} :
    (p.child name).isBelow d = true ↔ p.isWithin d = true := by
  simp only [isBelow, Bool.and_eq_true, bne_iff_ne, isWithin_iff]
  constructor
  · rintro ⟨hne, horigin, hnames⟩
    rcases List.prefix_concat_iff.1 hnames with heq | hprefix
    · have hd : p.child name = d := by
        cases d
        exact Place.mk.injEq .. ▸ ⟨horigin, heq.symm⟩
      exact absurd hd hne
    · exact ⟨horigin, hprefix⟩
  · rintro ⟨horigin, hnames⟩
    refine ⟨fun heq => ?_, horigin, hnames.trans (List.prefix_append _ _)⟩
    have hlength : p.names.length + 1 ≤ p.names.length := by
      simpa [← heq, child] using hnames.length_le
    omega

/-- Where a walk goes after a name. -/
def toward (p : Place) (name : String) : Place :=
  if isHere name then p else if name == ".." then p.parent else p.child name

end Place

namespace FileTree

variable {t t' : FileTree} {p q : Place}

/-- A walk may go on from the place. -/
structure IsOpen (t : FileTree) (p : Place) : Prop where
  free : t.content? p = none
  directory : t.isDirectory p = true

lemma isLongName_of_isHere {name : String} (h : isHere name = true) : isLongName name = false := by
  rcases Bool.or_eq_true_iff.1 h with h | h <;> rw [eq_of_beq h] <;> rfl

lemma follow_cons_of_isOpen (h : t.IsOpen p) {name : String} (hlong : isLongName name = false)
    (ns : List String) : t.follow p (name :: ns) = t.follow (p.toward name) ns := by
  rw [follow, Place.toward, h.free, h.directory, hlong]
  simp only [Option.isSome_none, Bool.not_true, Bool.false_eq_true, if_false]
  split
  · rfl
  · split <;> rfl

/-- A walk that comes to a place could go on at each name. -/
lemma follow_cons_eq_place {name : String} {ns : List String} :
    t.follow p (name :: ns) = .place q ↔
      t.IsOpen p ∧ isLongName name = false ∧ t.follow (p.toward name) ns = .place q := by
  constructor
  · intro h
    have hopen : t.IsOpen p := by
      rw [follow] at h
      cases hfree : t.content? p with
      | some content => simp [hfree] at h
      | none =>
        cases hdirectory : t.isDirectory p with
        | false => simp [hfree, hdirectory] at h
        | true => exact ⟨hfree, hdirectory⟩
    have hlong : isLongName name = false := by
      cases hlong : isLongName name with
      | false => rfl
      | true =>
        have hhere : isHere name = false := by
          cases hhere : isHere name with
          | false => rfl
          | true => exact hlong.symm.trans (isLongName_of_isHere hhere)
        have habove : name ≠ ".." := by
          rintro rfl
          cases hlong
        simp [follow, hopen.free, hopen.directory, hhere, habove, hlong] at h
    exact ⟨hopen, hlong, follow_cons_of_isOpen hopen hlong ns ▸ h⟩
  · rintro ⟨hopen, hlong, h⟩
    rw [follow_cons_of_isOpen hopen hlong, h]

lemma follow_append_eq_place {ns ms : List String} :
    t.follow p (ns ++ ms) = .place q ↔
      ∃ r, t.follow p ns = .place r ∧ t.follow r ms = .place q := by
  induction ns generalizing p with
  | nil => simp [follow]
  | cons n ns ih =>
    rw [List.cons_append, follow_cons_eq_place, ih]
    simp only [follow_cons_eq_place]
    tauto

/-- To end in a directory is to come to an open place. -/
lemma follow_slash_eq_place : t.follow p [""] = .place q ↔ t.IsOpen p ∧ p = q := by
  rw [follow_cons_eq_place]
  simp [follow, Place.toward, isHere, isLongName]

lemma follow_name_eq_place {name : String} (h : IsFileName name) :
    t.follow p [name] = .place q ↔ t.IsOpen p ∧ p.child name = q := by
  rw [follow_cons_eq_place]
  simp [follow, Place.toward, h.here, h.above, h.long]

/-- The path of a file leads into the directory. -/
lemma follow_inDirectory {directory name : String} (hd : directory ≠ "") (hn : IsFileName name) :
    t.follow (start (inDirectory directory name)) (names (inDirectory directory name)) = .place q ↔
      ∃ p, t.follow (start directory) (names directory ++ [""]) = .place p ∧ p.child name = q := by
  obtain ⟨ns, hns, hfile⟩ := names_inDirectory hn directory
  have hslash : ∀ p, t.follow (start directory) (names directory ++ [""]) = .place p ↔
      t.follow (start directory) ns = .place p ∧ t.IsOpen p := by
    intro p
    rcases hns with hns | hns <;> rw [hns] <;>
      simp only [follow_append_eq_place, follow_slash_eq_place]
    · exact ⟨fun ⟨r, hr, hopen, hp⟩ => hp ▸ ⟨hr, hopen⟩, fun ⟨hp, hopen⟩ => ⟨p, hp, hopen, rfl⟩⟩
    · constructor
      · rintro ⟨r, ⟨s, hs, hopen, rfl⟩, -, rfl⟩
        exact ⟨hs, hopen⟩
      · rintro ⟨hp, hopen⟩
        exact ⟨p, ⟨p, hp, hopen, rfl⟩, hopen, rfl⟩
  rw [start_inDirectory hd, hfile, follow_append_eq_place]
  simp only [hslash, follow_name_eq_place hn, and_assoc]

lemma read_eq_bytes_iff {path : String} {content : List UInt8} :
    t.read path = .bytes content ↔ isLong path = false ∧
      ∃ q, t.follow (start path) (names path) = .place q ∧ t.content? q = some content := by
  unfold read
  cases isLong path with
  | true => simp
  | false =>
    cases t.follow (start path) (names path) with
    | missing => simp
    | blocked => simp
    | place q =>
      cases hq : t.content? q with
      | some c => simp [hq]
      | none => cases hdirectory : t.isDirectory q <;> simp [hq, hdirectory]

/-! ### What is kept -/

/-- A walk that went on from a place still does. -/
def Keeps (t t' : FileTree) : Prop := ∀ p, t.IsOpen p → t'.IsOpen p

/-- No file has changed, but one with the given name may be gone. -/
def Intact (t t' : FileTree) (name : String) : Prop :=
  ∀ p, t'.content? p = t.content? p ∨ t'.content? p = none ∧ p.names.getLast? = some name

lemma Keeps.trans {t₁ t₂ t₃ : FileTree} (h : t₁.Keeps t₂) (h' : t₂.Keeps t₃) : t₁.Keeps t₃ :=
  fun p hp => h' p (h p hp)

lemma Keeps.follow (h : t.Keeps t') {ns : List String} (hq : t.follow p ns = .place q) :
    t'.follow p ns = .place q := by
  induction ns generalizing p with
  | nil => simpa [FileTree.follow] using hq
  | cons name ns ih =>
    obtain ⟨hopen, hlong, hrest⟩ := follow_cons_eq_place.1 hq
    exact follow_cons_eq_place.2 ⟨h p hopen, hlong, ih hrest⟩

lemma exists_makeDirectories (t : FileTree) (p : Place) (ns : List String) :
    ∃ more, t.makeDirectories p ns = { t with made := more ++ t.made } := by
  induction ns generalizing t p with
  | nil => exact ⟨[], rfl⟩
  | cons name ns ih =>
    rw [makeDirectories]
    split
    · exact ih t p
    · split
      · exact ih t p.parent
      · split
        · exact ⟨[], rfl⟩
        · obtain ⟨more, hmore⟩ := ih { t with made := p.child name :: t.made } (p.child name)
          exact ⟨more ++ [p.child name], by rw [hmore]; simp⟩

@[simp] lemma closed_makeDirectories (t : FileTree) (p : Place) (ns : List String) :
    (t.makeDirectories p ns).closed = t.closed := by
  obtain ⟨more, hmore⟩ := t.exists_makeDirectories p ns
  rw [hmore]

lemma lookup_filter (files : List (Place × List UInt8)) (f : Place → Bool) (p : Place) :
    (files.filter fun x => f x.1).lookup p = if f p then files.lookup p else none := by
  induction files with
  | nil => simp
  | cons x files ih =>
    obtain ⟨q, content⟩ := x
    by_cases hq : p = q
    · subst hq
      cases hf : f p <;> simp [hf, ih]
    · have hbeq : (p == q) = false := beq_false_of_ne hq
      cases hf : f q <;> simp [List.lookup_cons, hf, hbeq, ih]

lemma content?_replace (t : FileTree) (p beside q : Place) (content : List UInt8) :
    (t.replace p beside content).content? q =
      if q = p then some content else if q = beside then none else t.content? q := by
  rw [content?, replace, List.lookup_cons, lookup_filter t.files fun x => x != p && x != beside]
  by_cases hp : q = p
  · simp [hp]
  · simp only [beq_false_of_ne hp, if_neg hp]
    by_cases hb : q = beside <;> simp [hp, hb, content?]

lemma isDirectory_iff :
    t.isDirectory q = true ↔ q.names.isEmpty = true ∨ (∃ d ∈ t.made, d.isWithin q = true) ∨
      ∃ f ∈ t.files, f.1.isBelow q = true := by
  simp [isDirectory, or_assoc]

/-- The file that comes lies in the same directories as those that go. -/
lemma keeps_replace {name : String} (h : t.isDirectory (p.child name) = false) (beside : String)
    (content : List UInt8) : t.Keeps (t.replace (p.child name) (p.child beside) content) := by
  rintro q ⟨hfree, hdirectory⟩
  refine ⟨?_, isDirectory_iff.2 ?_⟩
  · rw [content?_replace]
    split
    · rename_i heq
      rw [heq, h] at hdirectory
      cases hdirectory
    · split
      · rfl
      · exact hfree
  · rcases isDirectory_iff.1 hdirectory with hroot | hmade | ⟨f, hf, hbelow⟩
    · exact .inl hroot
    · exact .inr (.inl hmade)
    · by_cases hplace : f.1 ≠ p.child name ∧ f.1 ≠ p.child beside
      · refine .inr (.inr ⟨f, List.mem_cons_of_mem _ (List.mem_filter.2 ⟨hf, ?_⟩), hbelow⟩)
        simpa using hplace
      · have hwithin : p.isWithin q = true := by
          rw [not_and_or, not_not, not_not] at hplace
          rcases hplace with hplace | hplace <;> rwa [hplace, Place.isBelow_child] at hbelow
        exact .inr (.inr ⟨_, List.mem_cons_self, Place.isBelow_child.2 hwithin⟩)

/-! ### Writing -/

variable {directory name : String} {content : List UInt8}

/-- A write fails before or after the directories are made, or where the file would be moved to its
place; otherwise the file is there in the end, for sure unless its directory is closed. -/
lemma write_cases (t : FileTree) (directory name : String) (content : List UInt8) :
    let made := t.makeDirectories (start directory) (names directory)
    t.write directory name content = (.failed, t) ∨
      t.write directory name content = (.failed, made) ∨
      ∃ p, made.follow (start directory) (names directory ++ [""]) = .place p ∧
        isLong (inDirectory directory (name ++ temporary)) = false ∧
        if made.isDirectory (p.child name) then
          t.write directory name content = (.failed, made.remove (p.child (name ++ temporary)))
        else
          t.write directory name content =
            (if t.closed.contains p then .unsynced else .done,
              made.replace (p.child name) (p.child (name ++ temporary)) content) := by
  intro made
  unfold write
  split
  · exact .inl rfl
  · cases hplace : made.follow (start directory) (names directory ++ [""]) with
    | missing => exact .inr (.inl (by simp only [made, hplace]))
    | blocked => exact .inr (.inl (by simp only [made, hplace]))
    | place p =>
      by_cases hbeside : (isLong (inDirectory directory (name ++ temporary)) ||
          made.isDirectory (p.child (name ++ temporary))) = true
      · exact .inr (.inl (by simp only [made, hplace, hbeside, if_true]))
      · refine .inr (.inr ⟨p, rfl, by simp_all, ?_⟩)
        have hclosed : t.closed = made.closed := (t.closed_makeDirectories _ _).symm
        rw [hclosed]
        split <;> rename_i htarget <;> simp only [made, hplace, hbeside, htarget] <;> rfl

/-- What was written can be read, whether or not it is sure to last. -/
lemma read_of_write (hd : directory ≠ "") (hn : IsFileName name) {written : Written}
    (hwritten : written ≠ .failed) (h : t.write directory name content = (written, t')) :
    t'.read (inDirectory directory name) = .bytes content := by
  rcases t.write_cases directory name content with hw | hw | ⟨p, hp, hlong, hw⟩
  · exact absurd (congrArg Prod.fst (h.symm.trans hw)) hwritten
  · exact absurd (congrArg Prod.fst (h.symm.trans hw)) hwritten
  · split at hw
    · exact absurd (congrArg Prod.fst (h.symm.trans hw)) hwritten
    · rename_i htarget
      obtain rfl := congrArg Prod.snd (hw.symm.trans h)
      have hkeeps := keeps_replace (Bool.eq_false_iff.2 htarget) (name ++ temporary) content
      refine read_eq_bytes_iff.2 ⟨isLong_inDirectory hlong, p.child name, ?_, ?_⟩
      · exact (follow_inDirectory hd hn).2 ⟨p, hkeeps.follow hp, rfl⟩
      · rw [content?_replace, if_pos rfl]

end FileTree

end GridScript.CommandLine
