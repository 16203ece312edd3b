import GridScript.Proofs.Grid.Rows
import GridScript.Proofs.Script.Repeats
import GridScript.Proofs.Text.Words

/-!
Maps and the texts they are read from.

A text is read if its lines, the blank ones left out, hold the same number of words each and all of
these are ids; then the ids are the tiles, row by row. Otherwise the first fault is reported. So a
map reads back however its rows are spaced.
-/

namespace GridScript.TileMap

/-! ### Texts -/

/-- The words of the lines that are not blank. -/
def wordRows (text : List Char) : List (List (List Char)) :=
  ((Text.lines text).map Text.words).filter (! ·.isEmpty)

lemma tokenRows_eq (text : List Char) : tokenRows text = wordRows text := by
  have hblank : ∀ l : List Char, (! (Text.trim l).isEmpty) = ! (Text.words l).isEmpty := by
    intro l
    rw [Bool.not_inj_iff, Bool.eq_iff_iff, List.isEmpty_iff, List.isEmpty_iff, Text.trim_eq_nil_iff,
      Text.words_eq_nil_iff]
  simp only [tokenRows, wordRows, List.filter_map, List.map_map, Function.comp_def, hblank,
    Text.words_trim]

lemma ne_nil_of_mem_wordRows {text : List Char} {tokens : List (List Char)}
    (h : tokens ∈ wordRows text) : tokens ≠ [] := by
  simpa using (List.mem_filter.1 h).2

/-- The width of some rows is that of the first. -/
def width (rows : List (List (List Char))) : Nat := (rows.headD []).length

/-- The first fault of some rows: there are none, or one is faulty and those before it are not. -/
inductive FirstFault : List (List (List Char)) → MapError → Prop where
  | empty : FirstFault [] .empty
  | row {before after : List (List (List Char))} {tokens : List (List Char)} {e : MapError}
      (hbefore : ∀ b ∈ before, SoundRow (width (before ++ tokens :: after)) b)
      (h : RowFault (width (before ++ tokens :: after)) before.length tokens e) :
    FirstFault (before ++ tokens :: after) e

lemma parse_eq (text : List Char) (tileSize : UInt32) {rows : List (List (List Char))}
    (h : wordRows text = rows) (hne : rows ≠ []) :
    parse text tileSize = (readRows (width rows) 0 rows).map fun ids =>
      ⟨width rows, rows.length, atLeastOne tileSize, ids.toArray, defaultSolid⟩ := by
  obtain ⟨first, rest, rfl⟩ := List.exists_cons_of_ne_nil hne
  rw [parse, tokenRows_eq, h]
  rfl

lemma parse_of_denotes {text : List Char} (tileSize : UInt32) {columns : Nat}
    {grid : List (List UInt8)} (hne : wordRows text ≠ [])
    (h : List.Forall₂ (List.Forall₂ Denotes) (wordRows text) grid)
    (hlength : ∀ tokens ∈ wordRows text, tokens.length = columns) :
    parse text tileSize = .ok (ofRows columns tileSize grid) := by
  have hwidth : width (wordRows text) = columns := by
    obtain ⟨first, rest, hrows⟩ := List.exists_cons_of_ne_nil hne
    rw [hrows] at hlength ⊢
    exact hlength first List.mem_cons_self
  rw [parse_eq text tileSize rfl hne, hwidth, readRows_of_denotes h hlength, h.length_eq]
  rfl

lemma parse_of_firstFault {text : List Char} (tileSize : UInt32) {e : MapError}
    (h : FirstFault (wordRows text) e) : parse text tileSize = .error e := by
  generalize hrows : wordRows text = rows at h
  cases h with
  | empty => rw [parse, tokenRows_eq, hrows]
  | row hbefore h =>
    rw [← Nat.zero_add (List.length _)] at h
    rw [parse_eq text tileSize hrows (by simp), readRows_of_rowFault hbefore h]
    rfl

/-- Some rows are a grid of ids, or there is a first fault. -/
lemma grid_or_fault (rows : List (List (List Char))) :
    (rows ≠ [] ∧ ∀ tokens ∈ rows, SoundRow (width rows) tokens) ∨ ∃ e, FirstFault rows e := by
  rcases eq_or_ne rows [] with rfl | hne
  · exact .inr ⟨_, .empty⟩
  · rcases forall_or_first (SoundRow (width rows)) rows with
      hsound | ⟨before, tokens, after, rfl, hbefore, htokens⟩
    · exact .inl ⟨hne, hsound⟩
    · obtain ⟨e, he⟩ := exists_rowFault htokens before.length
      exact .inr ⟨e, .row hbefore he⟩

/-! ### Spaced rows -/

/-- A blank that ends no line. -/
def IsGap (c : Char) : Prop := Text.isBlank c = true ∧ c ≠ '\n'

/-- A line of ids, each with the blanks that follow it; without ids it is a blank line. -/
structure TileLine where
  indent : List Char
  cells : List (UInt8 × List Char)
  gap_indent : ∀ c ∈ indent, IsGap c
  gap_cells : ∀ cell ∈ cells, ∀ c ∈ cell.2, IsGap c
  parted : ∀ cell ∈ cells.dropLast, cell.2 ≠ []

def cellText (cell : UInt8 × List Char) : List Char := Text.digits cell.1.toNat ++ cell.2

namespace TileLine

def text (l : TileLine) : List Char := l.indent ++ l.cells.flatMap cellText

def ids (l : TileLine) : List UInt8 := l.cells.map Prod.fst

/-- The rows of the lines that are not blank. -/
def grid (ls : List TileLine) : List (List UInt8) := (ls.map ids).filter (! ·.isEmpty)

/-- The lines one below the other. -/
def fileText (ls : List TileLine) : List Char := List.intercalate ['\n'] (ls.map text)

end TileLine

lemma words_digits (n : Nat) : Text.words (Text.digits n) = [Text.digits n] :=
  Text.words_of_not_blank (Text.digits_ne_nil n) fun _ hc =>
    Script.not_isBlank_of_isNameChar (.inr (.inl (Script.isDigit_iff.1 (Text.isDigit_of_mem_digits hc))))

lemma words_flatMap_cellText {cells : List (UInt8 × List Char)}
    (hgap : ∀ cell ∈ cells, ∀ c ∈ cell.2, IsGap c) (hparted : ∀ cell ∈ cells.dropLast, cell.2 ≠ []) :
    Text.words (cells.flatMap cellText) = cells.map fun cell => Text.digits cell.1.toNat := by
  induction cells with
  | nil => rfl
  | cons cell cells ih =>
    obtain ⟨hcell, hcells⟩ := List.forall_mem_cons.1 hgap
    have hblank : Text.Blank cell.2 := fun c hc => (hcell c hc).1
    rw [List.flatMap_cons, cellText, List.map_cons]
    rcases eq_or_ne cells [] with rfl | hne
    · rw [List.flatMap_nil, List.append_nil, Text.words_append_blanks hblank, words_digits]
      rfl
    · -- there is another id, so a blank parts it from this one
      rw [List.dropLast_cons_of_ne_nil hne] at hparted
      obtain ⟨hfirst, hrest⟩ := List.forall_mem_cons.1 hparted
      obtain ⟨c, gap, hcons⟩ := List.exists_cons_of_ne_nil hfirst
      rw [hcons] at hblank ⊢
      obtain ⟨hc, hgap⟩ := List.forall_mem_cons.1 hblank
      rw [List.append_assoc, List.cons_append, Text.words_append_blank hc,
        Text.words_blanks_append hgap, words_digits, ih hcells hrest]
      rfl

/-- What an id is written as. -/
lemma denotes_digits (id : UInt8) : Denotes (Text.digits id.toNat) id :=
  .plain (Script.natural?_eq_some_iff.1 (Text.natural?_digits id.toNat))

namespace TileLine

lemma words_text (l : TileLine) :
    Text.words l.text = l.ids.map fun id => Text.digits id.toNat := by
  rw [text, Text.words_blanks_append fun c hc => (l.gap_indent c hc).1,
    words_flatMap_cellText l.gap_cells l.parted, ids, List.map_map]
  rfl

lemma newline_not_mem_text (l : TileLine) : ∀ c ∈ l.text, (c == '\n') = false := by
  intro c hc
  rw [beq_eq_false_iff_ne]
  rcases List.mem_append.1 hc with hc | hc
  · exact (l.gap_indent c hc).2
  · obtain ⟨cell, hcell, hc⟩ := List.mem_flatMap.1 hc
    rcases List.mem_append.1 hc with hc | hc
    · rintro rfl
      exact absurd (Text.isDigit_of_mem_digits hc) (by decide)
    · exact (l.gap_cells cell hcell c hc).2

lemma wordRows_fileText (ls : List TileLine) :
    wordRows (fileText ls) = (grid ls).map fun ids => ids.map fun id => Text.digits id.toNat := by
  rcases eq_or_ne ls [] with rfl | hne
  · rfl
  · have hsplit : Text.split (· == '\n') (fileText ls) = ls.map text :=
      Text.split_intercalate (by decide) (by simpa using hne)
        (List.forall_mem_map.2 fun l _ => l.newline_not_mem_text)
    rw [wordRows, Text.filter_words_lines, hsplit]
    simp only [grid, List.filter_map, List.map_map, Function.comp_def, words_text, List.isEmpty_map]

lemma denotes_grid (ls : List TileLine) :
    List.Forall₂ (List.Forall₂ Denotes) (wordRows (fileText ls)) (grid ls) := by
  rw [wordRows_fileText, List.forall₂_map_left_iff, List.forall₂_same]
  intro ids _
  rw [List.forall₂_map_left_iff, List.forall₂_same]
  exact fun id _ => denotes_digits id

end TileLine

/-! ### Reading -/

/-- The map has the ids of some rows of words for its tiles. -/
structure Shows (m : TileMap) (ws : List (List (List Char))) : Prop where
  columns : 1 ≤ m.columns ∧ ∀ tokens ∈ ws, tokens.length = m.columns
  rows : 1 ≤ m.rows ∧ m.rows = ws.length
  filled : m.Filled
  tile : ∀ col row id, m.tile? col row = some id ↔
    ∃ token, ws[row]?.bind (·[col]?) = some token ∧ Denotes token id
  inGrid : ∀ col row, (m.tile? col row).isSome = true ↔ col < m.columns ∧ row < m.rows

lemma getElem?_of_denotes {tokens : List (List Char)} {ids : List UInt8}
    (h : List.Forall₂ Denotes tokens ids) (col : Nat) : ids[col]? = tokens[col]?.bind readTile? := by
  induction h generalizing col with
  | nil => rfl
  | cons hid _ ih =>
    cases col with
    | zero => exact (readTile?_eq_some_iff.2 hid).symm
    | succ col => exact ih col

lemma getElem?_bind_of_denotes {rows : List (List (List Char))} {grid : List (List UInt8)}
    (h : List.Forall₂ (List.Forall₂ Denotes) rows grid) (col row : Nat) :
    grid[row]?.bind (·[col]?) = (rows[row]?.bind (·[col]?)).bind readTile? := by
  induction h generalizing row with
  | nil => rfl
  | cons hids _ ih =>
    cases row with
    | zero => exact getElem?_of_denotes hids col
    | succ row => exact ih row

lemma length_of_denotes {rows : List (List (List Char))} {grid : List (List UInt8)} {columns : Nat}
    (h : List.Forall₂ (List.Forall₂ Denotes) rows grid)
    (hlength : ∀ tokens ∈ rows, tokens.length = columns) : ∀ ids ∈ grid, ids.length = columns := by
  induction h with
  | nil => simp
  | cons hids _ ih =>
    obtain ⟨htokens, hrows⟩ := List.forall_mem_cons.1 hlength
    exact List.forall_mem_cons.2 ⟨hids.length_eq.symm.trans htokens, ih hrows⟩

lemma shows_ofRows {rows : List (List (List Char))} {grid : List (List UInt8)} {columns : Nat}
    (tileSize : UInt32) (hne : rows ≠ []) (hwords : ∀ tokens ∈ rows, tokens ≠ [])
    (h : List.Forall₂ (List.Forall₂ Denotes) rows grid)
    (hlength : ∀ tokens ∈ rows, tokens.length = columns) :
    (ofRows columns tileSize grid).Shows rows := by
  have hgrid := length_of_denotes h hlength
  obtain ⟨first, hfirst⟩ := List.exists_mem_of_ne_nil rows hne
  have hfilled : (ofRows columns tileSize grid).Filled := filled_ofRows hgrid
  refine ⟨⟨?_, hlength⟩, ⟨?_, h.length_eq.symm⟩, hfilled, fun col row id => ?_,
    hfilled.isSome_tile?⟩
  · show 1 ≤ columns
    rw [← hlength first hfirst]
    exact List.length_pos_of_ne_nil (hwords first hfirst)
  · show 1 ≤ grid.length
    rw [← h.length_eq]
    exact List.length_pos_of_ne_nil hne
  · simp only [tile?_ofRows hgrid, getElem?_bind_of_denotes h, Option.bind_eq_some_iff,
      readTile?_eq_some_iff]

lemma parse_of_grid {text : List Char} (tileSize : UInt32) (hne : wordRows text ≠ [])
    (hids : ∀ tokens ∈ wordRows text, ∀ token ∈ tokens, IsId token) {columns : Nat}
    (hlength : ∀ tokens ∈ wordRows text, tokens.length = columns) :
    ∃ m, parse text tileSize = .ok m ∧ m.Shows (wordRows text) := by
  obtain ⟨grid, hgrid⟩ := exists_forall₂ fun tokens htokens => exists_ids (hids tokens htokens)
  exact ⟨_, parse_of_denotes tileSize hne hgrid hlength,
    shows_ofRows tileSize hne (fun _ => ne_nil_of_mem_wordRows) hgrid hlength⟩

/-- A text is a grid of ids and is read, or it has a first fault and that is reported. -/
lemma parse_cases (text : List Char) (tileSize : UInt32) :
    (∃ m, parse text tileSize = .ok m ∧ m.Shows (wordRows text) ∧
        ∀ tokens ∈ wordRows text, ∀ token ∈ tokens, IsId token) ∨
      ∃ e, parse text tileSize = .error e ∧ FirstFault (wordRows text) e := by
  rcases grid_or_fault (wordRows text) with ⟨hne, hsound⟩ | ⟨e, he⟩
  · have hids := fun tokens htokens => (hsound tokens htokens).ids
    obtain ⟨m, hm, hshows⟩ :=
      parse_of_grid tileSize hne hids fun tokens htokens => (hsound tokens htokens).length
    exact .inl ⟨m, hm, hshows, hids⟩
  · exact .inr ⟨e, parse_of_firstFault tileSize he, he⟩

lemma shows_of_parse {text : List Char} {tileSize : UInt32} {m : TileMap}
    (h : parse text tileSize = .ok m) : m.Shows (wordRows text) := by
  rcases parse_cases text tileSize with ⟨m', hm', hshows, -⟩ | ⟨e, he, -⟩
  · obtain rfl : m' = m := Except.ok.inj (hm'.symm.trans h)
    exact hshows
  · rw [he] at h
    cases h

/-- What is read from rows of ids, however they are spaced. -/
lemma parse_fileText {ls : List TileLine} (tileSize : UInt32) {columns : Nat}
    (hne : TileLine.grid ls ≠ []) (hlength : ∀ ids ∈ TileLine.grid ls, ids.length = columns) :
    parse (TileLine.fileText ls) tileSize = .ok (ofRows columns tileSize (TileLine.grid ls)) := by
  have hrows := TileLine.wordRows_fileText ls
  refine parse_of_denotes tileSize ?_ (TileLine.denotes_grid ls) ?_
  · simpa [hrows] using hne
  · simpa [hrows] using hlength

/-- **Reading a map**: a text is read exactly if some of its lines are not blank, all their words are
ids and there are as many in each; the map then has these lines for its rows, and the words for its
tiles. Otherwise the first fault is reported: that there is no such line, or for the first faulty one
its first word that is no id, and only if it has none the number of its words. So a grid of ids reads
back, with any blanks between them and any blank lines. -/
theorem parse_reads_grid (text : List Char) (tileSize : UInt32) :
    ((∃ m, parse text tileSize = .ok m) ↔
        wordRows text ≠ [] ∧ (∀ tokens ∈ wordRows text, ∀ token ∈ tokens, IsId token) ∧
          ∀ tokens ∈ wordRows text, ∀ others ∈ wordRows text, tokens.length = others.length) ∧
      (∀ m, parse text tileSize = .ok m → m.Shows (wordRows text)) ∧
      (∀ e, parse text tileSize = .error e ↔ FirstFault (wordRows text) e) ∧
      ∀ (ls : List TileLine) (columns : Nat), TileLine.grid ls ≠ [] →
        (∀ ids ∈ TileLine.grid ls, ids.length = columns) →
          ∃ m, parse (TileLine.fileText ls) tileSize = .ok m ∧ m.columns = columns ∧
            m.rows = (TileLine.grid ls).length ∧
              ∀ col row, m.tile? col row = (TileLine.grid ls)[row]?.bind (·[col]?) := by
  refine ⟨⟨?_, ?_⟩, fun m => shows_of_parse, fun e => ⟨fun he => ?_, parse_of_firstFault tileSize⟩,
    fun ls columns hne hlength => ?_⟩
  · rintro ⟨m, hm⟩
    rcases parse_cases text tileSize with ⟨m, -, hshows, hids⟩ | ⟨e, he, -⟩
    · have hwidth := hshows.columns.2
      exact ⟨List.ne_nil_of_length_pos (hshows.rows.2 ▸ hshows.rows.1), hids,
        fun tokens htokens others hothers => (hwidth tokens htokens).trans (hwidth others hothers).symm⟩
    · rw [he] at hm
      cases hm
  · rintro ⟨hne, hids, hlength⟩
    obtain ⟨first, hfirst⟩ := List.exists_mem_of_ne_nil _ hne
    obtain ⟨m, hm, -⟩ :=
      parse_of_grid tileSize hne hids fun tokens htokens => hlength tokens htokens first hfirst
    exact ⟨m, hm⟩
  · rcases parse_cases text tileSize with ⟨m, hm, -, -⟩ | ⟨e', he', hfault⟩
    · rw [hm] at he
      cases he
    · obtain rfl : e' = e := Except.error.inj (he'.symm.trans he)
      exact hfault
  · exact ⟨_, parse_fileText tileSize hne hlength, rfl, rfl, tile?_ofRows hlength⟩

/-- Two rows between blank lines, with several kinds of blanks behind their ids. -/
def pondLines : List TileLine :=
  [⟨['\u00A0'], [], by simp [IsGap, Text.isBlank], by simp, by simp⟩,
    ⟨['\t'], [(0, [' ', '\t']), (3, ['\r'])], by simp [IsGap, Text.isBlank],
      by simp [IsGap, Text.isBlank], by simp⟩,
    ⟨[], [], by simp, by simp, by simp⟩,
    ⟨[], [(255, ['\u2028']), (17, [])], by simp, by simp [IsGap, Text.isBlank], by simp⟩]

/-- The spaced rows read back; and a number beyond 8 bits is a fault before its row is too long. -/
theorem parse_reads_grid_pond :
    TileLine.grid pondLines = [[0, 3], [255, 17]] ∧
      (∃ m, parse (TileLine.fileText pondLines) 16 = .ok m ∧ m.columns = 2 ∧ m.rows = 2 ∧
        m.tile? 0 1 = some 255 ∧ m.tile? 2 0 = none) ∧
      FirstFault (wordRows "\n+0 00\n\n0 256 x".toList) (.invalidTile 1 1 "256") := by
  have hgrid : TileLine.grid pondLines = [[0, 3], [255, 17]] := by decide
  refine ⟨hgrid, ?_, ?_⟩
  · obtain ⟨-, -, -, hreads⟩ := parse_reads_grid [] 16
    obtain ⟨m, hm, hcolumns, hrows, htile⟩ :=
      hreads pondLines 2 (by rw [hgrid]; decide) (by rw [hgrid]; decide)
    rw [hgrid] at hrows htile
    exact ⟨m, hm, hcolumns, hrows, htile 0 1, htile 2 0⟩
  · obtain ⟨-, -, hfault, -⟩ := parse_reads_grid "\n+0 00\n\n0 256 x".toList 16
    exact (hfault _).1 rfl

end GridScript.TileMap
