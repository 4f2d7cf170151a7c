import DocTemplate.Proofs.TabStops

/-!
# Columns of tags

Once its tab stops are filled in, each row of tags has its fields in the same columns as every
other row.  Column `i` starts where all columns before it end:

    start rows spacing i = Σ j < i, (columnWidth rows j + spacing)

Widths are those of the text that is seen, so neither escapes nor the marks of tab stops count.
The statement is about the fields as texts (`tagFields`), which are defined apart from cells.
-/

namespace DocTemplate.DocBlock

open Snippet

/-! ## Algorithm -/

/-- The fields of the tags, row by row. -/
def tagFields (returnTag : Bool) (tag : Option String) (d : Declaration) : List (List String) :=
  (if d.kind = some .function then
    d.parameters.map fun p =>
      ["@param", "\x7b" ++ knownType p.type ++ "\x7d", p.name, "[" ++ p.name ++ " description]"]
  else []) ++
  (if d.returns.present ∧ returnTag ∧ d.kind ≠ some .var then
    [["@return", "\x7b" ++ knownType d.returns.type ++ "\x7d"] ++
      (if d.parameters = [] then [] else [""]) ++ ["[return description]"]]
  else []) ++
  (if d.kind = some .var ∧ tag.getD "" ≠ "" then
    [[tag.getD "", "\x7b" ++ knownType d.returns.type ++ "\x7d"]]
  else [])

/-- The rows of tags after `n` tab stops, with their own tab stops filled in. -/
def tagTexts (n : Nat) (s : Settings) (tag : Option String) (d : Declaration) : List String :=
  (((alignedTags s tag d).run n).1.filter (· ≠ [])).map fun line => expand (write line)

/-- The width of the widest field of a column. -/
def columnWidth (rows : List (List String)) (j : Nat) : Nat :=
  (rows.map fun row => (row.getD j "").length).foldl max 0

/-- Where a column starts: behind all columns before it. -/
def start (rows : List (List String)) (spacing : Nat) : Nat → Nat
  | 0 => 0
  | i + 1 => start rows spacing i + (columnWidth rows i + spacing)

/-- Whether a field stands in a text at a column. -/
def Stands (text : String) (column : Nat) (field : String) : Prop :=
  ∃ before after, text = before ++ field ++ after ∧ before.length = column

/-- Rows of fields are laid out in columns. -/
structure InColumns (rows : List (List String)) (spacing : Nat) (texts : List String) : Prop where
  length : texts.length = rows.length
  field : ∀ (k i : Nat) (row : List String) (text field : String), rows[k]? = some row →
    texts[k]? = some text → row[i]? = some field → Stands text (start rows spacing i) field
  /-- Between two fields there are spaces only, and none to spare after a widest field. -/
  gap : ∀ (k i : Nat) (row : List String) (text field next : String), rows[k]? = some row →
    texts[k]? = some text → row[i]? = some field → row[i + 1]? = some next →
    ∃ gap, Stands text (start rows spacing i) (field ++ spaces gap ++ next) ∧ spacing ≤ gap ∧
      (gap = spacing ↔ field.length = columnWidth rows i)

/-! ## Lemmas -/

/-! ### Widths of columns -/

theorem getD_maxWidths (vs ws : List Nat) (j : Nat) :
    (maxWidths vs ws).getD j 0 = max (vs.getD j 0) (ws.getD j 0) := by
  fun_induction maxWidths vs ws generalizing j with
  | case1 => simp
  | case2 => simp
  | case3 v vs w ws ih =>
    cases j with
    | zero => rfl
    | succ j => simpa using ih j

theorem length_maxWidths (vs ws : List Nat) :
    (maxWidths vs ws).length = max vs.length ws.length := by
  fun_induction maxWidths vs ws with
  | case1 => simp
  | case2 => simp
  | case3 v vs w ws ih =>
    simp only [List.length_cons, ih]
    omega

/-- The width of a column is the greatest width in it. -/
theorem getD_columnWidths (rows : List Row) (j : Nat) :
    (columnWidths rows).getD j 0 =
      (rows.map fun row => (row.map Cell.width).getD j 0).foldl max 0 := by
  have hfoldl : ∀ ws : List Nat,
      (rows.foldl (fun ws row => maxWidths ws (row.map Cell.width)) ws).getD j 0 =
        (rows.map fun row => (row.map Cell.width).getD j 0).foldl max (ws.getD j 0) := by
    induction rows with
    | nil => exact fun _ => rfl
    | cons row rows ih =>
      intro ws
      rw [List.foldl_cons, ih, getD_maxWidths, List.map_cons, List.foldl_cons]
  exact hfoldl []

/-- Every cell of a row has a column. -/
theorem length_le_columnWidths {rows : List Row} {row : Row} (h : row ∈ rows) :
    row.length ≤ (columnWidths rows).length := by
  have hfoldl : ∀ ws : List Nat,
      ws.length ≤ (rows.foldl (fun ws row => maxWidths ws (row.map Cell.width)) ws).length ∧
        ∀ row ∈ rows, row.length ≤
          (rows.foldl (fun ws row => maxWidths ws (row.map Cell.width)) ws).length := by
    clear h
    induction rows with
    | nil => exact fun ws => ⟨Nat.le_refl _, fun _ h => absurd h List.not_mem_nil⟩
    | cons r rows ih =>
      intro ws
      obtain ⟨hle, hall⟩ := ih (maxWidths ws (r.map Cell.width))
      rw [length_maxWidths, List.length_map] at hle
      rw [List.foldl_cons]
      refine ⟨by omega, List.forall_mem_cons.2 ⟨by omega, hall⟩⟩
  exact (hfoldl []).2 row h

theorem le_foldl_max (ws : List Nat) (w : Nat) :
    w ≤ ws.foldl max w ∧ ∀ v ∈ ws, v ≤ ws.foldl max w := by
  induction ws generalizing w with
  | nil => exact ⟨Nat.le_refl _, fun _ h => absurd h List.not_mem_nil⟩
  | cons v ws ih =>
    obtain ⟨hle, hall⟩ := ih (max w v)
    rw [List.foldl_cons]
    exact ⟨by omega, List.forall_mem_cons.2 ⟨by omega, hall⟩⟩

theorem length_le_columnWidth {rows : List (List String)} {row : List String} (h : row ∈ rows)
    (j : Nat) : (row.getD j "").length ≤ columnWidth rows j :=
  (le_foldl_max _ 0).2 _ (List.mem_map_of_mem h)

/-! ### Fields -/

/-- The fields of a row of cells. -/
def Row.fields (row : Row) : List String := row.map fun c => visible c.pieces

theorem length_spaces (n : Nat) : (spaces n).length = n := by
  simp [spaces]

/-- Each cell of a row but the last has the width that is seen, and its column is as wide. -/
def Row.Fits (widths : List Nat) (row : Row) : Prop :=
  ∀ (i : Nat) (c : Cell), row[i]? = some c → i + 1 < row.length →
    c.width = (visible c.pieces).length ∧ ∃ w, widths[i]? = some w ∧ c.width ≤ w

/-- A cell is followed by the spaces up to the next column. -/
theorem visible_joinRow_cons (spacing w : Nat) (ws : List Nat) (c c' : Cell) (cs : Row) :
    visible (joinRow spacing (w :: ws) (c :: c' :: cs)) =
      visible c.pieces ++ spaces (w - c.width + spacing) ++
        visible (joinRow spacing ws (c' :: cs)) := by
  rw [joinRow, visible_append, visible_cons, String.append_assoc]
  · rfl
  · simp

/-- The length of the first columns with their spacing. -/
def offset (spacing : Nat) : List Nat → Nat → Nat
  | w :: ws, i + 1 => w + spacing + offset spacing ws i
  | _, _ => 0

theorem offset_succ (spacing : Nat) {widths : List Nat} {i w : Nat} (h : widths[i]? = some w) :
    offset spacing widths (i + 1) = offset spacing widths i + (w + spacing) := by
  induction i generalizing widths with
  | zero =>
    cases widths with
    | nil => cases h
    | cons v ws =>
      cases h
      simp [offset]
  | succ i ih =>
    cases widths with
    | nil => cases h
    | cons v ws =>
      rw [offset, ih h, offset]
      omega

/-- The part of a line before a cell ends where the columns of that part end. -/
theorem visible_joinRow_drop {widths : List Nat} {row : Row} (h : row.Fits widths) (spacing : Nat)
    {i : Nat} (hi : i < row.length) :
    ∃ before, visible (joinRow spacing widths row) =
        before ++ visible (joinRow spacing (widths.drop i) (row.drop i)) ∧
      before.length = offset spacing widths i := by
  induction i generalizing widths row with
  | zero => exact ⟨"", by simp, by simp [offset]⟩
  | succ i ih =>
    match row, hi with
    | c :: c' :: cs, hi =>
      obtain ⟨hwidth, w, hw, hle⟩ := h 0 c rfl (by simp)
      cases widths with
      | nil => cases hw
      | cons w' ws =>
        cases hw
        have htail : Row.Fits ws (c' :: cs) := by
          intro j c'' hj hlt
          exact h (j + 1) c'' hj (by simpa using hlt)
        obtain ⟨before, htext, hlength⟩ := ih htail (by simpa using hi)
        refine ⟨visible c.pieces ++ spaces (w - c.width + spacing) ++ before, ?_, ?_⟩
        · simp only [visible_joinRow_cons, htext, List.drop_succ_cons, String.append_assoc]
        · rw [offset, String.length_append, String.length_append, length_spaces, hlength]
          omega

theorem visible_joinRow_head (spacing : Nat) (widths : List Nat) (c : Cell) (cs : Row) :
    ∃ after, visible (joinRow spacing widths (c :: cs)) = visible c.pieces ++ after := by
  cases cs with
  | nil => exact ⟨"", by simp [joinRow]⟩
  | cons c' cs =>
    cases widths with
    | nil => exact ⟨_, by rw [joinRow, visible_append]; simp⟩
    | cons w ws => exact ⟨_, by rw [joinRow, visible_append]; simp⟩

/-! ### Tables -/

/-- Rows that can be laid out in columns: all have as many cells, and the cells but the last have
the width that is seen. -/
structure Table (rows : List Row) : Prop where
  length_eq : ∀ row ∈ rows, ∀ row' ∈ rows, row.length = row'.length
  width_eq : ∀ row ∈ rows, ∀ c ∈ row.dropLast, c.width = (visible c.pieces).length

namespace Table

variable {rows : List Row} {row : Row}

theorem width_getElem? (h : Table rows) (hrow : row ∈ rows) {i : Nat} {c : Cell}
    (hc : row[i]? = some c) (hi : i + 1 < row.length) : c.width = (visible c.pieces).length := by
  apply h.width_eq row hrow
  apply List.mem_of_getElem? (i := i)
  rw [List.getElem?_dropLast, if_pos (by omega), hc]

/-- The columns are as wide as what is seen in them. -/
theorem getElem?_columnWidths (h : Table rows) (hrow : row ∈ rows) {i : Nat}
    (hi : i + 1 < row.length) :
    (columnWidths rows)[i]? = some (columnWidth (rows.map Row.fields) i) := by
  have hlt : i < (columnWidths rows).length := by
    have := length_le_columnWidths hrow
    omega
  have hwidths : (rows.map fun row => (row.map Cell.width).getD i 0) =
      (rows.map Row.fields).map fun row => (row.getD i "").length := by
    rw [List.map_map]
    refine List.map_congr_left fun r hr => ?_
    have hlength := h.length_eq r hr row hrow
    have hget : r[i]? = some (r[i]) := List.getElem?_eq_getElem _
    have hwidth := h.width_getElem? hr hget (by omega)
    simp [Row.fields, List.getD_eq_getElem?_getD, hget, hwidth]
  have hget : (columnWidths rows)[i]? = some ((columnWidths rows).getD i 0) := by
    rw [List.getD_eq_getElem?_getD, List.getElem?_eq_getElem hlt]
    rfl
  rw [hget, getD_columnWidths, hwidths]
  rfl

/-- Every row of a table fits into its columns. -/
theorem fits (h : Table rows) (hrow : row ∈ rows) : row.Fits (columnWidths rows) := by
  intro i c hc hi
  have hwidth := h.width_getElem? hrow hc hi
  refine ⟨hwidth, _, h.getElem?_columnWidths hrow hi, ?_⟩
  have hle := length_le_columnWidth (List.mem_map_of_mem (f := Row.fields) hrow) i
  have hfield : (Row.fields row).getD i "" = visible c.pieces := by
    simp [Row.fields, List.getD_eq_getElem?_getD, hc]
  rw [hwidth, ← hfield]
  exact hle

theorem start_eq (h : Table rows) (hrow : row ∈ rows) (spacing : Nat) {i : Nat}
    (hi : i < row.length) :
    start (rows.map Row.fields) spacing i = offset spacing (columnWidths rows) i := by
  induction i with
  | zero => simp [start, offset]
  | succ i ih =>
    rw [start, ih (by omega), offset_succ spacing (h.getElem?_columnWidths hrow hi)]

/-- The part of a line from a cell on starts at its column. -/
theorem visible_joinRow (h : Table rows) (hrow : row ∈ rows) (spacing : Nat) {i : Nat}
    (hi : i < row.length) :
    ∃ before, visible (joinRow spacing (columnWidths rows) row) =
        before ++ visible (joinRow spacing ((columnWidths rows).drop i) (row.drop i)) ∧
      before.length = start (rows.map Row.fields) spacing i := by
  rw [h.start_eq hrow spacing hi]
  exact visible_joinRow_drop (h.fits hrow) spacing hi

/-- Each field starts at its column. -/
theorem stands_field (h : Table rows) (hrow : row ∈ rows) (spacing : Nat) {i : Nat} {c : Cell}
    (hc : row[i]? = some c) :
    Stands (visible (joinRow spacing (columnWidths rows) row))
      (start (rows.map Row.fields) spacing i) (visible c.pieces) := by
  obtain ⟨hi, hget⟩ := List.getElem?_eq_some_iff.1 hc
  obtain ⟨before, htext, hlength⟩ := h.visible_joinRow hrow spacing hi
  rw [List.drop_eq_getElem_cons hi, hget] at htext
  obtain ⟨after, hafter⟩ := visible_joinRow_head spacing ((columnWidths rows).drop i) c
    (row.drop (i + 1))
  refine ⟨before, after, ?_, hlength⟩
  rw [htext, hafter, String.append_assoc]

/-- Two fields have spaces between them, the spacing at least. -/
theorem stands_gap (h : Table rows) (hrow : row ∈ rows) (spacing : Nat) {i : Nat} {c c' : Cell}
    (hc : row[i]? = some c) (hc' : row[i + 1]? = some c') :
    ∃ gap, Stands (visible (joinRow spacing (columnWidths rows) row))
        (start (rows.map Row.fields) spacing i)
        (visible c.pieces ++ spaces gap ++ visible c'.pieces) ∧
      spacing ≤ gap ∧
      (gap = spacing ↔ (visible c.pieces).length = columnWidth (rows.map Row.fields) i) := by
  obtain ⟨hi, hget⟩ := List.getElem?_eq_some_iff.1 hc
  obtain ⟨hi', hget'⟩ := List.getElem?_eq_some_iff.1 hc'
  obtain ⟨hwidth, w, hw, hle⟩ := h.fits hrow i c hc hi'
  obtain ⟨hlt, hgetw⟩ := List.getElem?_eq_some_iff.1 hw
  have hcolumn : w = columnWidth (rows.map Row.fields) i := by
    rw [h.getElem?_columnWidths hrow hi'] at hw
    exact (Option.some.inj hw).symm
  obtain ⟨before, htext, hlength⟩ := h.visible_joinRow hrow spacing hi
  rw [List.drop_eq_getElem_cons hi, List.drop_eq_getElem_cons hi', List.drop_eq_getElem_cons hlt,
    hget, hget', hgetw, visible_joinRow_cons] at htext
  obtain ⟨after, hafter⟩ := visible_joinRow_head spacing ((columnWidths rows).drop (i + 1)) c'
    (row.drop (i + 1 + 1))
  refine ⟨w - c.width + spacing, ⟨before, after, ?_, hlength⟩, by omega, by omega⟩
  rw [htext, hafter]
  simp only [String.append_assoc]

/-- The rows of a table are laid out in columns. -/
theorem inColumns (h : Table rows) (spacing : Nat) :
    InColumns (rows.map Row.fields) spacing
      (rows.map fun row => visible (joinRow spacing (columnWidths rows) row)) where
  length := by simp
  field := by
    intro k i fields text field hfields htext hfield
    rw [List.getElem?_map, Option.map_eq_some_iff] at hfields htext
    obtain ⟨row, hrow, rfl⟩ := hfields
    obtain ⟨row', hrow', rfl⟩ := htext
    cases hrow.symm.trans hrow'
    rw [Row.fields, List.getElem?_map, Option.map_eq_some_iff] at hfield
    obtain ⟨c, hc, rfl⟩ := hfield
    exact h.stands_field (List.mem_of_getElem? hrow) spacing hc
  gap := by
    intro k i fields text field next hfields htext hfield hnext
    rw [List.getElem?_map, Option.map_eq_some_iff] at hfields htext
    obtain ⟨row, hrow, rfl⟩ := hfields
    obtain ⟨row', hrow', rfl⟩ := htext
    cases hrow.symm.trans hrow'
    rw [Row.fields, List.getElem?_map, Option.map_eq_some_iff] at hfield hnext
    obtain ⟨c, hc, rfl⟩ := hfield
    obtain ⟨c', hc', rfl⟩ := hnext
    exact h.stands_gap (List.mem_of_getElem? hrow) spacing hc hc'

end Table

/-! ### Tags -/

variable {n : Nat} {s : Settings} {tag : Option String} {d : Declaration} {row : Row}

/-- All rows of tags have as many cells: the return tag has an empty one beside parameters. -/
theorem length_row (h : row ∈ tagRows n s tag d) :
    row.length =
      if d.kind = some .var then 2 else if d.parameters.isEmpty then 3 else 4 := by
  rcases mem_tagRows h with ⟨hkind, p, hp, k, rfl⟩ | ⟨hreturn, k, rfl⟩ | ⟨x, hx, k, rfl⟩
  · have hne : d.parameters.isEmpty = false := by
      cases hps : d.parameters with
      | nil =>
        rw [hps] at hp
        exact absurd hp List.not_mem_nil
      | cons => rfl
    simp [hkind, hne, run_parameterRow]
  · rw [if_neg ((showsReturn_iff s d).1 hreturn).2.2]
    rw [run_returnRow]
    split <;> simp
  · rw [variableTag?_eq] at hx
    split at hx
    · rename_i hvar
      rw [if_pos hvar.1]
      rfl
    · cases hx

theorem visible_plain (text : String) : visible (Cell.plain text).pieces = text := by
  simp [visible, Cell.plain, Piece.text]

theorem visible_braced (k : Nat) (text : String) :
    visible (Cell.braced (.stop k text) text).pieces = "\x7b" ++ text ++ "\x7d" := by
  simp [visible, Cell.braced, Piece.text, String.append_assoc]

theorem visible_last (k : Nat) (text : String) :
    visible (Cell.last (.stop k text)).pieces = text := by
  simp [visible, Cell.last, Piece.text]

/-- The rows of tags are a table. -/
theorem table_tagRows (n : Nat) (s : Settings) (tag : Option String) (d : Declaration) :
    Table (tagRows n s tag d) where
  length_eq := by
    intro row hrow row' hrow'
    rw [length_row hrow, length_row hrow']
  width_eq := by
    have hplain : ∀ text, (Cell.plain text).width = (visible (Cell.plain text).pieces).length := by
      intro text
      rw [visible_plain]
      rfl
    have hbraced : ∀ k text, (Cell.braced (.stop k text) text).width =
        (visible (Cell.braced (.stop k text) text).pieces).length := by
      intro k text
      rw [visible_braced, String.length_append, String.length_append]
      show text.length + 2 = 1 + text.length + 1
      omega
    have hempty : Cell.empty.width = (visible Cell.empty.pieces).length := rfl
    intro row hrow
    rcases mem_tagRows hrow with ⟨-, p, -, k, rfl⟩ | ⟨-, k, rfl⟩ | ⟨x, -, k, rfl⟩
    · simp [run_parameterRow, hplain, hbraced]
    · rw [run_returnRow]
      split <;> simp [hplain, hbraced, hempty]
    · simp [run_variableRow, hplain]

/-! No field shows the number of its tab stop. -/

theorem fields_parameterRow (p : Parameter) (k : Nat) :
    Row.fields ((parameterRow p).run k).1 =
      ["@param", "\x7b" ++ knownType p.type ++ "\x7d", p.name,
        "[" ++ p.name ++ " description]"] := by
  simp [Row.fields, run_parameterRow, visible_plain, visible_braced, visible_last, knownType_eq,
    description]

theorem fields_returnRow (d : Declaration) (k : Nat) :
    Row.fields ((returnRow d).run k).1 =
      ["@return", "\x7b" ++ knownType d.returns.type ++ "\x7d"] ++
        (if d.parameters = [] then [] else [""]) ++ ["[return description]"] := by
  have hempty : visible Cell.empty.pieces = "" := rfl
  by_cases hps : d.parameters = [] <;>
    simp [Row.fields, run_returnRow, visible_plain, visible_braced, visible_last, knownType_eq,
      hempty, returnDescription, hps]

theorem fields_variableRow (tag : String) (d : Declaration) (k : Nat) :
    Row.fields ((variableRow tag d).run k).1 =
      [tag, "\x7b" ++ knownType d.returns.type ++ "\x7d"] := by
  simp [Row.fields, run_variableRow, visible_plain, visible_braced, knownType_eq]

theorem fields_parameterSection (d : Declaration) (n : Nat) :
    ((parameterSection d).run n).1.flatten.map Row.fields =
      if d.kind = some .function then
        d.parameters.map fun p =>
          ["@param", "\x7b" ++ knownType p.type ++ "\x7d", p.name,
            "[" ++ p.name ++ " description]"]
      else [] := by
  unfold parameterSection
  by_cases hkind : d.kind = some .function
  · rw [if_pos hkind]
    by_cases hps : d.parameters = []
    · rw [if_neg (by simp [hasParameter_iff, hps]), hps]
      rfl
    · rw [if_pos ⟨hkind, (hasParameter_iff d).2 hps⟩, ← map_mapM fields_parameterRow]
      exact congrArg (List.map Row.fields) (List.append_nil _)
  · rw [if_neg fun h => hkind h.1, if_neg hkind]
    rfl

/-- The rows of tags have the fields that `tagFields` says. -/
theorem fields_tagRows (n : Nat) (s : Settings) (tag : Option String) (d : Declaration) :
    (tagRows n s tag d).map Row.fields = tagFields s.returnTag tag d := by
  obtain ⟨i, j, hsections⟩ := run_sections s tag d n
  unfold tagRows tagFields
  rw [hsections, List.flatten_append, List.flatten_append, List.map_append, List.map_append,
    fields_parameterSection]
  congr 1
  · congr 1
    unfold returnSection
    simp only [showsReturn_iff]
    split
    · exact congrArg (fun fields => [fields]) (fields_returnRow d i)
    · rfl
  · unfold variableSection
    rw [variableTag?_eq]
    by_cases hvar : d.kind = some .var ∧ tag.getD "" ≠ ""
    · rw [if_pos hvar, if_pos hvar]
      exact congrArg (fun fields => [fields]) (fields_variableRow _ d j)
    · rw [if_neg hvar, if_neg hvar]
      rfl

theorem joinRow_ne_nil (h : row ∈ tagRows n s tag d) (spacing : Nat) (widths : List Nat) :
    joinRow spacing widths row ≠ [] := by
  have hplain : ∀ text c cs, joinRow spacing widths (.plain text :: c :: cs) ≠ [] := by
    intro text c cs
    cases widths with
    | nil => simp [joinRow]
    | cons w ws => simp [joinRow]
  rcases mem_tagRows h with ⟨-, p, -, k, rfl⟩ | ⟨-, k, rfl⟩ | ⟨x, -, k, rfl⟩
  · exact hplain _ _ _
  · exact hplain _ _ _
  · exact hplain _ _ _

/-- The lines that are not blank are the rows, joined. -/
theorem tagTexts_eq (n : Nat) (s : Settings) (tag : Option String) (d : Declaration) :
    tagTexts n s tag d = (tagRows n s tag d).map fun row =>
      visible (joinRow s.columnSpacing (columnWidths (tagRows n s tag d)) row) := by
  have hrun : ((alignedTags s tag d).run n).1 = ((sections s tag d).run n).1.flatMap fun rows =>
      [] :: rows.map (joinRow s.columnSpacing (columnWidths (tagRows n s tag d))) :=
    rfl
  have hlines : ((alignedTags s tag d).run n).1.filter (· ≠ []) = (tagRows n s tag d).map
      (joinRow s.columnSpacing (columnWidths (tagRows n s tag d))) := by
    rw [hrun, List.filter_flatMap, List.flatMap_def, tagRows, List.map_flatten]
    apply congrArg List.flatten
    apply List.map_congr_left
    intro rows hrows
    rw [List.filter_cons_of_neg (by simp), List.filter_eq_self]
    intro line hline
    obtain ⟨row, hrow, rfl⟩ := List.mem_map.1 hline
    simpa using joinRow_ne_nil (List.mem_flatten.2 ⟨rows, hrows, hrow⟩) _ _
  unfold tagTexts
  rw [hlines, List.map_map]
  apply List.map_congr_left
  intro row hrow
  exact expand_write (isLiteral_joinRow _ _ _ (isLiteral_cell hrow))

theorem tagFields_parameter (returnTag : Bool) (tag : Option String) {d : Declaration}
    (hkind : d.kind = some .function) {k : Nat} {p : Parameter} (hp : d.parameters[k]? = some p) :
    (tagFields returnTag tag d)[k]? = some
      ["@param", "\x7b" ++ knownType p.type ++ "\x7d", p.name,
        "[" ++ p.name ++ " description]"] := by
  have hk : k < d.parameters.length := (List.getElem?_eq_some_iff.1 hp).1
  unfold tagFields
  rw [if_pos hkind, List.append_assoc, List.getElem?_append_left (by simpa using hk),
    List.getElem?_map, hp]
  rfl

theorem tagFields_return {returnTag : Bool} (tag : Option String) {d : Declaration}
    (hkind : d.kind = some .function) (hps : d.parameters ≠ []) (hpresent : d.returns.present)
    (hreturn : returnTag) :
    (tagFields returnTag tag d)[d.parameters.length]? = some
      ["@return", "\x7b" ++ knownType d.returns.type ++ "\x7d", "", "[return description]"] := by
  have hvar : d.kind ≠ some .var := by
    rw [hkind]
    decide
  unfold tagFields
  rw [if_pos hkind, if_pos ⟨hpresent, hreturn, hvar⟩, if_neg hps, List.append_assoc,
    List.getElem?_append_right (by simp), List.length_map, Nat.sub_self]
  rfl

/-! ## Columns -/

/-- The tags of a comment are laid out in columns once their tab stops are filled in.  Every cell
but the last of its row has a column that is at least as wide, so no gap is less than the spacing.
The description of the return is in the same column as those of the parameters. -/
theorem alignedTags_inColumns (n : Nat) (s : Settings) (tag : Option String) (d : Declaration) :
    let rows := tagFields s.returnTag tag d
    InColumns rows s.columnSpacing (tagTexts n s tag d) ∧
      (∀ row ∈ tagRows n s tag d, ∀ (i : Nat) (c : Cell), row[i]? = some c →
        i + 1 < row.length →
        ∃ w, (columnWidths (tagRows n s tag d))[i]? = some w ∧ c.width ≤ w) ∧
      (d.kind = some .function → ∀ (k : Nat) (p : Parameter), d.parameters[k]? = some p →
        ∃ text, (tagTexts n s tag d)[k]? = some text ∧
          Stands text (start rows s.columnSpacing 3) ("[" ++ p.name ++ " description]")) ∧
      (d.kind = some .function → d.parameters ≠ [] → d.returns.present → s.returnTag →
        ∃ text, (tagTexts n s tag d)[d.parameters.length]? = some text ∧
          Stands text (start rows s.columnSpacing 3) "[return description]") := by
  have hcolumns : InColumns (tagFields s.returnTag tag d) s.columnSpacing (tagTexts n s tag d) := by
    rw [← fields_tagRows n, tagTexts_eq]
    exact (table_tagRows n s tag d).inColumns s.columnSpacing
  have htext : ∀ (k : Nat) (row : List String) (field : String),
      (tagFields s.returnTag tag d)[k]? = some row → row[3]? = some field →
      ∃ text, (tagTexts n s tag d)[k]? = some text ∧
        Stands text (start (tagFields s.returnTag tag d) s.columnSpacing 3) field := by
    intro k row field hrow hfield
    obtain ⟨hk, -⟩ := List.getElem?_eq_some_iff.1 hrow
    rw [← hcolumns.length] at hk
    have hget := List.getElem?_eq_getElem hk
    exact ⟨_, hget, hcolumns.field k 3 row _ field hrow hget hfield⟩
  refine ⟨hcolumns, ?_, ?_, ?_⟩
  · intro row hrow i c hc hi
    exact ((table_tagRows n s tag d).fits hrow i c hc hi).2
  · intro hkind k p hp
    exact htext k _ _ (tagFields_parameter s.returnTag tag hkind hp) rfl
  · intro hkind hps hpresent hreturn
    exact htext _ _ _ (tagFields_return tag hkind hps hpresent hreturn) rfl

end DocTemplate.DocBlock
