import DocTemplate.DocBlock.Room
import DocTemplate.Proofs.Snippet

/-!
# Tab stops of comments

An editor that reads the comment of a declaration finds the tab stops 1, 2, … in this order:

* the description of the declaration;
* for a function, the type and the description of each parameter;
* the return type and its description, if a return tag is written;
* the type of a variable, if its language has a tag for it.

Tab stops get their numbers from a counter when they are made, and rows, lines and sections are made
in the order in which they stand (`numbers_body`).  Names and types may hold any characters, since
those that mean something in a snippet are escaped.  Both layouts have the same tab stops
(`stops_render`).
-/

namespace DocTemplate

namespace Snippet

/-- Whether no character of a text means something in a snippet. -/
def isInnocent (s : String) : Bool := s.toList.all (!isSpecial ·)

end Snippet

/-- Whether the delimiters of a style hold nothing that means something in a snippet. -/
def Comment.Style.isInnocent (s : Comment.Style) : Bool :=
  [s.opening, s.margin, s.closing, s.lineEnd].all Snippet.isInnocent

namespace DocBlock

open Snippet

/-- A type, or what stands for one that is not known. -/
def knownType (type : Option String) : String := (type.filter (· ≠ "")).getD "[type]"

/-- The texts that a comment offers, from the top on. -/
def offered (returnTag : Bool) (tag : Option String) (d : Declaration) : List String :=
  ["[" ++ d.name ++ " description]"] ++
    (if d.kind = some .function then
      d.parameters.flatMap fun p => [knownType p.type, "[" ++ p.name ++ " description]"]
    else []) ++
    (if d.returns.present ∧ returnTag ∧ d.kind ≠ some .var then
      [knownType d.returns.type, "[return description]"]
    else []) ++
    (if d.kind = some .var ∧ tag.getD "" ≠ "" then [knownType d.returns.type] else [])

/-! ## Lemmas -/

theorem knownType_eq (type : Option String) : knownType type = typeText type := by
  cases type with
  | none => rfl
  | some x =>
    by_cases hx : x = "" <;> simp [knownType, typeText, Option.filter, hx]

theorem showsReturn_iff (s : Settings) (d : Declaration) :
    showsReturn s d = true ↔ d.returns.present ∧ s.returnTag ∧ d.kind ≠ some .var := by
  simp [showsReturn, and_assoc]

theorem variableTag?_eq (tag : Option String) (d : Declaration) :
    variableTag? tag d =
      if d.kind = some .var ∧ tag.getD "" ≠ "" then some (tag.getD "") else none := by
  unfold variableTag?
  by_cases hkind : d.kind = some .var
  · cases tag with
    | none => simp
    | some x => by_cases hx : x = "" <;> simp [hkind, hx, Option.filter]
  · simp [hkind]

theorem hasParameter_iff (d : Declaration) : d.hasParameter = true ↔ d.parameters ≠ [] := by
  simp [Declaration.hasParameter]

/-! ### What the tags offer -/

/-- The tab stops of a row. -/
def Row.stops (row : Row) : List (String × Nat) := row.flatMap fun c => stopsOf c.pieces

def sectionStops (parts : List (List Row)) : List (String × Nat) :=
  parts.flatten.flatMap Row.stops

/-- The tab stops of lines, from the top on. -/
def lineStops (lines : List Line) : List (String × Nat) := lines.flatMap stopsOf

/-- The types and descriptions of parameters. -/
def parameterOffers (d : Declaration) : List String :=
  if d.kind = some .function ∧ d.hasParameter then
    d.parameters.flatMap fun p => [typeText p.type, description p.name]
  else []

def returnOffers (s : Settings) (d : Declaration) : List String :=
  if showsReturn s d then [typeText d.returns.type, returnDescription] else []

def variableOffers (tag : Option String) (d : Declaration) : List String :=
  ((variableTag? tag d).map fun _ => typeText d.returns.type).toList

/-- What the tags offer, in both layouts. -/
def tagOffers (s : Settings) (tag : Option String) (d : Declaration) : List String :=
  parameterOffers d ++ (returnOffers s d ++ variableOffers tag d)

/-! In the aligned layout the cells of a row are made in the order in which they stand in it. -/

theorem numbers_parameterRow (p : Parameter) :
    Numbers Row.stops [] (parameterRow p) [typeText p.type, description p.name] :=
  .makeStop fun _ => .makeStop fun _ => .pure rfl

theorem numbers_returnRow (d : Declaration) :
    Numbers Row.stops [] (returnRow d) [typeText d.returns.type, returnDescription] := by
  refine .makeStop fun _ => .makeStop fun _ => .pure ?_
  split <;> rfl

theorem numbers_variableRow (tag : String) (d : Declaration) :
    Numbers Row.stops [] (variableRow tag d) [typeText d.returns.type] :=
  .makeStop fun _ => .pure rfl

theorem numbers_parameterSection (d : Declaration) :
    Numbers sectionStops [] (parameterSection d) (parameterOffers d) := by
  unfold parameterSection parameterOffers
  split
  · exact (Numbers.mapM numbers_parameterRow d.parameters).map fun rows => by simp [sectionStops]
  · exact .pure rfl

theorem numbers_returnSection (s : Settings) (d : Declaration) :
    Numbers sectionStops [] (returnSection s d) (returnOffers s d) := by
  unfold returnSection returnOffers
  split
  · exact (numbers_returnRow d).map fun row => by simp [sectionStops]
  · exact .pure rfl

theorem numbers_variableSection (tag : Option String) (d : Declaration) :
    Numbers sectionStops [] (variableSection tag d) (variableOffers tag d) := by
  unfold variableSection variableOffers
  cases variableTag? tag d with
  | none => exact .pure rfl
  | some x => exact (numbers_variableRow x d).map fun row => by simp [sectionStops]

theorem sectionStops_append (parts parts' : List (List Row)) :
    sectionStops (parts ++ parts') = sectionStops parts ++ sectionStops parts' := by
  simp [sectionStops]

/-- The rows of all sections are numbered on from one section to the next. -/
theorem numbers_sections (s : Settings) (tag : Option String) (d : Declaration) :
    Numbers sectionStops [] (sections s tag d) (tagOffers s tag d) :=
  .bind (numbers_parameterSection d) fun _ => .bind (numbers_returnSection s d) fun _ =>
    (numbers_variableSection tag d).map fun _ => by simp only [sectionStops_append, List.nil_append]

theorem stopsOf_append (ps qs : List Piece) : stopsOf (ps ++ qs) = stopsOf ps ++ stopsOf qs :=
  List.filterMap_append

/-- The spaces between cells offer nothing. -/
theorem stopsOf_joinRow (spacing : Nat) (widths : List Nat) (row : Row) :
    stopsOf (joinRow spacing widths row) = row.stops := by
  unfold Row.stops
  fun_induction joinRow spacing widths row with
  | case1 => rfl
  | case2 => simp
  | case3 c cs hne ih =>
    rw [stopsOf_append, List.flatMap_cons, ← ih]
    rfl
  | case4 w ws c cs hne ih =>
    rw [stopsOf_append, List.flatMap_cons, ← ih]
    rfl

/-- The lines of the aligned layout offer what its rows do. -/
theorem numbers_alignedTags (s : Settings) (tag : Option String) (d : Declaration) :
    Numbers lineStops [] (alignedTags s tag d) (tagOffers s tag d) := by
  refine (numbers_sections s tag d).map fun parts => ?_
  unfold lineStops sectionStops
  generalize columnWidths parts.flatten = widths
  induction parts with
  | nil => rfl
  | cons rows parts ih =>
    rw [List.flatMap_cons, List.flatMap_append, ih, List.flatten_cons, List.flatMap_append,
      List.flatMap_cons, List.flatMap_map]
    simp only [stopsOf_joinRow]
    rfl

/-! In the indented layout the lines come in the order of the rows. -/

theorem numbers_parameterLines (p : Parameter) :
    Numbers lineStops [] (parameterLines p) [typeText p.type, description p.name] :=
  .makeStop fun _ => .makeStop fun _ => .pure rfl

theorem numbers_parameterTags (d : Declaration) :
    Numbers lineStops [] (parameterTags d) (parameterOffers d) := by
  unfold parameterTags parameterOffers
  split
  · refine (Numbers.mapM numbers_parameterLines d.parameters).map fun lines => ?_
    rw [lineStops, List.flatMap_cons, List.flatMap_def, List.map_flatten, List.flatten_flatten,
      List.map_map, ← List.flatMap_def]
    rfl
  · exact .pure rfl

theorem numbers_returnTag (s : Settings) (d : Declaration) :
    Numbers lineStops [] (returnTag s d) (returnOffers s d) := by
  unfold returnTag returnOffers
  split
  · exact .makeStop fun _ => .makeStop fun _ => .pure rfl
  · exact .pure rfl

theorem numbers_variableTag (tag : Option String) (d : Declaration) :
    Numbers lineStops [] (variableTag tag d) (variableOffers tag d) := by
  unfold variableTag variableOffers
  cases variableTag? tag d with
  | none => exact .pure rfl
  | some x => exact .makeStop fun _ => .pure rfl

/-- The indented layout makes its tab stops in the order of the aligned one. -/
theorem numbers_indentedTags (s : Settings) (tag : Option String) (d : Declaration) :
    Numbers lineStops [] (indentedTags s tag d) (tagOffers s tag d) :=
  .bind (numbers_parameterTags d) fun _ => .bind (numbers_returnTag s d) fun _ =>
    (numbers_variableTag tag d).map fun _ => by simp [lineStops]

/-- The description of the declaration comes before all tags. -/
theorem numbers_body (s : Settings) (tag : Option String) (d : Declaration) :
    Numbers lineStops [] (body s tag d) (description d.name :: tagOffers s tag d) := by
  refine .makeStop fun n => ?_
  cases s.layout with
  | aligned => exact (numbers_alignedTags s tag d).map fun lines => rfl
  | indented => exact (numbers_indentedTags s tag d).map fun lines => rfl

/-- The margins, the delimiters and the line ends offer nothing. -/
theorem stopsOf_pieces (style : Comment.Style) (lines : List Line) :
    stopsOf (pieces style lines) = lineStops lines := by
  have hline : ∀ line : Line,
      stopsOf (.raw style.lineEnd :: withMargin style line) = stopsOf line := by
    intro line
    unfold withMargin
    cases line with
    | nil => rfl
    | cons p ps => rfl
  have hlines : stopsOf (lines.flatMap fun line => .raw style.lineEnd :: withMargin style line) =
      lineStops lines := by
    induction lines with
    | nil => rfl
    | cons line lines ih =>
      rw [List.flatMap_cons, stopsOf_append, hline, ih]
      rfl
  unfold pieces
  rw [List.cons_append, stopsOf, List.filterMap_cons_none rfl, ← stopsOf, stopsOf_append, hlines]
  exact List.append_nil _

/-- What is offered, in the words of `offered`. -/
theorem tagOffers_eq (s : Settings) (tag : Option String) (d : Declaration) :
    description d.name :: tagOffers s tag d = offered s.returnTag tag d := by
  have hparameters : parameterOffers d =
      if d.kind = some .function then
        d.parameters.flatMap fun p => [typeText p.type, description p.name]
      else [] := by
    unfold parameterOffers
    simp only [hasParameter_iff]
    by_cases hps : d.parameters = [] <;> simp [hps]
  have hvariable : variableOffers tag d =
      if d.kind = some .var ∧ tag.getD "" ≠ "" then [typeText d.returns.type] else [] := by
    rw [variableOffers, variableTag?_eq]
    split <;> rfl
  unfold tagOffers offered returnOffers
  rw [hparameters, hvariable, ← List.append_assoc]
  simp only [showsReturn_iff, knownType_eq, description, returnDescription]
  rfl

/-! ### What the lines write -/

/-- A text without characters that mean something may be written as it is. -/
theorem isLiteral_raw_of_isInnocent {text : String} (h : isInnocent text = true) :
    (Piece.raw text).isLiteral = true := by
  have hall : ∀ c ∈ text.toList, isSpecial c = false := by
    simpa [isInnocent] using h
  refine List.all_eq_true.2 fun c hc => ?_
  have hspecial := hall c hc
  simp only [isSpecial, Bool.or_eq_false_iff, decide_eq_false_iff_not] at hspecial
  simp [hspecial.1.1, hspecial.1.2]

theorem isInnocent_trimEnd {text : String} (h : isInnocent text = true) :
    isInnocent (Text.trimEnd text) = true := by
  have hall := List.all_eq_true.1 h
  refine List.all_eq_true.2 fun c hc => hall c ?_
  rw [Text.trimEnd, String.toList_ofList, Text.trimEndChars, List.mem_reverse] at hc
  exact List.mem_reverse.1 ((List.dropWhile_sublist _).mem hc)

theorem isInnocent_append {text rest : String} (h : isInnocent text = true)
    (hrest : isInnocent rest = true) : isInnocent (text ++ rest) = true := by
  unfold isInnocent at h hrest ⊢
  rw [String.toList_append, List.all_append, h, hrest]
  rfl

theorem isLiteral_spaces (n : Nat) : (Piece.raw (spaces n)).isLiteral = true := by
  refine List.all_eq_true.2 fun c hc => ?_
  rw [spaces, String.toList_ofList] at hc
  rw [List.eq_of_mem_replicate hc]
  decide

def Cell.isLiteral (c : Cell) : Bool := c.pieces.all Piece.isLiteral

/-- A row of literal cells is literal: only spaces are put between them. -/
theorem isLiteral_joinRow (spacing : Nat) (widths : List Nat) (row : Row)
    (h : ∀ c ∈ row, c.isLiteral = true) :
    ∀ p ∈ joinRow spacing widths row, p.isLiteral = true := by
  fun_induction joinRow spacing widths row with
  | case1 => exact fun p hp => absurd hp List.not_mem_nil
  | case2 widths c => exact List.all_eq_true.1 (h c List.mem_cons_self)
  | case3 c cs hne ih | case4 w ws c cs hne ih =>
    obtain ⟨hc, hcs⟩ := List.forall_mem_cons.1 h
    exact List.forall_mem_append.2 ⟨List.all_eq_true.1 hc, List.forall_mem_cons.2
      ⟨isLiteral_spaces _, ih hcs⟩⟩

/-- The rows of a comment when the first tab stop after `n` is the next one. -/
def tagRows (n : Nat) (s : Settings) (tag : Option String) (d : Declaration) : List Row :=
  ((sections s tag d).run n).1.flatten

theorem run_sections (s : Settings) (tag : Option String) (d : Declaration) (n : Nat) :
    ∃ i j, ((sections s tag d).run n).1 = ((parameterSection d).run n).1 ++
      ((returnSection s d).run i).1 ++ ((variableSection tag d).run j).1 :=
  ⟨_, _, rfl⟩

/-- What a row of tags is made from. -/
theorem mem_tagRows {n : Nat} {s : Settings} {tag : Option String} {d : Declaration} {row : Row}
    (h : row ∈ tagRows n s tag d) :
    (d.kind = some .function ∧ ∃ p ∈ d.parameters, ∃ k, row = ((parameterRow p).run k).1) ∨
      (showsReturn s d = true ∧ ∃ k, row = ((returnRow d).run k).1) ∨
      ∃ x, variableTag? tag d = some x ∧ ∃ k, row = ((variableRow x d).run k).1 := by
  obtain ⟨i, j, hsections⟩ := run_sections s tag d n
  rw [tagRows, hsections] at h
  obtain ⟨rows, hrows, hrow⟩ := List.mem_flatten.1 h
  rw [List.mem_append, List.mem_append] at hrows
  rcases hrows with (hrows | hrows) | hrows
  · unfold parameterSection at hrows
    split at hrows
    · rename_i hfunction
      rw [List.mem_singleton.1 hrows] at hrow
      exact .inl ⟨hfunction.1, mem_mapM hrow⟩
    · exact absurd hrows List.not_mem_nil
  · unfold returnSection at hrows
    split at hrows
    · rename_i hreturn
      rw [List.mem_singleton.1 hrows] at hrow
      exact .inr (.inl ⟨hreturn, _, List.mem_singleton.1 hrow⟩)
    · exact absurd hrows List.not_mem_nil
  · unfold variableSection at hrows
    split at hrows
    · exact absurd hrows List.not_mem_nil
    · rename_i x hx
      rw [List.mem_singleton.1 hrows] at hrow
      exact .inr (.inr ⟨x, hx, _, List.mem_singleton.1 hrow⟩)

/-! The rows with the tab stops that they are given. -/

theorem run_parameterRow (p : Parameter) (n : Nat) :
    ((parameterRow p).run n).1 =
      [.plain "@param", .braced (.stop (n + 1) (typeText p.type)) (typeText p.type),
        .plain p.name, .last (.stop (n + 2) (description p.name))] :=
  rfl

theorem run_returnRow (d : Declaration) (n : Nat) :
    ((returnRow d).run n).1 =
      [.plain "@return", .braced (.stop (n + 1) (typeText d.returns.type))
        (typeText d.returns.type)] ++ (if d.parameters.isEmpty then [] else [.empty]) ++
        [.last (.stop (n + 2) returnDescription)] :=
  rfl

theorem run_variableRow (tag : String) (d : Declaration) (n : Nat) :
    ((variableRow tag d).run n).1 =
      [.plain tag, .braced (.stop (n + 1) (typeText d.returns.type)) (typeText d.returns.type)] :=
  rfl

/-- Cells are literal whatever the names and types are. -/
theorem isLiteral_cell {n : Nat} {s : Settings} {tag : Option String} {d : Declaration} {row : Row}
    (hrow : row ∈ tagRows n s tag d) : ∀ c ∈ row, c.isLiteral = true := by
  have hplain : ∀ text, (Cell.plain text).isLiteral = true := fun _ => rfl
  have hbraced : ∀ k text, (Cell.braced (.stop k text) text).isLiteral = true := fun _ _ => rfl
  have hlast : ∀ k text, (Cell.last (.stop k text)).isLiteral = true := fun _ _ => rfl
  have hempty : Cell.empty.isLiteral = true := rfl
  rcases mem_tagRows hrow with ⟨-, p, -, k, rfl⟩ | ⟨-, k, rfl⟩ | ⟨x, -, k, rfl⟩
  · simp [run_parameterRow, hplain, hbraced, hlast]
  · rw [run_returnRow]
    split <;> simp [hplain, hbraced, hlast, hempty]
  · simp [run_variableRow, hplain, hbraced]

/-- Lines that show what is written in them. -/
def AllLiteral (lines : List Line) : Prop := ∀ line ∈ lines, ∀ p ∈ line, p.isLiteral = true

theorem allLiteral_nil : AllLiteral [] := fun _ h => absurd h List.not_mem_nil

theorem AllLiteral.cons {line : Line} {lines : List Line} (h : AllLiteral lines)
    (hline : ∀ p ∈ line, p.isLiteral = true) : AllLiteral (line :: lines) :=
  List.forall_mem_cons.2 ⟨hline, h⟩

theorem AllLiteral.append {lines lines' : List Line} (h : AllLiteral lines)
    (h' : AllLiteral lines') : AllLiteral (lines ++ lines') :=
  List.forall_mem_append.2 ⟨h, h'⟩

theorem AllLiteral.flatten {parts : List (List Line)} (h : ∀ lines ∈ parts, AllLiteral lines) :
    AllLiteral parts.flatten := by
  intro line hline
  obtain ⟨lines, hlines, hline⟩ := List.mem_flatten.1 hline
  exact h lines hlines line hline

theorem allLiteral_alignedTags (s : Settings) (tag : Option String) (d : Declaration) (n : Nat) :
    AllLiteral ((alignedTags s tag d).run n).1 := by
  intro line hline
  obtain ⟨rows, hrows, hmem⟩ := List.mem_flatMap.1 hline
  rcases List.mem_cons.1 hmem with rfl | hmem
  · exact fun p hp => absurd hp List.not_mem_nil
  · obtain ⟨row, hrow, rfl⟩ := List.mem_map.1 hmem
    exact isLiteral_joinRow _ _ row (isLiteral_cell (List.mem_flatten.2 ⟨rows, hrows, hrow⟩))

theorem isInnocent_variableTag? {tag : Option String} {d : Declaration} {x : String}
    (h : variableTag? tag d = some x) (htag : ∀ x ∈ tag, isInnocent x = true) :
    isInnocent x = true := by
  unfold variableTag? at h
  split at h
  · exact htag x (Option.filter_eq_some_iff.1 h).1
  · cases h

theorem isLiteral_stop (n : Nat) (text : String) : (Piece.stop n text).isLiteral = true := rfl

theorem allLiteral_parameterTags (d : Declaration) (n : Nat) :
    AllLiteral ((parameterTags d).run n).1 := by
  have hparam : (Piece.raw "@param ").isLiteral = true := rfl
  have hblank : (Piece.raw " ").isLiteral = true := rfl
  have hindent : (Piece.raw "  ").isLiteral = true := rfl
  have hplain : ∀ text, (Piece.plain text).isLiteral = true := fun _ => rfl
  unfold parameterTags
  split
  · refine AllLiteral.cons (.flatten fun lines hlines => ?_) (by simp)
    obtain ⟨p, -, k, rfl⟩ := mem_mapM hlines
    refine .cons (.cons allLiteral_nil ?_) ?_
    · simp [hindent, isLiteral_stop]
    · simp [hparam, hblank, hplain, isLiteral_stop]
  · exact allLiteral_nil

theorem allLiteral_returnTag (s : Settings) (d : Declaration) (n : Nat) :
    AllLiteral ((returnTag s d).run n).1 := by
  have hreturn : (Piece.raw "@return ").isLiteral = true := rfl
  have hindent : (Piece.raw "  ").isLiteral = true := rfl
  unfold returnTag
  split
  · refine .cons (.cons (.cons allLiteral_nil ?_) ?_) (by simp)
    · simp [hindent, isLiteral_stop]
    · simp [hreturn, isLiteral_stop]
  · exact allLiteral_nil

theorem allLiteral_variableTag {tag : Option String} (d : Declaration)
    (htag : ∀ x ∈ tag, isInnocent x = true) (n : Nat) :
    AllLiteral ((variableTag tag d).run n).1 := by
  unfold variableTag
  split
  · exact allLiteral_nil
  · rename_i x hx
    have hspace : isInnocent " " = true := rfl
    have hraw := isLiteral_raw_of_isInnocent
      (isInnocent_append (isInnocent_variableTag? hx htag) hspace)
    refine .cons (.cons allLiteral_nil ?_) (by simp)
    simp [hraw, isLiteral_stop]

theorem allLiteral_indentedTags (s : Settings) {tag : Option String} (d : Declaration)
    (htag : ∀ x ∈ tag, isInnocent x = true) (n : Nat) :
    AllLiteral ((indentedTags s tag d).run n).1 :=
  ((allLiteral_parameterTags d _).append (allLiteral_returnTag s d _)).append
    (allLiteral_variableTag d htag _)

/-- All lines of a comment are literal. -/
theorem allLiteral_body (s : Settings) {tag : Option String} (d : Declaration)
    (htag : ∀ x ∈ tag, isInnocent x = true) (n : Nat) : AllLiteral ((body s tag d).run n).1 := by
  have habout : ∀ p ∈ [Piece.stop (n + 1) (description d.name)], p.isLiteral = true := by
    simp [isLiteral_stop]
  unfold body
  cases s.layout with
  | aligned => exact (allLiteral_alignedTags s tag d _).cons habout
  | indented => exact (allLiteral_indentedTags s d htag _).cons habout

/-- A comment of literal lines is literal if its delimiters are innocent. -/
theorem isLiteral_pieces {style : Comment.Style} {lines : List Line}
    (hstyle : style.isInnocent = true) (h : AllLiteral lines) :
    ∀ p ∈ pieces style lines, p.isLiteral = true := by
  simp only [Comment.Style.isInnocent, List.all_cons, List.all_nil, Bool.and_true,
    Bool.and_eq_true] at hstyle
  obtain ⟨hopening, hmargin, hclosing, hlineEnd⟩ := hstyle
  have hwithMargin : ∀ line ∈ lines, ∀ p ∈ withMargin style line, p.isLiteral = true := by
    intro line hline
    unfold withMargin
    split
    · exact List.forall_mem_singleton.2
        (isLiteral_raw_of_isInnocent (isInnocent_trimEnd hmargin))
    · exact List.forall_mem_cons.2 ⟨isLiteral_raw_of_isInnocent hmargin, h line hline⟩
  unfold pieces
  refine List.forall_mem_append.2 ⟨List.forall_mem_cons.2
    ⟨isLiteral_raw_of_isInnocent hopening, ?_⟩, ?_⟩
  · intro p hp
    obtain ⟨line, hline, hp⟩ := List.mem_flatMap.1 hp
    rcases List.mem_cons.1 hp with rfl | hp
    · exact isLiteral_raw_of_isInnocent hlineEnd
    · exact hwithMargin line hline p hp
  · exact List.forall_mem_cons.2 ⟨isLiteral_raw_of_isInnocent hlineEnd,
      List.forall_mem_singleton.2 (isLiteral_raw_of_isInnocent hclosing)⟩

/-! ## Comments -/

/-- The tab stops of a comment are numbered from 1 on in the order in which they come, and offer
what `offered` says, in both layouts and whatever characters the names and types have.  A comment
is composed if there is room for its gaps. -/
theorem stops_render (limits : Limits) (s : Settings) (layout : Layout) (style : Comment.Style)
    (tag : Option String) (d : Declaration) (hstyle : style.isInnocent = true)
    (htag : ∀ x ∈ tag, isInnocent x = true) :
    stops (render { s with layout } style tag d) = (offered s.returnTag tag d).zipIdx 1 ∧
      ((∀ gap ∈ gaps { s with layout } tag d, gap ≤ limits.keptGap) →
        compose limits { s with layout } style tag d =
          .ok (render { s with layout } style tag d)) := by
  refine ⟨?_, compose_of_room⟩
  unfold render
  rw [stops_write (isLiteral_pieces hstyle (allLiteral_body _ d htag 0)), stopsOf_pieces,
    (numbers_body _ tag d 0).1, tagOffers_eq]
  rfl

/-- A function whose names and types are full of characters that mean something in a snippet. -/
def specialFunction : Declaration :=
  { name := "f\x7d"
    kind := some .function
    parameters := [{ name := "$x", type := some "A\\\x7b\x7d" }]
    returns := { present := true, type := some "" } }

theorem stops_render_specialFunction :
    Comment.Style.isInnocent {} = true ∧ (∀ x ∈ some "@var", isInnocent x = true) ∧
      stops (render { columnSpacing := 0 } {} (some "@var") specialFunction) =
        [("[f\x7d description]", 1), ("A\\\x7b\x7d", 2), ("[$x description]", 3), ("[type]", 4),
          ("[return description]", 5)] := by
  have hstyle : Comment.Style.isInnocent {} = true := by decide
  have htag : ∀ x ∈ some "@var", isInnocent x = true := by
    rintro x ⟨⟩
    decide
  refine ⟨hstyle, htag, ?_⟩
  have h := (stops_render .small { columnSpacing := 0 } .aligned {} (some "@var") specialFunction
    hstyle htag).1
  exact h.trans (by decide)

end DocBlock

end DocTemplate
