import DocTemplate.Declaration
import DocTemplate.Settings.Basic
import DocTemplate.Snippet
import DocTemplate.Text.Blank

/-!
# Documentation comments

The comment for a declaration is a snippet that leaves its types and descriptions to tab stops:

    /**
     * ${1:[foo description]}
     *
     * @param   {${2:[type]}}  bar  ${3:[bar description]}
     *
     * @return  {${4:[type]}}       ${5:[return description]}
     */

In the aligned layout a tag row is a list of cells.  Every cell but the last is padded to the width
of its column, so that all rows have the same columns.  In the indented layout there are no columns,
and each description stands on a line of its own.

Tab stops are made while the rows and lines are, from the top on, and get their numbers then.
-/

namespace DocTemplate.DocBlock

open Snippet (Piece Numbering makeStop)

/-- A line of the body.  A blank line has no pieces. -/
abbrev Line := List Piece

/-- The type offered at a tab stop. -/
def typeText (type : Option String) : String :=
  match type with
  | none => "[type]"
  | some t => if t = "" then "[type]" else t

def description (name : String) : String := "[" ++ name ++ " description]"

def returnDescription : String := "[return description]"

def showsReturn (s : Settings) (d : Declaration) : Bool :=
  d.returns.present && s.returnTag && d.kind ≠ some .var

/-- The tag of a variable, if the declaration is one and its language has such a tag. -/
def variableTag? (tag : Option String) (d : Declaration) : Option String :=
  if d.kind = some .var then tag.filter (· ≠ "") else none

/-! ## The aligned layout -/

/-- A cell of a tag row and the width it has once its tab stops are filled in. -/
structure Cell where
  pieces : List Piece
  width : Nat
  deriving DecidableEq, Repr

namespace Cell

def empty : Cell := ⟨[], 0⟩

def plain (text : String) : Cell := ⟨[.plain text], text.length⟩

/-- A tab stop in braces.  Its width is that of the text that it offers. -/
def braced (stop : Piece) (text : String) : Cell :=
  ⟨[.raw "\x7b", stop, .raw "\x7d"], text.length + 2⟩

/-- A tab stop at the end of a row, which counts for nothing in the width of its column. -/
def last (stop : Piece) : Cell := ⟨[stop], 0⟩

end Cell

abbrev Row := List Cell

def parameterRow (p : Parameter) : Numbering Row := do
  let type ← makeStop (typeText p.type)
  let about ← makeStop (description p.name)
  return [.plain "@param", .braced type (typeText p.type), .plain p.name, .last about]

/-- The row of the return tag.  Beside parameters it has an empty cell in the column of names. -/
def returnRow (d : Declaration) : Numbering Row := do
  let type ← makeStop (typeText d.returns.type)
  let about ← makeStop returnDescription
  return [.plain "@return", .braced type (typeText d.returns.type)] ++
    (if d.parameters.isEmpty then [] else [.empty]) ++ [.last about]

def variableRow (tag : String) (d : Declaration) : Numbering Row := do
  let type ← makeStop (typeText d.returns.type)
  return [.plain tag, .braced type (typeText d.returns.type)]

/-! The sections of tag rows, each of which a blank line comes before. -/

def parameterSection (d : Declaration) : Numbering (List (List Row)) :=
  if d.kind = some .function ∧ d.hasParameter then return [← d.parameters.mapM parameterRow]
  else return []

def returnSection (s : Settings) (d : Declaration) : Numbering (List (List Row)) :=
  if showsReturn s d then return [[← returnRow d]] else return []

def variableSection (tag : Option String) (d : Declaration) : Numbering (List (List Row)) :=
  match variableTag? tag d with
  | none => return []
  | some tag => return [[← variableRow tag d]]

def sections (s : Settings) (tag : Option String) (d : Declaration) :
    Numbering (List (List Row)) :=
  return (← parameterSection d) ++ (← returnSection s d) ++ (← variableSection tag d)

/-- The greater of two widths in each column. -/
def maxWidths : List Nat → List Nat → List Nat
  | [], ws => ws
  | vs, [] => vs
  | v :: vs, w :: ws => max v w :: maxWidths vs ws

/-- The width of each column: that of its widest cell. -/
def columnWidths (rows : List Row) : List Nat :=
  rows.foldl (fun ws row => maxWidths ws (row.map Cell.width)) []

def spaces (n : Nat) : String := String.ofList (List.replicate n ' ')

/-- The line of a row.  Cells but the last are padded to their columns. -/
def joinRow (spacing : Nat) : List Nat → Row → Line
  | _, [] => []
  | _, [c] => c.pieces
  | [], c :: cs => c.pieces ++ .raw (spaces spacing) :: joinRow spacing [] cs
  | w :: ws, c :: cs =>
    c.pieces ++ .raw (spaces (w - c.width + spacing)) :: joinRow spacing ws cs

def alignedTags (s : Settings) (tag : Option String) (d : Declaration) :
    Numbering (List Line) := do
  let parts ← sections s tag d
  let widths := columnWidths parts.flatten
  return parts.flatMap fun rows => [] :: rows.map (joinRow s.columnSpacing widths)

/-! ## The indented layout -/

def parameterLines (p : Parameter) : Numbering (List Line) := do
  let type ← makeStop (typeText p.type)
  let about ← makeStop (description p.name)
  return [[.raw "@param ", type, .raw " ", .plain p.name], [.raw "  ", about]]

def parameterTags (d : Declaration) : Numbering (List Line) :=
  if d.kind = some .function ∧ d.hasParameter then
    return [] :: (← d.parameters.mapM parameterLines).flatten
  else return []

def returnTag (s : Settings) (d : Declaration) : Numbering (List Line) :=
  if showsReturn s d then do
    let type ← makeStop (typeText d.returns.type)
    let about ← makeStop returnDescription
    return [[], [.raw "@return ", type], [.raw "  ", about]]
  else return []

def variableTag (tag : Option String) (d : Declaration) : Numbering (List Line) :=
  match variableTag? tag d with
  | none => return []
  | some tag => do
    let type ← makeStop (typeText d.returns.type)
    return [[], [.raw (tag ++ " "), type]]

def indentedTags (s : Settings) (tag : Option String) (d : Declaration) :
    Numbering (List Line) :=
  return (← parameterTags d) ++ (← returnTag s d) ++ (← variableTag tag d)

/-! ## The comment -/

/-- The lines of the body. -/
def body (s : Settings) (tag : Option String) (d : Declaration) : Numbering (List Line) := do
  let about ← makeStop (description d.name)
  let tags ← match s.layout with
    | .aligned => alignedTags s tag d
    | .indented => indentedTags s tag d
  return [about] :: tags

/-- The pieces of a line after its margin, whose blanks at the end a blank line drops. -/
def withMargin (style : Comment.Style) (line : Line) : Line :=
  if line.isEmpty then [.raw (Text.trimEnd style.margin)] else .raw style.margin :: line

/-- The pieces of a comment with the lines of its body. -/
def pieces (style : Comment.Style) (lines : List Line) : List Piece :=
  .raw style.opening ::
    (lines.flatMap fun line => .raw style.lineEnd :: withMargin style line) ++
    [.raw style.lineEnd, .raw style.closing]

/-- The text of the comment for a declaration. -/
def render (s : Settings) (style : Comment.Style) (tag : Option String) (d : Declaration) :
    String :=
  Snippet.write (pieces style ((body s tag d).run 0).1)

end DocTemplate.DocBlock
