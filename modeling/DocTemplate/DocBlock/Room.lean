import DocTemplate.DocBlock
import DocTemplate.Error

/-!
# Room for comments

The spaces between two columns are written out, so a comment needs room for its gaps.
`DocBlock.compose` is `DocBlock.render` where there is room, and an error where there is none.
-/

namespace DocTemplate.DocBlock

/-- The gaps after the cells of a row. -/
def rowGaps (spacing : Nat) : List Nat → Row → List Nat
  | _, [] => []
  | _, [_] => []
  | [], _ :: cs => spacing :: rowGaps spacing [] cs
  | w :: ws, c :: cs => (w - c.width + spacing) :: rowGaps spacing ws cs

/-- The gaps of a comment from the top on. -/
def gaps (s : Settings) (tag : Option String) (d : Declaration) : List Nat :=
  match s.layout with
  | .aligned =>
    let rows := ((sections s tag d).run 1).1.flatten
    rows.flatMap (rowGaps s.columnSpacing (columnWidths rows))
  | .indented => []

/-- The text of the comment for a declaration.  The first gap without room is an error. -/
def compose (limits : Limits) (s : Settings) (style : Comment.Style) (tag : Option String)
    (d : Declaration) : Except Error String :=
  match (gaps s tag d).find? (limits.keptGap < ·) with
  | none => .ok (render s style tag d)
  | some gap =>
    .error (.beyondLimit (if limits.countedGap < gap then .uncountable else .outOfMemory))

/-! ## Lemmas -/

theorem compose_of_room {limits : Limits} {s : Settings} {style : Comment.Style}
    {tag : Option String} {d : Declaration} (h : ∀ gap ∈ gaps s tag d, gap ≤ limits.keptGap) :
    compose limits s style tag d = .ok (render s style tag d) := by
  have hnone : (gaps s tag d).find? (limits.keptGap < ·) = none := by
    rw [List.find?_eq_none]
    intro gap hgap
    simpa using h gap hgap
  rw [compose, hnone]

end DocTemplate.DocBlock
