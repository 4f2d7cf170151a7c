import DocTemplate.Event
import DocTemplate.Settings.Basic

/-!
# Settings from a table

`Settings.ofTable` reads settings from the keys of a table.  Each key is checked by itself: a value
that is not valid is refused, and the default stands in for it.  Keys that mean nothing are ignored
at the top of the table and refused among the delimiters of a comment.
-/

namespace DocTemplate.Settings

/-! ## Single values -/

def Value.nat? : Value → Option Nat
  | .int n => if 0 ≤ n then some n.toNat else none
  | _ => none

def Value.bool? : Value → Option Bool
  | .bool b => some b
  | _ => none

def Value.text? : Value → Option String
  | .text s => some s
  | _ => none

def Value.layout? (v : Value) : Option Layout := v.text?.bind Layout.ofLabel?

/-- The value of a key, the default if the key is absent or its value is refused. -/
def field {α : Type} (t : Table) (key : String) (read : Value → Option α) (default : α) :
    α × List Event :=
  match t.lookup key with
  | none => (default, [])
  | some v =>
    match read v with
    | some a => (a, [])
    | none => (default, [.refused key v])

/-! ## Comment delimiters -/

/-- Sets the delimiter of a key; none if the key is that of no delimiter. -/
def setDelimiter? (o : Comment.Overrides) (key text : String) : Option Comment.Overrides :=
  if key = "open" then some { o with opening := some text }
  else if key = "separator" then some { o with margin := some text }
  else if key = "close" then some { o with closing := some text }
  else none

/-- The delimiters in the entry of a language, on top of `o`. -/
def delimiters (path : String) (o : Comment.Overrides) : Table → Comment.Overrides × List Event
  | [] => (o, [])
  | (key, v) :: rest =>
    match v.text?.bind (setDelimiter? o key) with
    | some o => delimiters path o rest
    | none =>
      let (o, events) := delimiters path o rest
      (o, .refused (path ++ "." ++ key) v :: events)

/-- The delimiters of all languages that set some. -/
def overrides : Table → List (String × Comment.Overrides) × List Event
  | [] => ([], [])
  | (language, .table entries) :: rest =>
    let (o, events) := delimiters ("comments." ++ language) {} entries
    let (others, later) := overrides rest
    (if o.isEmpty then others else (language, o) :: others, events ++ later)
  | (language, v) :: rest =>
    let (others, later) := overrides rest
    (others, .refused ("comments." ++ language) v :: later)

def overridesField (t : Table) : List (String × Comment.Overrides) × List Event :=
  match t.lookup "comments" with
  | none => ([], [])
  | some (.table entries) => overrides entries
  | some v => ([], [.refused "comments" v])

/-! ## Tables -/

/-- The settings in a table, and the values it had to refuse. -/
def ofTable (t : Table) : Settings × List Event :=
  let (columnSpacing, e1) := field t "column_spacing" Value.nat? 2
  let (returnTag, e2) := field t "default_return_tag" Value.bool? true
  let (mixedNullable, e3) := field t "php_mixed_union_types" Value.bool? false
  let (layout, e4) := field t "comment_style" Value.layout? .aligned
  let (comments, e5) := overridesField t
  ({ columnSpacing, returnTag, mixedNullable, layout, comments }, e1 ++ e2 ++ e3 ++ e4 ++ e5)

/-- The entry of a language's delimiters. -/
def delimiterTable (o : Comment.Overrides) : Table :=
  (o.opening.map fun s => ("open", Value.text s)).toList ++
    (o.margin.map fun s => ("separator", Value.text s)).toList ++
    (o.closing.map fun s => ("close", Value.text s)).toList

/-- Settings as a table. -/
def toTable (s : Settings) : Table :=
  [("column_spacing", .int s.columnSpacing),
    ("default_return_tag", .bool s.returnTag),
    ("comment_style", .text s.layout.label),
    ("php_mixed_union_types", .bool s.mixedNullable),
    ("comments",
      .table (s.comments.map fun (language, o) => (language, .table (delimiterTable o))))]

end DocTemplate.Settings
