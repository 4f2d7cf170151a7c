import DocTemplate.Decimal.Shortest
import DocTemplate.Json.Basic
import DocTemplate.Text.Quoted

/-!
# JSON values in messages

How a value that is out of place is named in a message: by its own text, or by its type.

    None    True    [1, 'a']    {'a': 2.5}
-/

namespace DocTemplate.Json

/-- The types of values. -/
inductive Shape where
  | null
  | bool
  | int
  | real
  | str
  | arr
  | obj
  deriving DecidableEq, Repr

def Shape.label : Shape → String
  | .null => "NoneType"
  | .bool => "bool"
  | .int => "int"
  | .real => "float"
  | .str => "str"
  | .arr => "list"
  | .obj => "dict"

def shape : Json → Shape
  | .null => .null
  | .bool _ => .bool
  | .int _ => .int
  | .real _ => .real
  | .str _ => .str
  | .arr _ => .arr
  | .obj _ => .obj

mutual

/-- The text of a value, with strings in quotes. -/
def shown : Json → String
  | .null => "None"
  | .bool b => if b then "True" else "False"
  | .int n => toString n
  | .real d => d.shortText
  | .str s => Text.quoted s
  | .arr [] => "[]"
  | .arr (j :: js) => "[" ++ shown j ++ shownItems js ++ "]"
  | .obj [] => "\x7b\x7d"
  | .obj ((k, j) :: fs) =>
    "\x7b" ++ Text.quoted k ++ ": " ++ shown j ++ shownFields fs ++ "\x7d"

def shownItems : List Json → String
  | [] => ""
  | j :: js => ", " ++ shown j ++ shownItems js

def shownFields : List (String × Json) → String
  | [] => ""
  | (k, j) :: fs => ", " ++ Text.quoted k ++ ": " ++ shown j ++ shownFields fs

end

/-- The text of a value, without quotes if it is a string. -/
def bare : Json → String
  | .str s => s
  | j => j.shown

end DocTemplate.Json
