import DocTemplate.Decimal

/-!
# Values of settings

What a settings file can hold.  Numbers stay as exact as they were written; tables keep the order of
their keys.
-/

namespace DocTemplate.Settings

/-- A number that is no integer. -/
inductive Real where
  | finite (d : Decimal)
  | infinite (negative : Bool)
  | notANumber
  deriving DecidableEq, Repr

inductive Value where
  | null
  | bool (b : Bool)
  | int (n : Int)
  | real (r : Real)
  | text (s : String)
  /-- A date, a time or both, as text. -/
  | moment (s : String)
  | list (vs : List Value)
  | table (entries : List (String × Value))
  deriving Inhabited, Repr

/-- A table: keys with their values, each key once. -/
abbrev Table := List (String × Value)

end DocTemplate.Settings
