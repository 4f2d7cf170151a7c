import DocTemplate.Settings.Value

/-!
# Nested tables

Tables are filled by keys of several parts.  A part that is new makes a table; a part that holds a
list of tables means the last of them, where lists may be entered.
-/

namespace DocTemplate.Toml

open Settings (Table Value)

abbrev Key := List String

/-- Gives a key of a table a new value, in its old place. -/
def replace (k : String) (v : Value) : Table → Table
  | [] => []
  | (k', v') :: t => if k' = k then (k, v) :: t else (k', v') :: replace k v t

/-- Changes the table at a key, made if it is not there; nothing if something else is there. -/
def atNest (enterLists : Bool) : Key → (Table → Option Table) → Table → Option Table
  | [], f, t => f t
  | k :: ks, f, t =>
    match t.lookup k with
    | none => do
      let n ← atNest enterLists ks f []
      return t ++ [(k, .table n)]
    | some (.table n) => do
      let n ← atNest enterLists ks f n
      return replace k (.table n) t
    | some (.list vs) =>
      match enterLists, vs.getLast? with
      | true, some (.table n) => do
        let n ← atNest enterLists ks f n
        return replace k (.list (vs.dropLast ++ [.table n])) t
      | _, _ => none
    | some _ => none

/-- Adds a key that is not there yet. -/
def insertNew (k : String) (v : Value) (t : Table) : Option Table :=
  match t.lookup k with
  | none => some (t ++ [(k, v)])
  | some _ => none

/-- Adds an empty table to the list at a key. -/
def pushTable (k : String) (t : Table) : Option Table :=
  match t.lookup k with
  | none => some (t ++ [(k, .list [.table []])])
  | some (.list vs) => some (replace k (.list (vs ++ [.table []])) t)
  | some _ => none

/-- A key split into its way and its last part. -/
def splitLast (key : Key) : Option (Key × String) := key.getLast?.map fun k => (key.dropLast, k)

def isNested : Value → Bool
  | .list _ | .table _ => true
  | _ => false

end DocTemplate.Toml
