/-!
# Locations of files

A `Location` is a path of names, from the root or from the working directory.  Its text has no
needless parts: no empty names, no `.`, no slash at the end.  `..` stays as it is.
-/

namespace DocTemplate

/-- Where a path starts.  Two slashes, and no other number above one, are a root of their own. -/
inductive Root where
  | working
  | slash
  | doubleSlash
  deriving DecidableEq, Repr

structure Location where
  root : Root := .working
  names : List String
  deriving DecidableEq, Repr

namespace Location

/-- The parts of a text between slashes. -/
def parts (s : String) : List String := s.splitOn "/"

def rootOf (s : String) : Root :=
  match s.toList with
  | '/' :: '/' :: '/' :: _ => .slash
  | '/' :: '/' :: _ => .doubleSlash
  | '/' :: _ => .slash
  | _ => .working

def ofText (s : String) : Location :=
  { root := rootOf s, names := (parts s).filter fun p => p ≠ "" ∧ p ≠ "." }

def text (l : Location) : String :=
  let names := "/".intercalate l.names
  match l.root with
  | .working => if l.names.isEmpty then "." else names
  | .slash => "/" ++ names
  | .doubleSlash => "//" ++ names

/-- A name below a location. -/
def child (l : Location) (name : String) : Location := { l with names := l.names ++ [name] }

/-- The user in whose home a location is: what stands after a tilde at its start.  The empty name
is that of the user who asks. -/
def user? (l : Location) : Option String :=
  match l.root, l.names with
  | .working, name :: _ =>
    match name.toList with
    | '~' :: user => some (String.ofList user)
    | _ => none
  | _, _ => none

/-- Puts a home in place of the name with the tilde. -/
def atHome (l home : Location) : Location := { home with names := home.names ++ l.names.tail }

end Location

end DocTemplate
