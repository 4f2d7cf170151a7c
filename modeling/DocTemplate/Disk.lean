import DocTemplate.Location

/-!
# Files

A `Disk` holds files and folders by their names from the root.  `Disk.find` goes along a location
name by name and says what is there.
-/

namespace DocTemplate

/-- A file with its bytes, or a folder. -/
inductive Entry where
  | file (bytes : List UInt8)
  | folder
  deriving DecidableEq, Repr

/-- What a path leads to. -/
inductive Found where
  | file (bytes : List UInt8)
  | folder
  /-- Nothing is there. -/
  | missing
  /-- A file stands where a folder should be, or a name or the whole path is too long. -/
  | blocked
  deriving DecidableEq, Repr

/-- Files and folders by their names from the root.  The folders above an entry exist as well. -/
structure Disk where
  entries : List (List String × Entry)
  /-- The bytes that a single name may have. -/
  nameLimit : Nat
  /-- The bytes that a path may have. -/
  pathLimit : Nat
  deriving Repr

namespace Disk

/-- The entry at a path without `..`. -/
def at? (d : Disk) (names : List String) : Option Entry :=
  match d.entries.lookup names with
  | some e => some e
  | none => if d.entries.any (names.isPrefixOf ·.1) then some .folder else none

/-- Goes along names from a place.  `..` leads to the folder above, once the place is known to be a
folder. -/
def walk (d : Disk) (place : List String) : List String → Found
  | [] =>
    match d.at? place with
    | none => .missing
    | some (.file bytes) => .file bytes
    | some .folder => .folder
  | name :: names =>
    match d.at? place with
    | none => .missing
    | some (.file _) => .blocked
    | some .folder =>
      if name = ".." then walk d place.dropLast names
      else if d.nameLimit < name.utf8ByteSize then .blocked
      else walk d (place ++ [name]) names

/-- What a location leads to, seen from a working directory. -/
def find (d : Disk) (working : Location) (l : Location) : Found :=
  if d.pathLimit < l.text.utf8ByteSize then .blocked
  else
    match l.root with
    | .working => d.walk working.names l.names
    | _ => d.walk [] l.names

end Disk

end DocTemplate
