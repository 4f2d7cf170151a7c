import DocTemplate.Toml.Value

/-!
# TOML documents

A document is a sequence of lines: pairs of a key and a value, headers of tables and headers of
lists of tables.  `Toml.read` gives the table of a document:

    Toml.read text = .ok table

Nothing is written twice.  A table opened by a header, or made by the way of a dotted key, is not
opened again (`opened`), and below an array or a table in braces nothing is added (`closed`).
-/

namespace DocTemplate.Toml

open Settings (Table Value)

structure Document where
  table : Table := []
  /-- The table that pairs are added to. -/
  header : Key := []
  opened : List Key := []
  closed : List Key := []
  /-- Tables made by dotted keys since the last header. -/
  pending : List Key := []

namespace Document

def isClosed (d : Document) (key : Key) : Bool := d.closed.any (·.isPrefixOf key)

/-- The tables on the way of a dotted key, from the header on. -/
def waysOf (header key : Key) : List Key :=
  (List.range (key.length - 1)).map fun i => header ++ key.take (i + 1)

def addPair (d : Document) (key : Key) (v : Value) : Option Document := do
  let ways := waysOf d.header key
  guard (¬ ways.any d.opened.contains)
  let (way, k) ← splitLast key
  guard (¬ d.isClosed (d.header ++ way))
  let table ← atNest true (d.header ++ way) (insertNew k v) d.table
  return { d with
    table
    pending := ways ++ d.pending
    closed := if isNested v then (d.header ++ key) :: d.closed else d.closed }

/-- Settles the tables made by dotted keys when a header comes. -/
def settle (d : Document) : Document := { d with opened := d.pending ++ d.opened, pending := [] }

def openTable (d : Document) (key : Key) : Option Document := do
  guard (key ∉ d.opened ∧ ¬ d.isClosed key)
  let table ← atNest true key some d.table
  return { d with table, header := key, opened := key :: d.opened }

/-- Opens the next table of a list, in which everything can be opened anew. -/
def openNext (d : Document) (key : Key) : Option Document := do
  guard (¬ d.isClosed key)
  let (way, k) ← splitLast key
  let table ← atNest true way (pushTable k) d.table
  return { d with
    table
    header := key
    opened := key :: d.opened.filter fun k => !key.isPrefixOf k
    closed := d.closed.filter fun k => !key.isPrefixOf k }

/-! ## Lines -/

/-- Reads the statement at the start of a line, if there is one. -/
def readStatement (limits : Limits) (d : Document) (cs : List Char) :
    Except Fault (Document × List Char) :=
  match cs with
  | '[' :: '[' :: r => do
    let (key, r) ← orMalformed (readKey (skipBlanks r))
    let d ← orMalformed (d.settle.openNext key)
    match r with
    | ']' :: ']' :: r => return (d, r)
    | _ => .error .malformed
  | '[' :: r => do
    let (key, r) ← orMalformed (readKey (skipBlanks r))
    let d ← orMalformed (d.settle.openTable key)
    match r with
    | ']' :: r => return (d, r)
    | _ => .error .malformed
  | '#' :: _ | '\n' :: _ | [] => .ok (d, cs)
  | _ => do
    let ((key, v), r) ← readPairOf limits cs
    let d ← orMalformed (d.addPair key v)
    return (d, r)

/-- Reads lines, at most as many as the number says. -/
def readLines (limits : Limits) : Nat → Document → List Char → Except Fault Document
  | 0, _, _ => .error .malformed
  | n + 1, d, cs => do
    let (d, r) ← d.readStatement limits (skipBlanks cs)
    let r ← orMalformed (skipComment (skipBlanks r))
    match r with
    | [] => return d
    | '\n' :: r => readLines limits n d r
    | _ => .error .malformed

end Document

/-- A carriage return before a line feed is not part of the text. -/
def joinBreaks : List Char → List Char
  | '\r' :: '\n' :: r => '\n' :: joinBreaks r
  | c :: r => c :: joinBreaks r
  | [] => []

/-- The table of a document. -/
def read (limits : Limits) (s : String) : Except Fault Table := do
  let cs := joinBreaks s.toList
  let d ← Document.readLines limits (cs.length + 1) {} cs
  return d.table

end DocTemplate.Toml
