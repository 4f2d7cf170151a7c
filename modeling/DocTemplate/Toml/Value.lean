import DocTemplate.Toml.Moment
import DocTemplate.Toml.Nest
import DocTemplate.Toml.Number

/-!
# Values in TOML

Everything that can stand after an equals sign.  Arrays may go over several lines and hold comments;
tables in braces stay on one line, and no key can reach into a value that stands in them.
-/

namespace DocTemplate.Toml

open Settings (Table Value)

/-- Adds a pair to a table in braces.  `closed` are the keys of arrays and tables in it, below which
nothing can be added. -/
def addInline (closed : List Key) (key : Key) (v : Value) (t : Table) : Option Table := do
  guard (¬ closed.any (·.isPrefixOf key))
  let (way, k) ← splitLast key
  atNest false way (insertNew k v) t

/-- How deep a value stands that is opened with a weight. -/
def deeper (limits : Limits) (depth weight : Nat) : Except Fault Nat :=
  if limits.valueDepth < depth + weight then .error (.beyond .depth) else .ok (depth + weight)

mutual

/-- Reads a value that stands at a depth.  The number bounds how deep and how long its parts may
be. -/
def readValue (limits : Limits) : Nat → Nat → List Char → Except Fault (Value × List Char)
  | 0, _, _ => .error .malformed
  | n + 1, depth, cs =>
    match cs with
    | '[' :: r => do
      let depth ← deeper limits depth limits.arrayWeight
      let r ← orMalformed (skipGaps false r)
      let (vs, r) ← readItems limits n depth r
      return (.list vs, r)
    | '\x7b' :: r => do
      let depth ← deeper limits depth limits.tableWeight
      match skipBlanks r with
      | '\x7d' :: r => return (.table [], r)
      | r =>
        let (t, r) ← readPairs limits n depth [] [] r
        return (.table t, r)
    | 't' :: 'r' :: 'u' :: 'e' :: r => .ok (.bool true, r)
    | 'f' :: 'a' :: 'l' :: 's' :: 'e' :: r => .ok (.bool false, r)
    | '"' :: _ | '\'' :: _ => do
      let (s, r) ← orMalformed (readText cs)
      return (.text (String.ofList s), r)
    | cs => if startsMoment cs then orMalformed (readMoment cs) else readNumber limits cs

/-- Reads the items of an array up to its end.  A comma may follow the last. -/
def readItems (limits : Limits) : Nat → Nat → List Char → Except Fault (List Value × List Char)
  | 0, _, _ => .error .malformed
  | _ + 1, _, ']' :: r => .ok ([], r)
  | n + 1, depth, cs => do
    let (v, r) ← readValue limits n depth cs
    let r ← orMalformed (skipGaps false r)
    match r with
    | ']' :: r => return ([v], r)
    | ',' :: r =>
      let r ← orMalformed (skipGaps false r)
      let (vs, r) ← readItems limits n depth r
      return (v :: vs, r)
    | _ => .error .malformed

/-- Reads the pairs of a table in braces up to its end. -/
def readPairs (limits : Limits) :
    Nat → Nat → List Key → Table → List Char → Except Fault (Table × List Char)
  | 0, _, _, _, _ => .error .malformed
  | n + 1, depth, closed, t, cs => do
    let (key, r) ← orMalformed (readKey cs)
    let ((), r) ← orMalformed (readChar '=' r)
    let (v, r) ← readValue limits n depth (skipBlanks r)
    let t ← orMalformed (addInline closed key v t)
    match skipBlanks r with
    | '\x7d' :: r => return (t, r)
    | ',' :: r =>
      readPairs limits n depth (if isNested v then key :: closed else closed) t (skipBlanks r)
    | _ => .error .malformed

end

/-- Reads a key, an equals sign and a value. -/
def readPairOf (limits : Limits) (cs : List Char) : Except Fault ((Key × Value) × List Char) := do
  let (key, r) ← orMalformed (readKey cs)
  let ((), r) ← orMalformed (readChar '=' r)
  let r := skipBlanks r
  let (v, r) ← readValue limits (2 * r.length + 2) 0 r
  return ((key, v), r)

end DocTemplate.Toml
