/-!
# Snippets

A snippet is text with tab stops, `${1:text}`, `${2:text}` and so on.  Within it `\`, `$` and `}`
stand for themselves only after a backslash.  A snippet is kept as a list of pieces.  A tab stop
gets its number when it is made, from one counter that goes through all that makes them
(`makeStop`).
-/

namespace DocTemplate.Snippet

def isSpecial (c : Char) : Bool := c = '\\' || c = '$' || c = '\x7d'

def escapeChars (cs : List Char) : List Char :=
  cs.flatMap fun c => if isSpecial c then ['\\', c] else [c]

def escape (s : String) : String := String.ofList (escapeChars s.toList)

/-- A tab stop with its number. -/
def tabStop (n : Nat) (text : String) : String :=
  "$\x7b" ++ toString n ++ ":" ++ escape text ++ "\x7d"

inductive Piece where
  /-- Text that is written as it is. -/
  | raw (text : String)
  /-- Text whose special characters are escaped. -/
  | plain (text : String)
  /-- A tab stop that offers a text. -/
  | stop (number : Nat) (text : String)
  deriving DecidableEq, Repr

def Piece.write : Piece → String
  | .raw text => text
  | .plain text => escape text
  | .stop n text => tabStop n text

def write (ps : List Piece) : String := String.join (ps.map Piece.write)

/-! ## Numbers -/

/-- What makes tab stops.  The state is how many were made so far. -/
abbrev Numbering := StateM Nat

/-- Makes the next tab stop. -/
def makeStop (text : String) : Numbering Piece := do
  let made ← get
  set (made + 1)
  return .stop (made + 1) text

end DocTemplate.Snippet
