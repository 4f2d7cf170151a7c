import DocTemplate.Decimal

/-!
# JSON

JSON values and their text.  Objects keep the order of their keys.  `pretty` writes one element a
line, two spaces deeper at each level, in ASCII alone: every other character is written as UTF-16
units, `\u65e5`.
-/

namespace DocTemplate

inductive Json where
  | null
  | bool (b : Bool)
  | int (n : Int)
  | real (d : Decimal)
  | str (s : String)
  | arr (items : List Json)
  | obj (fields : List (String × Json))
  deriving Repr

namespace Json

/-! ## Strings -/

def hexDigit (n : Nat) : Char := "0123456789abcdef".toList.getD n '0'

/-- A UTF-16 unit as an escape. -/
def unitChars (n : Nat) : List Char :=
  ['\\', 'u', hexDigit (n / 4096 % 16), hexDigit (n / 256 % 16), hexDigit (n / 16 % 16),
    hexDigit (n % 16)]

/-- A character of a string.  Characters above U+FFFF are two units. -/
def quotedChars (c : Char) : List Char :=
  if c = '"' then ['\\', '"']
  else if c = '\\' then ['\\', '\\']
  else if c = '\n' then ['\\', 'n']
  else if c = '\r' then ['\\', 'r']
  else if c = '\t' then ['\\', 't']
  else if c = '\x0c' then ['\\', 'f']
  else if c = '\x08' then ['\\', 'b']
  else
    let n := c.toNat
    if 0x20 ≤ n ∧ n < 0x7F then [c]
    else if n < 0x10000 then unitChars n
    else
      unitChars (0xD800 + (n - 0x10000) / 0x400) ++ unitChars (0xDC00 + (n - 0x10000) % 0x400)

def quote (s : String) : String :=
  String.ofList ('"' :: s.toList.flatMap quotedChars ++ ['"'])

/-! ## Values -/

mutual

/-- The text of a value, with `newline` between its lines. -/
def write (newline : String) : Json → String
  | .null => "null"
  | .bool b => if b then "true" else "false"
  | .int n => toString n
  | .real d => d.text
  | .str s => quote s
  | .arr [] => "[]"
  | .arr (j :: js) =>
    let inner := newline ++ "  "
    "[" ++ inner ++ write inner j ++ writeItems inner js ++ newline ++ "]"
  | .obj [] => "\x7b\x7d"
  | .obj ((k, j) :: fs) =>
    let inner := newline ++ "  "
    "\x7b" ++ inner ++ quote k ++ ": " ++ write inner j ++ writeFields inner fs ++ newline ++ "\x7d"

def writeItems (newline : String) : List Json → String
  | [] => ""
  | j :: js => "," ++ newline ++ write newline j ++ writeItems newline js

def writeFields (newline : String) : List (String × Json) → String
  | [] => ""
  | (k, j) :: fs =>
    "," ++ newline ++ quote k ++ ": " ++ write newline j ++ writeFields newline fs

end

def pretty (j : Json) : String := write "\n" j

/-- The text of a value on one line. -/
def line (j : Json) : String := write "" j

/-- The value of a key. -/
def get? (j : Json) (key : String) : Option Json :=
  match j with
  | .obj fields => fields.lookup key
  | _ => none

end Json

end DocTemplate
