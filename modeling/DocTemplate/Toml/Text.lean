import DocTemplate.Decimal

/-!
# Texts in TOML

Blanks, comments, and the four kinds of strings.  A reader takes characters and gives what it read
and the characters after it, or nothing where TOML does not allow what stands there.
-/

namespace DocTemplate.Toml

/-! ## Blanks and comments -/

def isBlank (c : Char) : Bool := c = ' ' || c = '\t'

def isGap (c : Char) : Bool := isBlank c || c = '\n'

/-- Control characters, which no text holds as they are; a tab is none. -/
def isControl (c : Char) : Bool := (c.toNat < 0x20 && c ≠ '\t') || c.toNat = 0x7F

def skipBlanks (cs : List Char) : List Char := cs.dropWhile isBlank

/-- Drops a comment, up to the line break after it. -/
def skipComment : List Char → Option (List Char)
  | '#' :: r =>
    if (r.takeWhile (· ≠ '\n')).any isControl then none else some (r.dropWhile (· ≠ '\n'))
  | cs => some cs

/-- Drops blanks, line breaks and comments. -/
def skipGaps (inComment : Bool) : List Char → Option (List Char)
  | [] => some []
  | c :: r =>
    if inComment then
      if c = '\n' then skipGaps false r
      else if isControl c then none
      else skipGaps true r
    else if isGap c then skipGaps false r
    else if c = '#' then skipGaps true r
    else some (c :: r)

/-! ## Strings -/

/-- Whether strings end with their line. -/
inductive Span where
  | line
  | lines
  deriving DecidableEq

/-- What a backslash at the end of a line still drops. -/
inductive Drop where
  | nothing
  /-- Blanks, up to the line break that has to come. -/
  | toBreak
  /-- Blanks and line breaks. -/
  | gaps
  deriving DecidableEq

/-- A character that a string cannot hold as it is. -/
def isIllegal (span : Span) (c : Char) : Bool :=
  isControl c && !(span = .lines && c = '\n')

def escaped? (c : Char) : Option Char :=
  if c = '"' ∨ c = '\\' then some c
  else if c = 'b' then some '\x08'
  else if c = 't' then some '\t'
  else if c = 'n' then some '\n'
  else if c = 'f' then some '\x0c'
  else if c = 'r' then some '\r'
  else none

/-- The character of hexadecimal digits, if they are the code of one. -/
def hexChar? (ds : List Char) : Option Char :=
  let n := Decimal.ofDigits 16 ds
  if ds.all Decimal.isHexDigit ∧ n.isValidChar then some (Char.ofNat n) else none

/-- Reads the rest of a string in quotes, after the opening quotes. -/
def readBasic (span : Span) : Drop → List Char → Option (List Char × List Char)
  | _, [] => none
  | drop, '"' :: '"' :: '"' :: r =>
    if drop = .toBreak then none
    else if span = .lines then some ([], r)
    else some ([], '"' :: '"' :: r)
  | drop, '\\' :: 'u' :: a :: b :: c :: d :: r => do
    guard (drop ≠ .toBreak)
    let x ← hexChar? [a, b, c, d]
    let (s, r) ← readBasic span .nothing r
    return (x :: s, r)
  | drop, '\\' :: 'U' :: a :: b :: c :: d :: e :: f :: g :: h :: r => do
    guard (drop ≠ .toBreak)
    let x ← hexChar? [a, b, c, d, e, f, g, h]
    let (s, r) ← readBasic span .nothing r
    return (x :: s, r)
  | drop, '\\' :: c :: r => do
    guard (drop ≠ .toBreak)
    if span = .lines ∧ isBlank c then readBasic span .toBreak r
    else if span = .lines ∧ c = '\n' then readBasic span .gaps r
    else do
      let x ← escaped? c
      let (s, r) ← readBasic span .nothing r
      return (x :: s, r)
  | drop, c :: r =>
    if drop = .toBreak then
      if isBlank c then readBasic span .toBreak r
      else if c = '\n' then readBasic span .gaps r
      else none
    else if drop = .gaps ∧ isGap c then readBasic span .gaps r
    else if c = '"' ∧ span = .line then some ([], r)
    else if c = '\\' ∨ isIllegal span c then none
    else do
      let (s, r) ← readBasic span .nothing r
      return (c :: s, r)

/-- Reads the rest of a string in apostrophes on one line. -/
def readLiteral : List Char → Option (List Char × List Char)
  | [] => none
  | c :: r =>
    if c = '\'' then some ([], r)
    else if isIllegal .line c then none
    else do
      let (s, r) ← readLiteral r
      return (c :: s, r)

/-- Reads the rest of a string in apostrophes on several lines. -/
def readLiteralLines : List Char → Option (List Char × List Char)
  | '\'' :: '\'' :: '\'' :: r => some ([], r)
  | [] => none
  | c :: r =>
    if isIllegal .lines c then none
    else do
      let (s, r) ← readLiteralLines r
      return (c :: s, r)

/-- A line break right after the opening quotes is not part of the string. -/
def dropBreak : List Char → List Char
  | '\n' :: r => r
  | cs => cs

/-- Up to two more quotes right after the closing ones belong to the string. -/
def withQuotes (quote : Char) (s : List Char) : List Char → List Char × List Char
  | a :: b :: r =>
    if a = quote then if b = quote then (s ++ [a, b], r) else (s ++ [a], b :: r)
    else (s, a :: b :: r)
  | [a] => if a = quote then (s ++ [a], []) else (s, [a])
  | [] => (s, [])

/-- Reads a string of any kind; nothing where none starts. -/
def readText : List Char → Option (List Char × List Char)
  | '"' :: '"' :: '"' :: r => do
    let (s, r) ← readBasic .lines .nothing (dropBreak r)
    return withQuotes '"' s r
  | '"' :: r => readBasic .line .nothing r
  | '\'' :: '\'' :: '\'' :: r => do
    let (s, r) ← readLiteralLines (dropBreak r)
    return withQuotes '\'' s r
  | '\'' :: r => readLiteral r
  | _ => none

/-! ## Keys -/

def isBare (c : Char) : Bool :=
  ('a' ≤ c && c ≤ 'z') || ('A' ≤ c && c ≤ 'Z') || Decimal.isDigit c || c = '-' || c = '_'

/-- Reads one part of a key: bare, or a string on one line. -/
def readKeyPart : List Char → Option (String × List Char)
  | [] => none
  | c :: r =>
    if isBare c then
      some (String.ofList (c :: r.takeWhile isBare), r.dropWhile isBare)
    else do
      let (s, r) ← if c = '"' then readBasic .line .nothing r
        else if c = '\'' then readLiteral r else none
      return (String.ofList s, r)

/-- Reads the parts of a key with points between them, at most as many as the number says. -/
def readKeyParts : Nat → List Char → Option (List String × List Char)
  | 0, _ => none
  | n + 1, cs => do
    let (k, r) ← readKeyPart cs
    match skipBlanks r with
    | '.' :: r =>
      let (ks, r) ← readKeyParts n (skipBlanks r)
      return (k :: ks, r)
    | r => return ([k], r)

def readKey (cs : List Char) : Option (List String × List Char) := readKeyParts (cs.length + 1) cs

end DocTemplate.Toml
