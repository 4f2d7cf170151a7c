import DocTemplate.Json.Basic

/-!
# Reading JSON

`Json.read?` reads a text as a JSON value.  Blanks may stand between any two parts of it.  A number
with a point or an exponent is a decimal, and every other number an integer.
-/

namespace DocTemplate.Json

def isBlank (c : Char) : Bool := c = ' ' || c = '\t' || c = '\n' || c = '\r'

def skip (cs : List Char) : List Char := cs.dropWhile isBlank

/-! ## Strings -/

/-- The UTF-16 unit of four hexadecimal digits. -/
def unit? (a b c d : Char) : Option Nat :=
  if [a, b, c, d].all Decimal.isHexDigit then some (Decimal.ofDigits 16 [a, b, c, d]) else none

/-- The character of a letter after a backslash. -/
def escaped? (c : Char) : Option Char :=
  if c = '"' ∨ c = '\\' ∨ c = '/' then some c
  else if c = 'n' then some '\n'
  else if c = 'r' then some '\r'
  else if c = 't' then some '\t'
  else if c = 'f' then some '\x0c'
  else if c = 'b' then some '\x08'
  else none

/-- Reads the rest of a string, after its opening quote.  Two units that make a surrogate pair are
one character; no surrogate stands alone. -/
def readString : List Char → Option (List Char × List Char)
  | [] => none
  | '\\' :: 'u' :: a :: b :: c :: d :: r => do
    let n ← unit? a b c d
    if 0xD800 ≤ n ∧ n < 0xDC00 then
      match r with
      | '\\' :: 'u' :: e :: f :: g :: h :: r => do
        let m ← unit? e f g h
        guard (0xDC00 ≤ m ∧ m < 0xE000)
        let (s, r) ← readString r
        return (Char.ofNat (0x10000 + (n - 0xD800) * 0x400 + (m - 0xDC00)) :: s, r)
      | _ => none
    else
      guard (¬ (0xDC00 ≤ n ∧ n < 0xE000))
      let (s, r) ← readString r
      return (Char.ofNat n :: s, r)
  | '\\' :: c :: r => do
    let c ← escaped? c
    let (s, r) ← readString r
    return (c :: s, r)
  | c :: r =>
    if c = '"' then some ([], r)
    else do
      guard (c ≠ '\\' ∧ 0x20 ≤ c.toNat)
      let (s, r) ← readString r
      return (c :: s, r)

/-! ## Numbers -/

/-- Reads digits, at least one. -/
def readDigits (cs : List Char) : Option (List Char × List Char) :=
  let ds := cs.takeWhile Decimal.isDigit
  if ds.isEmpty then none else some (ds, cs.dropWhile Decimal.isDigit)

/-- Reads the digits after a point; none if there is no point. -/
def readFraction : List Char → Option (Option (List Char) × List Char)
  | '.' :: r => do
    let (ds, r) ← readDigits r
    return (some ds, r)
  | cs => some (none, cs)

def readExponent : List Char → Option (Option Int × List Char)
  | c :: r =>
    if c = 'e' ∨ c = 'E' then
      match r with
      | '-' :: r => do
        let (ds, r) ← readDigits r
        return (some (-(Decimal.ofDigits 10 ds : Int)), r)
      | '+' :: r => do
        let (ds, r) ← readDigits r
        return (some (Decimal.ofDigits 10 ds), r)
      | r => do
        let (ds, r) ← readDigits r
        return (some (Decimal.ofDigits 10 ds), r)
    else some (none, c :: r)
  | [] => some (none, [])

/-- Whether digits can stand before a point: no zero is in front of others. -/
def isWhole : List Char → Bool
  | '0' :: _ :: _ => false
  | _ => true

def readUnsigned (negative : Bool) (cs : List Char) : Option (Json × List Char) := do
  let (whole, r) ← readDigits cs
  guard (isWhole whole)
  let (fraction, r) ← readFraction r
  let (exponent, r) ← readExponent r
  if fraction.isNone ∧ exponent.isNone then
    let n : Int := Decimal.ofDigits 10 whole
    return (.int (if negative then -n else n), r)
  else
    return (.real (.ofParts negative whole (fraction.getD []) (exponent.getD 0)), r)

def readNumber : List Char → Option (Json × List Char)
  | '-' :: r => readUnsigned true r
  | cs => readUnsigned false cs

/-! ## Values -/

mutual

/-- Reads a value.  The number bounds how deep and how long its parts may be. -/
def readValue : Nat → List Char → Option (Json × List Char)
  | 0, _ => none
  | n + 1, cs =>
    match skip cs with
    | 'n' :: 'u' :: 'l' :: 'l' :: r => some (.null, r)
    | 't' :: 'r' :: 'u' :: 'e' :: r => some (.bool true, r)
    | 'f' :: 'a' :: 'l' :: 's' :: 'e' :: r => some (.bool false, r)
    | '"' :: r => do
      let (s, r) ← readString r
      return (.str (String.ofList s), r)
    | '[' :: r =>
      match skip r with
      | ']' :: r => some (.arr [], r)
      | r => do
        let (js, r) ← readItems n r
        return (.arr js, r)
    | '\x7b' :: r =>
      match skip r with
      | '\x7d' :: r => some (.obj [], r)
      | r => do
        let (fs, r) ← readFields n r
        return (.obj fs, r)
    | r => readNumber r

/-- Reads the items of an array up to its end. -/
def readItems : Nat → List Char → Option (List Json × List Char)
  | 0, _ => none
  | n + 1, cs => do
    let (j, r) ← readValue n cs
    match skip r with
    | ']' :: r => return ([j], r)
    | ',' :: r =>
      let (js, r) ← readItems n r
      return (j :: js, r)
    | _ => none

/-- Reads the fields of an object up to its end. -/
def readFields : Nat → List Char → Option (List (String × Json) × List Char)
  | 0, _ => none
  | n + 1, cs =>
    match skip cs with
    | '"' :: r => do
      let (k, r) ← readString r
      match skip r with
      | ':' :: r =>
        let (j, r) ← readValue n r
        match skip r with
        | '\x7d' :: r => return ([(String.ofList k, j)], r)
        | ',' :: r =>
          let (fs, r) ← readFields n r
          return ((String.ofList k, j) :: fs, r)
        | _ => none
      | _ => none
    | _ => none

end

/-- The value of a text.  Each part of a value takes a character, so twice the length is bound
enough. -/
def read? (s : String) : Option Json := do
  let cs := s.toList
  let (j, r) ← readValue (2 * cs.length + 2) cs
  guard (skip r).isEmpty
  return j

end DocTemplate.Json
