import DocTemplate.Settings.Value
import DocTemplate.Toml.Fault
import DocTemplate.Toml.Text

/-!
# Numbers in TOML

Integers in four bases and numbers with a point or an exponent.  Single underscores may stand
between digits.
-/

namespace DocTemplate.Toml

open Settings (Value)

def isOctal (c : Char) : Bool := '0' ≤ c && c ≤ '7'

def isBinary (c : Char) : Bool := c = '0' || c = '1'

/-- Reads more digits after a first one. -/
def moreDigits (digit : Char → Bool) : List Char → List Char × List Char
  | [] => ([], [])
  | '_' :: c :: r =>
    if digit c then
      let (ds, r) := moreDigits digit r
      (c :: ds, r)
    else ([], '_' :: c :: r)
  | c :: r =>
    if digit c then
      let (ds, r) := moreDigits digit r
      (c :: ds, r)
    else ([], c :: r)

/-- Reads digits, at least one. -/
def readDigits (digit : Char → Bool) : List Char → Option (List Char × List Char)
  | [] => none
  | c :: r =>
    if digit c then
      let (ds, r) := moreDigits digit r
      some (c :: ds, r)
    else none

/-- Reads an integer in base two, eight or sixteen. -/
def readBased : List Char → Option (Value × List Char)
  | '0' :: c :: r => do
    let (base, digit) ←
      if c = 'x' then some (16, Decimal.isHexDigit)
      else if c = 'o' then some (8, isOctal)
      else if c = 'b' then some (2, isBinary)
      else none
    let (ds, r) ← readDigits digit r
    return (.int (Decimal.ofDigits base ds), r)
  | _ => none

/-- Reads a sign, and whether it is a minus. -/
def readSign : List Char → Bool × List Char
  | '-' :: r => (true, r)
  | '+' :: r => (false, r)
  | cs => (false, cs)

/-- Reads the part of a number before the point: a zero, or digits that start with another. -/
def readWhole : List Char → Option (List Char × List Char)
  | '0' :: r => some (['0'], r)
  | cs => readDigits Decimal.isDigit cs

/-- Reads a point and the digits after it, if they are there. -/
def readFraction (cs : List Char) : Option (List Char) × List Char :=
  match cs with
  | '.' :: r =>
    match readDigits Decimal.isDigit r with
    | some (ds, r) => (some ds, r)
    | none => (none, cs)
  | _ => (none, cs)

/-- Reads an exponent, if there is one. -/
def readExponent (cs : List Char) : Option Int × List Char :=
  match cs with
  | c :: r =>
    if c = 'e' ∨ c = 'E' then
      let (negative, r) := readSign r
      match readDigits Decimal.isDigit r with
      | some (ds, r) =>
        let n : Int := Decimal.ofDigits 10 ds
        (some (if negative then -n else n), r)
      | none => (none, cs)
    else (none, cs)
  | [] => (none, cs)

/-- A number in base ten as it is written. -/
structure Numeral where
  negative : Bool
  whole : List Char
  fraction : Option (List Char)
  exponent : Option Int

def readNumeral (cs : List Char) : Option (Numeral × List Char) := do
  let (negative, r) := readSign cs
  let (whole, r) ← readWhole r
  let (fraction, r) := readFraction r
  let (exponent, r) := readExponent r
  return ({ negative, whole, fraction, exponent }, r)

/-- The value of a numeral, an integer if it has neither point nor exponent. -/
def Numeral.value (limits : Limits) (n : Numeral) : Except Fault Value :=
  if n.fraction.isSome ∨ n.exponent.isSome then
    .ok (.real (.finite (.ofParts n.negative n.whole (n.fraction.getD []) (n.exponent.getD 0))))
  else if limits.digits < n.whole.length then
    .error (.beyond (.digits limits.digits n.whole.length))
  else
    let m : Int := Decimal.ofDigits 10 n.whole
    .ok (.int (if n.negative then -m else m))

/-- Reads infinity or the mark for no number. -/
def readSpecial (cs : List Char) : Option (Value × List Char) :=
  let (negative, r) := readSign cs
  match r with
  | 'i' :: 'n' :: 'f' :: r => some (.real (.infinite negative), r)
  | 'n' :: 'a' :: 'n' :: r => some (.real .notANumber, r)
  | _ => none

def readNumber (limits : Limits) (cs : List Char) : Except Fault (Value × List Char) :=
  match readBased cs, readNumeral cs with
  | some read, _ => .ok read
  | none, some (n, r) => do return (← n.value limits, r)
  | none, none => orMalformed (readSpecial cs)

end DocTemplate.Toml
