import DocTemplate.Settings.Value
import DocTemplate.Toml.Text

/-!
# Dates and times in TOML

A date, a time of day, or both with or without an offset.  A moment is kept as text: date and time
with a space between, fractions of a second with six digits unless they are zero.
-/

namespace DocTemplate.Toml

open Settings (Value)

/-- Reads a number of two digits below `limit`. -/
def readPair (limit : Nat) : List Char → Option (Nat × List Char)
  | a :: b :: r =>
    let n := Decimal.ofDigits 10 [a, b]
    if Decimal.isDigit a ∧ Decimal.isDigit b ∧ n < limit then some (n, r) else none
  | _ => none

def readChar (c : Char) : List Char → Option (Unit × List Char)
  | x :: r => if x = c then some ((), r) else none
  | [] => none

def isLeap (year : Nat) : Bool := year % 4 = 0 && (year % 100 ≠ 0 || year % 400 = 0)

def daysIn (year month : Nat) : Nat :=
  if month = 2 then if isLeap year then 29 else 28
  else if month = 4 ∨ month = 6 ∨ month = 9 ∨ month = 11 then 30
  else 31

def pad (width n : Nat) : String :=
  let ds := Nat.toDigits 10 n
  String.ofList (List.replicate (width - ds.length) '0' ++ ds)

/-- A day of the calendar; years count from one. -/
structure Date where
  year : Nat
  month : Nat
  day : Nat

def Date.isValid (d : Date) : Bool := 0 < d.year && d.day ≤ daysIn d.year d.month

def Date.text (d : Date) : String := pad 4 d.year ++ "-" ++ pad 2 d.month ++ "-" ++ pad 2 d.day

/-- Reads what is written like a date, of whatever month. -/
def readDate : List Char → Option (Date × List Char)
  | a :: b :: c :: d :: '-' :: r => do
    guard ([a, b, c, d].all Decimal.isDigit)
    let (month, r) ← readPair 13 r
    let ((), r) ← readChar '-' r
    let (day, r) ← readPair 32 r
    guard (0 < month ∧ 0 < day)
    return ({ year := Decimal.ofDigits 10 [a, b, c, d], month, day }, r)
  | _ => none

/-- Reads the fraction of a second as millionths; digits beyond the sixth are dropped. -/
def readMicros : List Char → Nat × List Char
  | '.' :: r =>
    let ds := r.takeWhile Decimal.isDigit
    if ds.isEmpty then (0, '.' :: r)
    else
      (Decimal.ofDigits 10 ((ds.take 6) ++ List.replicate (6 - ds.length) '0'),
        r.dropWhile Decimal.isDigit)
  | cs => (0, cs)

/-- Reads a time of day and gives its text. -/
def readTime (cs : List Char) : Option (String × List Char) := do
  let (hour, r) ← readPair 24 cs
  let ((), r) ← readChar ':' r
  let (minute, r) ← readPair 60 r
  let ((), r) ← readChar ':' r
  let (second, r) ← readPair 60 r
  let (micros, r) := readMicros r
  let fraction := if micros = 0 then "" else "." ++ pad 6 micros
  return (pad 2 hour ++ ":" ++ pad 2 minute ++ ":" ++ pad 2 second ++ fraction, r)

/-- Reads an offset and gives its text, if there is one. -/
def readOffset (cs : List Char) : String × List Char :=
  match cs with
  | [] => ("", [])
  | c :: r =>
    if c = 'Z' ∨ c = 'z' then ("+00:00", r)
    else if c = '+' ∨ c = '-' then
      let offset : Option ((Nat × Nat) × List Char) := do
        let (hour, r) ← readPair 24 r
        let ((), r) ← readChar ':' r
        let (minute, r) ← readPair 60 r
        return ((hour, minute), r)
      match offset with
      | some ((hour, minute), r) =>
        let sign := if c = '-' ∧ (hour, minute) ≠ (0, 0) then "-" else "+"
        (sign ++ pad 2 hour ++ ":" ++ pad 2 minute, r)
      | none => ("", cs)
    else ("", cs)

/-- Reads the time after a date, if there is one. -/
def readTimeAfter (date : String) (cs : List Char) : String × List Char :=
  match cs with
  | [] => (date, [])
  | c :: r =>
    if c = 'T' ∨ c = 't' ∨ c = ' ' then
      match readTime r with
      | some (time, r) =>
        let (offset, r) := readOffset r
        (date ++ " " ++ time ++ offset, r)
      | none => (date, cs)
    else (date, cs)

/-- Whether a date or a time is written here. -/
def startsMoment (cs : List Char) : Bool := (readDate cs).isSome || (readTime cs).isSome

/-- Reads a date or a time; nothing for a date that no calendar has. -/
def readMoment (cs : List Char) : Option (Value × List Char) :=
  match readDate cs with
  | some (date, r) => do
    guard date.isValid
    let (s, r) := readTimeAfter date.text r
    return (.moment s, r)
  | none => do
    let (s, r) ← readTime cs
    return (.moment s, r)

end DocTemplate.Toml
