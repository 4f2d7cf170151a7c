/-!
# Decimal numbers

A number as it is written in base ten.  Nothing is rounded.
-/

namespace DocTemplate

/-- The number `± digits · 10 ^ exponent`. -/
structure Decimal where
  negative : Bool := false
  digits : Nat
  exponent : Int := 0
  deriving DecidableEq, Repr

namespace Decimal

/-- The text of a decimal in scientific form. -/
def text (d : Decimal) : String :=
  (if d.negative then "-" else "") ++ toString d.digits ++ "e" ++ toString d.exponent

/-! ## Digits -/

def isDigit (c : Char) : Bool := '0' ≤ c && c ≤ '9'

def isHexDigit (c : Char) : Bool := isDigit c || ('a' ≤ c && c ≤ 'f') || ('A' ≤ c && c ≤ 'F')

/-- The value of a digit in any base up to sixteen. -/
def digitValue (c : Char) : Nat :=
  if isDigit c then c.toNat - '0'.toNat
  else if 'a' ≤ c && c ≤ 'f' then c.toNat - 'a'.toNat + 10
  else c.toNat - 'A'.toNat + 10

def ofDigits (base : Nat) (ds : List Char) : Nat :=
  ds.foldl (fun n c => n * base + digitValue c) 0

/-- The decimal with the given digits before and after the point, times a power of ten. -/
def ofParts (negative : Bool) (whole fraction : List Char) (exponent : Int) : Decimal :=
  { negative
    digits := ofDigits 10 (whole ++ fraction)
    exponent := exponent - fraction.length }

end Decimal

end DocTemplate
