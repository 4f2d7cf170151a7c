import DocTemplate.Decimal

/-!
# Shortest texts of doubles

A double is a number `m * 2 ^ e` with `m < 2 ^ 53` and `-1074 ≤ e ≤ 971`.  `Double.nearest` is the
double that a fraction is rounded to, and `Decimal.shortText` writes the double of a decimal with
the fewest digits that are read as the same double:

    1.10       1.1
    1e5        100000.0
    1e23       1e+23
    0.00001    1e-05
-/

namespace DocTemplate

/-- A fraction of natural numbers. -/
structure Fraction where
  num : Nat
  den : Nat
  deriving DecidableEq, Repr

namespace Fraction

/-- A fraction times a power of `base`. -/
def scale (f : Fraction) (base : Nat) (e : Int) : Fraction :=
  if 0 ≤ e then { f with num := f.num * Nat.pow base e.toNat }
  else { f with den := f.den * Nat.pow base (-e).toNat }

/-- The nearest natural number; a half goes to the even neighbour. -/
def round (f : Fraction) : Nat :=
  let q := f.num / f.den
  let r := f.num % f.den
  if 2 * r < f.den ∨ (2 * r = f.den ∧ q % 2 = 0) then q else q + 1

/-- The two natural numbers around a fraction, the nearest first. -/
def neighbours (f : Fraction) : List Nat :=
  let q := f.num / f.den
  if f.round = q then [q, q + 1] else [q + 1, q]

/-- The greatest power of two that is not above a fraction. -/
def log2 (f : Fraction) : Int :=
  let e : Int := (f.num.log2 : Int) - f.den.log2
  let g := f.scale 2 (-e)
  if g.den ≤ g.num then e else e - 1

end Fraction

/-- A double without its sign. -/
structure Double where
  mantissa : Nat
  exponent : Int
  deriving DecidableEq, Repr

namespace Double

/-- The nearest double, as if exponents had no upper end; ties go to the even mantissa. -/
def nearest (f : Fraction) : Double :=
  let e := max (f.log2 - 52) (-1074)
  let m := (f.scale 2 (-e)).round
  if m = Nat.pow 2 53 then ⟨Nat.pow 2 52, e + 1⟩ else ⟨m, e⟩

def isInfinite (x : Double) : Bool := 971 < x.exponent

def value (x : Double) : Fraction := (Fraction.mk x.mantissa 1).scale 2 x.exponent

/-- A decimal `n * 10 ^ e` of the fewest digits that is read as a double below `10 ^ top`. -/
def shortest? (x : Double) (top : Int) : Option (Nat × Int) :=
  (List.range 20).findSome? fun (j : Nat) =>
    let e := top - j
    let reads (n : Nat) : Bool := nearest ((Fraction.mk n 1).scale 10 e) = x
    ((x.value.scale 10 (-e)).neighbours.find? reads).map fun n => (n, e)

end Double

namespace Decimal

/-- The digits of `n * 10 ^ e`: positional from `1e-4` on and below `1e16`, else with an
exponent. -/
def textOf (n : Nat) (e : Int) : String :=
  let ds := Nat.toDigits 10 n
  let zeros (k : Int) := List.replicate k.toNat '0'
  let point : Int := ds.length + e
  String.ofList <|
    if -4 < point ∧ point ≤ 16 then
      if 0 ≤ e then ds ++ zeros e ++ ['.', '0']
      else if 0 < point then ds.take point.toNat ++ '.' :: ds.drop point.toNat
      else ['0', '.'] ++ zeros (-point) ++ ds
    else
      let power := Nat.toDigits 10 (point - 1).natAbs
      ds.take 1 ++ (if ds.length = 1 then [] else '.' :: ds.drop 1) ++
        ['e', if point < 1 then '-' else '+'] ++ zeros (2 - power.length) ++ power

/-- The text of the double of a decimal. -/
def shortText (d : Decimal) : String :=
  let top : Int := (Nat.toDigits 10 d.digits).length + d.exponent
  let body :=
    if d.digits = 0 ∨ top < -330 then "0.0"
    else if 310 < top then "inf"
    else
      let x := Double.nearest ((Fraction.mk d.digits 1).scale 10 d.exponent)
      if x.isInfinite then "inf"
      else if x.mantissa = 0 then "0.0"
      else
        let (n, e) := (x.shortest? top).getD (d.digits, d.exponent)
        textOf n e
  (if d.negative then "-" else "") ++ body

end Decimal

end DocTemplate
