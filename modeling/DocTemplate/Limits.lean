/-!
# Limits

What is well formed may still be too much for the machine that a program runs on.  How much it can
take is data of its own (`Limits`), which the functions that may fail for it are given.
-/

namespace DocTemplate

/-- What a machine can take. -/
structure Limits where
  /-- The widest gap between columns whose spaces can be kept. -/
  keptGap : Nat
  /-- The widest gap whose spaces can be counted. -/
  countedGap : Nat
  /-- The digits that a decimal integer may have. -/
  digits : Nat
  /-- How deep values may be nested: the sum of the weights of the arrays and tables around them. -/
  valueDepth : Nat
  arrayWeight : Nat
  tableWeight : Nat
  /-- How many nodes of a syntax tree may be inside of each other. -/
  treeDepth : Nat
  deriving DecidableEq, Repr

/-- The limits of a small machine. -/
def Limits.small : Limits where
  keptGap := 1000
  countedGap := 10000
  digits := 20
  valueDepth := 40
  arrayWeight := 2
  tableWeight := 3
  treeDepth := 40

/-- Which limit is gone beyond. -/
inductive Limit where
  /-- An integer has `count` digits where it may have `most`. -/
  | digits (most count : Nat)
  /-- Values or nodes are nested too deep. -/
  | depth
  /-- A gap is too wide to be counted. -/
  | uncountable
  /-- A gap is too wide to be kept. -/
  | outOfMemory
  deriving DecidableEq, Repr

def Limit.message : Limit → String
  | .digits most count =>
    "Exceeds the limit (" ++ toString most ++ " digits) for integer string conversion: " ++
      "value has " ++ toString count ++ " digits; use sys.set_int_max_str_digits() to increase " ++
      "the limit"
  | .depth => "maximum recursion depth exceeded"
  | .uncountable => "cannot fit 'int' into an index-sized integer"
  | .outOfMemory => ""

end DocTemplate
