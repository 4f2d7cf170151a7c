import DocTemplate.Scan.Variables

/-!
# Finishing a scan

What is known only at the end of the line: a name without more is a variable, only functions keep
parameters, and a function with a void type returns nothing.
-/

namespace DocTemplate.Language

/-- The final form of a type.  In PHP a nullable type is a union with null, or `mixed`. -/
def formatType (l : Language) (mixed : Bool) (type : Option String) : Option String :=
  match l, type with
  | .php, some type =>
    if isNullable type then some (if mixed then "mixed" else dropNullable type ++ "|null")
    else some type
  | _, type => type

/-- Whether a type is one of those of functions that return nothing. -/
def isVoid (l : Language) (type : Option String) : Bool := type.any l.grammar.voidTypes.contains

/-- Declares what the end of the line shows to be a variable. -/
def settleKind (l : Language) (s : Scan) : Scan :=
  if s.decl.kind.isSome then s
  else
    match l with
    | .javascript | .typescript =>
      if s.decl.name ≠ "" ∨ s.candidate ≠ "" then
        typeVariable { s with decl := (s.decl.setName s.candidate).declare .var }
      else s
    | .c | .java => if s.candidate ≠ "" then declareTyped s else s
    | _ => s

/-- In the C family a single `void` is an empty parameter list. -/
def settleParameters (l : Language) (d : Declaration) : List Parameter :=
  if d.kind ≠ some .function then []
  else
    match d.parameters with
    | [p] => if l.isCFamily ∧ p.name = "" ∧ l.isVoid p.type then [] else [p]
    | ps => ps

/-- Whether the finished declaration returns something. -/
def settleReturns (l : Language) (d : Declaration) : Bool :=
  match d.kind with
  | some .function =>
    d.returns.present && !l.isVoid d.returns.type && !(l = .java && !d.returns.hasType)
  | some .classLike => d.returns.present && l ≠ .php
  | _ => false

def finish (l : Language) (mixed : Bool) (s : Scan) : Declaration :=
  let d := (l.settleKind s).decl
  { name := d.name
    kind := d.kind
    parameters := (l.settleParameters d).map fun p => { p with type := l.formatType mixed p.type }
    returns :=
      { present := l.settleReturns d, type := l.formatType mixed d.returns.type } }

/-! ## Lemmas -/

theorem formatType_none (l : Language) (mixed : Bool) : l.formatType mixed none = none := by
  cases l <;> rfl

theorem formatType_of_ne_php {l : Language} (hl : l ≠ .php) (mixed : Bool) (type : Option String) :
    l.formatType mixed type = type := by
  cases l with
  | php => exact absurd rfl hl
  | _ => rfl

theorem isVoid_iff (l : Language) (type : Option String) :
    l.isVoid type = true ↔ ∃ x ∈ l.grammar.voidTypes, type = some x := by
  unfold isVoid
  cases type with
  | none => simp
  | some y => simp

/-- Where `void` alone is the type of functions that return nothing. -/
theorem isVoid_eq {l : Language} (hl : l.grammar.voidTypes = ["void"]) (type : Option String) :
    l.isVoid type = decide (type = some "void") := by
  rw [Bool.eq_iff_iff, isVoid_iff, hl]
  simp

end DocTemplate.Language
