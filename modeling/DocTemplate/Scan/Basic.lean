import DocTemplate.Declaration
import DocTemplate.Token.Basic

/-!
# Scans

A `Scan` is the state of reading a declaration from left to right: the record so far and what is
expected of the tokens to come.  A reader of one token answers with an `Outcome`: whether it took
the token, and the scan after it.
-/

namespace DocTemplate

structure Scan where
  decl : Declaration := {}
  /-- The name of the declaration may come next. -/
  nameDue : Bool := false
  /-- Inside the parameter list. -/
  listOpen : Bool := false
  /-- In a parameter whose type is being read, or due. -/
  typeDue : Bool := false
  returnDue : Bool := false
  /-- Inside the default value of a parameter. -/
  inValue : Bool := false
  /-- Nothing but the parameter list can change the record. -/
  done : Bool := false
  /-- Parentheses open in the parameter list, its own included. -/
  parenDepth : Int := 0
  /-- Right after the start of a parameter. -/
  slotStart : Bool := false
  /-- Brackets open in a destructuring group. -/
  groupDepth : Int := 0
  /-- The next name in the group is bound. -/
  bindingDue : Bool := false
  /-- The next name in the group replaces the one bound last. -/
  rebinding : Bool := false
  /-- The parameter was a group that is closed. -/
  groupClosed : Bool := false
  /-- The type read before the name it belongs to. -/
  typeText : String := ""
  /-- The name that a declaration without a keyword will have. -/
  candidate : String := ""
  /-- After the equals sign of an assignment. -/
  assigned : Bool := false
  variableTypeDue : Bool := false
  /-- Angle brackets open in a type. -/
  angleDepth : Int := 0
  /-- Square brackets and braces open in a default value. -/
  valueDepth : Int := 0
  /-- Where the token taken last into a default value ends. -/
  valueStop : Int := -1
  deriving DecidableEq, Repr

structure Outcome where
  taken : Bool
  scan : Scan
  deriving DecidableEq, Repr

namespace Scan

def take (s : Scan) : Outcome := ⟨true, s⟩

def leave (s : Scan) : Outcome := ⟨false, s⟩

/-- Goes on to the next parameter. -/
def nextSlot (s : Scan) : Scan :=
  { s with typeDue := false, inValue := false, slotStart := true, valueDepth := 0,
           groupClosed := false }

def openList (s : Scan) : Scan := nextSlot { s with listOpen := true }

def closeList (s : Scan) : Scan :=
  { s with listOpen := false, typeDue := false, inValue := false, parenDepth := 0,
           valueDepth := 0, groupDepth := 0 }

/-- Goes into the default value of the last parameter. -/
def enterValue (s : Scan) : Scan := { s with inValue := true, valueStop := -1 }

/-- Adds a token to the default value of the last parameter, after a space if there was a gap. -/
def appendValue (s : Scan) (t : Token) : Scan :=
  if s.decl.hasParameter then
    { s with
      decl := s.decl.modifyLastParameter fun p =>
        let gap := if p.value ≠ "" ∧ s.valueStop < t.start then " " else ""
        { p with value := p.value ++ gap ++ t.text }
      valueStop := t.stop }
  else s

/-- Nothing is left to read. -/
def finished (s : Scan) : Bool := s.done && !s.listOpen

end Scan

end DocTemplate
