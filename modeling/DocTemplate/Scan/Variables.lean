import DocTemplate.Scan.Head

/-!
# Variables

The readers of tokens that declare a variable, while nothing else is declared.
-/

namespace DocTemplate.Language

/-- Gives a variable the type read before its name, if there was one. -/
def typeVariable (s : Scan) : Scan :=
  if s.typeText = "" then s else { s with decl := s.decl.setReturnType (some s.typeText) }

/-- A word and a name, or a name alone where no word is needed. -/
def readWordVariable (l : Language) (t : Token) (s : Scan) : Outcome :=
  if s.decl.kind = some .var ∧ s.nameDue then
    if t.text = "" then s.take
    else Scan.take { s with decl := s.decl.setName t.text, nameDue := false, done := true }
  else if s.decl.kind.isSome then s.leave
  else if l.grammar.has .variableWord t.text then
    Scan.take { s with decl := s.decl.declare .var, nameDue := true }
  else if ¬ l.grammar.needsVariableWord ∧ l.isVariableName t.text then
    let s := { s with decl := (s.decl.setName t.text).declare .var }
    Scan.take { typeVariable s with done := true }
  else if l.isType t.text then Scan.take { s with typeText := t.text }
  else s.leave

/-- TypeScript and JavaScript: the last name before `=` or `(` is kept as a candidate, since the
line may still declare a function. -/
def readScriptVariable (l : Language) (t : Token) (s : Scan) : Outcome :=
  if s.decl.kind.isSome then s.leave
  else if s.variableTypeDue then
    Scan.take { s with variableTypeDue := false, typeText := t.text }
  else if l.grammar.has .variableWord t.text then Scan.take { s with nameDue := true }
  else if s.nameDue ∧ l.isName t.text then
    Scan.take { s with decl := s.decl.setName t.text, nameDue := false }
  else if t.is .equals then Scan.take { s with assigned := true }
  else if t.is .colon ∧ (s.decl.name ≠ "" ∨ s.candidate ≠ "") ∧ ¬ s.assigned then
    Scan.take { s with variableTypeDue := true }
  else if s.decl.name = "" ∧ ¬ s.assigned ∧ l.isName t.text then
    Scan.take { s with candidate := t.text }
  else s.leave

/-- Declares the variable whose type and name were read. -/
def declareTyped (s : Scan) : Scan :=
  { s with
    decl := ((s.decl.declare .var).setName s.candidate).setReturnType (nonempty s.typeText) }

/-- Whether a token ends the name of a variable in the C family. -/
def endsVariable (t : Token) : Bool :=
  t.spells .equals || t.spells .semicolon || t.spells .comma || t.spells .openBracket

def readTypedVariable (t : Token) (s : Scan) : Outcome :=
  if s.decl.kind.isSome ∨ s.candidate = "" then s.leave
  else if endsVariable t then
    let s := { declareTyped s with done := true }
    if t.is .openBracket then Scan.take { s with decl := s.decl.appendReturnType "[]" }
    else s.take
  else s.leave

def readVariable (l : Language) (t : Token) (s : Scan) : Outcome :=
  match l with
  | .plain _ | .php | .scss => l.readWordVariable t s
  | .javascript | .typescript => l.readScriptVariable t s
  | .c | .java => readTypedVariable t s

end DocTemplate.Language
