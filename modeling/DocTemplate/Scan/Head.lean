import DocTemplate.Scan.Basic
import DocTemplate.Scan.TypeText

/-!
# Heads of declarations

The readers of what comes before and after a parameter list: the word and the name of a class, the
word, the name and the return type of a function, and the type and the name that make a declaration
in the C family.
-/

namespace DocTemplate.Language

def readClass (l : Language) (t : Token) (s : Scan) : Outcome :=
  if l.grammar.has .classWord t.text then
    Scan.take { s with decl := s.decl.declare .classLike, nameDue := true }
  else if s.nameDue ∧ s.decl.kind = some .classLike ∧ l.isName t.text then
    Scan.take { s with decl := s.decl.setName t.text, nameDue := false, done := true }
  else s.leave

/-- Reads the name, the return type and the end of a function. -/
def readSignature (l : Language) (t : Token) (s : Scan) : Outcome :=
  if s.listOpen then s.leave
  else if t.is .openBracket ∧ s.decl.returns.hasType ∧ ¬ s.returnDue then
    Scan.take { s with decl := s.decl.appendReturnType "[]" }
  else if t.is .closeBracket ∧ s.decl.returns.hasType then s.take
  else if s.nameDue ∧ l.isName t.text then
    Scan.take { s with decl := s.decl.setName t.text, nameDue := false }
  else if t.is .colon then Scan.take { s with returnDue := true }
  else if s.returnDue ∧ (l.isType t.text ∨ l.beginsWord t.text) then
    Scan.take { s with decl := s.decl.setReturnType (some t.text), returnDue := false }
  else if t.is .openBrace ∨ t.is .semicolon then
    Scan.take { s with nameDue := false, done := true }
  else s.leave

/-! ## Functions with a word -/

def readWordFunction (l : Language) (t : Token) (s : Scan) : Outcome :=
  if l.grammar.has .functionWord t.text then
    Scan.take { s with decl := s.decl.declare .function, nameDue := true }
  else if s.decl.kind = some .function then l.readSignature t s
  else s.leave

/-- A mixin of SCSS is read as a function that returns nothing. -/
def readSheetFunction (l : Language) (t : Token) (s : Scan) : Outcome :=
  let o := l.readWordFunction t s
  if t.text = "@mixin" then { o with scan.decl := o.scan.decl.setReturns false } else o

/-! ## Functions without a word -/

/-- Declares a function by the name found for it. -/
def nameFunction (s : Scan) (name : String) : Scan :=
  { s with decl := (s.decl.declare .function).setName name }

/-- TypeScript and JavaScript: a function is declared by its word, by an arrow, or by a parenthesis
right after a name that nothing was assigned to.  The parenthesis is left to the parameter list. -/
def readScriptFunction (l : Language) (t : Token) (s : Scan) : Outcome :=
  if l.grammar.has .functionWord t.text then
    let s := nameFunction s s.candidate
    Scan.take { s with nameDue := s.nameDue || s.decl.name = "" }
  else
    match s.decl.kind with
    | none =>
      if t.is .arrow then (nameFunction s s.candidate).take
      else if t.is .openParen ∧ s.candidate ≠ "" ∧ ¬ s.assigned then
        (nameFunction s s.candidate).leave
      else s.leave
    | some .function => if t.is .arrow then s.take else l.readSignature t s
    | some _ => s.leave

/-- A text, if it is not empty. -/
def nonempty (s : String) : Option String := if s = "" then none else some s

/-- The C family: reads a type and a name.  A parenthesis after them shows a function, and is left
to the parameter list. -/
def readTypeAndName (l : Language) (t : Token) (s : Scan) : Outcome :=
  if t.is .openParen then
    if s.candidate ≠ "" then
      let s := nameFunction s s.candidate
      Scan.leave { s with decl := s.decl.setReturnType (nonempty s.typeText) }
    else s.leave
  else if s.candidate ≠ "" then s.leave
  else
    match l.extendType s.typeText s.angleDepth t with
    | some (type, depth) => Scan.take { s with typeText := type, angleDepth := depth }
    | none =>
      if s.typeText ≠ "" ∧ l.isName t.text then Scan.take { s with candidate := t.text }
      else s.leave

/-- In Java, type parameters may come first, and a class name right before the parameter list is
that of a constructor. -/
def readDeclarator (l : Language) (t : Token) (s : Scan) : Outcome :=
  match l with
  | .java =>
    if s.typeText = "" ∧ (t.is .openAngle ∨ s.angleDepth ≠ 0) then
      Scan.take { s with angleDepth := angleStep t s.angleDepth }
    else if t.is .openParen ∧ s.candidate = "" ∧ l.isWord s.typeText then
      (nameFunction s s.typeText).leave
    else l.readTypeAndName t s
  | _ => l.readTypeAndName t s

def readTypedFunction (l : Language) (t : Token) (s : Scan) : Outcome :=
  match s.decl.kind with
  | none => l.readDeclarator t s
  | some .function => l.readSignature t s
  | some _ => s.leave

def readFunction (l : Language) (t : Token) (s : Scan) : Outcome :=
  match l with
  | .plain _ | .php => l.readWordFunction t s
  | .scss => l.readSheetFunction t s
  | .javascript | .typescript => l.readScriptFunction t s
  | .c | .java => l.readTypedFunction t s

end DocTemplate.Language
