import DocTemplate.Scan.Head

/-!
# Parameter lists

The reader of the tokens between the parentheses of a function.  It follows the nesting of
parentheses, goes from one parameter to the next at commas of the outermost level, collects default
values as they are written, and binds the names of destructuring groups.
-/

namespace DocTemplate.Language

/-- Whether parameters are recorded.  In TypeScript and JavaScript they are also recorded after an
assignment, where an arrow may still show a function. -/
def collects (l : Language) (s : Scan) : Bool :=
  s.decl.kind = some .function || (l.isScript && s.decl.kind.isNone && s.assigned)

/-! ## Single parameters -/

/-- Type before name: `int $bar`, `$bar`. -/
def readTypedSlot (l : Language) (t : Token) (s : Scan) : Outcome :=
  if s.typeDue ∧ s.decl.lastHasType ∧ t.is .openBracket then
    Scan.take { s with decl := s.decl.arrayLastParameter }
  else if s.typeDue ∧ s.decl.lastHasType ∧ t.is .closeBracket then s.take
  else if s.typeDue ∧ l.isVariableName t.text then
    Scan.take
      { s with
        decl := s.decl.modifyLastParameter fun p => { p with name := t.text }
        typeDue := false }
  else if ¬ s.typeDue ∧ l.isVariableName t.text then
    Scan.take { s with decl := s.decl.addParameter { name := t.text } }
  else if ¬ s.typeDue ∧ l.isType t.text then
    Scan.take { s with decl := s.decl.addParameter { type := some t.text }, typeDue := true }
  else s.leave

/-- SCSS: `$bar`, `$bar: value`. -/
def readSheetSlot (l : Language) (t : Token) (s : Scan) : Outcome :=
  if t.is .colon ∧ s.decl.hasParameter then s.enterValue.take else l.readTypedSlot t s

/-- Name before type: `bar`, `bar: number`, `bar?: string[]`.  The type of a destructuring group is
not kept. -/
def readScriptSlot (l : Language) (t : Token) (s : Scan) : Outcome :=
  if s.typeDue then
    let s := { s with typeDue := false }
    if s.groupClosed then s.take
    else
      let typed := s.decl.modifyLastParameter fun p => { p with type := some t.text }
      Scan.take { s with decl := typed }
  else if t.is .colon then Scan.take { s with typeDue := true }
  else if t.is .question then s.take
  else if t.is .openBracket ∧ s.decl.lastHasType then
    Scan.take { s with decl := s.decl.arrayLastParameter }
  else if t.is .closeBracket then s.take
  else if s.slotStart ∧ l.isVariableName t.text then
    Scan.take { s with decl := s.decl.addParameter { name := t.text } }
  else s.leave

/-- The C family: `int bar`, `const char *baz`, `int values[]`. -/
def readDeclaratorSlot (l : Language) (t : Token) (s : Scan) : Outcome :=
  match s.typeDue, s.decl.lastParameter? with
  | true, some last =>
    match l.extendType (last.type.getD "") s.angleDepth t with
    | some (type, depth) =>
      Scan.take
        { s with
          decl := s.decl.modifyLastParameter fun p => { p with type := some type }
          angleDepth := depth }
    | none =>
      if l.isVariableName t.text then
        Scan.take
          { s with
            decl := s.decl.modifyLastParameter fun p => { p with name := t.text }
            typeDue := false }
      else s.leave
  | _, last? =>
    match if s.slotStart then l.extendType "" s.angleDepth t else none with
    | some (type, depth) =>
      Scan.take
        { s with
          decl := s.decl.addParameter { type := some type }
          typeDue := true
          angleDepth := depth }
    | none =>
      if t.is .openBracket ∧ last?.any (fun p => p.name ≠ "" && p.hasType) then
        Scan.take { s with decl := s.decl.arrayLastParameter }
      else if t.is .closeBracket then s.take
      else s.leave

def readSlot (l : Language) (t : Token) (s : Scan) : Outcome :=
  match l with
  | .plain _ | .php => l.readTypedSlot t s
  | .scss => l.readSheetSlot t s
  | .javascript | .typescript => l.readScriptSlot t s
  | .c | .java => l.readDeclaratorSlot t s

/-! ## Destructuring groups -/

/-- Reads a token of `{a, b}` or `[a, b]`: each bound name becomes a parameter. -/
def readGroup (l : Language) (t : Token) (s : Scan) : Scan :=
  if t.opensGroup then
    { s with groupDepth := s.groupDepth + 1, bindingDue := true, rebinding := false }
  else if t.closesGroup then
    let s := { s with groupDepth := s.groupDepth - 1, bindingDue := false }
    if s.groupDepth = 0 then { s with groupClosed := true, slotStart := false } else s
  else if t.is .comma then { s with bindingDue := true, rebinding := false }
  else if t.is .colon then { s with rebinding := true }
  else if l.isName t.text ∧ (s.bindingDue ∨ s.rebinding) then
    let decl :=
      if s.rebinding ∧ s.decl.hasParameter then
        s.decl.modifyLastParameter fun p => { p with name := t.text }
      else s.decl.addParameter { name := t.text }
    { s with decl, bindingDue := false, rebinding := false }
  else { s with bindingDue := false, rebinding := false }

/-! ## The list -/

/-- Reads a token of a default value.  A comma outside all brackets ends the value. -/
def readValue (t : Token) (s : Scan) : Scan :=
  if t.is .comma ∧ s.parenDepth = 1 ∧ s.valueDepth = 0 then s.nextSlot
  else if t.opensGroup then Scan.appendValue { s with valueDepth := s.valueDepth + 1 } t
  else if t.closesGroup ∧ s.valueDepth ≠ 0 then
    Scan.appendValue { s with valueDepth := s.valueDepth - 1 } t
  else s.appendValue t

/-- Reads a token that does not open or close the list. -/
def readInList (l : Language) (t : Token) (s : Scan) : Outcome :=
  if ¬ s.listOpen then s.leave
  else if s.inValue then (readValue t s).take
  else if s.groupDepth ≠ 0 ∨ (s.slotStart ∧ t.opensGroup) then (l.readGroup t s).take
  else if t.is .comma ∧ s.angleDepth = 0 then s.nextSlot.take
  else if t.is .equals ∧ s.decl.hasParameter then
    Scan.take { s.enterValue with typeDue := false }
  else
    let o := l.readSlot t s
    if o.taken then Scan.take { o.scan with slotStart := false } else o

def readParameters (l : Language) (t : Token) (s : Scan) : Outcome :=
  if ¬ l.collects s then s.leave
  else if t.is .openParen then
    let s := { s with parenDepth := s.parenDepth + 1 }
    if s.parenDepth = 1 then s.openList.take else l.readInList t s
  else if t.is .closeParen ∧ s.parenDepth ≠ 0 then
    let s := { s with parenDepth := s.parenDepth - 1 }
    if s.parenDepth = 0 then s.closeList.take else l.readInList t s
  else l.readInList t s

end DocTemplate.Language
