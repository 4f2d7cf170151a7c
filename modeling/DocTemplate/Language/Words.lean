import DocTemplate.Language.Basic

/-!
# Word classes

How a language takes a text that stands alone: as a name, as a type, as the name of a variable.
Reserved words are none of these.
-/

namespace DocTemplate.Language

def isReserved (l : Language) (s : String) : Bool := l.grammar.isReserved s

/-- Whether a text starts like an identifier. -/
def beginsWord (l : Language) (s : String) : Bool := l.grammar.beginsWord s

def isWord (l : Language) (s : String) : Bool := l.grammar.isWord s

def isName (l : Language) (s : String) : Bool := l.isWord s && !l.isReserved s

/-! ## Types -/

/-- A text without the question mark that makes a type nullable. -/
def dropNullable (s : String) : String :=
  match s.toList with
  | '?' :: cs => String.ofList cs
  | _ => s

def isNullable (s : String) : Bool := s.toList.head? = some '?'

/-- The letters of class names in PHP. -/
def classNameFirst : CharSet := (CharSet.letters "_").extend '\x80' '\xff'

def classNameLater : CharSet := ((CharSet.alphanumerics "_").extend '\x80' '\xff').extend '\\' '\\'

/-- A class name of PHP: a name with backslashes anywhere.  A line break at the end is allowed. -/
def isClassName (s : String) : Bool :=
  let body := match s.toList with
    | '\\' :: cs => cs
    | cs => cs
  match body with
  | [] => false
  | first :: rest =>
    let rest := if rest.getLast? = some '\n' then rest.dropLast else rest
    classNameFirst.has first && rest.all classNameLater.has

def isUpperAscii (c : Char) : Bool := 'A' ≤ c && c ≤ 'Z'

/-- Whether a text is a type where a type may stand.

* PHP: a built-in type or a class name, nullable or not.
* TypeScript and JavaScript: all that starts like an identifier, and bracketed types.
* C: the built-in types.  Java: these and capitalized identifiers, with anything after them.
* SCSS has no types. -/
def isType (l : Language) (s : String) : Bool :=
  match l with
  | .plain g => !g.isReserved s && (g.has .typeWord s || g.isWord s)
  | .c => l.grammar.has .typeWord s
  | .java =>
    !l.isReserved s && (l.grammar.word.leading? s).any fun base =>
      l.grammar.has .typeWord base || base.toList.head?.any isUpperAscii
  | .javascript | .typescript =>
    !l.isReserved s && (l.grammar.has .typeWord s || l.beginsWord s ||
      (match s.toList with
        | first :: _ :: _ => first = '\x7b' || first = '[' || first = '('
        | _ => false))
  | .php =>
    let s := dropNullable s
    !l.isReserved s && (l.grammar.has .typeWord s || isClassName s)
  | .scss => false

/-- Whether a text can begin a type in the C family: in C any name can be that of a type. -/
def startsType (l : Language) (s : String) : Bool :=
  match l with
  | .c => l.isType s || l.isName s
  | _ => l.isType s

/-! ## Variables -/

/-- A dollar sign and something after it. -/
def isDollarName (s : String) : Bool :=
  match s.toList with
  | '$' :: _ :: _ => true
  | _ => false

def isVariableName (l : Language) (s : String) : Bool :=
  match l with
  | .php | .scss => isDollarName s
  | .javascript | .typescript => l.isName s && s ≠ "this"
  | _ => l.isName s

/-! ## Lemmas -/

theorem isType_empty (l : Language) : l.isType "" = false := by
  cases l <;> rfl

theorem beginsWord_empty (l : Language) : l.beginsWord "" = false := rfl

theorem isName_empty (l : Language) : l.isName "" = false := rfl

theorem ne_empty_of_isName {l : Language} {s : String} (h : l.isName s = true) : s ≠ "" := by
  rintro rfl
  rw [isName_empty] at h
  cases h

theorem mem_keywords_of_isReserved {l : Language} {s : String} (h : l.isReserved s = true) :
    s ∈ l.grammar.keywords := by
  obtain ⟨c, hc, h⟩ := List.any_eq_true.1 h
  exact List.mem_flatMap.2 ⟨c, hc, Grammar.mem_words_of_has h⟩

theorem isReserved_of_isName {l : Language} {s : String} (h : l.isName s = true) :
    l.isReserved s = false := by
  unfold isName at h
  simpa using (Bool.and_eq_true_iff.1 h).2

end DocTemplate.Language
