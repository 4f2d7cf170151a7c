import DocTemplate.Grammar.Builtin

/-!
# Languages

The languages whose declarations can be read, and the identifiers by which they are known.  A
`plain` language is given by a grammar table alone and has no rules of its own.
-/

namespace DocTemplate

inductive Language where
  | plain (grammar : Grammar)
  | c
  | java
  | javascript
  | php
  | scss
  | typescript

namespace Language

/-! Patterns of words cannot be compared, and so plain languages cannot.  A language with rules of
its own can be told from all others. -/

instance decidableEqJava : (l : Language) → Decidable (l = .java)
  | .java => isTrue rfl
  | .plain _ | .c | .javascript | .php | .scss | .typescript => isFalse nofun

instance decidableEqPhp : (l : Language) → Decidable (l = .php)
  | .php => isTrue rfl
  | .plain _ | .c | .java | .javascript | .scss | .typescript => isFalse nofun

instance decidableEqScss : (l : Language) → Decidable (l = .scss)
  | .scss => isTrue rfl
  | .plain _ | .c | .java | .javascript | .php | .typescript => isFalse nofun

def grammar : Language → Grammar
  | .plain g => g
  | .c => .c
  | .java => .java
  | .javascript => .javascript
  | .php => .php
  | .scss => .scss
  | .typescript => .typescript

/-- Languages that declare functions without a word for them, by `(`, `function` or `=>`. -/
def isScript : Language → Bool
  | .javascript | .typescript => true
  | _ => false

/-- Languages in which a type and a name make a declaration. -/
def isCFamily : Language → Bool
  | .c | .java => true
  | _ => false

/-- The identifiers of languages, in alphabetical order.  Vue components are written in
TypeScript. -/
def registry : List (String × Language) :=
  [("c", .c), ("java", .java), ("javascript", .javascript), ("php", .php), ("scss", .scss),
    ("typescript", .typescript), ("vue", .typescript)]

def ids : List String := registry.map (·.1)

def ofId? (id : String) : Option Language := registry.lookup id

end Language

end DocTemplate
