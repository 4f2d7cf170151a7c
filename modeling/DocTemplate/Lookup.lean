import DocTemplate.Declaration
import DocTemplate.Error
import DocTemplate.Language.Basic

/-!
# Looking things up by name

Languages, kinds and categories by the words that stand for them, and the error where a word stands
for none.
-/

namespace DocTemplate

/-- The language with an identifier. -/
def Language.find (id : String) : Except Error Language :=
  match ofId? id with
  | some l => .ok l
  | none => .error (.unsupportedLanguage id)

/-- The language that a value stands for. -/
def Language.ofJson (id : Json) : Except Error Language :=
  match id with
  | .arr _ | .obj _ => .error (.compoundLanguage id.shape)
  | _ => find id.bare

/-- The kind of declaration that a value stands for. -/
def Kind.ofJson (label : Json) : Except Error Kind :=
  match label with
  | .str s =>
    match ofLabel? s with
    | some k => .ok k
    | none => .error (.unknownKind label.shown)
  | _ => .error (.unknownKind label.shown)

/-- A grammar in which no reserved word is a built-in type. -/
def Grammar.checked (g : Grammar) : Except Error Grammar :=
  match g.clash? with
  | none => .ok g
  | some clash => .error (.grammarClash clash)

/-- Whether a text is in the category with a label; in any category if there is no label. -/
def Grammar.hasIn (g : Grammar) (s : String) : Option String → Except Error Bool
  | none => .ok (g.hasAny s)
  | some label =>
    match Category.ofLabel? label with
    | some category => .ok (g.has category s)
    | none => .error (.unknownCategory label)

end DocTemplate
