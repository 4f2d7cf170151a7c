import DocTemplate.Comment
import DocTemplate.Text.Word

/-!
# Grammar tables

A `Grammar` holds what the declaration reader knows of a language: its reserved words by category,
its built-in types, the pattern of its identifiers, its comment style, and how a syntax tree of it
is cut into tokens.

A word reserved in any category must not be a built-in type as well; `clash?` gives the first
category that breaks this rule.
-/

namespace DocTemplate

structure Grammar where
  name : String
  /-- The name by which the syntax tree builder knows the language. -/
  treeLanguage : String
  classWords : List String := []
  functionWords : List String := []
  modifierWords : List String := []
  variableWords : List String := []
  typeWords : List String := []
  /-- The pattern of identifiers. -/
  word : WordPattern := .standard
  /-- Whether a variable is only declared after one of the variable words. -/
  needsVariableWord : Bool := true
  /-- Return types of functions that return nothing. -/
  voidTypes : List String := []
  comment : Comment.Style := {}
  /-- The tag documenting a variable; none for languages that use no such tag. -/
  variableTag : Option String := some "@var"
  /-- Kinds of tree nodes that are one token, whatever is below them. -/
  wholeNodes : List String := []
  /-- Kinds of tree nodes that give no token. -/
  skippedNodes : List String := ["comment"]
  /-- Texts of tokens that are glued to the token right after them. -/
  sigils : List String := []
  /-- Text put before a line of code so that the tree builder accepts it. -/
  preamble : String := ""

namespace Grammar

inductive Category where
  | classWord
  | functionWord
  | modifierWord
  | variableWord
  | typeWord
  deriving DecidableEq, Repr

namespace Category

def all : List Category := [.classWord, .functionWord, .modifierWord, .variableWord, .typeWord]

/-- The categories of words that cannot be names. -/
def reserved : List Category := [.classWord, .functionWord, .modifierWord, .variableWord]

def label : Category → String
  | .classWord => "class"
  | .functionWord => "function"
  | .modifierWord => "modifier"
  | .variableWord => "variable"
  | .typeWord => "type"

def ofLabel? (s : String) : Option Category := all.find? (·.label = s)

end Category

/-! ## Words -/

def words (g : Grammar) : Category → List String
  | .classWord => g.classWords
  | .functionWord => g.functionWords
  | .modifierWord => g.modifierWords
  | .variableWord => g.variableWords
  | .typeWord => g.typeWords

/-- The words that cannot be names. -/
def keywords (g : Grammar) : List String := Category.reserved.flatMap g.words

/-- The empty text is in no category, even if a table lists it. -/
def has (g : Grammar) (c : Category) (s : String) : Bool := s ≠ "" && (g.words c).contains s

def hasAny (g : Grammar) (s : String) : Bool := Category.all.any (g.has · s)

def isReserved (g : Grammar) (s : String) : Bool := Category.reserved.any (g.has · s)

/-- Whether a text starts like an identifier.  The empty text does not, whatever the pattern is. -/
def beginsWord (g : Grammar) (s : String) : Bool := s ≠ "" && (g.word.leading? s).isSome

def isWord (g : Grammar) (s : String) : Bool := s ≠ "" && g.word.accepts s

theorem beginsWord_of_isWord {g : Grammar} {s : String} (h : g.isWord s = true) :
    g.beginsWord s = true := by
  obtain ⟨hne, haccepts⟩ := Bool.and_eq_true_iff.1 h
  exact Bool.and_eq_true_iff.2 ⟨hne, g.word.leading_of_accepts s haccepts⟩

/-! Where the pattern is a shape, the first character decides how a text starts. -/

theorem beginsWord_ofShape {g : Grammar} {w : WordShape} (hw : g.word = .ofShape w) (s : String) :
    g.beginsWord s = s.toList.head?.any w.first.has := by
  have hleading : (g.word.leading? s).isSome = s.toList.head?.any w.first.has := by
    rw [hw]
    exact w.isSome_leading? s
  by_cases hs : s = ""
  · subst hs
    rfl
  · simp [beginsWord, hs, hleading]

theorem isWord_ofShape {g : Grammar} {w : WordShape} (hw : g.word = .ofShape w) (s : String) :
    g.isWord s = w.accepts s := by
  have haccepts : g.word.accepts s = w.accepts s := by
    rw [hw]
    rfl
  by_cases hs : s = ""
  · subst hs
    rfl
  · simp [isWord, hs, haccepts]

theorem mem_words_of_has {g : Grammar} {c : Category} {s : String} (h : g.has c s = true) :
    s ∈ g.words c := by
  simpa using (Bool.and_eq_true_iff.1 h).2

/-! ## Consistency -/

/-- The words of a list without repeats, in the order of their code points. -/
def sortWords (l : List String) : List String := l.eraseDups.mergeSort fun a b => !(b < a)

structure Clash where
  grammar : String
  category : Category
  words : List String
  deriving DecidableEq, Repr

/-- The first category that shares words with the built-in types. -/
def clash? (g : Grammar) : Option Clash :=
  Category.reserved.findSome? fun c =>
    match (g.words c).filter g.typeWords.contains with
    | [] => none
    | shared => some ⟨g.name, c, sortWords shared⟩

end Grammar

end DocTemplate
