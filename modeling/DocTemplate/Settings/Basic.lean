import DocTemplate.Grammar.Basic

/-!
# Settings

How declarations are read and written: the layout of the comment, and for each language the comment
delimiters that replace its own.
-/

namespace DocTemplate

inductive Layout where
  /-- Tags in columns. -/
  | aligned
  /-- Tags without columns, each description on a line of its own. -/
  | indented
  deriving DecidableEq, Repr

namespace Layout

def label : Layout → String
  | .aligned => "default"
  | .indented => "drupal"

def all : List Layout := [.aligned, .indented]

def ofLabel? (s : String) : Option Layout := all.find? (·.label = s)

end Layout

structure Settings where
  /-- The least number of spaces between two columns. -/
  columnSpacing : Nat := 2
  /-- Whether a return tag is written. -/
  returnTag : Bool := true
  /-- Whether nullable types of PHP are written as `mixed`. -/
  mixedNullable : Bool := false
  layout : Layout := .aligned
  /-- Comment delimiters by the name of a grammar. -/
  comments : List (String × Comment.Overrides) := []
  deriving DecidableEq, Repr

/-- The comment style of a grammar with the delimiters set for it. -/
def Settings.styleFor (s : Settings) (g : Grammar) : Comment.Style :=
  match s.comments.lookup g.name with
  | none => g.comment
  | some o => g.comment.override o

end DocTemplate
