/-!
# Comment styles

A documentation comment is an opening line, a margin before every line of the body, a closing line,
and the text that ends a line.  `Overrides` replaces some of the first three.
-/

namespace DocTemplate.Comment

structure Style where
  opening : String := "/**"
  margin : String := " * "
  closing : String := " */"
  lineEnd : String := "\n"
  deriving DecidableEq, Repr

/-- Delimiters given in place of a language's own. -/
structure Overrides where
  opening : Option String := none
  margin : Option String := none
  closing : Option String := none
  deriving DecidableEq, Repr

def Overrides.isEmpty (o : Overrides) : Bool :=
  o.opening.isNone && o.margin.isNone && o.closing.isNone

/-- Lines keep their ending, whatever is overridden. -/
def Style.override (s : Style) (o : Overrides) : Style :=
  { opening := o.opening.getD s.opening
    margin := o.margin.getD s.margin
    closing := o.closing.getD s.closing
    lineEnd := s.lineEnd }

@[simp] theorem Style.lineEnd_override (s : Style) (o : Overrides) :
    (s.override o).lineEnd = s.lineEnd := rfl

end DocTemplate.Comment
