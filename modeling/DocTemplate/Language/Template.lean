import DocTemplate.DocBlock.Room
import DocTemplate.Event
import DocTemplate.Scan.Run
import DocTemplate.Text.Blank
import DocTemplate.Token.Tree

/-!
# From a line of code to its template

A line of code goes through its syntax tree and its tokens to a declaration, and from there to the
comment that documents it.
-/

namespace DocTemplate

/-- The tokens of a line of code, unless its tree is nested too deep. -/
def Grammar.lex (g : Grammar) (limits : Limits) (code : String) (tree : SyntaxTree) :
    Except Error (List Token) :=
  if limits.treeDepth < tree.depth g then .error (.beyondLimit .depth) else .ok (g.tokens code tree)

namespace Language

/-- The declaration of a list of tokens, under some settings. -/
def declaration (l : Language) (s : Settings) (ts : List Token) : Declaration :=
  l.read s.mixedNullable ts

/-- What the tree builder is asked for a line of code.  Blanks around the code do not count. -/
def query (l : Language) (code : String) : SyntaxTree.Query := l.grammar.query (Text.trim code)

/-- The declaration of a line of code, and what happened on the way. -/
def readLine (l : Language) (limits : Limits) (s : Settings) (code : String) (tree : SyntaxTree) :
    Except Error (Declaration × List Event) := do
  let ts ← l.grammar.lex limits (Text.trim code) tree
  let d := l.declaration s ts
  return (d, [.tokens l.grammar.name ts.length, .declaration l.grammar.name d])

/-- The comment for a declaration. -/
def template (l : Language) (limits : Limits) (s : Settings) (d : Declaration) :
    Except Error String :=
  DocBlock.compose limits s (s.styleFor l.grammar) l.grammar.variableTag d

end Language

end DocTemplate
