import DocTemplate.Grammar.Basic
import DocTemplate.Text.Utf8
import DocTemplate.Token.Sigil

/-!
# Tokens of a syntax tree

The tree builder is given `grammar.preamble ++ code` and answers with a `SyntaxTree` whose nodes
cover bytes of that text.  `SyntaxTree.leaves` lists the tokens of a tree from left to right, and
`Grammar.tokens` joins their sigils.  Positions in tokens count from the start of the code.
-/

namespace DocTemplate

inductive SyntaxTree where
  | node (kind : String) (start stop : Int) (missing : Bool) (children : List SyntaxTree)

namespace SyntaxTree

/-- A tree without tokens. -/
def empty : SyntaxTree := .node "program" 0 0 false []

instance : Inhabited SyntaxTree := ⟨empty⟩

/-- What the tree builder is asked: the tree of a text in a language. -/
structure Query where
  language : String
  source : String
  deriving DecidableEq, Repr

/-- How many bytes come before a position.  A position below zero counts from the end. -/
def bytesBefore (source : List UInt8) (position : Int) : Nat :=
  if position < 0 then (position + source.length).toNat else position.toNat

/-- The bytes from `start` up to `stop`, as far as there are any. -/
def slice (source : List UInt8) (start stop : Int) : List UInt8 :=
  let before := bytesBefore source start
  (source.drop before).take (bytesBefore source stop - before)

mutual

/-- How many nodes are inside of each other, as far as nodes are looked into for tokens. -/
def depth (g : Grammar) : SyntaxTree → Nat
  | .node kind start stop missing children =>
    if kind ∈ g.skippedNodes ∨ missing ∨ start = stop ∨ kind ∈ g.wholeNodes then 1
    else depthOfAll g children + 1

def depthOfAll (g : Grammar) : List SyntaxTree → Nat
  | [] => 0
  | t :: ts => max (depth g t) (depthOfAll g ts)

end

mutual

/-- The tokens of a tree over `source`, whose first `offset` bytes are the preamble.

* Nodes of a skipped kind, nodes put in by error recovery and nodes without text give none.
* A node without children, or of a whole kind, is one token unless it starts in the preamble. -/
def leaves (g : Grammar) (source : List UInt8) (offset : Nat) : SyntaxTree → List Token
  | .node kind start stop missing children =>
    if kind ∈ g.skippedNodes then []
    else if missing ∨ start = stop then []
    else if children.isEmpty ∨ kind ∈ g.wholeNodes then
      if start < offset then []
      else
        [{ kind
           text := Utf8.decodeLossy (slice source start stop)
           start := start - offset
           stop := stop - offset }]
    else leavesOfAll g source offset children

def leavesOfAll (g : Grammar) (source : List UInt8) (offset : Nat) :
    List SyntaxTree → List Token
  | [] => []
  | t :: ts => leaves g source offset t ++ leavesOfAll g source offset ts

end

end SyntaxTree

namespace Grammar

def query (g : Grammar) (code : String) : SyntaxTree.Query :=
  { language := g.treeLanguage, source := g.preamble ++ code }

/-- The tokens of a line of code, given its syntax tree. -/
def tokens (g : Grammar) (code : String) (tree : SyntaxTree) : List Token :=
  let preamble := Utf8.encode g.preamble
  Token.joinSigils g.sigils
    (tree.leaves g (preamble ++ Utf8.encode code) preamble.length)

end Grammar

end DocTemplate
