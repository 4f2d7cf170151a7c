/-!
# Tokens

A `Token` is a piece of a line of code: its kind in the syntax tree, its text, and the bytes of the
line that it covers.  Punctuation has its own text as its kind, so a token *is* a mark when its kind
is the mark's label.
-/

namespace DocTemplate

/-- The punctuation that directs the reading of a declaration. -/
inductive Mark where
  | openParen
  | closeParen
  | openBracket
  | closeBracket
  | openBrace
  | closeBrace
  | openAngle
  | closeAngle
  | comma
  | colon
  | semicolon
  | equals
  | question
  | star
  | ellipsis
  | arrow
  deriving DecidableEq, Repr

def Mark.label : Mark → String
  | .openParen => "("
  | .closeParen => ")"
  | .openBracket => "["
  | .closeBracket => "]"
  | .openBrace => "\x7b"
  | .closeBrace => "\x7d"
  | .openAngle => "<"
  | .closeAngle => ">"
  | .comma => ","
  | .colon => ":"
  | .semicolon => ";"
  | .equals => "="
  | .question => "?"
  | .star => "*"
  | .ellipsis => "..."
  | .arrow => "=>"

/-- No two marks have one label. -/
theorem Mark.label_injective {a b : Mark} (h : a.label = b.label) : a = b := by
  cases a <;> cases b <;> simp_all [label]

structure Token where
  kind : String
  text : String
  start : Int := 0
  stop : Int := 0
  deriving DecidableEq, Repr

namespace Token

def is (t : Token) (m : Mark) : Bool := t.kind = m.label

/-- A token is one mark at most. -/
theorem eq_of_is {t : Token} {a b : Mark} (ha : t.is a = true) (hb : t.is b = true) : a = b := by
  simp only [is, decide_eq_true_eq] at ha hb
  exact Mark.label_injective (ha.symm.trans hb)

theorem is_eq_false_of_is {t : Token} {a b : Mark} (ha : t.is a = true) (hab : a ≠ b) :
    t.is b = false := by
  cases hb : t.is b
  · rfl
  · exact absurd (eq_of_is ha hb) hab

/-- Whether the text is a mark's label, whatever the kind. -/
def spells (t : Token) (m : Mark) : Bool := t.text = m.label

/-- `{` or `[` -/
def opensGroup (t : Token) : Bool := t.is .openBrace || t.is .openBracket

/-- `}` or `]` -/
def closesGroup (t : Token) : Bool := t.is .closeBrace || t.is .closeBracket

end Token

end DocTemplate
