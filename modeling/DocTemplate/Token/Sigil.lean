import DocTemplate.Token.Basic

/-!
# Sigils

Some syntax trees cut `$name` into two tokens.  `joinSigils` glues a token whose text is a sigil to
the token right after it, if the two touch.  The result may be a sigil again, and then takes the
next token too.
-/

namespace DocTemplate.Token

/-- Two touching tokens as one: the kind of the second, both texts. -/
def glue (a b : Token) : Token :=
  { kind := b.kind, text := a.text ++ b.text, start := a.start, stop := b.stop }

/-- Joins the sigils of a token list, with a sigil held back from before the list or none. -/
def joinFrom (sigils : List String) : Option Token → List Token → List Token
  | none, [] => []
  | some held, [] => [held]
  | none, t :: ts =>
    if t.text ∈ sigils then joinFrom sigils (some t) ts else t :: joinFrom sigils none ts
  | some held, t :: ts =>
    if t.start = held.stop then
      let joined := held.glue t
      if joined.text ∈ sigils then joinFrom sigils (some joined) ts
      else joined :: joinFrom sigils none ts
    else if t.text ∈ sigils then held :: joinFrom sigils (some t) ts
    else held :: t :: joinFrom sigils none ts

def joinSigils (sigils : List String) (ts : List Token) : List Token := joinFrom sigils none ts

end DocTemplate.Token
