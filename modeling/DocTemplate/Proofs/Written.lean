import DocTemplate.Proofs.Step

/-!
# Written forms

A declaration on paper: the parts from which the written form of a declaration is put together, each
with its tokens.  Signs and words may stand anywhere in the line, so all positions are free.

* `Sign m`: the mark `m`.
* `Word p`: a token that is no mark and whose text satisfies `p`.
* `ArrayType p`: a type that satisfies `p` and pairs `[ ]` behind it.
* `Ascription p`: a colon and such a type.
* `Value l`: a default value, with balanced brackets and no comma outside of them.
* `Listed α`: items with commas between them.
* `Parens α`: such items between parentheses.
* `Ending`: a brace or a semicolon with anything after it, or the end of the line.

A part carries the proofs that it is well formed, so that there are no other parts.
-/

namespace DocTemplate

def Mark.all : List Mark :=
  [.openParen, .closeParen, .openBracket, .closeBracket, .openBrace, .closeBrace, .openAngle,
    .closeAngle, .comma, .colon, .semicolon, .equals, .question, .star, .ellipsis, .arrow]

theorem Mark.mem_all (m : Mark) : m ∈ Mark.all := by
  cases m <;> decide

namespace Token

/-- Whether a token is no mark. -/
def isPlain (t : Token) : Bool := Mark.all.all fun m => !t.is m

theorem is_eq_false {t : Token} (h : t.isPlain = true) (m : Mark) : t.is m = false := by
  have := List.all_eq_true.1 h m (Mark.mem_all m)
  simpa using this

theorem opensGroup_eq_false {t : Token} (h : t.isPlain = true) : t.opensGroup = false := by
  rw [opensGroup, is_eq_false h, is_eq_false h]
  rfl

/-- The text of tokens as it stands in the line: one space where there is a gap between two. -/
def joined : List Token → String
  | [] => ""
  | [t] => t.text
  | t :: u :: ts => t.text ++ (if t.stop < u.start then " " else "") ++ joined (u :: ts)

end Token

/-- Whether only the parameter list may take a token while it is open. -/
def Language.inert (l : Language) (t : Token) : Bool :=
  !l.grammar.has .classWord t.text && !l.grammar.has .functionWord t.text &&
    !(l.isScript && t.is .arrow) && !l.skips t

namespace Written

/-! ## Signs and words -/

/-- A mark anywhere in a line. -/
structure Sign (m : Mark) where
  start : Int := 0
  stop : Int := 0

def Sign.token {m : Mark} (g : Sign m) : Token :=
  { kind := m.label, text := m.label, start := g.start, stop := g.stop }

@[simp] theorem Sign.token_is {m : Mark} (g : Sign m) (m' : Mark) :
    g.token.is m' = decide (m = m') := by
  show decide (m.label = m'.label) = decide (m = m')
  by_cases h : m = m'
  · rw [h]
    simp
  · rw [decide_eq_false h, decide_eq_false fun he => h (Mark.label_injective he)]

/-- A token that is no mark and whose text satisfies `p`. -/
structure Word (p : String → Bool) where
  token : Token
  plain : token.isPlain = true
  holds : p token.text = true

def Word.text {p : String → Bool} (w : Word p) : String := w.token.text

@[simp] theorem Word.token_is {p : String → Bool} (w : Word p) (m : Mark) :
    w.token.is m = false :=
  Token.is_eq_false w.plain m

/-- A word is one of every wider class. -/
def Word.widen {p q : String → Bool} (h : ∀ x, p x = true → q x = true) (w : Word p) : Word q :=
  ⟨w.token, w.plain, h _ w.holds⟩

/-! ## Pairs of brackets -/

structure Brackets where
  opener : Sign .openBracket := {}
  closer : Sign .closeBracket := {}

def Brackets.tokens (b : Brackets) : List Token := [b.opener.token, b.closer.token]

theorem forall_mem_brackets {p : Token → Prop} (hopen : ∀ g : Sign .openBracket, p g.token)
    (hclose : ∀ g : Sign .closeBracket, p g.token) (arrays : List Brackets) :
    ∀ t ∈ arrays.flatMap Brackets.tokens, p t := by
  intro t ht
  obtain ⟨b, -, ht⟩ := List.mem_flatMap.1 ht
  rcases List.mem_cons.1 ht with rfl | ht
  · exact hopen b.opener
  · rw [List.mem_singleton.1 ht]
    exact hclose b.closer

/-- A type with `n` pairs of brackets behind it. -/
def arrayText (type : String) (n : Nat) : String := type ++ String.join (List.replicate n "[]")

theorem arrayText_zero (type : String) : arrayText type 0 = type := by
  rw [arrayText, List.replicate_zero, String.join_nil, String.append_empty]

theorem arrayText_succ (type : String) (n : Nat) :
    arrayText type (n + 1) = arrayText (type ++ "[]") n := by
  rw [arrayText, arrayText, List.replicate_succ, String.join_cons, String.append_assoc]

theorem arrayText_ne_empty {type : String} (h : type ≠ "") (n : Nat) : arrayText type n ≠ "" := by
  intro he
  exact h (String.append_eq_empty_iff.1 he).1

/-- A type with pairs of brackets behind it. -/
structure ArrayType (p : String → Bool) where
  type : Word p
  arrays : List Brackets := []

namespace ArrayType

variable {p : String → Bool}

def tokens (t : ArrayType p) : List Token :=
  t.type.token :: t.arrays.flatMap Brackets.tokens

def text (t : ArrayType p) : String := arrayText t.type.text t.arrays.length

end ArrayType

/-- A colon and a type. -/
structure Ascription (p : String → Bool) where
  colon : Sign .colon := {}
  type : ArrayType p

namespace Ascription

variable {p : String → Bool}

def tokens (a : Ascription p) : List Token := a.colon.token :: a.type.tokens

def text (a : Ascription p) : String := a.type.text

def widen {q : String → Bool} (h : ∀ x, p x = true → q x = true) (a : Ascription p) :
    Ascription q :=
  ⟨a.colon, a.type.type.widen h, a.type.arrays⟩

end Ascription

/-! ## Default values -/

/-- Whether all brackets of a list are closed, with `p` parentheses and `b` other brackets open
before it, and no comma stands outside of them. -/
def balanced : Nat → Nat → List Token → Bool
  | p, b, [] => p = 0 && b = 0
  | p, b, t :: ts =>
    if t.is .openParen then balanced (p + 1) b ts
    else if t.is .closeParen then p ≠ 0 && balanced (p - 1) b ts
    else if t.opensGroup then balanced p (b + 1) ts
    else if t.closesGroup then b ≠ 0 && balanced p (b - 1) ts
    else if t.is .comma then (p ≠ 0 || b ≠ 0) && balanced p b ts
    else balanced p b ts

/-- A default value: tokens that have a text and declare nothing. -/
structure Value (l : Language) where
  tokens : List Token
  nonempty : ∀ t ∈ tokens, t.text ≠ ""
  inert : ∀ t ∈ tokens, l.inert t = true
  balanced : balanced 0 0 tokens = true

def Value.text {l : Language} (v : Value l) : String := Token.joined v.tokens

/-- An equals sign and a default value. -/
structure Default (l : Language) where
  equals : Sign .equals := {}
  value : Value l

def Default.tokens {l : Language} (d : Default l) : List Token := d.equals.token :: d.value.tokens

/-! ## Lists -/

/-- Items with a comma between each two. -/
inductive Listed (α : Type) where
  | empty
  | of (first : α) (more : List (Sign .comma × α))

namespace Listed

variable {α : Type}

def items : Listed α → List α
  | .empty => []
  | .of a more => a :: more.map (·.2)

def map {β : Type} (f : α → β) : Listed α → Listed β
  | .empty => .empty
  | .of a more => .of (f a) (more.map fun item => (item.1, f item.2))

theorem items_map {β : Type} (f : α → β) (items : Listed α) :
    (items.map f).items = items.items.map f := by
  cases items with
  | empty => rfl
  | of a more => simp [map, Listed.items]

/-- The tokens of items behind a comma each. -/
def moreTokens (f : α → List Token) : List (Sign .comma × α) → List Token
  | [] => []
  | (comma, a) :: more => comma.token :: (f a ++ moreTokens f more)

def tokens (f : α → List Token) : Listed α → List Token
  | .empty => []
  | .of a more => f a ++ moreTokens f more

/-- What holds of commas and of the tokens of all items, holds of all tokens. -/
theorem forall_mem_tokens {f : α → List Token} {p : Token → Prop}
    (hcomma : ∀ c : Sign .comma, p c.token) (hitem : ∀ a, ∀ t ∈ f a, p t) (items : Listed α) :
    ∀ t ∈ items.tokens f, p t := by
  have hmore : ∀ more : List (Sign .comma × α), ∀ t ∈ moreTokens f more, p t := by
    intro more
    induction more with
    | nil => exact fun t ht => absurd ht List.not_mem_nil
    | cons item more ih =>
      exact List.forall_mem_cons.2
        ⟨hcomma item.1, List.forall_mem_append.2 ⟨hitem item.2, ih⟩⟩
  cases items with
  | empty => exact fun t ht => absurd ht List.not_mem_nil
  | of a more => exact List.forall_mem_append.2 ⟨hitem a, hmore more⟩

end Listed

/-- Items between parentheses. -/
structure Parens (α : Type) where
  opener : Sign .openParen := {}
  slots : Listed α
  closer : Sign .closeParen := {}

def Parens.tokens {α : Type} (f : α → List Token) (p : Parens α) : List Token :=
  p.opener.token :: (p.slots.tokens f ++ [p.closer.token])

def Parens.map {α β : Type} (f : α → β) (p : Parens α) : Parens β :=
  ⟨p.opener, p.slots.map f, p.closer⟩

/-! ## Behind the parameters -/

/-- Whether a text is read as a return type. -/
def isReturnType (l : Language) (x : String) : Bool :=
  (l.isType x || l.beginsWord x) && !l.grammar.has .classWord x && !l.grammar.has .functionWord x

/-- How a declaration ends; what comes after a brace or a semicolon is free. -/
inductive Ending where
  | line
  | block (opener : Sign .openBrace) (rest : List Token)
  | stop (semicolon : Sign .semicolon) (rest : List Token)

def Ending.tokens : Ending → List Token
  | .line => []
  | .block opener rest => opener.token :: rest
  | .stop semicolon rest => semicolon.token :: rest

end Written

end DocTemplate
