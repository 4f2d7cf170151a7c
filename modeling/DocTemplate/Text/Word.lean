/-!
# Words

The identifiers of a language are given by a regular expression.  A `WordPattern` is any such
expression, known by what it matches.  In all built-in languages it is a `WordShape`: a first
character of one set, then any number of characters of another.
-/

namespace DocTemplate

/-- A set of characters, as ranges with both ends included. -/
structure CharSet where
  ranges : List (Char × Char)
  deriving DecidableEq, Repr

namespace CharSet

def has (s : CharSet) (c : Char) : Bool := s.ranges.any fun (lo, hi) => lo ≤ c && c ≤ hi

/-- ASCII letters, then each character of `more`. -/
def letters (more : String) : CharSet :=
  ⟨[('a', 'z'), ('A', 'Z')] ++ more.toList.map fun c => (c, c)⟩

/-- ASCII letters and digits, then each character of `more`. -/
def alphanumerics (more : String) : CharSet :=
  ⟨[('a', 'z'), ('A', 'Z'), ('0', '9')] ++ more.toList.map fun c => (c, c)⟩

def extend (s : CharSet) (lo hi : Char) : CharSet := ⟨s.ranges ++ [(lo, hi)]⟩

/-- Characters from U+007F on are written with two hexadecimal digits. -/
def patternChar (c : Char) : String :=
  if c.toNat < 0x7F then c.toString
  else "\\x" ++ String.ofList (Nat.toDigits 16 c.toNat)

def pattern (s : CharSet) : String :=
  "[" ++ String.join (s.ranges.map fun (lo, hi) =>
    if lo = hi then patternChar lo else patternChar lo ++ "-" ++ patternChar hi) ++ "]"

end CharSet

structure WordShape where
  first : CharSet
  later : CharSet
  deriving DecidableEq, Repr

namespace WordShape

/-- A letter, an underscore or a dollar sign, then these and digits. -/
def standard : WordShape := ⟨.letters "_$", .alphanumerics "_$"⟩

/-- Whether a text is a word. -/
def accepts (w : WordShape) (s : String) : Bool :=
  match s.toList with
  | [] => false
  | c :: cs => w.first.has c && cs.all w.later.has

/-- The longest word that a text starts with. -/
def leading? (w : WordShape) (s : String) : Option String :=
  match s.toList with
  | [] => none
  | c :: cs => if w.first.has c then some (String.ofList (c :: cs.takeWhile w.later.has)) else none

theorem isSome_leading? (w : WordShape) (s : String) :
    (w.leading? s).isSome = s.toList.head?.any w.first.has := by
  unfold leading?
  cases s.toList with
  | nil => rfl
  | cons c cs => cases hc : w.first.has c <;> simp [hc]

/-- A word starts with itself and with nothing longer. -/
theorem leading?_of_accepts {w : WordShape} {s : String} (h : w.accepts s = true) :
    w.leading? s = some s := by
  unfold accepts at h
  unfold leading?
  split at h
  · cases h
  · rename_i c cs hs
    obtain ⟨hc, hcs⟩ := Bool.and_eq_true_iff.1 h
    simp only [hc, if_true]
    have htail : (cs ++ []).takeWhile w.later.has = cs ++ [].takeWhile w.later.has :=
      List.takeWhile_append_of_pos (List.all_eq_true.1 hcs)
    simp only [List.append_nil, List.takeWhile_nil] at htail
    rw [htail, ← hs, String.ofList_toList]

def expression (w : WordShape) : String :=
  if w.first = w.later then w.first.pattern ++ "+"
  else w.first.pattern ++ w.later.pattern ++ "*"

end WordShape

/-- A regular expression for words, and what matching it with a text gives. -/
structure WordPattern where
  expression : String
  /-- What is matched at the start of a text, which may be the empty text. -/
  leading? : String → Option String
  /-- Whether a text is matched as a whole. -/
  accepts : String → Bool
  leading_of_accepts : ∀ s, accepts s = true → (leading? s).isSome = true

namespace WordPattern

def ofShape (w : WordShape) : WordPattern where
  expression := w.expression
  leading? := w.leading?
  accepts := w.accepts
  leading_of_accepts s h := by rw [WordShape.leading?_of_accepts h, Option.isSome_some]

def standard : WordPattern := ofShape .standard

end WordPattern

end DocTemplate
