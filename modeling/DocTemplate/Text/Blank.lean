/-!
# Blank characters

`isBlank` is the set of 29 characters that count as white space at the ends of a line of code and at
the end of a comment margin: the characters with the Unicode property `White_Space` and the four
information separators U+001C to U+001F.  `trim` drops them at both ends, `trimEnd` at the end.
-/

namespace DocTemplate.Text

def isBlank (c : Char) : Bool :=
  let n := c.toNat
  (0x09 ≤ n && n ≤ 0x0D) || (0x1C ≤ n && n ≤ 0x20) || n == 0x85 || n == 0xA0 || n == 0x1680 ||
    (0x2000 ≤ n && n ≤ 0x200A) || n == 0x2028 || n == 0x2029 || n == 0x202F || n == 0x205F ||
    n == 0x3000

/-! ## Characters -/

def trimStartChars (cs : List Char) : List Char := cs.dropWhile isBlank

def trimEndChars (cs : List Char) : List Char := (cs.reverse.dropWhile isBlank).reverse

/-! ## Texts -/

def trimEnd (s : String) : String := String.ofList (trimEndChars s.toList)

def trim (s : String) : String := String.ofList (trimEndChars (trimStartChars s.toList))

end DocTemplate.Text
