import DocTemplate.Text.Visible

/-!
# Quoted texts

How a text is shown in a message: between apostrophes, with a backslash before what would end it.
Characters that cannot be seen are written by their code, with two, four or eight hexadecimal
digits:

    '\n'    '\xa0'    '\u200b'    '\U000e0001'
-/

namespace DocTemplate.Text

/-- A number in lower-case hexadecimal digits, at least as many as `width`. -/
def hexDigits (width n : Nat) : List Char :=
  let ds := Nat.toDigits 16 n
  List.replicate (width - ds.length) '0' ++ ds

/-- The code of a character after a backslash. -/
def codeChars (c : Char) : List Char :=
  let n := c.toNat
  if n < 0x100 then '\\' :: 'x' :: hexDigits 2 n
  else if n < 0x10000 then '\\' :: 'u' :: hexDigits 4 n
  else '\\' :: 'U' :: hexDigits 8 n

/-- A character of a text between quotes. -/
def quotedChars (quote c : Char) : List Char :=
  if c = quote ∨ c = '\\' then ['\\', c]
  else if c = '\n' then ['\\', 'n']
  else if c = '\r' then ['\\', 'r']
  else if c = '\t' then ['\\', 't']
  else if isVisible c then [c]
  else codeChars c

/-- The sign around a text: an apostrophe, or a quote if the text holds apostrophes alone. -/
def quoteFor (cs : List Char) : Char :=
  if cs.contains '\'' ∧ ¬ cs.contains '"' then '"' else '\''

def quoted (s : String) : String :=
  let quote := quoteFor s.toList
  String.ofList (quote :: s.toList.flatMap (quotedChars quote) ++ [quote])

end DocTemplate.Text
