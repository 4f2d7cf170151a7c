import DocTemplate.Language.Words
import DocTemplate.Token.Basic

/-!
# Types of the C family

A type is read token by token: `extendType` gives the text of a type with one more token, or none
if the token is not part of the type.  Inside angle brackets every token is.
-/

namespace DocTemplate.Language

/-- Words that take the name after them into the type. -/
def tagWords : Language → List String
  | .c => ["struct", "union", "enum"]
  | _ => []

/-- Whether several built-in words make one type. -/
def joinsTypeWords : Language → Bool
  | .c => true
  | _ => false

/-- The part of a text after its last space. -/
def lastPart (s : String) : String :=
  String.ofList (s.toList.reverse.takeWhile (· ≠ ' ')).reverse

/-- The depth of angle brackets after a token. -/
def angleStep (t : Token) (depth : Int) : Int :=
  if t.is .openAngle then depth + 1 else if t.is .closeAngle then depth - 1 else depth

/-- The text of the type and the depth of angle brackets after one more token. -/
def extendType (l : Language) (type : String) (depth : Int) (t : Token) :
    Option (String × Int) :=
  if depth ≠ 0 then some (type ++ t.text, angleStep t depth)
  else if type = "" then if l.startsType t.text then some (t.text, depth) else none
  else if t.is .openAngle then some (type ++ t.text, 1)
  else if t.is .star ∨ t.is .ellipsis then some (type ++ t.text, depth)
  else if t.is .openBracket then some (type ++ "[]", depth)
  else if t.is .closeBracket then some (type, depth)
  else if l.joinsTypeWords ∧ l.isType t.text ∧ t.text ∉ l.tagWords then
    some (type ++ " " ++ t.text, depth)
  else if lastPart type ∈ l.tagWords ∧ l.isName t.text then
    some (type ++ " " ++ t.text, depth)
  else none

end DocTemplate.Language
