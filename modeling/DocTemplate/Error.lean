import DocTemplate.Grammar.Basic
import DocTemplate.Json.Shown
import DocTemplate.Limits
import DocTemplate.Text.Utf8

/-!
# Errors

Why something cannot be done, and the one place that puts it into words.
-/

namespace DocTemplate

inductive Error where
  | unsupportedLanguage (id : String)
  /-- A list or an object is given where an identifier of a language should be. -/
  | compoundLanguage (shape : Json.Shape)
  /-- A grammar reserves words that are built-in types. -/
  | grammarClash (clash : Grammar.Clash)
  | unknownCategory (label : String)
  /-- Something else is given than the label of a kind. -/
  | unknownKind (shown : String)
  /-- A settings file is no text. -/
  | notText (fault : Utf8.Fault)
  /-- A settings file, a syntax tree or a comment is too much for the machine. -/
  | beyondLimit (limit : Limit)
  /-- A path holds the character that ends every path. -/
  | nullInPath
  /-- The home of an unknown user is asked for. -/
  | unknownHome
  | missingArgument (name : String)
  /-- The arguments of a call are no object. -/
  | noArguments (shape : Json.Shape)
  /-- A line of code is no text. -/
  | codeNotText (shape : Json.Shape)
  deriving DecidableEq, Repr

namespace Error

def message : Error → String
  | .unsupportedLanguage id => "This language is not supported: " ++ id
  | .compoundLanguage shape => "unhashable type: '" ++ shape.label ++ "'"
  | .grammarClash c =>
    c.grammar ++ ": " ++ c.category.label ++ " keywords are also built-in types: " ++
      ", ".intercalate c.words
  | .unknownCategory label => "Unknown grammar category: " ++ label
  | .unknownKind shown => shown ++ " is not a valid SymbolKind"
  | .notText fault => fault.message
  | .beyondLimit limit => limit.message
  | .nullInPath => "embedded null byte"
  | .unknownHome => "Could not determine home directory."
  | .missingArgument name => Text.quoted name
  | .noArguments .str => "string indices must be integers, not 'str'"
  | .noArguments .arr => "list indices must be integers or slices, not str"
  | .noArguments shape => "'" ++ shape.label ++ "' object is not subscriptable"
  | .codeNotText shape => "'" ++ shape.label ++ "' object has no attribute 'strip'"

end Error

end DocTemplate
