import DocTemplate.Grammar.Basic

/-!
# The built-in grammar tables

One table for each language that declarations are read in.
-/

namespace DocTemplate.Grammar

def php : Grammar where
  name := "php"
  treeLanguage := "php"
  classWords := ["class", "trait", "interface"]
  functionWords := ["function"]
  variableWords := ["const"]
  modifierWords :=
    ["public", "static", "protected", "private", "abstract", "final", "readonly"]
  typeWords :=
    ["self", "array", "callable", "bool", "boolean", "float", "int", "integer", "string",
      "iterable", "object", "mixed", "void", "null", "stdClass"]
  word :=
    let part := (CharSet.alphanumerics "_$").extend '\x7f' '\xff'
    .ofShape ⟨part, part⟩
  needsVariableWord := false
  voidTypes := ["void"]
  wholeNodes := ["variable_name", "optional_type", "qualified_name", "string", "encapsed_string"]
  sigils := ["$", "?"]
  preamble := "<?php "

def typescript : Grammar where
  name := "typescript"
  treeLanguage := "typescript"
  classWords := ["class", "interface"]
  functionWords := ["function"]
  variableWords := ["let", "const", "var"]
  modifierWords :=
    ["public", "private", "protected", "static", "readonly", "abstract", "async", "export",
      "default", "declare", "override", "get", "set"]
  typeWords :=
    ["any", "number", "boolean", "string", "symbol", "void", "unknown", "never", "object",
      "bigint", "undefined", "null"]
  voidTypes := ["void"]
  variableTag := none
  wholeNodes :=
    ["array_type", "generic_type", "union_type", "object_type", "function_type", "tuple_type",
      "string", "template_string", "regex"]

def javascript : Grammar where
  name := "javascript"
  treeLanguage := "javascript"
  classWords := ["class"]
  functionWords := ["function"]
  variableWords := ["let", "const", "var"]
  modifierWords := ["static", "async", "export", "default", "get", "set"]
  variableTag := none
  wholeNodes := ["string", "template_string", "regex"]

def c : Grammar where
  name := "c"
  treeLanguage := "c"
  modifierWords :=
    ["static", "extern", "inline", "const", "volatile", "register", "auto", "restrict"]
  typeWords :=
    ["void", "char", "short", "int", "long", "float", "double", "signed", "unsigned", "bool",
      "_Bool", "size_t", "struct", "union", "enum"]
  word := .ofShape ⟨.letters "_", .alphanumerics "_"⟩
  needsVariableWord := false
  voidTypes := ["void"]
  wholeNodes := ["string_literal", "char_literal"]

def java : Grammar where
  name := "java"
  treeLanguage := "java"
  classWords := ["class", "interface", "enum", "record"]
  modifierWords :=
    ["public", "private", "protected", "static", "final", "abstract", "synchronized", "native",
      "transient", "volatile", "strictfp", "default"]
  typeWords :=
    ["void", "boolean", "byte", "char", "short", "int", "long", "float", "double", "var"]
  needsVariableWord := false
  voidTypes := ["void"]
  wholeNodes :=
    ["generic_type", "array_type", "marker_annotation", "annotation", "string_literal",
      "character_literal"]
  sigils := ["@"]

def scss : Grammar where
  name := "scss"
  treeLanguage := "scss"
  functionWords := ["@function", "@mixin"]
  word := .ofShape ⟨.letters "_$-", .alphanumerics "_-"⟩
  needsVariableWord := false
  variableTag := some "@type"
  wholeNodes := ["integer_value", "float_value"]
  sigils := ["$", "@"]

end DocTemplate.Grammar
