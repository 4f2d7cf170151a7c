import DocTemplate.Tool.Basic

/-!
# Calling tools by name

A call names a tool and gives its arguments.  The answer is always one JSON text: an error becomes
an object with the single key `error`.
-/

namespace DocTemplate.Tool

def Reading.ofName? : Json → Option Reading
  | .str "render_docblock" => some .template
  | .str "parse_declaration" => some .declaration
  | _ => none

/-- An argument of a call. -/
def argument (args : Json) (name : String) : Except Error Json :=
  match args with
  | .obj fields =>
    match fields.lookup name with
    | some j => .ok j
    | none => .error (.missingArgument name)
  | _ => .error (.noArguments args.shape)

/-- What a tool answers to a call. -/
def answer (w : Settings.Surroundings) (trees : Trees) (name args : Json) : Reply :=
  match Reading.ofName? name with
  | some kind =>
    match argument args "code", argument args "language" with
    | .ok code, .ok language => readCode w trees kind w.named? code language
    | .error e, _ | .ok _, .error e => { answer := .error e }
  | none =>
    match name with
    | .str "list_languages" => { answer := .ok languages }
    | _ => { answer := .ok (errorJson ("Unknown tool: " ++ name.bare)) }

/-- What is sent back for a call. -/
structure Response where
  body : Json
  events : List Event := []

/-- Calls a tool.  An error is sent back as an object. -/
def call (w : Settings.Surroundings) (trees : Trees) (name args : Json) : Response :=
  let reply := answer w trees name args
  match reply.answer with
  | .ok body => { body, events := reply.events }
  | .error e =>
    { body := errorJson e.message, events := reply.events ++ [.toolFailed name.bare] }

/-- The text sent back for a call. -/
def callText (w : Settings.Surroundings) (trees : Trees) (name args : Json) : String :=
  (call w trees name args).body.pretty

/-! ## The list of tools -/

structure Description where
  name : String
  description : String
  /-- The schema of the arguments. -/
  schema : Json

def codeAndLanguage : Json :=
  .obj
    [("type", .str "object"),
      ("properties", .obj
        [("code", .obj
          [("type", .str "string"),
            ("description", .str ("Single line of code declaring a function, class or variable " ++
              "(e.g., 'function foo($bar) \x7b')"))]),
          ("language", .obj
            [("type", .str "string"),
              ("description", .str "Language identifier"),
              ("enum", .arr (Language.ids.map Json.str))])]),
      ("required", .arr [.str "code", .str "language"])]

def descriptions : List Description :=
  [{ name := "render_docblock"
     description :=
       "Render a documentation comment template for a declaration line. Returns the comment " ++
       "with aligned @param/@return tags and $\x7bN:text\x7d snippet tab stops, ready to insert " ++
       "above the line."
     schema := codeAndLanguage },
    { name := "parse_declaration"
      description :=
        "Parse a declaration line into its name, kind (class, function, variable), parameters " ++
        "(name, type, default value) and return type."
      schema := codeAndLanguage },
    { name := "list_languages"
      description :=
        "List the language identifiers accepted by render_docblock and parse_declaration."
      schema := .obj [("type", .str "object"), ("properties", .obj [])] }]

end DocTemplate.Tool
