import DocTemplate.Language.Template
import DocTemplate.Lookup
import DocTemplate.Settings.File

/-!
# Tools

What an editor can ask for: the comment for a line of code, the declaration in it, and the list of
languages.  Answers are JSON objects.
-/

namespace DocTemplate.Tool

/-- What a tool answers, the trees it asked for, and what happened on the way. -/
structure Reply where
  answer : Except Error Json
  queries : List SyntaxTree.Query := []
  events : List Event := []

/-- The builder of syntax trees. -/
abbrev Trees := SyntaxTree.Query → SyntaxTree

def text? : Option String → Json
  | none => .null
  | some s => .str s

def parameterJson (p : Parameter) : Json :=
  .obj [("name", .str p.name), ("type", text? p.type), ("value", .str p.value)]

def declarationJson (d : Declaration) : Json :=
  .obj
    [("name", .str d.name),
      ("kind", text? (d.kind.map Kind.label)),
      ("parameters", .arr (d.parameters.map parameterJson)),
      ("return", .obj [("present", .bool d.returns.present), ("type", text? d.returns.type)])]

def errorJson (message : String) : Json := .obj [("error", .str message)]

/-- The two tools that read a line of code. -/
inductive Reading where
  | declaration
  | template
  deriving DecidableEq, Repr

/-- The text of a line of code. -/
def codeText : Json → Except Error String
  | .str s => .ok s
  | j => .error (.codeNotText j.shape)

/-- Reads a line of code in a language. -/
def readIn (l : Language) (limits : Limits) (settings : Settings) (trees : Trees) (kind : Reading)
    (id : Json) (code : String) : Reply :=
  let query := l.query code
  match l.readLine limits settings code (trees query) with
  | .error e => { answer := .error e, queries := [query] }
  | .ok (d, events) =>
    let fields := [("language", id), ("symbol", declarationJson d)]
    let answer := match kind with
      | .declaration => .ok (.obj fields)
      | .template => do
        return .obj (fields ++ [("docblock", .str (← l.template limits settings d))])
    { answer, queries := [query], events }

/-- Reads a line of code.  Settings are loaded first; a language that is not supported is answered,
not raised. -/
def readCode (w : Settings.Surroundings) (trees : Trees) (kind : Reading)
    (path : Option String) (code id : Json) : Reply :=
  match Settings.load w path with
  | .error e => { answer := .error e }
  | .ok (settings, loading) =>
    match Language.ofJson id, codeText code with
    | .error (.unsupportedLanguage id), _ =>
      { answer := .ok (errorJson (Error.unsupportedLanguage id).message), events := loading }
    | .error e, _ | .ok _, .error e => { answer := .error e, events := loading }
    | .ok l, .ok code =>
      let reply := readIn l w.limits settings trees kind id code
      { reply with events := loading ++ reply.events }

/-- The languages and the grammars they are read with. -/
def languages : Json :=
  .obj
    [("count", .int Language.registry.length),
      ("languages", .arr (Language.registry.map fun (id, l) =>
        .obj [("language", .str id), ("grammar", .str l.grammar.name)]))]

end DocTemplate.Tool
