import DocTemplate.Proofs.JsonText
import DocTemplate.Tool.Service

/-!
# Every call is answered, and the answer is read back

A call of a tool gives one text, whatever the name, the arguments, the settings file and the syntax
tree are.  The text is ASCII, and reading it gives the object that the tool answered, or an object
with the single key `error`:

    read? (callText w trees name args) = some (.obj fields)          (read?_callText)

`Tool.Result` lists the objects that tools answer with.
-/

namespace DocTemplate.Tool

/-- A call reads a declaration: the line of code among its arguments is read in the language named
there, under the settings found in the surroundings. -/
structure ReadsLine (w : Settings.Surroundings) (trees : Trees) (args language : Json)
    (l : Language) (settings : Settings) (d : Declaration) : Prop where
  language_eq : argument args "language" = .ok language
  supported : Language.ofJson language = .ok l
  loaded : ∃ events, Settings.load w w.named? = .ok (settings, events)
  read : ∃ code events, argument args "code" = .ok (.str code) ∧
    l.readLine w.limits settings code (trees (l.query code)) = .ok (d, events)

/-- The objects that tools answer with.  A tool that reads a line of code gives the language as it
was named in the call, what was read, and the comment for it if one was asked for. -/
inductive Result (w : Settings.Surroundings) (trees : Trees) (name args : Json) :
    List (String × Json) → Prop
  | unknownTool (hname : Reading.ofName? name = none) (hlist : name ≠ .str "list_languages") :
      Result w trees name args [("error", .str ("Unknown tool: " ++ name.bare))]
  | unsupported {kind : Reading} {language : Json} {id : String}
      (hname : Reading.ofName? name = some kind)
      (hlanguage : argument args "language" = .ok language)
      (hid : Language.ofJson language = .error (.unsupportedLanguage id)) :
      Result w trees name args [("error", .str (Error.unsupportedLanguage id).message)]
  | declaration {language : Json} {l : Language} {settings : Settings} {d : Declaration}
      (hname : Reading.ofName? name = some .declaration)
      (hread : ReadsLine w trees args language l settings d) :
      Result w trees name args [("language", language), ("symbol", declarationJson d)]
  | template {language : Json} {l : Language} {settings : Settings} {d : Declaration}
      {comment : String} (hname : Reading.ofName? name = some .template)
      (hread : ReadsLine w trees args language l settings d)
      (hcomment : l.template w.limits settings d = .ok comment) :
      Result w trees name args
        [("language", language), ("symbol", declarationJson d), ("docblock", .str comment)]
  | languages (hname : name = .str "list_languages") :
      Result w trees name args
        [("count", .int Language.registry.length),
          ("languages", .arr (Language.registry.map fun (id, l) =>
            .obj [("language", .str id), ("grammar", .str l.grammar.name)]))]

variable {w : Settings.Surroundings} {trees : Trees} {name args language body : Json}
  {kind : Reading}

theorem codeText_eq_ok {code : Json} {text : String} (h : codeText code = .ok text) :
    code = .str text := by
  cases code with
  | str s => rw [Except.ok.inj h]
  | _ => cases h

theorem result_readIn (hname : Reading.ofName? name = some kind) {l : Language}
    {settings : Settings} {code : String}
    (hreads : ∀ d events, l.readLine w.limits settings code (trees (l.query code)) =
      .ok (d, events) → ReadsLine w trees args language l settings d)
    (h : (readIn l w.limits settings trees kind language code).answer = .ok body) :
    ∃ fields, body = .obj fields ∧ Result w trees name args fields := by
  unfold readIn at h
  dsimp only at h
  cases hline : l.readLine w.limits settings code (trees (l.query code)) with
  | error e =>
    rw [hline] at h
    cases h
  | ok read =>
    have hread := hreads read.1 read.2 hline
    rw [hline] at h
    cases kind with
    | declaration =>
      cases h
      exact ⟨_, rfl, .declaration hname hread⟩
    | template =>
      cases hcomment : l.template w.limits settings read.1 with
      | error e =>
        simp only [hcomment] at h
        cases h
      | ok comment =>
        simp only [hcomment] at h
        cases h
        exact ⟨_, rfl, .template hname hread hcomment⟩

theorem result_readCode (hname : Reading.ofName? name = some kind) {code : Json}
    (hcode : argument args "code" = .ok code) (hlanguage : argument args "language" = .ok language)
    (h : (readCode w trees kind w.named? code language).answer = .ok body) :
    ∃ fields, body = .obj fields ∧ Result w trees name args fields := by
  unfold readCode at h
  split at h
  · cases h
  · next settings loading hload =>
    split at h
    · next id hid =>
      cases h
      exact ⟨_, rfl, .unsupported hname hlanguage hid⟩
    · cases h
    · cases h
    · next l text hl htext =>
      refine result_readIn hname (fun d events hline => ?_) h
      rw [codeText_eq_ok htext] at hcode
      exact ⟨hlanguage, hl, ⟨_, hload⟩, _, _, hcode, hline⟩

theorem result_answer (h : (answer w trees name args).answer = .ok body) :
    ∃ fields, body = .obj fields ∧ Result w trees name args fields := by
  unfold answer at h
  split at h
  · next kind hname =>
    split at h
    · next hcode hlanguage => exact result_readCode hname hcode hlanguage h
    · cases h
    · cases h
  · next hname =>
    split at h
    · cases h
      exact ⟨_, rfl, .languages rfl⟩
    · next hlist =>
      cases h
      exact ⟨_, rfl, .unknownTool hname hlist⟩

theorem call_of_ok (h : (answer w trees name args).answer = .ok body) :
    (call w trees name args).body = body := by
  unfold call
  simp only [h]

theorem call_of_error {e : Error} (h : (answer w trees name args).answer = .error e) :
    (call w trees name args).body = errorJson e.message := by
  unfold call
  simp only [h]

/-- **Every call is answered by an ASCII text that is read back as the answer**: the object that the
tool gave, or an object with the single key `error` where it failed. -/
theorem read?_callText (w : Settings.Surroundings) (trees : Trees) (name args : Json) :
    Json.Ascii (callText w trees name args) ∧
      ∃ fields, Json.read? (callText w trees name args) = some (.obj fields) ∧
        (((answer w trees name args).answer = .ok (.obj fields) ∧
          Result w trees name args fields) ∨
          ∃ e, (answer w trees name args).answer = .error e ∧
            fields = [("error", .str e.message)]) := by
  refine ⟨Json.ascii_pretty _, ?_⟩
  have hread : Json.read? (callText w trees name args) = some (call w trees name args).body :=
    Json.read?_pretty _
  cases h : (answer w trees name args).answer with
  | ok body =>
    obtain ⟨fields, rfl, hresult⟩ := result_answer h
    rw [call_of_ok h] at hread
    exact ⟨fields, hread, Or.inl ⟨rfl, hresult⟩⟩
  | error e =>
    rw [call_of_error h] at hread
    exact ⟨[("error", .str e.message)], hread, Or.inr ⟨e, rfl, rfl⟩⟩

/-- The tree of `function f(a)`. -/
def smallTree : SyntaxTree :=
  .node "program" 0 13 false
    [.node "function" 0 8 false [], .node "identifier" 9 10 false [], .node "(" 10 11 false [],
      .node "identifier" 11 12 false [], .node ")" 12 13 false []]

/-- An empty disk, and nothing named by the environment. -/
def bareSurroundings : Settings.Surroundings where
  working := ⟨.slash, []⟩
  home := ⟨.slash, []⟩
  disk := { entries := [], nameLimit := 255, pathLimit := 4095 }
  limits := .small

-- A call that succeeds: its object is the one that `callText` writes out.
example :
    (call bareSurroundings (fun _ => smallTree) (.str "render_docblock")
      (.obj [("code", .str "function f(a)"), ("language", .str "javascript")])).body =
    .obj
      [("language", .str "javascript"),
        ("symbol", .obj
          [("name", .str "f"), ("kind", .str "function"),
            ("parameters", .arr
              [.obj [("name", .str "a"), ("type", .null), ("value", .str "")]]),
            ("return", .obj [("present", .bool true), ("type", .null)])]),
        ("docblock", .str ("/**\n * $\x7b1:[f description]\x7d\n *\n" ++
          " * @param   \x7b$\x7b2:[type]\x7d\x7d  a  $\x7b3:[a description]\x7d\n *\n" ++
          " * @return  \x7b$\x7b4:[type]\x7d\x7d     $\x7b5:[return description]\x7d\n */"))] := by
  rfl

end DocTemplate.Tool
