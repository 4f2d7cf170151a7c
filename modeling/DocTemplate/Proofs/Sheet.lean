import DocTemplate.Proofs.Defaults

/-!
# Declarations of SCSS

    @function name ( $x [: V], … ) { rest
    @mixin name [( $x [: V], … )] { rest
    $x rest

A colon goes into a default value inside of the list, and inside of a value it is text like any
other.  A value ends at a comma or a parenthesis outside of its own brackets, so it may hold maps
and lists of any depth.  Reading the written form of a line gives back what was written
(`declaration_sheetLine`).
-/

namespace DocTemplate

namespace Written

/-! ## Written form -/

/-- A default value: any tokens but the words that declare something. -/
structure SheetValue where
  tokens : List Token
  nonempty : ∀ t ∈ tokens, t.text ≠ ""
  balanced : balanced 0 0 tokens = true
  undeclaring : ∀ t ∈ tokens, t.text ≠ "@function" ∧ t.text ≠ "@mixin"

structure SheetDefault where
  colon : Sign .colon := {}
  value : SheetValue

def SheetDefault.tokens (d : SheetDefault) : List Token := d.colon.token :: d.value.tokens

structure SheetSlot where
  name : Word Language.isDollarName
  value : Option SheetDefault := none

namespace SheetSlot

def tokens (p : SheetSlot) : List Token :=
  p.name.token :: (p.value.map SheetDefault.tokens).getD []

def parameter (p : SheetSlot) : Parameter where
  name := p.name.text
  value := (p.value.map fun d => Token.joined d.value.tokens).getD ""

end SheetSlot

inductive SheetLine where
  | function (word : Word (· = "@function")) (name : Word Language.scss.isWord)
    (parameters : Parens SheetSlot) (opener : Sign .openBrace) (rest : List Token)
  | mixin (word : Word (· = "@mixin")) (name : Word Language.scss.isWord)
    (parameters : Option (Parens SheetSlot)) (opener : Sign .openBrace) (rest : List Token)
  | var (name : Word Language.isDollarName) (rest : List Token)

namespace SheetLine

def tokens : SheetLine → List Token
  | .function word name parameters opener rest =>
    word.token :: name.token :: (parameters.tokens SheetSlot.tokens ++ opener.token :: rest)
  | .mixin word name parameters opener rest =>
    word.token :: name.token ::
      ((parameters.map (Parens.tokens SheetSlot.tokens)).getD [] ++ opener.token :: rest)
  | .var name rest => name.token :: rest

def declaration : SheetLine → Declaration
  | .function _ name parameters _ _ =>
    { name := name.text
      kind := some .function
      parameters := parameters.slots.items.map SheetSlot.parameter
      returns := { present := true } }
  | .mixin _ name parameters _ _ =>
    { name := name.text
      kind := some .function
      parameters := ((parameters.map (·.slots.items)).getD []).map SheetSlot.parameter
      returns := { present := false } }
  | .var name _ => { name := name.text, kind := some .var }

end SheetLine

end Written

namespace Language

open Written

variable {F : Frame → Prop} {ps : List Parameter} {s : Scan}

theorem signsInert_scss : SignsInert .scss := (signs_of_registered (by simp [registry])).1

/-! ## Parameters -/

theorem inert_scss {t : Token} (h : t.text ≠ "@function" ∧ t.text ≠ "@mixin") :
    Language.scss.inert t = true := by
  refine inert_iff.2 ⟨Bool.and_false _, ?_, nofun, rfl⟩
  simp [grammar, Grammar.has, Grammar.words, Grammar.scss, h]

/-- A parameter takes the default value behind its colon. -/
theorem leads_sheetDefault (hF : Collecting .scss F) (d : SheetDefault) {q : Parameter}
    (h : InSlot F (ps ++ [q]) false s) (hq : q.value = "") :
    Leads .scss d.tokens s
      (Listing F (ps ++ [{ q with value := Token.joined d.value.tokens }])) := by
  have hvalue := hF.leads_value d.value.tokens (hF.step_sheetColon h d.colon)
    (fun t ht => inert_scss (d.value.undeclaring t ht)) d.value.balanced
  rw [hq, extendValue_empty _ _ d.value.nonempty] at hvalue
  exact .cons (hF.done _ h.frame) hvalue

theorem readsSlots_scss (hF : Collecting .scss F) :
    ReadsSlots .scss F SheetSlot.tokens fun p => [p.parameter] := by
  rintro ⟨name, value⟩ ps s h
  have hname := slot_name hF (.inr rfl) h name
  refine .cons (hF.done _ h.frame) ?_
  cases value with
  | none => exact .nil hname.toInList
  | some d => exact leads_sheetDefault hF d hname rfl

/-! ## Heads -/

theorem isName_of_isWord_scss {x : String} (h : Language.scss.isWord x = true) :
    Language.scss.isName x = true := by
  have hall : ∀ x ∈ Language.scss.grammar.keywords, Language.scss.isWord x = false := by decide
  unfold isName
  cases hr : Language.scss.isReserved x with
  | false => rw [h]; rfl
  | true =>
    rw [hall x (mem_keywords_of_isReserved hr)] at h
    cases h

theorem reads_sheetHead (w : Word (Language.scss.grammar.has .functionWord))
    (name : Word Language.scss.isWord) :
    Reads .scss [w.token, name.token] {} (begun name.text (!Language.scss.mixes w.token)) := by
  have hname : Language.scss.step name.token
        { begun "" (!Language.scss.mixes w.token) with nameDue := true } =
      begun name.text (!Language.scss.mixes w.token) :=
    Outside.step_name ⟨rfl, rfl, rfl⟩ rfl rfl name.plain (isName_of_isWord_scss name.holds)
  refine .cons rfl ?_
  rw [step_word_scss]
  refine .cons rfl ?_
  rw [hname]
  exact .nil

/-- A mixin may do without a list. -/
theorem leads_sheetParens? (n : String) (present : Bool) (parameters : Option (Parens SheetSlot)) :
    Leads .scss ((parameters.map (Parens.tokens SheetSlot.tokens)).getD []) (begun n present)
      (Closed (Announces n { present })
        (((parameters.map (·.slots.items)).getD []).map SheetSlot.parameter)) := by
  have hframe : Announces n { present } (begun n present).frame := ⟨rfl, rfl, rfl, rfl, rfl, rfl⟩
  cases parameters with
  | none => exact .nil ⟨hframe, rfl, rfl⟩
  | some p =>
    have hF : Collecting .scss (Announces n { present }) := collecting_announces signsInert_scss
    have hopen : Unopened (Announces n { present }) (begun n present) :=
      ⟨hframe, rfl, rfl, rfl, rfl⟩
    have hlist := hF.leads_parens (readsSlots_scss hF)
      (hopen.atList signsInert_scss fun _ hf => hf) p
    rw [← List.map_eq_flatMap] at hlist
    exact hlist

/-! ## Whole lines -/

/-- A function or a mixin up to its end, and whatever is behind it. -/
theorem declaration_sheetFunction (settings : Settings)
    (w : Word (Language.scss.grammar.has .functionWord)) (name : Word Language.scss.isWord)
    (parameters : Option (Parens SheetSlot)) (opener : Sign .openBrace) (rest : List Token) :
    Language.scss.declaration settings
      (w.token :: name.token ::
        ((parameters.map (Parens.tokens SheetSlot.tokens)).getD [] ++ opener.token :: rest)) =
    { name := name.text
      kind := some .function
      parameters := ((parameters.map (·.slots.items)).getD []).map SheetSlot.parameter
      returns := { present := !Language.scss.mixes w.token } } := by
  obtain ⟨s, hreads, hs⟩ :=
    leads_sheetParens? name.text (!Language.scss.mixes w.token) parameters
  have hlead : Leads .scss
      ([w.token, name.token] ++ (parameters.map (Parens.tokens SheetSlot.tokens)).getD []) {}
      (Closed (Announces name.text { present := !Language.scss.mixes w.token })
        (((parameters.map (·.slots.items)).getD []).map SheetSlot.parameter)) :=
    ⟨s, (reads_sheetHead w name).append hreads, hs⟩
  have hread := read_of_closed signsInert_scss hlead (.block opener rest) settings.mixedNullable
  rw [List.append_assoc] at hread
  unfold Language.declaration
  refine hread.trans ?_
  rw [finish_function rfl]
  simp [formatType, isVoid]

/-- The scan behind the name of a variable. -/
def declaredVariable (n : String) : Scan := { decl := { name := n, kind := some .var }, done := true }

theorem step_sheetVariable (name : Word isDollarName) :
    Language.scss.step name.token {} = declaredVariable name.text := by
  have hin : Language.scss.inert name.token = true :=
    inert_of_not_isReserved name.plain (isReserved_of_isDollarName (.inr rfl) name.holds) rfl
  have hclass : Language.scss.readClass name.token {} = Scan.leave {} :=
    readClass_of_inert hin (by exact nofun)
  have hfunction : Language.scss.readFunction name.token {} = Scan.leave {} := by
    have hword := (inert_iff.1 hin).2.1
    have htext : name.token.text ≠ "@mixin" := by
      intro he
      rw [he] at hword
      exact absurd hword (by decide)
    show readSheetFunction .scss name.token {} = _
    unfold readSheetFunction readWordFunction
    rewrite [if_neg (ne_true_of_eq_false hword), if_neg htext]
    rfl
  have hvariable : Language.scss.readVariable name.token {} =
      (declaredVariable name.text).take := by
    have hname : Language.scss.isVariableName name.token.text = true := name.holds
    show readWordVariable .scss name.token {} = _
    unfold readWordVariable
    rw [if_neg (by exact nofun), if_neg (by exact nofun),
      if_neg (by exact ne_true_of_eq_false (Bool.and_false _)), if_pos ⟨by decide, hname⟩]
    rfl
  rw [step_of_readVariable rfl rfl hclass hfunction rfl, hvariable]
  rfl

theorem declaration_sheetVariable (settings : Settings) (name : Word isDollarName)
    (rest : List Token) :
    Language.scss.declaration settings (name.token :: rest) =
      { name := name.text, kind := some .var } := by
  unfold Language.declaration read
  rw [run_cons rfl, step_sheetVariable, run_of_finished rfl]
  rfl

/-! ## Top theorem -/

/-- **Reading the written form of a line of SCSS gives back what was written.** -/
theorem declaration_sheetLine (settings : Settings) (line : SheetLine) :
    Language.scss.declaration settings line.tokens = line.declaration := by
  cases line with
  | function word name parameters opener rest =>
    have hword : word.token.text = "@function" := by simpa using word.holds
    have hmixes : Language.scss.mixes word.token = false := by simp [mixes, hword]
    have hread := declaration_sheetFunction settings
      ⟨word.token, word.plain, by rw [hword]; decide⟩ name (some parameters) opener rest
    rw [hmixes] at hread
    exact hread
  | mixin word name parameters opener rest =>
    have hword : word.token.text = "@mixin" := by simpa using word.holds
    have hmixes : Language.scss.mixes word.token = true := by simp [mixes, hword]
    have hread := declaration_sheetFunction settings
      ⟨word.token, word.plain, by rw [hword]; decide⟩ name parameters opener rest
    rw [hmixes] at hread
    exact hread
  | var name rest => exact declaration_sheetVariable settings name rest

/-- `@mixin theme($map: (a: 1, b: [2, 3]), $x, $rest: $x == 1) { …` -/
def themeMixin : SheetLine :=
  .mixin ⟨{ kind := "@mixin", text := "@mixin", start := 0, stop := 6 }, by decide, by decide⟩
    ⟨{ kind := "identifier", text := "theme", start := 7, stop := 12 }, by decide, by decide⟩
    (some
      { slots :=
          .of
            { name :=
                ⟨{ kind := "variable", text := "$map", start := 13, stop := 17 }, by decide,
                  by decide⟩
              value := some
                { value :=
                    { tokens :=
                        [{ kind := "(", text := "(", start := 19, stop := 20 },
                          { kind := "identifier", text := "a", start := 20, stop := 21 },
                          { kind := ":", text := ":", start := 21, stop := 22 },
                          { kind := "integer_value", text := "1", start := 23, stop := 24 },
                          { kind := ",", text := ",", start := 24, stop := 25 },
                          { kind := "identifier", text := "b", start := 26, stop := 27 },
                          { kind := ":", text := ":", start := 27, stop := 28 },
                          { kind := "[", text := "[", start := 29, stop := 30 },
                          { kind := "integer_value", text := "2", start := 30, stop := 31 },
                          { kind := ",", text := ",", start := 31, stop := 32 },
                          { kind := "integer_value", text := "3", start := 33, stop := 34 },
                          { kind := "]", text := "]", start := 34, stop := 35 },
                          { kind := ")", text := ")", start := 35, stop := 36 }]
                      nonempty := by decide
                      balanced := by decide
                      undeclaring := by decide } } }
            [({},
              { name :=
                  ⟨{ kind := "variable", text := "$x", start := 38, stop := 40 }, by decide,
                    by decide⟩ }),
              ({},
                { name :=
                    ⟨{ kind := "variable", text := "$rest", start := 42, stop := 47 }, by decide,
                      by decide⟩
                  value := some
                    { value :=
                        { tokens :=
                            [{ kind := "variable", text := "$x", start := 49, stop := 51 },
                              { kind := "==", text := "==", start := 52, stop := 54 },
                              { kind := "integer_value", text := "1", start := 55, stop := 56 }]
                          nonempty := by decide
                          balanced := by decide
                          undeclaring := by decide } } })] })
    {} [{ kind := "\x7d", text := "\x7d", start := 59, stop := 60 }]

theorem declaration_themeMixin :
    Language.scss.declaration {} themeMixin.tokens =
      { name := "theme"
        kind := some .function
        parameters :=
          [{ name := "$map", value := "(a: 1, b: [2, 3])" }, { name := "$x" },
            { name := "$rest", value := "$x == 1" }]
        returns := { present := false } } :=
  (declaration_sheetLine {} themeMixin).trans (by decide)

end Language

end DocTemplate
