import DocTemplate.Proofs.Defaults
import DocTemplate.Proofs.Spellings

/-!
# Functions without a name

    mods function ( x, … ) : R [ ]… end        PHP, TypeScript, JavaScript

The word of a function makes a name due, and without a name it stays due across the parameter list.
So behind the list the word `R` is wanted twice, as the name and as the return type, and the name
comes first: the return type is kept, and the function stays without a name, exactly if `R` could
not be a name (`keepsReturnType_iff`).  In PHP these are nullable types and names with backslashes,
in TypeScript and JavaScript types in brackets or with more behind their first word.
-/

namespace DocTemplate.Written

/-! ## Written form -/

structure AnonymousFunction (l : Language) where
  modifiers : List (Word (l.grammar.has .modifierWord)) := []
  word : Word (l.grammar.has .functionWord)
  parameters : Parens (BareSlot l)
  returns : Ascription l.isType
  ending : Ending

namespace AnonymousFunction

variable {l : Language}

def tokens (f : AnonymousFunction l) : List Token :=
  f.modifiers.map (·.token) ++ f.word.token ::
    (f.parameters.tokens BareSlot.tokens ++ f.returns.tokens ++ f.ending.tokens)

/-- The word behind the colon. -/
def typeWord (f : AnonymousFunction l) : String := f.returns.type.type.text

def parameterList (f : AnonymousFunction l) (mixed : Bool) : List Parameter :=
  f.parameters.slots.items.map fun p =>
    { p.parameter with type := l.formatType mixed p.parameter.type }

/-- What is recorded: a type word that could be a name is the name. -/
def declaration (f : AnonymousFunction l) (mixed : Bool) : Declaration where
  name := if l.isName f.typeWord then f.typeWord else ""
  kind := some .function
  parameters := f.parameterList mixed
  returns :=
    if l.isName f.typeWord then { present := true }
    else
      { present := !l.isVoid (some f.returns.text)
        type := l.formatType mixed (some f.returns.text) }

end AnonymousFunction

end Written

namespace Language

open Written

variable {l : Language} {F : Frame → Prop} {ps : List Parameter} {s : Scan} {n : String}
  {due present : Bool}

/-! ## Before the list -/

theorem worded_of_typed (hl : l = .php ∨ l.isScript = true) : l ∈ worded := by
  rcases hl with rfl | hl
  · exact List.mem_cons_self
  · rcases eq_of_isScript hl with rfl | rfl <;> simp [worded]

theorem isReturnType_of_typed (hl : l = .php ∨ l.isScript = true) (x : String)
    (h : l.isType x = true) : isReturnType l x = true := by
  rcases hl with rfl | hl
  · exact isReturnType_of_not_isReserved h (isReserved_of_isType_php h)
  · exact isReturnType_of_isType hl x h

/-- The parenthesis of the list is no name, so a name that is due stays due. -/
theorem Unopened.atList_awaits (hl : l ∈ worded) (h : Unopened (Awaits n due present) s) :
    AtList l (Awaits n due present) s where
  done := h.frame.done
  kind := by
    rw [show s.decl.kind = _ from h.frame.kind]
    decide
  opens o := by
    obtain ⟨hsigns, hwords⟩ := signs_of_registered (registered_of_worded hl)
    have hname : l.isName o.token.text = false := (hwords .openParen).1
    have hr : s.returnDue = false := h.frame.returnDue
    refine ⟨s, ?_, h⟩
    rw [readFunction_of_inert (hsigns _ o (by decide)) h.frame.kind]
    unfold readSignature
    simp [hname, hr]

/-- The modifiers and the word of a function. -/
theorem leads_anonymousHead (hl : l = .php ∨ l.isScript = true)
    (modifiers : List (Word (l.grammar.has .modifierWord)))
    (w : Word (l.grammar.has .functionWord)) :
    Leads l (modifiers.map (·.token) ++ [w.token]) {} (AtList l (Awaits "" true true)) := by
  have hmodifier : ∀ w : Word (l.grammar.has .modifierWord), l.step w.token {} = {} := by
    rcases hl with rfl | hl
    · exact step_modifier_php
    · exact step_modifier hl
  have hmixes : l.mixes w.token = false := by
    rcases hl with rfl | hl
    · rfl
    · rcases eq_of_isScript hl with rfl | rfl <;> rfl
  refine (leads_modifiers modifiers hmodifier).append fun s hs => ?_
  subst hs
  refine .single rfl ?_
  rw [step_word_worded (worded_of_typed hl), hmixes]
  exact Unopened.atList_awaits (worded_of_typed hl)
    ⟨⟨rfl, rfl, rfl, rfl, rfl, rfl⟩, rfl, rfl, rfl, rfl⟩

/-! ## Behind the list -/

theorem Collecting.readsSlots_bare (hF : Collecting l F) :
    ReadsSlots l F (BareSlot.tokens (l := l)) fun p => [p.parameter] :=
  fun p _ _ h => (hF.leads_bareSlot h p).mono fun _ h' => h'.toInList

/-- The type word is the name if it could be one, and the return type if not. -/
theorem Closed.leads_typeOrName (hl : l ∈ worded) (h : Closed (Awaits "" true present) ps s)
    (r : Ascription (isReturnType l)) :
    Leads l r.tokens s fun s' => Outside s' ∧ s'.decl =
      { name := if l.isName r.type.type.text then r.type.type.text else ""
        kind := some .function
        parameters := ps
        returns :=
          { present, type := if l.isName r.type.type.text then none else some r.text } } := by
  obtain ⟨hsigns, hwords⟩ := signs_of_registered (registered_of_worded hl)
  have hdue : s.nameDue = true := h.frame.nameDue
  by_cases hname : l.isName r.type.type.text = true
  · have hlost := h.outside.leads_lostType hl hdue (by simp [h.decl_awaits, Returns.hasType]) r
      hname
    simpa [hname, h.decl_awaits, Declaration.setName] using hlost
  · have hreads := h.outside.reads_returnType hsigns (skips_worded hl) r fun _ =>
      ⟨(hwords .colon).1, eq_false_of_ne_true hname⟩
    refine ⟨_, hreads, h.outside.typed _, ?_⟩
    simp [Language.typed, h.decl_awaits, Declaration.setReturnType, hname]

theorem leads_anonymousFunction (hl : l = .php ∨ l.isScript = true) (f : AnonymousFunction l) :
    Leads l
      (f.modifiers.map (·.token) ++ [f.word.token] ++ f.parameters.tokens BareSlot.tokens ++
        f.returns.tokens) {}
      fun s => Outside s ∧ s.decl =
        { name := if l.isName f.typeWord then f.typeWord else ""
          kind := some .function
          parameters := f.parameters.slots.items.map BareSlot.parameter
          returns :=
            { present := true
              type := if l.isName f.typeWord then none else some f.returns.text } } := by
  have hworded := worded_of_typed hl
  have hF : Collecting l (Awaits "" true true) := collecting_awaits hworded
  have hlist := (leads_anonymousHead hl f.modifiers f.word).append fun s h =>
    hF.leads_parens hF.readsSlots_bare h f.parameters
  rw [← List.map_eq_flatMap] at hlist
  exact hlist.append fun s h =>
    h.leads_typeOrName hworded (f.returns.widen (isReturnType_of_typed hl))

theorem declaration_anonymousFunction (hl : l = .php ∨ l.isScript = true) (settings : Settings)
    (f : AnonymousFunction l) :
    l.declaration settings f.tokens = f.declaration settings.mixedNullable := by
  obtain ⟨hsigns, hwords⟩ := signs_of_registered (registered_of_worded (worded_of_typed hl))
  obtain ⟨s, hreads, hout, hdecl⟩ := leads_anonymousFunction hl f
  have hend := hout.decl_ending hsigns f.ending (fun _ m => (hwords m).1) fun _ m => (hwords m).2
  have hfamily : ∀ l ∈ worded, l.isCFamily = false := by decide
  have htokens : f.tokens =
      (f.modifiers.map (·.token) ++ [f.word.token] ++ f.parameters.tokens BareSlot.tokens ++
        f.returns.tokens) ++ f.ending.tokens := by
    simp [AnonymousFunction.tokens]
  unfold Language.declaration read
  rw [htokens, hreads, finish_of_function (by rw [hend, hdecl]), hend, hdecl,
    finish_function (hfamily l (worded_of_typed hl)), List.map_map]
  unfold AnonymousFunction.declaration
  by_cases hname : l.isName f.typeWord = true
  · simp only [hname, if_true, formatType_none]
    rfl
  · simp only [hname]
    rfl

/-! ## Top theorem -/

/-- The function stays without a name, and its parameters and its return type are as they are
written. -/
structure KeepsReturnType (settings : Settings) (f : AnonymousFunction l) : Prop where
  kind : (l.declaration settings f.tokens).kind = some .function
  name : (l.declaration settings f.tokens).name = ""
  parameters :
    (l.declaration settings f.tokens).parameters = f.parameterList settings.mixedNullable
  type : (l.declaration settings f.tokens).returns.type =
    l.formatType settings.mixedNullable (some f.returns.text)

/-- **A function without a name keeps its return type exactly if the type could not be a name**, and
otherwise the type is its name. -/
theorem keepsReturnType_iff (hl : l = .php ∨ l.isScript = true) (settings : Settings)
    (f : AnonymousFunction l) :
    l.declaration settings f.tokens = f.declaration settings.mixedNullable ∧
      (KeepsReturnType settings f ↔ l.isName f.typeWord = false) := by
  have hread := declaration_anonymousFunction hl settings f
  refine ⟨hread, fun h => eq_false_of_ne_true fun hname => ?_, fun hname => ?_⟩
  · have hempty := h.name
    rw [hread, AnonymousFunction.declaration, if_pos hname] at hempty
    exact ne_empty_of_isName hname hempty
  · constructor <;> rw [hread] <;> simp [AnonymousFunction.declaration, hname]

theorem dollarNames_php : Language.php = .php ∨ Language.php = .scss := .inl rfl

/-- `static function (int $bar, $baz): ?Foo {` -/
def staticClosure : AnonymousFunction .php where
  modifiers :=
    [⟨{ kind := "static", text := "static", start := 4, stop := 10 }, by decide, by decide⟩]
  word :=
    ⟨{ kind := "function", text := "function", start := 11, stop := 19 }, by decide, by decide⟩
  parameters :=
    { slots :=
        .of
          (.typed dollarNames_php
            (some
              { type :=
                  ⟨{ kind := "primitive_type", text := "int", start := 21, stop := 24 }, by decide,
                    by decide⟩ })
            ⟨{ kind := "variable_name", text := "$bar", start := 25, stop := 29 }, by decide,
              by decide⟩)
          [({},
            .typed dollarNames_php none
              ⟨{ kind := "variable_name", text := "$baz", start := 31, stop := 35 }, by decide,
                by decide⟩)] }
  returns :=
    { type :=
        { type :=
            ⟨{ kind := "optional_type", text := "?Foo", start := 38, stop := 42 }, by decide,
              by decide⟩ } }
  ending := .block {} []

theorem keepsReturnType_staticClosure :
    (Language.php = .php ∨ Language.php.isScript = true) ∧
      Language.php.isName staticClosure.typeWord = false ∧ KeepsReturnType {} staticClosure ∧
      Language.php.declaration {} staticClosure.tokens =
        { name := ""
          kind := some .function
          parameters := [{ name := "$bar", type := some "int" }, { name := "$baz" }]
          returns := { present := true, type := some "Foo|null" } } := by
  obtain ⟨hread, hkeeps⟩ := keepsReturnType_iff (.inl rfl) {} staticClosure
  exact ⟨.inl rfl, by decide, hkeeps.2 (by decide), hread.trans (by decide)⟩

/-- `function (bar: number): boolean {` -/
def boolClosure : AnonymousFunction .typescript where
  word :=
    ⟨{ kind := "function", text := "function", start := 3, stop := 11 }, by decide, by decide⟩
  parameters :=
    { opener := ⟨12, 13⟩
      slots :=
        .of
          (.script rfl
            { name :=
                ⟨{ kind := "identifier", text := "bar", start := 13, stop := 16 }, by decide,
                  by decide⟩
              type := some
                { colon := ⟨16, 17⟩
                  type :=
                    { type :=
                        ⟨{ kind := "predefined_type", text := "number", start := 18, stop := 24 },
                          by decide, by decide⟩ } } })
          []
      closer := ⟨24, 25⟩ }
  returns :=
    { colon := ⟨25, 26⟩
      type :=
        { type :=
            ⟨{ kind := "predefined_type", text := "boolean", start := 27, stop := 34 }, by decide,
              by decide⟩ } }
  ending := .block ⟨35, 36⟩ []

/-- The return type is taken for the name. -/
theorem returnType_not_kept_boolClosure :
    boolClosure.returns.text = "boolean" ∧
      Language.typescript.declaration {} boolClosure.tokens =
        { name := "boolean"
          kind := some .function
          parameters := [{ name := "bar", type := some "number" }]
          returns := { present := true, type := none } } := by
  decide

end Language

end DocTemplate
