import DocTemplate.Language.Template
import DocTemplate.Proofs.Reading

/-!
# Functions of PHP

    mods function name ( [T [ ]…] $x [= V], … ) [: R [ ]…] end

Reading the written form of a function gives back what was written (`declaration_phpFunction`).
-/

namespace DocTemplate.Written

/-! ## Written form -/

/-- A parameter: a name with a dollar sign, a type before it and a default value behind it. -/
structure PhpSlot where
  type : Option (ArrayType Language.php.isType) := none
  name : Word Language.isDollarName
  value : Option (Default .php) := none

namespace PhpSlot

def tokens (p : PhpSlot) : List Token :=
  (p.type.map ArrayType.tokens).getD [] ++ p.name.token :: (p.value.map Default.tokens).getD []

def parameter (p : PhpSlot) : Parameter where
  name := p.name.text
  type := p.type.map ArrayType.text
  value := (p.value.map (·.value.text)).getD ""

end PhpSlot

structure PhpFunction where
  modifiers : List (Word (Language.php.grammar.has .modifierWord)) := []
  word : Word (Language.php.grammar.has .functionWord)
  name : Word Language.php.isName
  parameters : Parens PhpSlot
  returns : Option (Ascription (isReturnType .php)) := none
  ending : Ending

namespace PhpFunction

def tokens (f : PhpFunction) : List Token :=
  f.modifiers.map (·.token) ++ f.word.token :: f.name.token ::
    (f.parameters.tokens PhpSlot.tokens ++ (f.returns.map Ascription.tokens).getD [] ++
      f.ending.tokens)

/-- The return type as it is written. -/
def returnType (f : PhpFunction) : Option String := f.returns.map Ascription.text

def declaration (f : PhpFunction) (mixed : Bool) : Declaration where
  name := f.name.text
  kind := some .function
  parameters := f.parameters.slots.items.map fun p =>
    { p.parameter with type := Language.php.formatType mixed p.parameter.type }
  returns :=
    { present := f.returnType ≠ some "void"
      type := Language.php.formatType mixed f.returnType }

end PhpFunction

end Written

namespace Language

open Written

variable {F : Frame → Prop} {ps : List Parameter} {s : Scan}

/-! ## Lemmas -/

theorem signsInert_php : SignsInert .php := by
  intro m g _
  cases m <;> rfl

theorem isDollarName_of_isType {x : String} (h : Language.php.isType x = true) :
    isDollarName x = false := by
  cases hd : isDollarName x with
  | false => rfl
  | true =>
    unfold isDollarName at hd
    split at hd
    · rename_i hx
      have hnull : dropNullable x = x := by
        unfold dropNullable
        rw [hx]
        rfl
      have hword : Grammar.php.has .typeWord x = false := by
        cases hw : Grammar.php.has .typeWord x with
        | false => rfl
        | true =>
          have hmem : x ∈ Grammar.php.typeWords := Grammar.mem_words_of_has hw
          have hall : ∀ w ∈ Grammar.php.typeWords, w.toList.head? ≠ some '$' := by decide
          exact absurd (by rw [hx]; rfl) (hall x hmem)
      have hclass : isClassName x = false := by
        unfold isClassName
        rw [hx]
        rfl
      simp [Language.isType, hnull, hword, hclass, Language.grammar] at h
    · cases hd

theorem isReserved_of_isType_php {x : String} (h : Language.php.isType x = true) :
    Language.php.isReserved x = false := by
  cases hr : Language.php.isReserved x with
  | false => rfl
  | true =>
    have hall : ∀ w ∈ Grammar.php.keywords, Language.php.isType w = false := by decide
    rw [hall x (mem_keywords_of_isReserved hr)] at h
    cases h

theorem isReserved_of_isDollarName {l : Language} (hl : l = .php ∨ l = .scss) {x : String}
    (h : isDollarName x = true) : l.isReserved x = false := by
  cases hr : l.isReserved x with
  | false => rfl
  | true =>
    have hall : ∀ w ∈ l.grammar.keywords, isDollarName w = false := by
      rcases hl with rfl | rfl <;> decide
    rw [hall x (mem_keywords_of_isReserved hr)] at h
    cases h

/-- A type begins a parameter. -/
theorem slot_type (hF : Collecting .php F) (h : SlotStart F ps s) (w : Word Language.php.isType) :
    InSlot F (ps ++ [{ type := some w.text }]) true (Language.php.step w.token s) := by
  have hread : Language.php.readSlot w.token s =
      Scan.take
        { s with decl := s.decl.addParameter { type := some w.text }, typeDue := true } := by
    show readTypedSlot .php w.token s = _
    unfold readTypedSlot
    rw [h.typeDue, if_neg (by exact fun h => Bool.false_ne_true h.1),
      if_neg (by exact fun h => Bool.false_ne_true h.1),
      if_neg (by exact fun h => Bool.false_ne_true h.1),
      if_neg fun hn => absurd hn.2 (by
        show ¬isDollarName w.token.text = true
        rw [isDollarName_of_isType w.holds]
        exact Bool.false_ne_true),
      if_pos ⟨Bool.false_ne_true, w.holds⟩]
    rfl
  rw [hF.step_slot h.toInList h.inValue
    (inert_of_not_isReserved w.plain (isReserved_of_isType_php w.holds) rfl)
    (divides_eq_false w.plain) (.inr (Token.opensGroup_eq_false w.plain)) hread]
  exact ⟨⟨h.frame, Declaration.parameters_addParameter h.parameters _, h.depths⟩,
    h.inValue, rfl, rfl⟩

theorem leads_phpType (hF : Collecting .php F) (h : SlotStart F ps s)
    (t : ArrayType Language.php.isType) :
    Leads .php t.tokens s (InSlot F (ps ++ [{ type := some t.text }]) true) := by
  have hne : t.type.text ≠ "" := by
    intro he
    have ht := t.type.holds
    rw [show t.type.token.text = "" from he, isType_empty] at ht
    cases ht
  refine .cons (hF.done _ h.frame) (hF.leads_brackets (q := {}) ?_ ?_ t.arrays hne
    (slot_type hF h t.type))
  · intro s g hdue hlast
    show readTypedSlot .php g.token s = _
    unfold readTypedSlot
    rw [if_pos ⟨hdue, hlast, by simp⟩]
  · intro s g hdue hlast
    show readTypedSlot .php g.token s = _
    unfold readTypedSlot
    rw [if_neg (by simp), if_pos ⟨hdue, hlast, by simp⟩]

/-- A name behind a type completes the parameter. -/
theorem slot_typedName (hF : Collecting .php F) {q : Parameter} (h : InSlot F (ps ++ [q]) true s)
    (w : Word isDollarName) :
    InSlot F (ps ++ [{ q with name := w.text }]) false (Language.php.step w.token s) := by
  have hread : Language.php.readSlot w.token s =
      Scan.take
        { s with
          decl := s.decl.modifyLastParameter fun p => { p with name := w.text }
          typeDue := false } := by
    show readTypedSlot .php w.token s = _
    unfold readTypedSlot
    rw [if_neg (by simp), if_neg (by simp), if_pos ⟨h.typeDue, w.holds⟩]
    rfl
  rw [hF.step_slot h.toInList h.inValue
    (inert_of_not_isReserved w.plain (isReserved_of_isDollarName (.inl rfl) w.holds) rfl)
    (divides_eq_false w.plain) (.inl h.slotStart) hread]
  exact ⟨⟨h.frame, Declaration.parameters_modifyLastParameter h.parameters _, h.depths⟩,
    h.inValue, rfl, rfl⟩

/-- A name alone is a parameter, also in SCSS. -/
theorem slot_name {l : Language} (hF : Collecting l F) (hl : l = .php ∨ l = .scss)
    (h : SlotStart F ps s) (w : Word isDollarName) :
    InSlot F (ps ++ [{ name := w.text }]) false (l.step w.token s) := by
  have hslot : l.readSlot w.token s = l.readTypedSlot w.token s := by
    rcases hl with rfl | rfl
    · rfl
    · exact if_neg (by simp)
  have hvariable : l.isVariableName w.token.text = true := by
    rcases hl with rfl | rfl <;> exact w.holds
  have hskips : l.skips w.token = false := by
    rcases hl with rfl | rfl <;> rfl
  have hread : l.readSlot w.token s =
      Scan.take { s with decl := s.decl.addParameter { name := w.text } } := by
    rw [hslot]
    unfold readTypedSlot
    rw [h.typeDue, if_neg (by exact fun h => Bool.false_ne_true h.1),
      if_neg (by exact fun h => Bool.false_ne_true h.1),
      if_neg (by exact fun h => Bool.false_ne_true h.1), if_pos ⟨Bool.false_ne_true, hvariable⟩]
    rfl
  rw [hF.step_slot h.toInList h.inValue
    (inert_of_not_isReserved w.plain (isReserved_of_isDollarName hl w.holds) hskips)
    (divides_eq_false w.plain) (.inr (Token.opensGroup_eq_false w.plain)) hread]
  exact ⟨⟨h.frame, Declaration.parameters_addParameter h.parameters _, h.depths⟩,
    h.inValue, h.typeDue, rfl⟩

theorem leads_phpSlot (hF : Collecting .php F) (h : SlotStart F ps s)
    (type : Option (ArrayType Language.php.isType)) (name : Word isDollarName) :
    Leads .php ((type.map ArrayType.tokens).getD [] ++ [name.token]) s
      (InSlot F (ps ++ [{ name := name.text, type := type.map ArrayType.text }]) false) := by
  cases type with
  | none => exact .single (hF.done _ h.frame) (slot_name hF (.inl rfl) h name)
  | some t =>
    refine (leads_phpType hF h t).append fun s' h' => ?_
    exact .single (hF.done _ h'.frame) (slot_typedName hF h' name)

theorem readsSlots_php (hF : Collecting .php F) :
    ReadsSlots .php F PhpSlot.tokens fun p => [p.parameter] := by
  intro p ps s h
  obtain ⟨type, name, value⟩ := p
  have := (leads_phpSlot hF h type name).append fun s' h' =>
    hF.leads_default? value h'.toInList h'.inValue rfl
  rw [List.append_assoc, List.singleton_append] at this
  exact this

/-! ## The head -/

/-- Before the word of the function, modifiers are passed over. -/
theorem step_modifier_php (w : Word (Language.php.grammar.has .modifierWord)) :
    Language.php.step w.token {} = {} := by
  have hmem : w.token.text ∈ Grammar.php.modifierWords :=
    Grammar.mem_words_of_has w.holds
  have hall : ∀ x ∈ Grammar.php.modifierWords,
      Language.php.grammar.has .classWord x = false ∧
        Language.php.grammar.has .functionWord x = false ∧
        Language.php.grammar.has .variableWord x = false ∧
        Language.php.isVariableName x = false ∧ Language.php.isType x = false := by decide
  obtain ⟨h1, h2, h3, h4, h5⟩ := hall _ hmem
  have hc : Language.php.readClass w.token {} = Scan.leave {} := by
    unfold readClass
    rw [if_neg (ne_true_of_eq_false h1)]
    rfl
  have hf : Language.php.readFunction w.token {} = Scan.leave {} := by
    show readWordFunction .php w.token {} = _
    unfold readWordFunction
    rw [if_neg (ne_true_of_eq_false h2)]
    rfl
  rw [step_of_readVariable rfl rfl hc hf rfl]
  show (readWordVariable .php w.token {}).scan = {}
  unfold readWordVariable
  rw [if_neg (by exact fun h => nomatch h.1), if_neg (by exact Bool.false_ne_true),
    if_neg (ne_true_of_eq_false h3), if_neg fun h => ne_true_of_eq_false h4 h.2,
    if_neg (ne_true_of_eq_false h5)]
  rfl

theorem step_word_php (w : Word (Language.php.grammar.has .functionWord)) :
    Language.php.step w.token {} = { named "" with nameDue := true } := by
  have hmem : w.token.text ∈ Grammar.php.functionWords :=
    Grammar.mem_words_of_has w.holds
  have hclass : ∀ x ∈ Grammar.php.functionWords,
      Language.php.grammar.has .classWord x = false := by decide
  have hc : Language.php.readClass w.token {} = Scan.leave {} := by
    unfold readClass
    rw [if_neg (ne_true_of_eq_false (hclass _ hmem))]
    rfl
  have hf : Language.php.readFunction w.token {} =
      Scan.take { named "" with nameDue := true } := by
    show readWordFunction .php w.token {} = _
    unfold readWordFunction
    rw [if_pos w.holds]
    rfl
  rw [step_of_readFunction rfl rfl hc (by rw [hf]; rfl), hf]
  rfl

/-- The function up to its return type. -/
theorem leads_phpFunction (f : PhpFunction) :
    Leads .php
      (f.modifiers.map (·.token) ++ f.word.token :: f.name.token ::
        (f.parameters.tokens PhpSlot.tokens ++ (f.returns.map Ascription.tokens).getD [])) {}
      (Closed (Announces f.name.text { present := true, type := f.returnType })
        (f.parameters.slots.items.map PhpSlot.parameter)) := by
  have hF : Collecting .php (Announces f.name.text { present := true }) :=
    collecting_announces signsInert_php
  have hopen : Unopened (Announces f.name.text { present := true }) (named f.name.text) :=
    ⟨⟨rfl, rfl, rfl, rfl, rfl, rfl⟩, rfl, rfl, rfl, rfl⟩
  have hlist := hF.leads_parens (readsSlots_php hF) (hopen.atList signsInert_php fun _ h => h)
    f.parameters
  rw [← List.map_eq_flatMap] at hlist
  refine (leads_modifiers f.modifiers step_modifier_php).append fun s hs => ?_
  subst hs
  refine .cons rfl ?_
  rw [step_word_php]
  refine .cons rfl ?_
  rw [step_name fun _ => rfl]
  exact hlist.append fun s hs => hs.leads_returnType? signsInert_php (fun _ => rfl) f.returns

/-! ## Top theorem -/

/-- **Reading the written form of a function of PHP gives back what was written.** -/
theorem declaration_phpFunction (settings : Settings) (f : PhpFunction) :
    Language.php.declaration settings f.tokens = f.declaration settings.mixedNullable := by
  have hread := read_of_closed signsInert_php (leads_phpFunction f) f.ending settings.mixedNullable
  have htokens : f.tokens =
      (f.modifiers.map (·.token) ++ f.word.token :: f.name.token ::
        (f.parameters.tokens PhpSlot.tokens ++ (f.returns.map Ascription.tokens).getD [])) ++
      f.ending.tokens := by
    simp [PhpFunction.tokens]
  have hvoid : (!Language.php.isVoid f.returnType) = decide (f.returnType ≠ some "void") := by
    rw [isVoid_eq rfl, decide_not]
  unfold Language.declaration
  rw [htokens, hread, finish_function rfl, hvoid, List.map_map]
  rfl

/-- `public static function pick(?int[] $ids = array(1, 2), $key): ?Node {` -/
def pickNode : PhpFunction where
  modifiers :=
    [⟨{ kind := "public", text := "public" }, by decide, by decide⟩,
      ⟨{ kind := "static", text := "static" }, by decide, by decide⟩]
  word := ⟨{ kind := "function", text := "function" }, by decide, by decide⟩
  name := ⟨{ kind := "name", text := "pick" }, by decide, by decide⟩
  parameters :=
    { slots :=
        .of
          { type := some
              { type := ⟨{ kind := "optional_type", text := "?int" }, by decide, by decide⟩
                arrays := [{}] }
            name := ⟨{ kind := "variable_name", text := "$ids" }, by decide, by decide⟩
            value := some
              { value :=
                  { tokens :=
                      [{ kind := "array", text := "array", start := 45, stop := 50 },
                        { kind := "(", text := "(", start := 50, stop := 51 },
                        { kind := "integer", text := "1", start := 51, stop := 52 },
                        { kind := ",", text := ",", start := 52, stop := 53 },
                        { kind := "integer", text := "2", start := 54, stop := 55 },
                        { kind := ")", text := ")", start := 55, stop := 56 }]
                    nonempty := by decide
                    inert := by decide
                    balanced := by decide } } }
          [({}, { name := ⟨{ kind := "variable_name", text := "$key" }, by decide, by decide⟩ })] }
  returns := some
    { type := { type := ⟨{ kind := "optional_type", text := "?Node" }, by decide, by decide⟩ } }
  ending := .block {} []

theorem declaration_pickNode :
    Language.php.declaration {} pickNode.tokens =
      { name := "pick"
        kind := some .function
        parameters :=
          [{ name := "$ids", type := some "int[]|null", value := "array(1, 2)" },
            { name := "$key" }]
        returns := { present := true, type := some "Node|null" } } :=
  (declaration_phpFunction {} pickNode).trans (by decide)

end Language

end DocTemplate
