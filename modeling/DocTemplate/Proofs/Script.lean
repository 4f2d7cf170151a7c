import DocTemplate.Language.Template
import DocTemplate.Proofs.Destructuring

/-!
# Functions of TypeScript and JavaScript

    mods function name ( slots ) [: R [ ]…] end
    mods name ( slots ) [: R [ ]…] end
    mods p . q . name = function ( slots ) [: R [ ]…] end
    mods const name = ( slots ) => end

A slot is `x [?] [: T [ ]…] [= V]`, or a destructuring group with a type behind it.  Reading the
written form of a function gives back what was written (`declaration_scriptFunction`).

In the last form the parameters are collected before anything is declared, and a word inside of a
group may declare the function earlier than the arrow (`Pending`).
-/

namespace DocTemplate.Written

/-! ## Written form -/

/-- Whether a text is read as the type of a parameter. -/
def isSlotType (l : Language) (x : String) : Bool :=
  x ≠ "" && !l.grammar.has .classWord x && !l.grammar.has .functionWord x

/-- A parameter that is no group, without a default value. -/
structure PlainSlot (l : Language) where
  name : Word l.isVariableName
  question : Option (Sign .question) := none
  type : Option (Ascription (isSlotType l)) := none

namespace PlainSlot

variable {l : Language}

def tokens (p : PlainSlot l) : List Token :=
  p.name.token :: ((p.question.map fun q => [q.token]).getD [] ++
    (p.type.map Ascription.tokens).getD [])

def parameter (p : PlainSlot l) : Parameter where
  name := p.name.text
  type := p.type.map Ascription.text

end PlainSlot

inductive ScriptSlot (l : Language) where
  | plain (slot : PlainSlot l) (value : Option (Default l))
  | group (g : Group l) (type : Option (Sign .colon × Word (isSlotType l)))

namespace ScriptSlot

variable {l : Language}

def tokens : ScriptSlot l → List Token
  | .plain slot value => slot.tokens ++ (value.map Default.tokens).getD []
  | .group g type => g.tokens ++ (type.map fun a => [a.1.token, a.2.token]).getD []

/-- The type of a group is not kept. -/
def parameters : ScriptSlot l → List Parameter
  | .plain slot value =>
    [{ slot.parameter with value := (value.map (·.value.text)).getD "" }]
  | .group g _ => g.parameters

end ScriptSlot

/-- What comes before the parameters of a function that is no arrow function. -/
inductive ScriptHead (l : Language) where
  | word (word : Word (l.grammar.has .functionWord)) (name : Word l.isName)
  | method (name : Word l.isName)
  | property (path : List (Word l.isName × Word fun x => x = ".")) (name : Word l.isName)
    (equals : Sign .equals) (word : Word (l.grammar.has .functionWord))

namespace ScriptHead

variable {l : Language}

def tokens : ScriptHead l → List Token
  | .word w name => [w.token, name.token]
  | .method name => [name.token]
  | .property path name equals w =>
    path.flatMap (fun p => [p.1.token, p.2.token]) ++ [name.token, equals.token, w.token]

def name : ScriptHead l → String
  | .word _ name => name.text
  | .method name => name.text
  | .property _ name _ _ => name.text

end ScriptHead

inductive ScriptForm (l : Language) where
  | headed (head : ScriptHead l) (parameters : Parens (ScriptSlot l))
    (returns : Option (Ascription (isReturnType l)))
  | arrow (word : Word (l.grammar.has .variableWord)) (name : Word l.isName)
    (equals : Sign .equals) (parameters : Parens (ScriptSlot l)) (arrow : Sign .arrow)

namespace ScriptForm

variable {l : Language}

def tokens : ScriptForm l → List Token
  | .headed head parameters returns =>
    head.tokens ++ parameters.tokens ScriptSlot.tokens ++ (returns.map Ascription.tokens).getD []
  | .arrow w name equals parameters sign =>
    [w.token, name.token, equals.token] ++ parameters.tokens ScriptSlot.tokens ++ [sign.token]

def name : ScriptForm l → String
  | .headed head _ _ => head.name
  | .arrow _ name _ _ _ => name.text

def slots : ScriptForm l → List (ScriptSlot l)
  | .headed _ parameters _ => parameters.slots.items
  | .arrow _ _ _ parameters _ => parameters.slots.items

def returnType : ScriptForm l → Option String
  | .headed _ _ returns => returns.map Ascription.text
  | .arrow .. => none

end ScriptForm

structure ScriptFunction (l : Language) where
  modifiers : List (Word (l.grammar.has .modifierWord)) := []
  form : ScriptForm l
  ending : Ending

namespace ScriptFunction

variable {l : Language}

def tokens (f : ScriptFunction l) : List Token :=
  f.modifiers.map (·.token) ++ f.form.tokens ++ f.ending.tokens

def declaration (f : ScriptFunction l) : Declaration where
  name := f.form.name
  kind := some .function
  parameters := f.form.slots.flatMap ScriptSlot.parameters
  returns := { present := !l.isVoid f.form.returnType, type := f.form.returnType }

end ScriptFunction

end Written

namespace Language

open Written

variable {l : Language} {F : Frame → Prop} {ps : List Parameter} {t : Token} {s : Scan}

/-! ## Parameters -/

theorem registered_of_isScript (hl : l.isScript = true) : l ∈ registry.map (·.2) := by
  rcases eq_of_isScript hl with rfl | rfl <;> simp [registry]

theorem signsInert_script (hl : l.isScript = true) : SignsInert l :=
  (signs_of_registered (registered_of_isScript hl)).1

theorem readSlot_script (hl : l.isScript = true) (t : Token) (s : Scan) :
    l.readSlot t s = l.readScriptSlot t s := by
  rcases eq_of_isScript hl with rfl | rfl <;> rfl

theorem isName_of_isVariableName (hl : l.isScript = true) {x : String}
    (h : l.isVariableName x = true) : l.isName x = true := by
  rcases eq_of_isScript hl with rfl | rfl
  · exact (Bool.and_eq_true_iff.1 h).1
  · exact (Bool.and_eq_true_iff.1 h).1

theorem inert_of_isSlotType (hl : l.isScript = true) (w : Word (isSlotType l)) :
    l.inert w.token = true := by
  have h := w.holds
  unfold isSlotType at h
  simp only [Bool.and_eq_true, Bool.not_eq_true'] at h
  exact inert_iff.2 ⟨h.1.2, h.2, fun _ => w.token_is _, skips_script hl _⟩

/-- In a parameter that is no group. -/
structure InPlain (F : Frame → Prop) (ps : List Parameter) (s : Scan) : Prop
    extends InSlot F ps false s where
  groupClosed : s.groupClosed = false

theorem Collecting.plain_name (hF : Collecting l F) (hl : l.isScript = true)
    (h : SlotStart F ps s) (w : Word l.isVariableName) :
    InPlain F (ps ++ [{ name := w.text }]) (l.step w.token s) := by
  have hread : l.readSlot w.token s =
      Scan.take { s with decl := s.decl.addParameter { name := w.text } } := by
    rw [readSlot_script hl]
    unfold readScriptSlot
    rw [if_neg (ne_true_of_eq_false h.typeDue), if_neg (by simp), if_neg (by simp),
      if_neg (by simp), if_neg (by simp), if_pos ⟨h.slotStart, w.holds⟩]
    rfl
  have hin := inert_of_not_isReserved w.plain
    (isReserved_of_isName (isName_of_isVariableName hl w.holds)) (skips_script hl _)
  rw [hF.step_slot h.toInList h.inValue hin (divides_eq_false w.plain)
    (.inr (Token.opensGroup_eq_false w.plain)) hread]
  exact ⟨⟨⟨h.frame, Declaration.parameters_addParameter h.parameters _, h.depths⟩,
    h.inValue, h.typeDue, rfl⟩, h.groupClosed⟩

theorem Collecting.plain_question (hF : Collecting l F) (hl : l.isScript = true)
    (h : InPlain F ps s) (g : Sign .question) : InPlain F ps (l.step g.token s) := by
  have hread : l.readSlot g.token s = s.take := by
    rw [readSlot_script hl]
    unfold readScriptSlot
    rw [if_neg (ne_true_of_eq_false h.typeDue), if_neg (by simp), if_pos (by simp)]
  rw [hF.step_slot h.toInList h.inValue (hF.signs _ g (by decide)) (by simp [divides])
    (.inl h.slotStart) hread]
  exact ⟨⟨⟨h.frame, h.parameters, h.depths⟩, h.inValue, h.typeDue, rfl⟩, h.groupClosed⟩

/-- A colon makes a type due. -/
theorem Collecting.slot_colon (hF : Collecting l F) (hl : l.isScript = true)
    (h : InSlot F ps false s) (g : Sign .colon) :
    l.step g.token s = { s with typeDue := true } := by
  have hread : l.readSlot g.token s = Scan.take { s with typeDue := true } := by
    rw [readSlot_script hl]
    unfold readScriptSlot
    rw [if_neg (ne_true_of_eq_false h.typeDue), if_pos (by simp)]
  rw [hF.step_slot h.toInList h.inValue (hF.signs _ g (by decide)) (by simp [divides])
    (.inl h.slotStart) hread, ← h.slotStart]

/-- The type that is due goes to the last parameter, unless that is one of a group. -/
theorem Collecting.step_slotType (hF : Collecting l F) (hl : l.isScript = true)
    (h : InSlot F ps true s) (w : Word (isSlotType l)) :
    l.step w.token s =
      if s.groupClosed then { s with typeDue := false }
      else
        { s with
          decl := s.decl.modifyLastParameter fun p => { p with type := some w.text }
          typeDue := false } := by
  have hread : l.readSlot w.token s =
      Scan.take (if s.groupClosed then { s with typeDue := false }
      else
        { s with
          decl := s.decl.modifyLastParameter fun p => { p with type := some w.text }
          typeDue := false }) := by
    rw [readSlot_script hl]
    unfold readScriptSlot
    rw [if_pos h.typeDue]
    dsimp only
    split <;> rfl
  rw [hF.step_slot h.toInList h.inValue (inert_of_isSlotType hl w)
    (divides_eq_false w.plain) (.inl h.slotStart) hread, ← h.slotStart]
  split <;> rfl

theorem InSlot.awaitType (h : InSlot F ps false s) : InSlot F ps true { s with typeDue := true } :=
  ⟨⟨h.frame, h.parameters, h.depths⟩, h.inValue, rfl, h.slotStart⟩

theorem Collecting.leads_ascription (hF : Collecting l F) (hl : l.isScript = true)
    {q : Parameter} (h : InPlain F (ps ++ [q]) s) (a : Ascription (isSlotType l)) :
    Leads l a.tokens s (InSlot F (ps ++ [{ q with type := some a.text }]) false) := by
  obtain ⟨colon, type, arrays⟩ := a
  have hne : type.text ≠ "" := by
    have := type.holds
    unfold isSlotType at this
    simp only [Bool.and_eq_true, decide_eq_true_eq] at this
    exact this.1.1
  refine .cons (hF.done _ h.frame) ?_
  rw [hF.slot_colon hl h.toInSlot colon]
  refine .cons (hF.done _ h.frame) ?_
  rw [hF.step_slotType hl h.toInSlot.awaitType type, if_neg (ne_true_of_eq_false h.groupClosed)]
  refine hF.leads_brackets ?_ ?_ arrays hne
    ⟨⟨h.frame, Declaration.parameters_modifyLastParameter h.parameters _, h.depths⟩,
      h.inValue, rfl, h.slotStart⟩
  · intro s g hdue hlast
    rw [readSlot_script hl]
    unfold readScriptSlot
    rw [if_neg (ne_true_of_eq_false hdue), if_neg (by simp), if_neg (by simp),
      if_pos ⟨by simp, hlast⟩]
  · intro s g hdue hlast
    rw [readSlot_script hl]
    unfold readScriptSlot
    rw [if_neg (ne_true_of_eq_false hdue), if_neg (by simp), if_neg (by simp), if_neg (by simp),
      if_pos (by simp)]

theorem Collecting.leads_plainSlot (hF : Collecting l F) (hl : l.isScript = true)
    (h : SlotStart F ps s) (p : PlainSlot l) :
    Leads l p.tokens s (InSlot F (ps ++ [p.parameter]) false) := by
  obtain ⟨name, question, type⟩ := p
  have hname := hF.plain_name hl h name
  have hquestion : Leads l ((question.map fun q => [q.token]).getD []) (l.step name.token s)
      (InPlain F (ps ++ [{ name := name.text }])) := by
    cases question with
    | none => exact .nil hname
    | some q => exact .single (hF.done _ hname.frame) (hF.plain_question hl hname q)
  refine .cons (hF.done _ h.frame) (hquestion.append fun s' h' => ?_)
  cases type with
  | none => exact .nil h'.toInSlot
  | some a => exact hF.leads_ascription hl h' a

theorem Declaring.leads_plain (hF : Declaring l F) (h : SlotStart F ps s) (slot : PlainSlot l)
    (value : Option (Default l)) :
    Leads l (ScriptSlot.plain slot value).tokens s
      (Listing F (ps ++ (ScriptSlot.plain slot value).parameters)) :=
  (hF.leads_plainSlot hF.script h slot).append fun _ h' =>
    hF.leads_default? value h'.toInList h'.inValue rfl

/-- The type of a group is passed over. -/
theorem Declaring.leads_groupType? (hF : Declaring l F) (h : GroupClosed F ps s)
    (type : Option (Sign .colon × Word (isSlotType l))) :
    Leads l ((type.map fun a => [a.1.token, a.2.token]).getD []) s (InSlot F ps false) := by
  cases type with
  | none => exact .nil h.toInSlot
  | some a =>
    refine .cons (hF.done _ h.frame) ?_
    rw [hF.slot_colon hF.script h.toInSlot a.1]
    refine .single (hF.done _ h.frame) ?_
    rw [hF.step_slotType hF.script h.toInSlot.awaitType a.2, if_pos h.groupClosed]
    exact ⟨⟨h.frame, h.parameters, h.depths⟩, h.inValue, rfl, h.slotStart⟩

theorem Declaring.readsSlots (hF : Declaring l F) :
    ReadsSlots l F ScriptSlot.tokens (ScriptSlot.parameters (l := l)) := by
  intro slot ps s h
  cases slot with
  | plain slot value => exact hF.leads_plain h slot value
  | group g type =>
    refine (hF.leads_group g h).append fun s' h' => ?_
    exact (hF.leads_groupType? h' type).mono fun _ h'' => h''.toInList

/-! ## Before the parameters -/

theorem readVariable_script (hl : l.isScript = true) (t : Token) (s : Scan) :
    l.readVariable t s = l.readScriptVariable t s := by
  rcases eq_of_isScript hl with rfl | rfl <;> rfl

/-- While nothing is declared or assigned, tokens go to the reader of variables. -/
theorem step_undeclared (hl : l.isScript = true) (hin : l.inert t = true)
    (hp : t.is .openParen = false) (hk : s.decl.kind = none) (ha : s.assigned = false)
    (hd : s.done = false) : l.step t s = (l.readScriptVariable t s).scan := by
  obtain ⟨-, hw, harrow, hj⟩ := inert_iff.1 hin
  have hf : l.readFunction t s = s.leave := by
    rw [readFunction_script hl]
    unfold readScriptFunction
    rw [if_neg (ne_true_of_eq_false hw), hk]
    dsimp only
    rw [if_neg (ne_true_of_eq_false (harrow hl)),
      if_neg fun hc => ne_true_of_eq_false hp hc.1]
  have hparams : l.readParameters t s = s.leave := by
    have hcollects : l.collects s = false := by simp [Language.collects, hk, ha]
    unfold readParameters
    rw [if_pos (ne_true_of_eq_false hcollects)]
  rw [step_of_readVariable hj hd (readClass_of_inert hin (by rw [hk]; decide)) hf hparams,
    readVariable_script hl]

theorem inert_of_isName (hl : l.isScript = true) (w : Word l.isName) : l.inert w.token = true :=
  inert_of_not_isReserved w.plain (isReserved_of_isName w.holds) (skips_script hl _)

theorem variableWord_of_isName {x : String} (h : l.isName x = true) :
    l.grammar.has .variableWord x = false :=
  has_eq_false_of_not_isReserved (isReserved_of_isName h) (by decide)

theorem variableWord_of_mark (hl : l.isScript = true) (m : Mark) :
    l.grammar.has .variableWord m.label = false := by
  have hall : ∀ m ∈ Mark.all, l.grammar.has .variableWord m.label = false := by
    rcases eq_of_isScript hl with rfl | rfl <;> decide
  exact hall m m.mem_all

theorem step_modifier (hl : l.isScript = true) (w : Word (l.grammar.has .modifierWord)) :
    l.step w.token {} = {} := by
  have hmem : w.token.text ∈ l.grammar.modifierWords := Grammar.mem_words_of_has w.holds
  have hall : ∀ x ∈ l.grammar.modifierWords,
      l.grammar.has .classWord x = false ∧ l.grammar.has .functionWord x = false ∧
        l.grammar.has .variableWord x = false ∧ l.isName x = false := by
    rcases eq_of_isScript hl with rfl | rfl <;> decide
  obtain ⟨h1, h2, h3, h4⟩ := hall _ hmem
  have hin : l.inert w.token = true :=
    inert_iff.2 ⟨h1, h2, fun _ => w.token_is _, skips_script hl _⟩
  rw [step_undeclared hl hin (by simp) rfl rfl rfl]
  unfold readScriptVariable
  simp [h3, h4, Scan.leave]

/-- The last name is the candidate. -/
theorem step_candidate (hl : l.isScript = true) (w : Word l.isName) (c : String) :
    l.step w.token { candidate := c } = { candidate := w.text } := by
  rw [step_undeclared hl (inert_of_isName hl w) (by simp) rfl rfl rfl]
  unfold readScriptVariable
  simp [variableWord_of_isName w.holds, w.holds, Scan.take, Word.text]

theorem step_dot (hl : l.isScript = true) (w : Word fun x => x = ".") (c : String) :
    l.step w.token { candidate := c } = { candidate := c } := by
  have htext : w.token.text = "." := by simpa using w.holds
  have hdot : l.grammar.has .classWord "." = false ∧ l.grammar.has .functionWord "." = false ∧
      l.grammar.has .variableWord "." = false ∧ l.isName "." = false := by
    rcases eq_of_isScript hl with rfl | rfl <;> decide
  obtain ⟨h1, h2, h3, h4⟩ := hdot
  have hin : l.inert w.token = true :=
    inert_iff.2 ⟨by rw [htext, h1], by rw [htext, h2], fun _ => w.token_is _, skips_script hl _⟩
  rw [step_undeclared hl hin (by simp) rfl rfl rfl]
  unfold readScriptVariable
  simp [htext, h3, h4, Scan.leave]

theorem step_equals (hl : l.isScript = true) (g : Sign .equals) (n c : String) :
    l.step g.token { decl := { name := n }, candidate := c } =
      { decl := { name := n }, candidate := c, assigned := true } := by
  have hword : l.grammar.has .variableWord "=" = false := by
    rcases eq_of_isScript hl with rfl | rfl <;> decide
  have htext : g.token.text = "=" := rfl
  rw [step_undeclared hl (signsInert_script hl _ g (by decide)) (by simp) rfl rfl rfl]
  unfold readScriptVariable
  simp [htext, hword, Scan.take]

theorem step_variableWord (hl : l.isScript = true) (w : Word (l.grammar.has .variableWord)) :
    l.step w.token {} = { nameDue := true } := by
  have hmem : w.token.text ∈ l.grammar.variableWords := Grammar.mem_words_of_has w.holds
  have hall : ∀ x ∈ l.grammar.variableWords,
      l.grammar.has .classWord x = false ∧ l.grammar.has .functionWord x = false := by
    rcases eq_of_isScript hl with rfl | rfl <;> decide
  obtain ⟨h1, h2⟩ := hall _ hmem
  have hin : l.inert w.token = true :=
    inert_iff.2 ⟨h1, h2, fun _ => w.token_is _, skips_script hl _⟩
  rw [step_undeclared hl hin (by simp) rfl rfl rfl]
  unfold readScriptVariable
  simp [w.holds, Scan.take]

theorem step_variableName (hl : l.isScript = true) (w : Word l.isName) :
    l.step w.token { nameDue := true } = { decl := { name := w.text } } := by
  rw [step_undeclared hl (inert_of_isName hl w) (by simp) rfl rfl rfl]
  unfold readScriptVariable
  simp [variableWord_of_isName w.holds, w.holds, Scan.take, Word.text, Declaration.setName]

/-- The word of a function gives it the candidate as its name. -/
theorem step_functionWord (hl : l.isScript = true) (w : Word (l.grammar.has .functionWord))
    (hk : s.decl.kind = none) (hd : s.done = false) :
    l.step w.token s =
      { nameFunction s s.candidate with
        nameDue := s.nameDue || (nameFunction s s.candidate).decl.name = "" } := by
  have hmem : w.token.text ∈ l.grammar.functionWords := Grammar.mem_words_of_has w.holds
  have hall : ∀ x ∈ l.grammar.functionWords, l.grammar.has .classWord x = false := by
    rcases eq_of_isScript hl with rfl | rfl <;> decide
  have hc : l.readClass w.token s = s.leave := by
    unfold readClass
    rw [if_neg (ne_true_of_eq_false (hall _ hmem)), hk]
    simp
  have hf : l.readFunction w.token s = Scan.take
      { nameFunction s s.candidate with
        nameDue := s.nameDue || (nameFunction s s.candidate).decl.name = "" } := by
    rw [readFunction_script hl]
    unfold readScriptFunction
    rw [if_pos w.holds]
    rfl
  rw [step_of_readFunction (skips_script hl _) hd hc (by rw [hf]; rfl), hf]
  rfl

theorem declaring_announces (hl : l.isScript = true) {n : String} (hn : n ≠ "") (r : Returns) :
    Declaring l (Announces n r) where
  toCollecting := collecting_announces (signsInert_script hl)
  script := hl
  named f h := by
    rw [h.name]
    exact hn
  declares s h := by
    rw [Declaration.declare_of_some (show s.decl.kind = _ from h.kind)]
    exact h

/-- The word and the name of a function `n` are read, and its list is not open. -/
structure AtName (n : String) (s : Scan) : Prop
    extends Unopened (Announces n { present := true }) s where
  listOpen : s.listOpen = false

theorem leads_word (hl : l.isScript = true) (w : Word (l.grammar.has .functionWord))
    (name : Word l.isName) : Leads l [w.token, name.token] {} (AtName name.text) := by
  refine .cons rfl ?_
  rw [step_functionWord hl w rfl rfl]
  refine .single rfl ?_
  show AtName _ (l.step name.token { named "" with nameDue := true })
  rw [step_name (skips_script hl)]
  exact ⟨⟨⟨rfl, rfl, rfl, rfl, rfl, rfl⟩, rfl, rfl, rfl, rfl⟩, rfl⟩

/-- Of a path, no more than a candidate is kept. -/
theorem leads_path (hl : l.isScript = true)
    (path : List (Word l.isName × Word fun x => x = ".")) :
    Leads l (path.flatMap fun p => [p.1.token, p.2.token]) {}
      (fun s => ∃ x, s = { candidate := x }) := by
  refine Leads.of_invariant (fun s ⟨x, hs⟩ => by rw [hs]) ?_ ⟨"", rfl⟩
  rintro t ht s ⟨x, rfl⟩
  obtain ⟨p, -, ht⟩ := List.mem_flatMap.1 ht
  rcases List.mem_cons.1 ht with rfl | ht
  · exact ⟨_, step_candidate hl p.1 x⟩
  · rw [List.mem_singleton.1 ht]
    exact ⟨_, step_dot hl p.2 x⟩

theorem leads_property (hl : l.isScript = true)
    (path : List (Word l.isName × Word fun x => x = ".")) (name : Word l.isName)
    (equals : Sign .equals) (w : Word (l.grammar.has .functionWord)) :
    Leads l (path.flatMap (fun p => [p.1.token, p.2.token]) ++
      [name.token, equals.token, w.token]) {} (AtName name.text) := by
  have hn : name.text ≠ "" := ne_empty_of_isName name.holds
  refine (leads_path hl path).append ?_
  rintro s ⟨x, rfl⟩
  refine .cons rfl ?_
  rw [step_candidate hl name x]
  refine .cons rfl ?_
  rw [step_equals hl equals "" name.text]
  refine .single rfl ?_
  rw [step_functionWord hl w rfl rfl]
  refine ⟨⟨⟨rfl, rfl, rfl, ?_, rfl, rfl⟩, rfl, rfl, rfl, rfl⟩, rfl⟩
  exact decide_eq_false hn

/-- A parenthesis behind a name alone declares the function. -/
theorem atList_candidate (hl : l.isScript = true) {n : String} (hn : n ≠ "") :
    AtList l (Announces n { present := true }) { candidate := n } := by
  refine ⟨rfl, by exact nofun, fun o => ⟨{ named n with candidate := n }, ?_,
    ⟨⟨rfl, rfl, rfl, rfl, rfl, rfl⟩, rfl, rfl, rfl, rfl⟩⟩⟩
  have hw := (inert_iff.1 (signsInert_script hl _ o (by decide))).2.1
  rw [readFunction_script hl]
  unfold readScriptFunction
  rw [if_neg (ne_true_of_eq_false hw)]
  dsimp only
  rw [if_neg (by simp), if_pos ⟨by simp, hn, Bool.false_ne_true⟩]
  rfl

theorem leads_head (hl : l.isScript = true) (head : ScriptHead l) :
    Leads l head.tokens {} (AtList l (Announces head.name { present := true })) := by
  have hsigns := signsInert_script hl
  cases head with
  | word w name => exact (leads_word hl w name).mono fun _ h => h.atList hsigns fun _ hf => hf
  | method name =>
    refine .single rfl ?_
    rw [step_candidate hl name ""]
    exact atList_candidate hl (ne_empty_of_isName name.holds)
  | property path name equals w =>
    exact (leads_property hl path name equals w).mono fun _ h => h.atList hsigns fun _ hf => hf

/-! ## Arrow functions -/

/-- The frame of an assignment to `n` that may be shown to be a function. -/
structure Pending (n : String) (f : Frame) : Prop where
  name : f.name = n
  kind : (f.kind = some .function ∧ f.returns = { present := true }) ∨
    (f.kind = none ∧ f.returns = {} ∧ f.assigned = true)
  nameDue : f.nameDue = false
  returnDue : f.returnDue = false
  done : f.done = false

theorem Pending.declare {n : String} (h : Pending n s.frame) :
    Announces n { present := true }
      (Scan.frame { s with decl := s.decl.declare .function }) := by
  refine ⟨(Declaration.name_declare ..).trans h.name, ?_, ?_, h.nameDue, h.returnDue, h.done⟩
  · show (s.decl.declare .function).kind = _
    rcases h.kind with ⟨hk, -⟩ | ⟨hk, -⟩
    · rw [Declaration.kind_declare, show s.decl.kind = _ from hk]
      rfl
    · rw [Declaration.kind_declare, show s.decl.kind = _ from hk]
      rfl
  · show (s.decl.declare .function).returns = _
    rcases h.kind with ⟨hk, hr⟩ | ⟨hk, hr, -⟩
    · rw [Declaration.declare_of_some (show s.decl.kind = _ from hk)]
      exact hr
    · rw [Declaration.returns_declare_of_none hk, show s.decl.returns = _ from hr]
      rfl

theorem declaring_pending (hl : l.isScript = true) {n : String} (hn : n ≠ "") :
    Declaring l (Pending n) where
  done f h := h.done
  kind f h := by
    rcases h.kind with ⟨hk, -⟩ | ⟨hk, -, ha⟩
    · exact .inl hk
    · exact .inr ⟨hl, hk, ha⟩
  signs := signsInert_script hl
  script := hl
  named f h := by
    rw [h.name]
    exact hn
  -- a word inside of a group may declare the function before the arrow does
  declares s h :=
    have ha := h.declare
    ⟨ha.name, .inl ⟨ha.kind, ha.returns⟩, ha.nameDue, ha.returnDue, ha.done⟩

/-- The scan when a variable `n` is declared and something is assigned to it. -/
def assignedTo (n : String) : Scan := { decl := { name := n }, assigned := true }

theorem reads_arrowHead (hl : l.isScript = true) (w : Word (l.grammar.has .variableWord))
    (name : Word l.isName) (equals : Sign .equals) :
    Reads l [w.token, name.token, equals.token] {} (assignedTo name.text) := by
  refine .cons rfl ?_
  rw [step_variableWord hl]
  refine .cons rfl ?_
  rw [step_variableName hl]
  refine .cons rfl ?_
  rw [step_equals hl equals name.text ""]
  exact .nil

theorem atList_assignedTo (hl : l.isScript = true) {n : String} (hF : F (assignedTo n).frame) :
    AtList l F (assignedTo n) := by
  refine ⟨rfl, by exact nofun, fun o => ⟨assignedTo n, ?_, ⟨hF, rfl, rfl, rfl, rfl⟩⟩⟩
  have hw := (inert_iff.1 (signsInert_script hl _ o (by decide))).2.1
  rw [readFunction_script hl]
  unfold readScriptFunction
  rw [if_neg (ne_true_of_eq_false hw)]
  rewrite [if_neg (by simp), if_neg fun h => h.2.1 rfl]
  rfl

theorem leads_arrowHead (hl : l.isScript = true) (w : Word (l.grammar.has .variableWord))
    (name : Word l.isName) (equals : Sign .equals) :
    Leads l [w.token, name.token, equals.token] {} (AtList l (Pending name.text)) :=
  ⟨_, reads_arrowHead hl w name equals,
    atList_assignedTo hl ⟨rfl, .inr ⟨rfl, rfl, rfl⟩, rfl, rfl, rfl⟩⟩

/-- The arrow shows that the parameters were those of a function. -/
theorem step_arrow (hl : l.isScript = true) {n : String} (hn : n ≠ "")
    (h : Closed (Pending n) ps s) (g : Sign .arrow) :
    Closed (Announces n { present := true }) ps (l.step g.token s) := by
  have hclass : l.grammar.has .classWord g.token.text = false := by
    rcases eq_of_isScript hl with rfl | rfl <;> rfl
  rw [(declaring_pending hl hn).step_declare h.frame hclass (.inr (by simp))]
  exact ⟨h.frame.declare, (Declaration.parameters_declare ..).trans h.parameters, h.listOpen⟩

theorem ScriptHead.name_ne_empty (head : ScriptHead l) : head.name ≠ "" := by
  cases head with
  | word w name => exact ne_empty_of_isName name.holds
  | method name => exact ne_empty_of_isName name.holds
  | property path name equals w => exact ne_empty_of_isName name.holds

theorem formatType_of_isScript (hl : l.isScript = true) (mixed : Bool) (x : Option String) :
    l.formatType mixed x = x := by
  refine formatType_of_ne_php ?_ mixed x
  rintro rfl
  cases hl

theorem finish_script (hl : l.isScript = true) (mixed : Bool) (n : String) (ps : List Parameter)
    (r : Returns) :
    l.finish mixed
      { decl := { name := n, kind := some .function, parameters := ps, returns := r } } =
    { name := n
      kind := some .function
      parameters := ps
      returns := { present := r.present && !l.isVoid r.type, type := r.type } } := by
  have hfamily : l.isCFamily = false := by
    rcases eq_of_isScript hl with rfl | rfl <;> rfl
  rw [finish_function hfamily]
  simp only [formatType_of_isScript hl, List.map_id']

/-! ## Top theorem -/

/-- The function up to its end. -/
theorem leads_form (hl : l.isScript = true) (form : ScriptForm l) :
    Leads l form.tokens {}
      (Closed (Announces form.name { present := true, type := form.returnType })
        (form.slots.flatMap ScriptSlot.parameters)) := by
  cases form with
  | headed head parameters returns =>
    have hF := declaring_announces hl (ScriptHead.name_ne_empty head) { present := true }
    have hlist := (leads_head hl head).append fun s h => hF.leads_parens hF.readsSlots h parameters
    exact hlist.append fun s h =>
      h.leads_returnType? (signsInert_script hl) (skips_script hl) returns
  | arrow w name equals parameters sign =>
    have hn : name.text ≠ "" := ne_empty_of_isName name.holds
    have hF := declaring_pending hl hn
    have hlist := (leads_arrowHead hl w name equals).append fun s h =>
      hF.leads_parens hF.readsSlots h parameters
    exact hlist.append fun s h => .single h.frame.done (step_arrow hl hn h sign)

/-- **Reading the written form of a function of TypeScript or JavaScript gives back what was
written.** -/
theorem declaration_scriptFunction (hl : l.isScript = true) (settings : Settings)
    (f : ScriptFunction l) : l.declaration settings f.tokens = f.declaration := by
  have hlead := (leads_modifiers f.modifiers (step_modifier hl)).append fun s hs =>
    hs ▸ leads_form hl f.form
  have hfamily : l.isCFamily = false := by
    rcases eq_of_isScript hl with rfl | rfl <;> rfl
  have hformat : ∀ x, l.formatType settings.mixedNullable x = x := by
    refine formatType_of_ne_php ?_ settings.mixedNullable
    rintro rfl
    cases hl
  unfold Language.declaration
  rw [ScriptFunction.tokens, read_of_closed (signsInert_script hl) hlead, finish_function hfamily]
  simp only [hformat, List.map_id']
  rfl

/-- `export const plot = ({ x, key: y = f => f }: Point, [[a], b], c?: string[] = [0, 1]) => {` -/
def plotPoints : ScriptFunction .typescript where
  modifiers := [⟨{ kind := "export", text := "export" }, by decide, by decide⟩]
  form :=
    .arrow ⟨{ kind := "const", text := "const" }, by decide, by decide⟩
      ⟨{ kind := "identifier", text := "plot" }, by decide, by decide⟩ {}
      { slots :=
          .of
            (.group
              (.object {}
                (.of { name := ⟨{ kind := "identifier", text := "x" }, by decide, by decide⟩ }
                  [({},
                    { key := some
                        (⟨{ kind := "identifier", text := "key" }, by decide, by decide⟩, {})
                      name := ⟨{ kind := "identifier", text := "y" }, by decide, by decide⟩
                      value := some
                        { tokens :=
                            [{ kind := "identifier", text := "f" }, { kind := "=>", text := "=>" },
                              { kind := "identifier", text := "f" }]
                          inEntry := by decide } })])
                {})
              (some ({}, ⟨{ kind := "type_identifier", text := "Point" }, by decide, by decide⟩)))
            [({},
              .group
                (.array {}
                  (.group
                    (.array {}
                      (.entry
                        { name := ⟨{ kind := "identifier", text := "a" }, by decide, by decide⟩ })
                      .nil {}))
                  (.cons {}
                    (.entry
                      { name := ⟨{ kind := "identifier", text := "b" }, by decide, by decide⟩ })
                    .nil)
                  {})
                none),
              ({},
                .plain
                  { name := ⟨{ kind := "identifier", text := "c" }, by decide, by decide⟩
                    question := some {}
                    type := some
                      { type :=
                          { type := ⟨{ kind := "string", text := "string" }, by decide, by decide⟩
                            arrays := [{}] } } }
                  (some
                    { value :=
                        { tokens :=
                            [{ kind := "[", text := "[", start := 70, stop := 71 },
                              { kind := "number", text := "0", start := 71, stop := 72 },
                              { kind := ",", text := ",", start := 72, stop := 73 },
                              { kind := "number", text := "1", start := 74, stop := 75 },
                              { kind := "]", text := "]", start := 75, stop := 76 }]
                          nonempty := by decide
                          inert := by decide
                          balanced := by decide } }))] }
      {}
  ending := .block {} []

theorem declaration_plotPoints :
    Language.typescript.isScript = true ∧
      Language.typescript.declaration {} plotPoints.tokens =
        { name := "plot"
          kind := some .function
          parameters :=
            [{ name := "x" }, { name := "y" }, { name := "a" }, { name := "b" },
              { name := "c", type := some "string[]", value := "[0, 1]" }]
          returns := { present := true } } :=
  ⟨rfl, (declaration_scriptFunction rfl {} plotPoints).trans (by decide)⟩

end Language

end DocTemplate
