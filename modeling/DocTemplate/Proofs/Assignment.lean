import DocTemplate.Proofs.Script

/-!
# Variables of TypeScript and JavaScript

    mods let|const|var name [: T] [= V]
    mods p . q . name [: T] [= V]

An arrow behind `V` could still show a function, so parameters are collected from `V` as from a list,
whatever its tokens are.  Nothing of this is left in the record of the variable
(`declaration_scriptVariable`): no token of `V` changes the frame of the scan
(`Assigning.frame_step`), and the record depends on the frame alone (`finish_of_frame`).
-/

namespace DocTemplate

/-- Whether a token declares nothing behind an assignment. -/
def Language.undeclaring (l : Language) (t : Token) : Bool :=
  !t.is .arrow && !l.grammar.has .classWord t.text && !l.grammar.has .functionWord t.text &&
    !l.grammar.has .variableWord t.text

namespace Written

/-! ## Written form -/

/-- An equals sign and any tokens behind it that declare nothing. -/
structure Assigned (l : Language) where
  equals : Sign .equals := {}
  tokens : List Token
  undeclaring : ∀ t ∈ tokens, l.undeclaring t = true

/-- What is declared: a name behind a word, or the last name of a path. -/
inductive ScriptTarget (l : Language) where
  | word (word : Word (l.grammar.has .variableWord)) (name : Word l.isName)
  | dotted (path : List (Word l.isName × Word fun x => x = ".")) (name : Word l.isName)

namespace ScriptTarget

variable {l : Language}

def tokens : ScriptTarget l → List Token
  | .word w name => [w.token, name.token]
  | .dotted path name => path.flatMap (fun p => [p.1.token, p.2.token]) ++ [name.token]

def name : ScriptTarget l → String
  | .word _ name => name.text
  | .dotted _ name => name.text

end ScriptTarget

structure ScriptVariable (l : Language) where
  modifiers : List (Word (l.grammar.has .modifierWord)) := []
  target : ScriptTarget l
  type : Option (Sign .colon × Word (isSlotType l)) := none
  value : Option (Assigned l) := none

namespace ScriptVariable

variable {l : Language}

def typeTokens (v : ScriptVariable l) : List Token :=
  (v.type.map fun a => [a.1.token, a.2.token]).getD []

def valueTokens (v : ScriptVariable l) : List Token :=
  (v.value.map fun a => a.equals.token :: a.tokens).getD []

def tokens (v : ScriptVariable l) : List Token :=
  v.modifiers.map (·.token) ++ v.target.tokens ++ v.typeTokens ++ v.valueTokens

def declaration (v : ScriptVariable l) : Declaration where
  name := v.target.name
  kind := some .var
  parameters := []
  returns := { present := false, type := v.type.map (·.2.text) }

end ScriptVariable

end Written

namespace Language

open Written

variable {l : Language} {t : Token} {ts : List Token} {s : Scan} {n c x : String}

/-! ## Behind the equals sign -/

theorem inert_of_undeclaring (hl : l.isScript = true) (ht : l.undeclaring t = true) :
    l.inert t = true ∧ l.grammar.has .variableWord t.text = false := by
  simp only [undeclaring, Bool.and_eq_true, Bool.not_eq_true'] at ht
  obtain ⟨⟨⟨harrow, hclass⟩, hword⟩, hvariable⟩ := ht
  exact ⟨inert_iff.2 ⟨hclass, hword, fun _ => harrow, skips_script hl t⟩, hvariable⟩

/-- Frames of an assignment that is not shown to be a function. -/
structure Assigning (f : Frame) : Prop where
  kind : f.kind = none
  nameDue : f.nameDue = false
  done : f.done = false
  assigned : f.assigned = true
  variableTypeDue : f.variableTypeDue = false

/-- The reader of variables has nothing left to do. -/
theorem Assigning.frame_readScriptVariable (h : Assigning s.frame)
    (ht : l.grammar.has .variableWord t.text = false) :
    (l.readScriptVariable t s).scan.frame = s.frame := by
  have hk : s.decl.kind = none := h.kind
  have hn : s.nameDue = false := h.nameDue
  have ha : s.assigned = true := h.assigned
  have hdue : s.variableTypeDue = false := h.variableTypeDue
  unfold readScriptVariable
  rw [if_neg (by simp [hk]), if_neg (ne_true_of_eq_false hdue), if_neg (ne_true_of_eq_false ht),
    if_neg fun hc => ne_true_of_eq_false hn hc.1]
  split
  · -- a second equals sign assigns again
    simp [Scan.take, Scan.frame, ha]
  rw [if_neg fun hc => hc.2.2 ha, if_neg fun hc => hc.2.1 ha]
  rfl

/-- A token that declares nothing goes to the parameters at most, and these are no part of the
frame. -/
theorem Assigning.frame_step (hl : l.isScript = true) (h : Assigning s.frame)
    (ht : l.undeclaring t = true) : (l.step t s).frame = s.frame := by
  obtain ⟨hin, hvariable⟩ := inert_of_undeclaring hl ht
  obtain ⟨-, hword, harrow, hj⟩ := inert_iff.1 hin
  have hk : s.decl.kind = none := h.kind
  have ha : s.assigned = true := h.assigned
  have hclass : l.readClass t s = s.leave := readClass_of_inert hin (by rw [hk]; decide)
  have hfunction : l.readFunction t s = s.leave := by
    rw [readFunction_script hl]
    unfold readScriptFunction
    rw [if_neg (ne_true_of_eq_false hword), hk]
    dsimp only
    rw [if_neg (ne_true_of_eq_false (harrow hl)), if_neg fun hc => hc.2.2 ha]
  have hframe := frame_readParameters l t s
  cases htaken : (l.readParameters t s).taken with
  | true =>
    rw [step_of_readParameters hj h.done hclass hfunction htaken]
    exact hframe
  | false =>
    have hleave : l.readParameters t s = (l.readParameters t s).scan.leave := by
      rw [Scan.leave, ← htaken]
    rw [step_of_readVariable hj h.done hclass hfunction hleave, readVariable_script hl,
      ← hframe]
    rw [← hframe] at h
    exact h.frame_readScriptVariable hvariable

theorem Assigning.leads (hl : l.isScript = true) (h : Assigning s.frame)
    (hts : ∀ t ∈ ts, l.undeclaring t = true) : Leads l ts s (·.frame = s.frame) := by
  refine Leads.of_invariant (fun s' hs => ?_) (fun t ht s' hs => ?_) rfl
  · exact (congrArg Frame.done hs).trans h.done
  · rw [← hs] at h ⊢
    exact h.frame_step hl (hts t ht)

/-! ## Before the equals sign -/

/-- The scan when a name, a candidate and a type are read: the name behind a word, or the candidate
without one. -/
def targeted (n c x : String) : Scan := { decl := { name := n }, candidate := c, typeText := x }

theorem leads_target (hl : l.isScript = true) (target : ScriptTarget l) :
    Leads l target.tokens {} fun s =>
      ∃ n c, s = targeted n c "" ∧ (if n = "" then c else n) = target.name ∧
        (n ≠ "" ∨ c ≠ "") := by
  cases target with
  | word w name =>
    have hn : name.text ≠ "" := ne_empty_of_isName name.holds
    refine .cons rfl ?_
    rw [step_variableWord hl]
    refine .single rfl ⟨name.text, "", step_variableName hl name, if_neg hn, .inl hn⟩
  | dotted path name =>
    refine (leads_path hl path).append ?_
    rintro s ⟨x, rfl⟩
    refine .single rfl ⟨"", name.text, step_candidate hl name x, if_pos rfl, .inr ?_⟩
    exact ne_empty_of_isName name.holds

/-- A colon behind the target makes a type due, and the next token is the type. -/
theorem reads_targetType (hl : l.isScript = true) (hne : n ≠ "" ∨ c ≠ "") (g : Sign .colon)
    (w : Word (isSlotType l)) :
    Reads l [g.token, w.token] (targeted n c "") (targeted n c w.text) := by
  have hcolon : l.step g.token (targeted n c "") =
      { targeted n c "" with variableTypeDue := true } := by
    have hword : l.grammar.has .variableWord g.token.text = false :=
      variableWord_of_mark hl .colon
    rw [step_undeclared hl (signsInert_script hl _ g (by decide)) (by simp) rfl rfl rfl]
    unfold readScriptVariable
    rw [if_neg (by simp [targeted]), if_neg (by simp [targeted]),
      if_neg (ne_true_of_eq_false hword), if_neg (by simp [targeted]),
      if_neg (by simp), if_pos ⟨by simp, hne, by simp [targeted]⟩]
    rfl
  have htype : l.step w.token { targeted n c "" with variableTypeDue := true } =
      targeted n c w.text := by
    rw [step_undeclared hl (inert_of_isSlotType hl w) (by simp) rfl rfl rfl]
    rfl
  refine .cons rfl ?_
  rw [hcolon]
  refine .cons rfl ?_
  rw [htype]
  exact .nil

theorem step_assign (hl : l.isScript = true) (g : Sign .equals) :
    l.step g.token (targeted n c x) = { targeted n c x with assigned := true } := by
  have hword : l.grammar.has .variableWord g.token.text = false :=
    variableWord_of_mark hl .equals
  rw [step_undeclared hl (signsInert_script hl _ g (by decide)) (by simp) rfl rfl rfl]
  unfold readScriptVariable
  rw [if_neg (by simp [targeted]), if_neg (by simp [targeted]),
    if_neg (ne_true_of_eq_false hword), if_neg (by simp [targeted]),
    if_pos (by simp)]
  rfl

/-! ## The record -/

/-- Up to the end, the scan has the frame of its target, whatever was assigned. -/
theorem leads_scriptVariable (hl : l.isScript = true) (v : ScriptVariable l) :
    Leads l v.tokens {} fun s =>
      ∃ n c a, s.frame =
          { (targeted n c ((v.type.map (·.2.text)).getD "")).frame with assigned := a } ∧
        (if n = "" then c else n) = v.target.name := by
  obtain ⟨modifiers, target, type, value⟩ := v
  have hhead := (leads_modifiers modifiers (step_modifier hl)).append fun s hs =>
    hs ▸ leads_target hl target
  have htype : Leads l (modifiers.map (·.token) ++ target.tokens ++
      (type.map fun a => [a.1.token, a.2.token]).getD []) {} fun s =>
        ∃ n c, s = targeted n c ((type.map (·.2.text)).getD "") ∧
          (if n = "" then c else n) = target.name := by
    refine hhead.append ?_
    rintro s ⟨n, c, rfl, hname, hne⟩
    cases type with
    | none => exact .nil ⟨n, c, rfl, hname⟩
    | some a => exact ⟨_, reads_targetType hl hne a.1 a.2, n, c, rfl, hname⟩
  refine htype.append ?_
  rintro s ⟨n, c, rfl, hname⟩
  cases value with
  | none => exact .nil ⟨n, c, false, rfl, hname⟩
  | some v =>
    refine .cons rfl ?_
    rw [step_assign hl v.equals]
    refine (Assigning.leads hl ⟨rfl, rfl, rfl, rfl, rfl⟩ v.undeclaring).mono fun s hs => ?_
    exact ⟨n, c, true, hs, hname⟩

/-- While nothing is declared, the record of a script depends on the frame alone. -/
theorem finish_of_frame (hl : l.isScript = true) (mixed : Bool) {a : Bool}
    (h : s.frame = { (targeted n c x).frame with assigned := a })
    (hne : (if n = "" then c else n) ≠ "") :
    l.finish mixed s =
      { name := if n = "" then c else n
        kind := some .var
        returns := { present := false, type := nonempty x } } := by
  have hk : s.decl.kind = none := congrArg Frame.kind h
  have hn : s.decl.name = n := congrArg Frame.name h
  have hr : s.decl.returns = {} := congrArg Frame.returns h
  have hx : s.typeText = x := congrArg Frame.typeText h
  have hc : s.candidate = c := congrArg Frame.candidate h
  have hnamed : n ≠ "" ∨ c ≠ "" := by
    by_cases hempty : n = ""
    · rw [if_pos hempty] at hne
      exact .inr hne
    · exact .inl hempty
  have hsettle : l.settleKind s =
      typeVariable { s with decl := (s.decl.setName s.candidate).declare .var } := by
    unfold settleKind
    rw [if_neg (by simp [hk])]
    rcases eq_of_isScript hl with rfl | rfl
    · exact if_pos (by rwa [hn, hc])
    · exact if_pos (by rwa [hn, hc])
  have hformat := formatType_of_isScript hl mixed
  have hreturns : ((s.decl.setName c).declare .var).returns = {} := by
    rw [Declaration.returns_declare_of_none (by rw [Declaration.kind_setName, hk]),
      Declaration.returns_setName, hr]
    rfl
  unfold finish
  rw [hsettle, typeVariable, hx, hc]
  split
  · rename_i hempty
    simp [hformat, settleParameters, settleReturns, hreturns, hk, hn, nonempty, hempty]
  · rename_i hempty
    simp [hformat, settleParameters, settleReturns, Declaration.setReturnType, hk, hn, nonempty,
      hempty]

/-- **A variable of TypeScript or JavaScript is recorded by its name and its type, whatever is
assigned to it.** -/
theorem declaration_scriptVariable (hl : l.isScript = true) (settings : Settings)
    (v : ScriptVariable l) : l.declaration settings v.tokens = v.declaration := by
  obtain ⟨s, hreads, n, c, a, hframe, hname⟩ := leads_scriptVariable hl v
  have hne : v.target.name ≠ "" := by
    cases v.target with
    | word w name => exact ne_empty_of_isName name.holds
    | dotted path name => exact ne_empty_of_isName name.holds
  have hrun : l.run v.tokens {} = s := by
    have := hreads []
    rwa [List.append_nil] at this
  have htype : nonempty ((v.type.map (·.2.text)).getD "") = v.type.map (·.2.text) := by
    cases htype : v.type with
    | none => rfl
    | some a =>
      have hholds := a.2.holds
      unfold isSlotType at hholds
      simp only [Bool.and_eq_true, decide_eq_true_eq] at hholds
      exact if_neg hholds.1.1
  unfold Language.declaration read
  rw [hrun, finish_of_frame hl _ hframe (by rwa [hname]), hname, htype]
  rfl

/-- `static cache.items: Pool = fill({ a = 1, b }, (c = [2` -/
def looseItems : ScriptVariable .typescript where
  modifiers :=
    [⟨{ kind := "static", text := "static", start := 0, stop := 6 }, by decide, by decide⟩]
  target :=
    .dotted
      [(⟨{ kind := "identifier", text := "cache", start := 7, stop := 12 }, by decide, by decide⟩,
        ⟨{ kind := ".", text := ".", start := 12, stop := 13 }, by decide, by decide⟩)]
      ⟨{ kind := "identifier", text := "items", start := 13, stop := 18 }, by decide, by decide⟩
  type := some
    ({}, ⟨{ kind := "type_identifier", text := "Pool", start := 20, stop := 24 }, by decide,
      by decide⟩)
  value := some
    { tokens :=
        [{ kind := "identifier", text := "fill" }, { kind := "(", text := "(" },
          { kind := "\x7b", text := "\x7b" }, { kind := "identifier", text := "a" },
          { kind := "=", text := "=" }, { kind := "number", text := "1" },
          { kind := ",", text := "," }, { kind := "identifier", text := "b" },
          { kind := "\x7d", text := "\x7d" }, { kind := ",", text := "," },
          { kind := "(", text := "(" }, { kind := "identifier", text := "c" },
          { kind := "=", text := "=" }, { kind := "[", text := "[" },
          { kind := "number", text := "2" }]
      undeclaring := by decide }

theorem declaration_looseItems :
    Language.typescript.isScript = true ∧
      (Language.typescript.run looseItems.tokens {}).decl.parameters ≠ [] ∧
      Language.typescript.declaration {} looseItems.tokens =
        { name := "items"
          kind := some .var
          returns := { present := false, type := some "Pool" } } :=
  ⟨rfl, by decide, (declaration_scriptVariable rfl {} looseItems).trans (by decide)⟩

end Language

end DocTemplate
