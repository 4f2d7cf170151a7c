import DocTemplate.Proofs.Record

/-!
# TypeScript and JavaScript

The two languages share their readers and differ in their tables alone: TypeScript reserves eight
words more (`typedWords`), has built-in types, and knows a type of functions that return nothing.

* A reader asks a table whether a text is a word of some class.  Where the eight words do not occur,
  both tables give the same answer (`takesAlike`): what is a built-in type starts like an identifier,
  and this is all that a type needs.
* So the two languages go through the same scans, token by token (`run_alike`).  Only the end of the
  line may tell them apart, by a function of the type `void`.

      (∀ t ∈ ts, t.text ∉ typedWords) →
        (javascript.declaration settings ts).SameButVoid (typescript.declaration settings ts)

-/

namespace DocTemplate

/-- The record that a language without void types makes of a line, beside the one that a language
with the type `void` makes of it: only what returns may differ, and only for a function of this
type. -/
structure Declaration.SameButVoid (d d' : Declaration) : Prop where
  name : d.name = d'.name
  kind : d.kind = d'.kind
  parameters : d.parameters = d'.parameters
  type : d.returns.type = d'.returns.type
  present : d.returns.present ≠ d'.returns.present →
    d.kind = some .function ∧ d.returns.type = some "void"
  void : d.kind = some .function → d.returns.type = some "void" →
    d.returns.present = true ∧ d'.returns.present = false

namespace Language

variable {l l' : Language} {t : Token} {x : String}

/-! ## Words -/

/-- The words that TypeScript reserves and JavaScript does not. -/
def typedWords : List String :=
  ["interface", "public", "private", "protected", "readonly", "abstract", "declare", "override"]

/-- Two languages take a text for the same, wherever a reader asks. -/
structure TakesAlike (l l' : Language) (x : String) : Prop where
  classWord : l.grammar.has .classWord x = l'.grammar.has .classWord x
  functionWord : l.grammar.has .functionWord x = l'.grammar.has .functionWord x
  variableWord : l.grammar.has .variableWord x = l'.grammar.has .variableWord x
  isName : l.isName x = l'.isName x
  isType : l.isType x = l'.isType x
  isVariableName : l.isVariableName x = l'.isVariableName x
  beginsWord : l.beginsWord x = l'.beginsWord x

theorem has_typescript (hx : x ∉ typedWords) {c : Grammar.Category}
    (hc : c ∈ Grammar.Category.reserved) :
    Grammar.typescript.has c x = Grammar.javascript.has c x := by
  have hmore : ∀ c ∈ Grammar.Category.reserved, ∀ x ∈ Grammar.typescript.words c,
      x ∈ Grammar.javascript.words c ∨ x ∈ typedWords := by decide
  have hless : ∀ c ∈ Grammar.Category.reserved, ∀ x ∈ Grammar.javascript.words c,
      x ∈ Grammar.typescript.words c := by decide
  have hwords : x ∈ Grammar.typescript.words c ↔ x ∈ Grammar.javascript.words c := by
    constructor
    · intro h
      exact (hmore c hc x h).resolve_right hx
    · exact hless c hc x
  simp [Grammar.has, hwords]

theorem isReserved_typescript (hx : x ∉ typedWords) :
    Language.typescript.isReserved x = Language.javascript.isReserved x := by
  show Grammar.typescript.isReserved x = Grammar.javascript.isReserved x
  unfold Grammar.isReserved
  rw [Bool.eq_iff_iff, List.any_eq_true, List.any_eq_true]
  constructor
  · rintro ⟨c, hc, h⟩
    exact ⟨c, hc, (has_typescript hx hc) ▸ h⟩
  · rintro ⟨c, hc, h⟩
    exact ⟨c, hc, (has_typescript hx hc).symm ▸ h⟩

/-- What is a built-in type is a type without the table as well. -/
theorem beginsWord_of_typeWord (h : Grammar.typescript.has .typeWord x = true) :
    Language.typescript.beginsWord x = true := by
  have hall : ∀ x ∈ Grammar.typescript.words .typeWord,
      Language.typescript.beginsWord x = true := by decide
  exact hall x (Grammar.mem_words_of_has h)

theorem isType_typescript (hx : x ∉ typedWords) :
    Language.typescript.isType x = Language.javascript.isType x := by
  have hbegins : Language.typescript.beginsWord x = Language.javascript.beginsWord x := rfl
  have hnone : Grammar.javascript.has .typeWord x = false := Bool.and_false _
  have htype : (Grammar.typescript.has .typeWord x || Language.typescript.beginsWord x) =
      (Grammar.javascript.has .typeWord x || Language.javascript.beginsWord x) := by
    rw [hnone, Bool.false_or, ← hbegins]
    cases h : Grammar.typescript.has .typeWord x with
    | false => rfl
    | true => rw [beginsWord_of_typeWord h]; rfl
  show (!Language.typescript.isReserved x &&
      (Grammar.typescript.has .typeWord x || Language.typescript.beginsWord x || _)) =
    (!Language.javascript.isReserved x &&
      (Grammar.javascript.has .typeWord x || Language.javascript.beginsWord x || _))
  rw [isReserved_typescript hx, htype]

theorem takesAlike (hx : x ∉ typedWords) :
    TakesAlike .typescript .javascript x := by
  have hname : Language.typescript.isName x = Language.javascript.isName x := by
    unfold isName
    rw [isReserved_typescript hx]
    rfl
  refine ⟨has_typescript hx (by decide), has_typescript hx (by decide),
    has_typescript hx (by decide), hname, isType_typescript hx, ?_, rfl⟩
  show (Language.typescript.isName x && _) = (Language.javascript.isName x && _)
  rw [hname]

/-! ## Readers -/

namespace TakesAlike

theorem readClass (h : TakesAlike l l' t.text) (s : Scan) :
    l.readClass t s = l'.readClass t s := by
  unfold Language.readClass
  rw [h.classWord, h.isName]

theorem readSignature (h : TakesAlike l l' t.text) (s : Scan) :
    l.readSignature t s = l'.readSignature t s := by
  unfold Language.readSignature
  rw [h.isName, h.isType, h.beginsWord]

theorem readScriptFunction (h : TakesAlike l l' t.text) (s : Scan) :
    l.readScriptFunction t s = l'.readScriptFunction t s := by
  unfold Language.readScriptFunction
  rw [h.functionWord, h.readSignature]

theorem readScriptSlot (h : TakesAlike l l' t.text) (s : Scan) :
    l.readScriptSlot t s = l'.readScriptSlot t s := by
  unfold Language.readScriptSlot
  rw [h.isVariableName]

theorem readGroup (h : TakesAlike l l' t.text) (s : Scan) :
    l.readGroup t s = l'.readGroup t s := by
  unfold Language.readGroup
  rw [h.isName]

theorem readScriptVariable (h : TakesAlike l l' t.text) (s : Scan) :
    l.readScriptVariable t s = l'.readScriptVariable t s := by
  unfold Language.readScriptVariable
  rw [h.variableWord, h.isName]

theorem readParameters (h : TakesAlike .typescript .javascript t.text) (s : Scan) :
    Language.typescript.readParameters t s = Language.javascript.readParameters t s := by
  have hslot : ∀ s, Language.typescript.readSlot t s = Language.javascript.readSlot t s :=
    h.readScriptSlot
  have hlist : ∀ s, Language.typescript.readInList t s = Language.javascript.readInList t s := by
    intro s
    unfold readInList
    rw [h.readGroup, hslot]
  have hcollects : Language.typescript.collects s = Language.javascript.collects s := rfl
  unfold Language.readParameters
  dsimp only
  rw [hcollects, hlist, hlist, hlist]

theorem readStage (h : TakesAlike .typescript .javascript t.text) (g : Stage) (s : Scan) :
    Language.typescript.readStage g t s = Language.javascript.readStage g t s := by
  cases g with
  | classHead => exact h.readClass s
  | function => exact h.readScriptFunction s
  | parameters => exact h.readParameters s
  | var => exact h.readScriptVariable s

theorem pass (h : TakesAlike .typescript .javascript t.text) (gs : List Stage) (s : Scan) :
    Language.typescript.pass t gs s = Language.javascript.pass t gs s := by
  induction gs generalizing s with
  | nil => rfl
  | cons g gs ih =>
    rw [Language.pass, Language.pass, h.readStage, ih]

theorem step (h : TakesAlike .typescript .javascript t.text) (s : Scan) :
    Language.typescript.step t s = Language.javascript.step t s := by
  have hstages : Language.typescript.stages t s = Language.javascript.stages t s := rfl
  unfold Language.step
  rw [hstages, h.pass]

end TakesAlike

/-- The two languages go through the same scans. -/
theorem run_alike {ts : List Token} (hts : ∀ t ∈ ts, t.text ∉ typedWords) (s : Scan) :
    Language.typescript.run ts s = Language.javascript.run ts s := by
  induction ts generalizing s with
  | nil => rfl
  | cons t ts ih =>
    obtain ⟨ht, hrest⟩ := List.forall_mem_cons.1 hts
    rw [run, run, (takesAlike ht).step, ih hrest]

/-! ## The end of the line -/

theorem settleParameters_eq (hl : l.isCFamily = false) (d : Declaration) :
    l.settleParameters d = if d.kind = some .function then d.parameters else [] := by
  unfold settleParameters
  by_cases hk : d.kind = some .function
  · rw [if_neg (not_not_intro hk), if_pos hk]
    split
    · rename_i p hp
      rw [if_neg fun hc => ne_true_of_eq_false hl hc.1, hp]
    · rfl
  · rw [if_pos hk, if_neg hk]

theorem isVoid_javascript (type : Option String) : Language.javascript.isVoid type = false := by
  cases type <;> rfl

theorem settleReturns_javascript {s : Scan} (h : Coherent .javascript false s)
    (hk : s.decl.kind = some .function) : Language.javascript.settleReturns s.decl = true := by
  unfold settleReturns
  rw [hk, (h.function hk).1, isVoid_javascript]
  rfl

/-- The languages differ in functions of the type `void` alone. -/
theorem settleReturns_typescript (d : Declaration) :
    Language.typescript.settleReturns d =
      (Language.javascript.settleReturns d &&
        !decide (d.kind = some .function ∧ d.returns.type = some "void")) := by
  have hvoid : Language.typescript.isVoid d.returns.type =
      decide (d.returns.type = some "void") := isVoid_eq rfl _
  unfold settleReturns
  split
  · rename_i hk
    rw [hvoid, isVoid_javascript]
    simp [hk]
  · rename_i hk
    simp [hk]
  · simp

theorem finish_alike {s : Scan} (h : Coherent .javascript false s) (mixed mixed' : Bool) :
    (Language.javascript.finish mixed s).SameButVoid (Language.typescript.finish mixed' s) := by
  have hsettle : Language.typescript.settleKind s = Language.javascript.settleKind s := rfl
  have hs := h.settleKind
  unfold finish
  rw [hsettle]
  generalize Language.javascript.settleKind s = s' at hs
  constructor
  · rfl
  · rfl
  · show List.map _ _ = List.map _ _
    rw [settleParameters_eq rfl, settleParameters_eq rfl]
    rfl
  · rfl
  · intro hne
    show s'.decl.kind = some .function ∧ s'.decl.returns.type = some "void"
    apply Decidable.byContradiction
    intro hc
    apply hne
    show Language.javascript.settleReturns s'.decl = Language.typescript.settleReturns s'.decl
    rw [settleReturns_typescript, decide_eq_false hc, Bool.not_false, Bool.and_true]
  · intro hk htype
    have hpresent := settleReturns_javascript hs hk
    refine ⟨hpresent, ?_⟩
    show Language.typescript.settleReturns s'.decl = false
    rw [settleReturns_typescript, hpresent, decide_eq_true ⟨hk, htype⟩]
    rfl

/-! ## Top theorem -/

/-- **TypeScript and JavaScript agree on what they have in common**, whatever the tokens are. -/
theorem declaration_sameButVoid {ts : List Token} (hts : ∀ t ∈ ts, t.text ∉ typedWords)
    (settings settings' : Settings) :
    (Language.javascript.declaration settings ts).SameButVoid
      (Language.typescript.declaration settings' ts) := by
  have hquiet : (Language.javascript.passed ts {}).any Language.javascript.mixes = false :=
    List.any_eq_false.2 fun _ _ => Bool.false_ne_true
  have hrun := (Coherent.init .javascript).run ts
  rw [hquiet] at hrun
  unfold Language.declaration read
  rw [run_alike hts]
  exact finish_alike hrun _ _

/-- `async function draw(shape: any = this): void {` -/
def voidFunction : List Token :=
  [{ kind := "async", text := "async", start := 0, stop := 5 },
    { kind := "function", text := "function", start := 6, stop := 14 },
    { kind := "identifier", text := "draw", start := 15, stop := 19 },
    { kind := "(", text := "(", start := 19, stop := 20 },
    { kind := "identifier", text := "shape", start := 20, stop := 25 },
    { kind := ":", text := ":", start := 25, stop := 26 },
    { kind := "any", text := "any", start := 27, stop := 30 },
    { kind := "=", text := "=", start := 31, stop := 32 },
    { kind := "this", text := "this", start := 33, stop := 37 },
    { kind := ")", text := ")", start := 37, stop := 38 },
    { kind := ":", text := ":", start := 38, stop := 39 },
    { kind := "void", text := "void", start := 40, stop := 44 },
    { kind := "\x7b", text := "\x7b", start := 45, stop := 46 }]

theorem declaration_sameButVoid_voidFunction :
    (∀ t ∈ voidFunction, t.text ∉ typedWords) ∧
      (Language.javascript.declaration {} voidFunction).kind = some .function ∧
      (Language.javascript.declaration {} voidFunction).returns = ⟨true, some "void"⟩ ∧
      (Language.typescript.declaration {} voidFunction).returns = ⟨false, some "void"⟩ ∧
      (Language.javascript.declaration {} voidFunction).SameButVoid
        (Language.typescript.declaration {} voidFunction) := by
  have hwords : ∀ t ∈ voidFunction, t.text ∉ typedWords := by decide
  exact ⟨hwords, by decide, by decide, by decide, declaration_sameButVoid hwords {} {}⟩

end Language

end DocTemplate
