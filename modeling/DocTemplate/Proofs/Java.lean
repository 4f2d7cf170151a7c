import DocTemplate.Language.Template
import DocTemplate.Proofs.Declarator

/-!
# Declarations of Java

    < … > T [ ] … n ( T₁ [ ] … ... n₁ , … ) throws E , … end
    < … > N ( T₁ [ ] … ... n₁ , … ) throws E , … end
    < … > T [ ] … n end

A method, a constructor and a variable.  Type parameters before them are optional, and modifiers and
annotations may stand before every token.  Reading the written form of a declaration gives back what
was written, without a trace of these (`declaration_javaLine`).

`Amid ts s Q` says that the tokens `ts` lead from `s` to a scan with the property `Q`, whatever
modifiers and annotations stand among them.
-/

namespace DocTemplate

namespace Written

/-! ## Written form -/

/-- A modifier or an annotation. -/
def isAside (t : Token) : Bool :=
  Language.java.skips t || (t.isPlain && Language.java.grammar.has .modifierWord t.text)

structure Aside where
  token : Token
  holds : isAside token = true

/-- Tokens with the asides that stand before each of them. -/
def strew (asides : Nat → List Aside) : List Token → List Token
  | [] => []
  | t :: ts => (asides 0).map (·.token) ++ t :: strew (fun i => asides (i + 1)) ts

/-- Whether all angle brackets of a list are closed, with `d` open before it. -/
def anglesClosed : Nat → List Token → Bool
  | d, [] => d = 0
  | d, t :: ts =>
    if t.is .openAngle then anglesClosed (d + 1) ts
    else if t.is .closeAngle then d ≠ 0 && anglesClosed (d - 1) ts
    else anglesClosed d ts

/-- Type parameters: anything between angle brackets but a word that declares a class. -/
structure TypeParameters where
  opener : Sign .openAngle := {}
  content : List Token
  inert : ∀ t ∈ content, Language.java.inert t = true
  closed : anglesClosed 0 content = true
  closer : Sign .closeAngle := {}

def TypeParameters.tokens (p : TypeParameters) : List Token :=
  p.opener.token :: (p.content ++ [p.closer.token])

abbrev JavaType := ArrayType Language.java.isType

abbrev JavaName := Word Language.java.isName

/-- A name with dots in it. -/
structure QualifiedName where
  first : JavaName
  more : List (Word (· == ".") × JavaName) := []

def QualifiedName.tokens (n : QualifiedName) : List Token :=
  n.first.token :: n.more.flatMap fun part => [part.1.token, part.2.token]

/-- The exceptions that a method throws. -/
structure Throws where
  word : Word (· == "throws")
  names : Listed QualifiedName

def Throws.tokens (e : Throws) : List Token :=
  e.word.token :: e.names.tokens QualifiedName.tokens

structure JavaSlot where
  type : JavaType
  ellipsis : Option (Sign .ellipsis) := none
  name : JavaName

namespace JavaSlot

def tokens (p : JavaSlot) : List Token :=
  p.type.tokens ++ (p.ellipsis.map fun g => [g.token]).getD [] ++ [p.name.token]

def typeText (p : JavaSlot) : String := p.type.text ++ if p.ellipsis.isSome then "..." else ""

def parameter (p : JavaSlot) : Parameter where
  name := p.name.text
  type := some p.typeText

end JavaSlot

/-- The parameters of a method or constructor and what comes behind them. -/
structure JavaTail where
  parameters : Parens JavaSlot
  throws : Option Throws := none
  ending : Ending

namespace JavaTail

def tokens (f : JavaTail) : List Token :=
  f.parameters.tokens JavaSlot.tokens ++ (f.throws.map Throws.tokens).getD []

def parameterList (f : JavaTail) : List Parameter :=
  f.parameters.slots.items.map JavaSlot.parameter

end JavaTail

/-- How the declaration of a variable ends; what comes after a sign is free. -/
inductive VariableEnding where
  | line
  | value (equals : Sign .equals) (rest : List Token)
  | stop (semicolon : Sign .semicolon) (rest : List Token)
  | next (comma : Sign .comma) (rest : List Token)

def VariableEnding.tokens : VariableEnding → List Token
  | .line => []
  | .value equals rest => equals.token :: rest
  | .stop semicolon rest => semicolon.token :: rest
  | .next comma rest => comma.token :: rest

/-- A type that is an identifier as a whole. -/
def isClassWord (x : String) : Bool := Language.java.isType x && Language.java.isWord x

inductive JavaForm where
  | method (type : JavaType) (name : JavaName) (tail : JavaTail)
  | constructor (name : Word isClassWord) (tail : JavaTail)
  | var (type : JavaType) (name : JavaName) (ending : VariableEnding)

namespace JavaForm

def tokens : JavaForm → List Token
  | .method type name tail => type.tokens ++ name.token :: tail.tokens
  | .constructor name tail => name.token :: tail.tokens
  | .var type name _ => type.tokens ++ [name.token]

def ending : JavaForm → List Token
  | .method _ _ tail | .constructor _ tail => tail.ending.tokens
  | .var _ _ ending => ending.tokens

def declaration : JavaForm → Declaration
  | .method type name tail =>
    { name := name.text
      kind := some .function
      parameters := tail.parameterList
      returns := { present := type.text ≠ "void", type := some type.text } }
  | .constructor name tail =>
    { name := name.text
      kind := some .function
      parameters := tail.parameterList
      returns := { present := false, type := none } }
  | .var type name _ =>
    { name := name.text
      kind := some .var
      returns := { present := false, type := some type.text } }

end JavaForm

structure JavaLine where
  typeParameters : Option TypeParameters := none
  form : JavaForm
  /-- The asides before each token and before the end. -/
  asides : Nat → List Aside := fun _ => []

namespace JavaLine

/-- The tokens without asides. -/
def core (d : JavaLine) : List Token :=
  (d.typeParameters.map TypeParameters.tokens).getD [] ++ d.form.tokens

def tokens (d : JavaLine) : List Token :=
  strew d.asides d.core ++ (d.asides d.core.length).map (·.token) ++ d.form.ending

end JavaLine

theorem strew_append (asides : Nat → List Aside) (ts us : List Token) :
    strew asides (ts ++ us) = strew asides ts ++ strew (fun i => asides (i + ts.length)) us := by
  induction ts generalizing asides with
  | nil => rfl
  | cons t ts ih =>
    rw [List.cons_append, strew, ih, strew, List.append_assoc, List.cons_append]
    rfl

end Written

namespace Language

open Written

variable {F : Frame → Prop} {ps : List Parameter} {t : Token} {ts us : List Token} {s : Scan}
  {P Q : Scan → Prop} {x n : String}

/-! ## Words -/

theorem inert_java : Language.java.inert t = true ↔
    Language.java.grammar.has .classWord t.text = false ∧ Language.java.skips t = false := by
  have hwords : Language.java.grammar.has .functionWord t.text = false := by
    simp [Grammar.has, Grammar.words, Language.grammar, Grammar.java]
  rw [inert_iff, hwords]
  simp [isScript]

theorem signsInert_java : SignsInert .java := by
  intro m g _
  have hall : ∀ m ∈ Mark.all, Language.java.grammar.has .classWord m.label = false ∧
      m.label.toList.head? ≠ some '@' := by
    decide
  obtain ⟨hclass, hat⟩ := hall m (Mark.mem_all m)
  exact inert_java.2 ⟨hclass, by simp [skips, Sign.token, hat]⟩

/-- What modifiers are not. -/
structure Neutral (t : Token) : Prop where
  plain : t.isPlain = true
  inert : Language.java.inert t = true
  isType : Language.java.isType t.text = false
  isName : Language.java.isName t.text = false
  endsVariable : endsVariable t = false

theorem neutral_of_modifier (hp : t.isPlain = true)
    (hm : Language.java.grammar.has .modifierWord t.text = true) : Neutral t := by
  have hmem : t.text ∈ Grammar.java.modifierWords := Grammar.mem_words_of_has hm
  have hall : ∀ m ∈ Grammar.java.modifierWords,
      Language.java.isType m = false ∧ Language.java.isName m = false ∧
        Language.java.grammar.has .classWord m = false ∧ m.toList.head? ≠ some '@' ∧
        m ∉ [Mark.equals.label, Mark.semicolon.label, Mark.comma.label,
          Mark.openBracket.label] := by
    decide
  obtain ⟨htype, hname, hclass, hat, hends⟩ := hall _ hmem
  refine ⟨hp, inert_java.2 ⟨hclass, ?_⟩, htype, hname, ?_⟩
  · simp [skips, hat]
  · simpa [Language.endsVariable, Token.spells, and_assoc] using hends

theorem isReserved_of_isType (h : Language.java.isType t.text = true) :
    Language.java.isReserved t.text = false := by
  have h' : (!Language.java.isReserved t.text && _) = true := h
  simpa using (Bool.and_eq_true_iff.1 h').1

/-- Neither a type nor a name begins like an annotation. -/
theorem skips_eq_false (h : Language.java.beginsWord t.text = true) :
    Language.java.skips t = false := by
  unfold beginsWord at h
  rw [Grammar.beginsWord_ofShape rfl] at h
  have hat : t.text.toList.head? ≠ some '@' := by
    intro hc
    rw [hc] at h
    exact absurd h (by decide)
  simp [skips, hat]

theorem beginsWord_of_isType (h : Language.java.isType x = true) :
    Language.java.beginsWord x = true := by
  have hx : x ≠ "" := by
    rintro rfl
    rw [isType_empty] at h
    cases h
  have hleading : (Language.java.grammar.word.leading? x).isSome = true := by
    obtain ⟨base, hbase, -⟩ := (Option.any_eq_true _ _).1 (Bool.and_eq_true_iff.1 h).2
    rw [hbase, Option.isSome_some]
  simp [beginsWord, Grammar.beginsWord, hx, hleading]

theorem inert_type (w : Word Language.java.isType) : Language.java.inert w.token = true :=
  inert_of_not_isReserved w.plain (isReserved_of_isType w.holds)
    (skips_eq_false (beginsWord_of_isType w.holds))

theorem inert_name (w : JavaName) : Language.java.inert w.token = true :=
  inert_of_not_isReserved w.plain (isReserved_of_isName w.holds)
    (skips_eq_false (Grammar.beginsWord_of_isWord (Bool.and_eq_true_iff.1 w.holds).1))

/-! ## Tokens of a type -/

theorem extendType_type (w : Word Language.java.isType) :
    Language.java.extendType "" 0 w.token = some (w.text, 0) := by
  unfold extendType
  rw [if_neg (by simp), if_pos rfl, if_pos (by exact w.holds)]
  rfl

theorem extendType_plain (hx : x ≠ "") (ht : t.isPlain = true) :
    Language.java.extendType x 0 t = none := by
  unfold extendType
  simp [hx, Token.is_eq_false ht, joinsTypeWords, tagWords]

theorem extendType_neutral (h : Neutral t) (x : String) :
    Language.java.extendType x 0 t = none := by
  by_cases hx : x = ""
  · have hstart : Language.java.startsType t.text = false := h.isType
    rw [hx]
    unfold extendType
    rw [if_neg (by simp), if_pos rfl, if_neg (ne_true_of_eq_false hstart)]
  · exact extendType_plain hx h.plain

theorem extendType_ellipsis (hx : x ≠ "") (g : Sign .ellipsis) :
    Language.java.extendType x 0 g.token = some (x ++ "...", 0) := by
  unfold extendType
  simp [hx]
  rfl

/-! ## Asides -/

/-- No modifier or annotation changes the scan. -/
def Calm (s : Scan) : Prop := ∀ a : Aside, Language.java.step a.token s = s

theorem calm_of_neutral (h : ∀ t, Neutral t → Language.java.step t s = s) : Calm s := by
  intro a
  rcases Bool.or_eq_true_iff.1 a.holds with hskips | hmodifier
  · exact step_of_skips hskips s
  · obtain ⟨hp, hm⟩ := Bool.and_eq_true_iff.1 hmodifier
    exact h _ (neutral_of_modifier hp hm)

theorem Calm.reads (h : Calm s) (asides : List Aside) :
    Reads .java (asides.map (·.token)) s s := by
  induction asides with
  | nil => exact .nil
  | cons a asides ih =>
    intro rest
    rw [List.map_cons, List.cons_append, run]
    split
    · rename_i hfinished
      rw [run_of_finished hfinished]
    · rw [h a, ih rest]

/-- The tokens lead to a scan with the property `Q`, whatever asides stand before them. -/
def Amid (ts : List Token) (s : Scan) (Q : Scan → Prop) : Prop :=
  ∀ asides, Leads .java (strew asides ts) s Q

theorem Amid.nil (h : Q s) : Amid [] s Q := fun _ => .nil h

theorem Amid.cons (hc : Calm s) (hd : s.done = false) (h : Amid ts (Language.java.step t s) Q) :
    Amid (t :: ts) s Q := by
  intro asides
  obtain ⟨s', hreads, hq⟩ := Leads.cons hd (h fun i => asides (i + 1))
  exact ⟨s', (hc.reads (asides 0)).append hreads, hq⟩

theorem Amid.single (hc : Calm s) (hd : s.done = false) (h : Q (Language.java.step t s)) :
    Amid [t] s Q :=
  .cons hc hd (.nil h)

theorem Amid.append (h : Amid ts s P) (h' : ∀ s', P s' → Amid us s' Q) : Amid (ts ++ us) s Q := by
  intro asides
  rw [strew_append]
  exact (h asides).append fun s' hs' => h' s' hs' _

theorem Amid.walk : Walk .java (fun s => Calm s ∧ s.done = false) Amid :=
  ⟨Amid.nil, fun h => Amid.cons h.1 h.2, Amid.append⟩

/-- What each token keeps, all of them keep. -/
theorem Amid.of_invariant (hc : ∀ s, P s → Calm s) (hd : ∀ s, P s → s.done = false)
    (hstep : ∀ t ∈ ts, ∀ s, P s → P (Language.java.step t s)) (h : P s) : Amid ts s P := by
  induction ts generalizing s with
  | nil => exact .nil h
  | cons t ts ih =>
    refine .cons (hc s h) (hd s h) (ih (fun u hu => hstep u (List.mem_cons_of_mem _ hu)) ?_)
    exact hstep t List.mem_cons_self s h

/-! ## Before the parameters -/

/-- Before the parameters asides change nothing: type parameters take them like all else, and no
type or name takes them. -/
theorem calm_head (hk : s.decl.kind = none) (hd : s.done = false)
    (ha : s.angleDepth = 0 ∨ s.typeText = "") : Calm s := by
  apply calm_of_neutral
  intro t ht
  have hmark := Token.is_eq_false ht.plain
  by_cases hopen : s.typeText = "" ∧ s.angleDepth ≠ 0
  · have hangle : angleStep t s.angleDepth = s.angleDepth := by
      simp [angleStep, hmark]
    apply step_of_readDeclarator rfl ht.inert hk hd
    unfold readDeclarator
    rw [if_pos ⟨hopen.1, .inr hopen.2⟩, hangle]
  · have hdepth : s.angleDepth = 0 := by
      rcases ha with ha | ha
      · exact ha
      · exact Decidable.byContradiction fun hne => hopen ⟨ha, hne⟩
    have hread : Language.java.readDeclarator t s = s.leave := by
      unfold readDeclarator readTypeAndName
      simp only [hdepth, hmark, extendType_neutral ht, ht.isName]
      simp
    rw [step_of_readTypedVariable rfl ht.inert hk hd hread]
    unfold readTypedVariable
    simp [ht.endsVariable, Scan.leave]

/-- Type parameters are passed over, and the brackets among them are followed. -/
theorem step_typeParameter (hin : Language.java.inert t = true) {d : Int}
    (h : t.is .openAngle = true ∨ d ≠ 0) :
    Language.java.step t { angleDepth := d } = { angleDepth := angleStep t d } := by
  apply step_of_readDeclarator rfl hin rfl rfl
  unfold readDeclarator
  rw [if_pos ⟨rfl, h⟩]

/-- The depth of angle brackets follows the brackets, with one more open around them. -/
theorem anglesClosed_cons {d : Nat} (h : anglesClosed d (t :: ts) = true) :
    ∃ d' : Nat, anglesClosed d' ts = true ∧ angleStep t (d + 1) = d' + 1 := by
  unfold anglesClosed at h
  unfold angleStep
  by_cases hopen : t.is .openAngle = true
  · rw [if_pos hopen] at h ⊢
    exact ⟨d + 1, h, rfl⟩
  rw [if_neg hopen] at h ⊢
  by_cases hclose : t.is .closeAngle = true
  · rw [if_pos hclose] at h ⊢
    obtain ⟨hd, h⟩ := Bool.and_eq_true_iff.1 h
    have hd : d ≠ 0 := by simpa using hd
    exact ⟨d - 1, h, by omega⟩
  · rw [if_neg hclose] at h ⊢
    exact ⟨d, h, rfl⟩

/-- Between the outermost brackets, with `d` inner ones open. -/
theorem amid_angles (hin : ∀ t ∈ ts, Language.java.inert t = true) {d : Nat}
    (hclosed : anglesClosed d ts = true) :
    Amid ts { angleDepth := d + 1 } (· = { angleDepth := 1 }) := by
  induction ts generalizing d with
  | nil =>
    have hd : d = 0 := by simpa [anglesClosed] using hclosed
    rw [hd]
    exact .nil rfl
  | cons t ts ih =>
    obtain ⟨hint, hints⟩ := List.forall_mem_cons.1 hin
    obtain ⟨d', hclosed, hdepth⟩ := anglesClosed_cons hclosed
    refine .cons (calm_head rfl rfl (.inr rfl)) rfl ?_
    rw [step_typeParameter hint (.inr (by omega)), hdepth]
    exact ih hints hclosed

theorem amid_typeParameters (p : TypeParameters) : Amid p.tokens {} (· = {}) := by
  obtain ⟨opener, content, hin, hclosed, closer⟩ := p
  refine .cons (calm_head rfl rfl (.inr rfl)) rfl ?_
  rw [show ({} : Scan) = { angleDepth := 0 } from rfl,
    step_typeParameter (signsInert_java _ opener (by decide)) (.inl (by simp))]
  have hopener : angleStep opener.token 0 = ((0 : Nat) : Int) + 1 := by
    simp [angleStep]
  rw [hopener]
  refine (amid_angles hin hclosed).append ?_
  rintro s rfl
  refine .single (calm_head rfl rfl (.inr rfl)) rfl ?_
  rw [step_typeParameter (signsInert_java _ closer (by decide)) (.inr (by decide))]
  simp [angleStep]

theorem amid_typeParameters? (p : Option TypeParameters) (h : Amid ts {} Q) :
    Amid ((p.map TypeParameters.tokens).getD [] ++ ts) {} Q := by
  cases p with
  | none => exact h
  | some p =>
    refine (amid_typeParameters p).append ?_
    rintro s rfl
    exact h

/-- A token that is part of the type before the name. -/
theorem step_headType (hin : Language.java.inert t = true) (hparen : t.is .openParen = false)
    (hangle : t.is .openAngle = false) {y : String}
    (he : Language.java.extendType x 0 t = some (y, 0)) :
    Language.java.step t { typeText := x } = { typeText := y } :=
  step_heading rfl hin hparen (fun _ => ⟨hangle, rfl⟩) he

theorem step_headName (hx : x ≠ "") (w : JavaName) :
    Language.java.step w.token (heading x 0) = { typeText := x, candidate := w.text } :=
  step_headingName rfl (inert_name w) w.plain hx (extendType_plain hx w.plain) w.holds

theorem amid_headBrackets (arrays : List Brackets) (hx : x ≠ "") :
    Amid (arrays.flatMap Brackets.tokens) { typeText := x }
      (· = { typeText := arrayText x arrays.length }) := by
  induction arrays generalizing x with
  | nil =>
    rw [List.length_nil, arrayText_zero]
    exact .nil rfl
  | cons b arrays ih =>
    have hx' : x ++ "[]" ≠ "" := by simp
    rw [List.length_cons, arrayText_succ]
    refine .cons (calm_head rfl rfl (.inl rfl)) rfl ?_
    rw [step_headType (signsInert_java _ b.opener (by decide)) (by simp) (by simp)
      (extendType_openBracket hx b.opener)]
    refine .cons (calm_head rfl rfl (.inl rfl)) rfl ?_
    rw [step_headType (signsInert_java _ b.closer (by decide)) (by simp) (by simp)
      (extendType_closeBracket hx' b.closer)]
    exact ih hx'

theorem ne_empty_of_isType (w : Word Language.java.isType) : w.text ≠ "" := by
  intro he
  have hw := w.holds
  rw [show w.token.text = "" from he, isType_empty] at hw
  cases hw

theorem step_headWord (w : Word Language.java.isType) :
    Language.java.step w.token {} = { typeText := w.text } :=
  step_headType (inert_type w) (by simp) (by simp) (extendType_type w)

theorem amid_typeAndName (type : JavaType) (name : JavaName) :
    Amid (type.tokens ++ [name.token]) {}
      (· = { typeText := type.text, candidate := name.text }) := by
  have hx := ne_empty_of_isType type.type
  refine .append (P := (· = { typeText := type.text })) ?_ ?_
  · refine .cons (calm_head rfl rfl (.inl rfl)) rfl ?_
    rw [step_headWord]
    exact amid_headBrackets type.arrays hx
  · rintro s rfl
    refine .single (calm_head rfl rfl (.inl rfl)) rfl ?_
    exact step_headName (arrayText_ne_empty hx _) name

/-- A class name right before the list is that of a constructor. -/
theorem atList_constructor (hx : x ≠ "") (hw : Language.java.isWord x = true) :
    AtList .java (Announces x { present := true }) { typeText := x } where
  done := rfl
  kind := by exact nofun
  opens o := by
    refine ⟨{ decl := (named x).decl, typeText := x }, ?_,
      ⟨⟨rfl, rfl, rfl, rfl, rfl, rfl⟩, rfl, rfl, rfl, rfl⟩⟩
    rw [readFunction_undeclared rfl rfl]
    unfold readDeclarator
    rw [if_neg fun h => hx h.1, if_pos ⟨by simp, rfl, hw⟩]
    rfl

/-! ## Parameters -/

/-- An open list, outside of default values. -/
structure Between (F : Frame → Prop) (ps : List Parameter) (s : Scan) : Prop
    extends InList F ps 1 0 0 s where
  inValue : s.inValue = false

theorem SlotStart.between (h : SlotStart F ps s) : Between F ps s := ⟨h.toInList, h.inValue⟩

theorem InSlot.between {due : Bool} (h : InSlot F ps due s) : Between F ps s :=
  ⟨h.toInList, h.inValue⟩

theorem Between.calm (hF : Collecting .java F) (h : Between F ps s) : Calm s := by
  apply calm_of_neutral
  intro t ht
  exact hF.slot_idle rfl h.toInList h.inValue ht.inert ht.plain (extendType_neutral ht) ht.isName

theorem TypeAt.calm (hF : Collecting .java F) (h : TypeAt F ps x s) : Calm s := by
  obtain ⟨_, hlist, hv⟩ := h.listing
  exact Between.calm hF ⟨hlist, hv⟩

/-- Pairs of brackets go to the type of the parameter. -/
theorem amid_slotBrackets (hF : Collecting .java F) (arrays : List Brackets) (hx : x ≠ "")
    (h : TypeAt F ps x s) :
    Amid (arrays.flatMap Brackets.tokens) s (TypeAt F ps (arrayText x arrays.length)) := by
  induction arrays generalizing x s with
  | nil =>
    rw [List.length_nil, arrayText_zero]
    exact .nil h
  | cons b arrays ih =>
    have hx' : x ++ "[]" ≠ "" := by simp
    have hopen := hF.slot_extend rfl h (signsInert_java _ b.opener (by decide)) (by simp [divides])
      (.inl hx) (extendType_openBracket hx b.opener)
    have hclose := hF.slot_extend rfl hopen (signsInert_java _ b.closer (by decide))
      (by simp [divides]) (.inl hx') (extendType_closeBracket hx' b.closer)
    rw [List.length_cons, arrayText_succ]
    exact .cons (h.calm hF) (h.done hF) (.cons (hopen.calm hF) (hopen.done hF) (ih hx' hclose))

theorem amid_slot (hF : Collecting .java F) (p : JavaSlot) (h : SlotStart F ps s) :
    Amid p.tokens s (Between F (ps ++ [p.parameter])) := by
  obtain ⟨type, ellipsis, name⟩ := p
  have hx := ne_empty_of_isType type.type
  have hstart : TypeAt F ps "" s := .inl ⟨rfl, h⟩
  have htype := hF.slot_extend rfl hstart (inert_type type.type)
    (divides_eq_false type.type.plain) (.inr (Token.opensGroup_eq_false type.type.plain))
    (extendType_type type.type)
  have hname : ∀ y s', y ≠ "" → TypeAt F ps y s' →
      Amid [name.token] s' (Between F (ps ++ [{ name := name.text, type := some y }])) := by
    intro y s' hy h'
    refine .single (h'.calm hF) (h'.done hF) ?_
    exact (hF.slot_declaredName rfl (h'.inSlot hy) (inert_name name) name.plain
      (extendType_plain hy name.plain) name.holds).between
  have hbrackets := Amid.cons (hstart.calm hF) (hstart.done hF)
    (amid_slotBrackets hF type.arrays hx htype)
  have hy := arrayText_ne_empty hx type.arrays.length
  -- the ellipsis is part of the type, so the name comes behind a complete one
  refine .append (P := TypeAt F ps (JavaSlot.typeText ⟨type, ellipsis, name⟩))
    (hbrackets.append fun s' h' => ?_) fun s' h' => hname _ s' ?_ h'
  · cases ellipsis with
    | none =>
      refine .nil ?_
      show TypeAt F ps (type.text ++ "") s'
      rw [String.append_empty]
      exact h'
    | some g =>
      refine .single (h'.calm hF) (h'.done hF) ?_
      exact hF.slot_extend rfl h' (signsInert_java _ g (by decide)) (by simp [divides]) (.inl hy)
        (extendType_ellipsis hy g)
  · intro he
    exact hy (String.append_eq_empty_iff.1 he).1

/-- The whole list.  The scan before it may still be one in which no function is declared. -/
theorem amid_parens (hF : Collecting .java F) (hc : Calm s) (h : AtList .java F s)
    (p : Parens JavaSlot) :
    Amid (p.tokens JavaSlot.tokens) s (Closed F (p.slots.items.map JavaSlot.parameter)) := by
  have hitems : ReadsItems .java (fun s => Calm s ∧ s.done = false) Amid JavaSlot.tokens
      (fun p => [p.parameter]) (SlotStart F) (Between F) :=
    { walk := Amid.walk
      ready := fun _ _ h => ⟨h.calm hF, hF.done _ h.frame⟩
      comma := fun _ _ c h => hF.comma h.toInList c
      item := fun p _ _ h => amid_slot hF p h
      empty := fun _ _ h => h.between }
  rw [List.map_eq_flatMap]
  exact hitems.leads_parens hF (fun _ _ h => h.toInList) ⟨hc, h.done⟩ h p

/-! ## Behind the parameters -/

theorem Headed.calm (h : Headed s) (hr : s.returnDue = false) : Calm s := by
  apply calm_of_neutral
  intro t ht
  exact h.step_idle hr ht.inert (followsList_of_isPlain ht.plain)

/-- What is thrown says nothing about the record. -/
theorem idle_throws (e : Throws) :
    ∀ t ∈ e.tokens, Language.java.inert t = true ∧ followsList t = false := by
  have hname : ∀ w : JavaName, Language.java.inert w.token = true ∧ followsList w.token = false :=
    fun w => ⟨inert_name w, followsList_of_isPlain w.plain⟩
  have hdot : ∀ w : Word (· == "."),
      Language.java.inert w.token = true ∧ followsList w.token = false := by
    intro w
    refine ⟨inert_java.2 ?_, followsList_of_isPlain w.plain⟩
    rw [skips, show w.token.text = "." by simpa using w.holds]
    decide
  have hcomma : ∀ g : Sign .comma,
      Language.java.inert g.token = true ∧ followsList g.token = false :=
    fun g => ⟨signsInert_java _ g (by decide), by simp [followsList]⟩
  have hqualified : ∀ q : QualifiedName, ∀ t ∈ q.tokens,
      Language.java.inert t = true ∧ followsList t = false := by
    intro q
    refine List.forall_mem_cons.2 ⟨hname q.first, ?_⟩
    intro t ht
    obtain ⟨part, -, ht⟩ := List.mem_flatMap.1 ht
    rcases List.mem_cons.1 ht with rfl | ht
    · exact hdot part.1
    · rw [List.mem_singleton.1 ht]
      exact hname part.2
  refine List.forall_mem_cons.2 ⟨?_, Listed.forall_mem_tokens hcomma hqualified e.names⟩
  refine ⟨inert_java.2 ?_, followsList_of_isPlain e.word.plain⟩
  rw [skips, show e.word.token.text = "throws" by simpa using e.word.holds]
  decide

theorem amid_throws? {r : Returns} (e : Option Throws) (h : Closed (Announces n r) ps s) :
    Amid ((e.map Throws.tokens).getD []) s (Closed (Announces n r) ps) := by
  cases e with
  | none => exact .nil h
  | some e =>
    refine Amid.of_invariant (fun s' h' => h'.headed.calm h'.frame.returnDue)
      (fun s' h' => h'.frame.done) ?_ h
    intro t ht s' h'
    obtain ⟨hin, hfollows⟩ := idle_throws e t ht
    rw [h'.headed.step_idle h'.frame.returnDue hin hfollows]
    exact h'

theorem amid_tail {r : Returns} (tail : JavaTail) (hc : Calm s)
    (h : AtList .java (Announces n r) s) :
    Amid tail.tokens s (Closed (Announces n r) tail.parameterList) :=
  (amid_parens (collecting_announces signsInert_java) hc h tail.parameters).append fun _ h' =>
    amid_throws? tail.throws h'

/-! ## Variables -/

theorem finish_run_variable (mixed : Bool) (hx : x ≠ "") (hn : n ≠ "") (e : VariableEnding) :
    Language.java.finish mixed (Language.java.run e.tokens { typeText := x, candidate := n }) =
      typedVariable x n := by
  have hends : ∀ (m : Mark) (g : Sign m) rest, m = .equals ∨ m = .semicolon ∨ m = .comma →
      (Language.java.run (g.token :: rest) { typeText := x, candidate := n }).decl =
        typedVariable x n := by
    rintro m g rest (rfl | rfl | rfl) <;>
      exact run_endsVariable rfl hx hn (signsInert_java _ g (by decide)) rfl (by simp) rest
  cases e with
  | line =>
    apply finish_variable rfl
    rw [← decl_declareTyped hx]
    unfold settleKind
    simp [VariableEnding.tokens, run, hn]
  | value equals rest => exact finish_declared rfl mixed (hends _ equals rest (by decide))
  | stop semicolon rest => exact finish_declared rfl mixed (hends _ semicolon rest (by decide))
  | next comma rest => exact finish_declared rfl mixed (hends _ comma rest (by decide))

/-! ## Top theorem -/

/-- A parameter with a name is kept. -/
theorem settleParameters_java {d : Declaration} (hk : d.kind = some .function)
    (hname : ∀ p ∈ d.parameters, p.name ≠ "") :
    Language.java.settleParameters d = d.parameters := by
  unfold settleParameters
  rw [if_neg (not_not_intro hk)]
  split
  · rename_i p hp
    rw [hp] at hname
    rw [if_neg fun h => hname p (List.mem_singleton_self p) h.2.1, hp]
  · rfl

/-- The record of a function whose parameters have names. -/
theorem finish_ofNamed (mixed : Bool) (n : String) (hname : ∀ p ∈ ps, p.name ≠ "")
    (type : Option String) :
    Language.java.finish mixed
      { decl :=
          { name := n, kind := some .function, parameters := ps,
            returns := { present := true, type } } } =
    { name := n
      kind := some .function
      parameters := ps
      returns := { present := type.getD "" ≠ "" ∧ type ≠ some "void", type } } := by
  have hformat := formatType_of_ne_php (l := .java) (by decide) mixed
  unfold finish
  simp only [settleKind, Option.isSome_some, if_true, hformat, List.map_id']
  rw [settleParameters_java rfl hname]
  simp [settleReturns, isVoid_eq (l := .java) rfl, Returns.hasType, Bool.and_comm]

theorem finish_java (mixed : Bool) (n : String) (tail : JavaTail) (type : Option String) :
    Language.java.finish mixed
      { decl :=
          { name := n, kind := some .function, parameters := tail.parameterList,
            returns := { present := true, type } } } =
    { name := n
      kind := some .function
      parameters := tail.parameterList
      returns := { present := type.getD "" ≠ "" ∧ type ≠ some "void", type } } := by
  apply finish_ofNamed
  intro p hp
  obtain ⟨slot, -, rfl⟩ := List.mem_map.1 hp
  exact ne_empty_of_isName slot.name.holds

/-- The tokens of a line before its end, and the asides before the end. -/
theorem Amid.leads (h : Amid ts {} P) (hc : ∀ s, P s → Calm s) (asides : Nat → List Aside) :
    Leads .java (strew asides ts ++ (asides ts.length).map (·.token)) {} P := by
  obtain ⟨s, hreads, hs⟩ := h asides
  exact ⟨s, hreads.append ((hc s hs).reads _), hs⟩

theorem read_of_amid {r : Returns} (h : Amid ts {} (Closed (Announces n r) ps))
    (asides : Nat → List Aside) (e : Ending) (mixed : Bool) :
    Language.java.read mixed
        (strew asides ts ++ (asides ts.length).map (·.token) ++ e.tokens) =
      Language.java.finish mixed
        { decl := { name := n, kind := some .function, parameters := ps, returns := r } } :=
  read_of_closed signsInert_java (h.leads (fun _ h' => h'.headed.calm h'.frame.returnDue) asides) e
    mixed

/-- **Reading the written form of a declaration of Java gives back what was written**, whatever
modifiers and annotations stand in it. -/
theorem declaration_javaLine (settings : Settings) (d : JavaLine) :
    Language.java.declaration settings d.tokens = d.form.declaration := by
  obtain ⟨typeParameters, form, asides⟩ := d
  unfold Language.declaration
  cases form with
  | method type name tail =>
    have hx := arrayText_ne_empty (ne_empty_of_isType type.type) type.arrays.length
    have hn : name.text ≠ "" := ne_empty_of_isName name.holds
    have hhead : Amid (type.tokens ++ name.token :: tail.tokens) {}
        (Closed (Announces name.text { present := true, type := some type.text })
          tail.parameterList) := by
      rw [← List.singleton_append, ← List.append_assoc]
      refine (amid_typeAndName type name).append ?_
      rintro s rfl
      exact amid_tail tail (calm_head rfl rfl (.inl rfl)) (atList_declared rfl hx hn)
    have hline := amid_typeParameters? typeParameters hhead
    refine (read_of_amid hline asides tail.ending _).trans ?_
    rw [finish_java]
    simp [JavaForm.declaration, show type.text ≠ "" from hx]
  | constructor name tail =>
    obtain ⟨htype, hword⟩ := Bool.and_eq_true_iff.1 name.holds
    have hhead : Amid (name.token :: tail.tokens) {}
        (Closed (Announces name.text { present := true }) tail.parameterList) := by
      refine .cons (calm_head rfl rfl (.inl rfl)) rfl ?_
      rw [step_headWord ⟨name.token, name.plain, htype⟩]
      exact amid_tail tail (calm_head rfl rfl (.inl rfl))
        (atList_constructor (ne_empty_of_isType ⟨name.token, name.plain, htype⟩) hword)
    have hline := amid_typeParameters? typeParameters hhead
    refine (read_of_amid hline asides tail.ending _).trans ?_
    rw [finish_java]
    simp [JavaForm.declaration]
  | var type name ending =>
    have hx := arrayText_ne_empty (ne_empty_of_isType type.type) type.arrays.length
    have hn : name.text ≠ "" := ne_empty_of_isName name.holds
    have hline := amid_typeParameters? typeParameters (amid_typeAndName type name)
    obtain ⟨s, hreads, rfl⟩ := hline.leads
      (fun s hs => by rw [hs]; exact calm_head rfl rfl (.inl rfl)) asides
    show Language.java.finish _ (Language.java.run _ {}) = _
    exact (congrArg _ (hreads ending.tokens)).trans (finish_run_variable _ hx hn ending)

/-- `@Override public <T extends Comparable<T>> T[] pick(final Set<T> pool,
@Nonnull long[]... ranks) throws java.IOException {` -/
def pickRanked : JavaLine where
  typeParameters := some
    { content :=
        [{ kind := "type_identifier", text := "T" }, { kind := "extends", text := "extends" },
          { kind := "type_identifier", text := "Comparable" }, ({} : Sign .openAngle).token,
          { kind := "type_identifier", text := "T" }, ({} : Sign .closeAngle).token]
      inert := by decide
      closed := by decide }
  form := .method
    { type := ⟨{ kind := "type_identifier", text := "T" }, by decide, by decide⟩
      arrays := [{}] }
    ⟨{ kind := "identifier", text := "pick" }, by decide, by decide⟩
    { parameters :=
        { slots :=
            .of
              { type :=
                  { type := ⟨{ kind := "generic_type", text := "Set<T>" }, by decide, by decide⟩ }
                name := ⟨{ kind := "identifier", text := "pool" }, by decide, by decide⟩ }
              [({},
                { type :=
                    { type := ⟨{ kind := "integral_type", text := "long" }, by decide, by decide⟩
                      arrays := [{}] }
                  ellipsis := some {}
                  name := ⟨{ kind := "identifier", text := "ranks" }, by decide, by decide⟩ })] }
      throws := some
        { word := ⟨{ kind := "throws", text := "throws" }, by decide, by decide⟩
          names :=
            .of
              { first := ⟨{ kind := "identifier", text := "java" }, by decide, by decide⟩
                more :=
                  [(⟨{ kind := ".", text := "." }, by decide, by decide⟩,
                    ⟨{ kind := "identifier", text := "IOException" }, by decide, by decide⟩)] }
              [] }
      ending := .block {} [] }
  asides
    | 0 => [⟨{ kind := "marker_annotation", text := "@Override" }, by decide⟩,
        ⟨{ kind := "public", text := "public" }, by decide⟩]
    | 13 => [⟨{ kind := "final", text := "final" }, by decide⟩]
    | 16 => [⟨{ kind := "(", text := "@Nonnull" }, by decide⟩]
    | _ => []

theorem declaration_pickRanked :
    pickRanked.tokens.map (·.text) =
        ["@Override", "public", "<", "T", "extends", "Comparable", "<", "T", ">", ">", "T", "[",
          "]", "pick", "(", "final", "Set<T>", "pool", ",", "@Nonnull", "long", "[", "]", "...",
          "ranks", ")", "throws", "java", ".", "IOException", "\x7b"] ∧
      Language.java.declaration {} pickRanked.tokens =
        { name := "pick"
          kind := some .function
          parameters :=
            [{ name := "pool", type := some "Set<T>" },
              { name := "ranks", type := some "long[]..." }]
          returns := { present := true, type := some "T[]" } } :=
  ⟨by decide, (declaration_javaLine {} pickRanked).trans (by decide)⟩

end Language

end DocTemplate
