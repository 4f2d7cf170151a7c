import DocTemplate.Proofs.Php
import DocTemplate.Proofs.Record
import DocTemplate.Proofs.Script
import Mathlib.Data.List.Flatten

/-!
# Default values with any words in them

    function name ( x [= V], … ) [: R [ ]…] end        PHP, TypeScript, JavaScript
    @function name ( $x [: V], … ) [: R [ ]…] end      SCSS

A slot `x` is one of PHP or of TypeScript, without a group, and `V` may hold any words.  The readers
of classes and functions do not ask whether a list is open, so they take their words and arrows out
of a value.  A word taken this way may also make a name due again, and behind the list this name
takes the place of the return type.  The record is `FreeFunction.declaration`, and default values
are kept exactly if they hold no such token (`keepsDefaults_iff`).
-/

namespace DocTemplate

/-- The sign before a default value. -/
def Language.valueMark : Language → Mark
  | .scss => .colon
  | _ => .equals

/-- Whether a token inside of a list makes a name due. -/
def Language.asksName (l : Language) (t : Token) : Bool :=
  l.grammar.has .classWord t.text || (!l.isScript && l.grammar.has .functionWord t.text)

namespace Written

/-! ## Written form -/

/-- A default value of any words. -/
structure FreeValue (l : Language) where
  tokens : List Token
  nonempty : ∀ t ∈ tokens, t.text ≠ ""
  balanced : balanced 0 0 tokens = true
  /-- What could declare something is a word or an arrow. -/
  heads : ∀ t ∈ tokens, l.inert t = false → t.isPlain = true ∨ t.text = "=>"

structure FreeDefault (l : Language) where
  sign : Sign l.valueMark := {}
  value : FreeValue l

def FreeDefault.tokens {l : Language} (d : FreeDefault l) : List Token :=
  d.sign.token :: d.value.tokens

/-- A parameter without its default value. -/
inductive BareSlot (l : Language) where
  | typed (hl : l = .php ∨ l = .scss) (type : Option (ArrayType l.isType))
    (name : Word Language.isDollarName)
  | script (hl : l.isScript = true) (slot : PlainSlot l)

namespace BareSlot

variable {l : Language}

def tokens : BareSlot l → List Token
  | .typed _ type name => (type.map ArrayType.tokens).getD [] ++ [name.token]
  | .script _ slot => slot.tokens

def parameter : BareSlot l → Parameter
  | .typed _ type name => { name := name.text, type := type.map ArrayType.text }
  | .script _ slot => slot.parameter

end BareSlot

structure FreeSlot (l : Language) where
  slot : BareSlot l
  value : Option (FreeDefault l) := none

namespace FreeSlot

variable {l : Language}

def tokens (p : FreeSlot l) : List Token :=
  p.slot.tokens ++ (p.value.map FreeDefault.tokens).getD []

def valueTokens (p : FreeSlot l) : List Token := (p.value.map (·.value.tokens)).getD []

/-- What the readers of heads take is missing in the value. -/
def parameter (p : FreeSlot l) : Parameter :=
  { p.slot.parameter with value := Token.joined (p.valueTokens.filter l.inert) }

def bare (p : FreeSlot l) : FreeSlot l := { slot := p.slot }

end FreeSlot

/-- The return type that is recorded: a name that is due takes the place of a type that could be
one. -/
def typeBehind {l : Language} (due : Bool) (r : Option (Ascription (isReturnType l))) :
    Option String :=
  if due && r.any fun r => l.isName r.type.type.text then none else r.map Ascription.text

structure FreeFunction (l : Language) where
  word : Word (l.grammar.has .functionWord)
  name : Word l.isName
  parameters : Parens (FreeSlot l)
  returns : Option (Ascription (isReturnType l)) := none
  ending : Ending

namespace FreeFunction

variable {l : Language}

def tokens (f : FreeFunction l) : List Token :=
  f.word.token :: f.name.token ::
    (f.parameters.tokens FreeSlot.tokens ++ (f.returns.map Ascription.tokens).getD [] ++
      f.ending.tokens)

/-- The same function without its default values. -/
def bare (f : FreeFunction l) : FreeFunction l :=
  { f with parameters := f.parameters.map FreeSlot.bare }

def slots (f : FreeFunction l) : List (FreeSlot l) := f.parameters.slots.items

/-- The tokens of all default values. -/
def valueTokens (f : FreeFunction l) : List Token := f.slots.flatMap FreeSlot.valueTokens

def recordedType (f : FreeFunction l) : Option String :=
  typeBehind (f.valueTokens.any l.asksName) f.returns

def declaration (f : FreeFunction l) (mixed : Bool) : Declaration where
  name := f.name.text
  kind := some .function
  parameters := f.slots.map fun p =>
    { p.parameter with type := l.formatType mixed p.parameter.type }
  returns :=
    { present := !(f.word.token :: f.valueTokens).any l.mixes && !l.isVoid f.recordedType
      type := l.formatType mixed f.recordedType }

end FreeFunction

end Written

namespace Language

open Written

variable {l : Language} {F : Frame → Prop} {ps : List Parameter} {t : Token} {s : Scan}
  {n : String} {due present : Bool}

/-! ## Words that declare something, inside of a list -/

/-- The languages with a word for functions. -/
def worded : List Language := [.php, .scss, .javascript, .typescript]

theorem registered_of_worded (hl : l ∈ worded) : l ∈ registry.map (·.2) := by
  simp only [worded, List.mem_cons, List.not_mem_nil, or_false] at hl
  rcases hl with rfl | rfl | rfl | rfl <;> simp [registry]

theorem skips_worded (hl : l ∈ worded) (t : Token) : l.skips t = false := by
  have hjava : l ≠ .java := by
    rintro rfl
    simp [worded] at hl
  simp [skips, hjava]

/-- The frame of a function `n` whose list is being read: whether a name is due again, and whether
it is taken to return something. -/
structure Awaits (n : String) (due present : Bool) (f : Frame) : Prop where
  name : f.name = n
  kind : f.kind = some .function
  returns : f.returns = { present }
  nameDue : f.nameDue = due
  returnDue : f.returnDue = false
  done : f.done = false

theorem collecting_awaits (hl : l ∈ worded) : Collecting l (Awaits n due present) :=
  ⟨fun _ h => h.done, fun _ h => .inl h.kind, (signs_of_registered (registered_of_worded hl)).1⟩

/-- What is left of a scan in a function by a token that is not inert. -/
def heeded (l : Language) (t : Token) (s : Scan) : Scan :=
  { s with
    decl := s.decl.setReturns (s.decl.returns.present && !l.mixes t)
    nameDue := s.nameDue || l.asksName t }

theorem readFunction_of_functionWord (hl : l ∈ worded) (hk : s.decl.kind = some .function)
    (hn : s.decl.name ≠ "") (hc : l.grammar.has .classWord t.text = false)
    (hw : l.grammar.has .functionWord t.text = true) :
    l.readFunction t s = (l.heeded t s).take := by
  have hdeclare : s.decl.declare .function = s.decl := Declaration.declare_of_some hk _
  have hscript : l.isScript = true → l.readFunction t s = (l.heeded t s).take := by
    intro hs
    have hmixes : l.mixes t = false := by
      rcases eq_of_isScript hs with rfl | rfl <;> rfl
    have hname : nameFunction s s.candidate = s := by
      rw [nameFunction, hdeclare, Declaration.setName_of_ne hn]
    rw [readFunction_script hs]
    unfold readScriptFunction
    rw [if_pos hw]
    dsimp only
    rw [hname]
    simp [heeded, asksName, hc, hs, hmixes, hn, Declaration.setReturns]
  simp only [worded, List.mem_cons, List.not_mem_nil, or_false] at hl
  rcases hl with rfl | rfl | rfl | rfl
  · show readWordFunction .php t s = _
    unfold readWordFunction
    rw [if_pos hw, hdeclare]
    simp [heeded, asksName, hw, mixes, isScript, Declaration.setReturns]
  · have hasks : Language.scss.asksName t = true := by simp [asksName, hw, isScript]
    show readSheetFunction .scss t s = _
    unfold readSheetFunction readWordFunction
    rw [if_pos hw, hdeclare]
    by_cases hmixin : t.text = "@mixin"
    · simp [heeded, hasks, mixes, hmixin, Declaration.setReturns, Scan.take]
    · simp [heeded, hasks, mixes, hmixin, Declaration.setReturns, Scan.take]
  · exact hscript rfl
  · exact hscript rfl

/-- A token that is not inert changes what is due and what is returned, and nothing of the list. -/
theorem step_of_not_inert (hl : l ∈ worded) (hk : s.decl.kind = some .function)
    (hn : s.decl.name ≠ "") (hd : s.done = false) (ht : l.inert t = false) :
    l.step t s = l.heeded t s := by
  have hj := skips_worded hl t
  by_cases hc : l.grammar.has .classWord t.text = true
  · have hmixes : l.mixes t = false := by
      have hall : ∀ l ∈ worded, ∀ x ∈ l.grammar.classWords, x ≠ "@mixin" := by decide
      simp [mixes, hall l hl _ (Grammar.mem_words_of_has hc)]
    have hread : l.readClass t s = (l.heeded t s).take := by
      unfold readClass
      rw [if_pos hc, Declaration.declare_of_some hk]
      simp [heeded, asksName, hc, hmixes, Declaration.setReturns]
    rw [step_eq_pass hj hd, Stage.all]
    exact (pass_of_taken (g := .classHead) (by exact congrArg Outcome.taken hread)).trans
      (congrArg Outcome.scan hread)
  · have hclass : l.readClass t s = s.leave := by
      unfold readClass
      rw [if_neg hc, if_neg (by simp [hk])]
    have hread : l.readFunction t s = (l.heeded t s).take := by
      by_cases hw : l.grammar.has .functionWord t.text = true
      · exact readFunction_of_functionWord hl hk hn (by simpa using hc) hw
      -- what is left is the arrow, which is taken and forgotten
      · obtain ⟨hs, harrow⟩ : l.isScript = true ∧ t.is .arrow = true := by
          simpa [inert, hc, hw, hj] using ht
        have hmixes : l.mixes t = false := by
          rcases eq_of_isScript hs with rfl | rfl <;> rfl
        rw [readFunction_script hs]
        unfold readScriptFunction
        rw [if_neg hw, hk]
        simp [harrow, heeded, asksName, hc, hs, hmixes, Declaration.setReturns]
    rw [step_of_readFunction hj hd hclass (by rw [hread]; rfl), hread]
    rfl

theorem Awaits.heeded (h : Awaits n due present s.frame) (t : Token) :
    Awaits n (due || l.asksName t) (present && !l.mixes t) (l.heeded t s).frame where
  name := h.name
  kind := h.kind
  returns := by
    have hr : s.decl.returns = { present } := h.returns
    simp [Scan.frame, Language.heeded, Declaration.setReturns, hr]
  nameDue := by
    have hdue : s.nameDue = due := h.nameDue
    simp [Scan.frame, Language.heeded, hdue]
  returnDue := h.returnDue
  done := h.done

/-! ## Default values -/

/-- Whether a token has a meaning for the extent of a default value. -/
def bounds (t : Token) : Bool :=
  t.is .openParen || t.is .closeParen || t.opensGroup || t.closesGroup || t.is .comma

theorem balanced_cons_of_not_bounds {p b : Nat} (h : bounds t = false) (ts : List Token) :
    balanced p b (t :: ts) = balanced p b ts := by
  simp only [bounds, Bool.or_eq_false_iff] at h
  obtain ⟨⟨⟨⟨h1, h2⟩, h3⟩, h4⟩, h5⟩ := h
  simp [balanced, h1, h2, h3, h4, h5]

theorem bounds_of_not_inert (hl : l ∈ worded) (ht : l.inert t = false)
    (h : t.isPlain = true ∨ t.text = "=>") : bounds t = false := by
  rcases h with h | h
  · simp [bounds, Token.opensGroup, Token.closesGroup, Token.is_eq_false h]
  -- an arrow is not inert only if it is the mark
  · have hall : ∀ l ∈ worded, l.grammar.has .classWord "=>" = false ∧
        l.grammar.has .functionWord "=>" = false := by decide
    obtain ⟨-, harrow⟩ : l.isScript = true ∧ t.is .arrow = true := by
      simpa [inert, h, hall l hl, skips_worded hl t] using ht
    simp [bounds, Token.is_eq_false_of_is harrow, opensGroup_of_is harrow, closesGroup_of_is harrow]

theorem quiet_of_inert (ht : l.inert t = true) : l.asksName t = false ∧ l.mixes t = false := by
  obtain ⟨hclass, hword, -⟩ := inert_iff.1 ht
  refine ⟨by simp [asksName, hclass, hword], ?_⟩
  cases hmixes : l.mixes t with
  | false => rfl
  | true =>
    obtain ⟨rfl, htext⟩ : l = .scss ∧ t.text = "@mixin" := by simpa [mixes] using hmixes
    rw [htext] at hword
    exact absurd hword (by decide)

/-- The value that is recorded is that of the inert tokens. -/
theorem leads_freeValue (hl : l ∈ worded) (hn : n ≠ "") (ts : List Token) {q : Parameter}
    {p b : Nat} (h : InValue (Awaits n due present) (ps ++ [q]) p b s)
    (hts : ∀ t ∈ ts, l.inert t = false → bounds t = false) (hb : balanced p b ts = true) :
    Leads l ts s
      (Listing (Awaits n (due || ts.any l.asksName) (present && !ts.any l.mixes))
        (ps ++ [{ q with value := extendValue q.value s.valueStop (ts.filter l.inert) }])) := by
  induction ts generalizing q p b s due present with
  | nil =>
    obtain ⟨rfl, rfl⟩ : p = 0 ∧ b = 0 := by simpa [balanced] using hb
    refine .nil ?_
    simp only [List.any_nil, Bool.or_false, Bool.not_false, Bool.and_true]
    exact ⟨h.frame, h.parameters, h.depths⟩
  | cons t ts ih =>
    have hF : Collecting l (Awaits n due present) := collecting_awaits hl
    have hts' : ∀ t ∈ ts, l.inert t = false → bounds t = false :=
      fun u hu => hts u (List.mem_cons_of_mem _ hu)
    refine .cons h.frame.done ?_
    cases hin : l.inert t with
    | true =>
      obtain ⟨p', b', hb', hread⟩ := hF.readParameters_value h hb
      obtain ⟨h', hstop⟩ := h.appendValue p' b' t
      have hstep : l.step t s =
          Scan.appendValue { s with parenDepth := p' + 1, valueDepth := b' } t := by
        rw [hF.step_eq h.frame h.listOpen hin (.inl (by rw [hread]; rfl)), hread]
        rfl
      have hquiet := quiet_of_inert hin
      have hrest := ih h' hts' hb'
      rw [hstop] at hrest
      rw [hstep, List.any_cons, List.any_cons, hquiet.1, hquiet.2, List.filter_cons_of_pos hin]
      exact hrest
    | false =>
      have hstep : l.step t s = l.heeded t s :=
        step_of_not_inert hl h.frame.kind (by rw [show s.decl.name = n from h.frame.name]; exact hn)
          h.frame.done hin
      have h' : InValue (Awaits n (due || l.asksName t) (present && !l.mixes t)) (ps ++ [q]) p b
          (l.heeded t s) := ⟨⟨h.frame.heeded t, h.parameters, h.depths⟩, h.inValue⟩
      rw [balanced_cons_of_not_bounds (hts t List.mem_cons_self hin)] at hb
      have hrest := ih h' hts' hb
      rw [hstep, List.any_cons, List.any_cons, ← Bool.or_assoc, Bool.not_or, ← Bool.and_assoc,
        List.filter_cons_of_neg (ne_true_of_eq_false hin)]
      exact hrest

/-! ## Parameters -/

theorem Collecting.leads_bareSlot (hF : Collecting l F) (h : SlotStart F ps s) (p : BareSlot l) :
    Leads l p.tokens s (InSlot F (ps ++ [p.parameter]) false) := by
  cases p with
  | typed hl type name =>
    rcases hl with rfl | rfl
    · exact leads_phpSlot hF h type name
    · cases type with
      | none => exact .single (hF.done _ h.frame) (slot_name hF (.inr rfl) h name)
      | some t => exact absurd t.type.holds Bool.false_ne_true
  | script hl slot => exact hF.leads_plainSlot hl h slot

/-- In SCSS a colon goes into the default value. -/
theorem Collecting.step_sheetColon (hF : Collecting .scss F) {q : Parameter}
    (h : InSlot F (ps ++ [q]) false s) (g : Sign .colon) :
    InValue F (ps ++ [q]) 0 0 (Language.scss.step g.token s) := by
  have hparam : s.decl.hasParameter = true := by simp [Declaration.hasParameter, h.parameters]
  have hread : Language.scss.readSlot g.token s = s.enterValue.take := if_pos ⟨by simp, hparam⟩
  rw [hF.step_slot h.toInList h.inValue (hF.signs _ g (by decide)) (by simp [divides])
    (.inl h.slotStart) hread]
  exact ⟨⟨h.frame, h.parameters, h.depths⟩, rfl⟩

theorem Collecting.step_valueMark (hF : Collecting l F) {q : Parameter}
    (h : InSlot F (ps ++ [q]) false s) (g : Sign l.valueMark) :
    InValue F (ps ++ [q]) 0 0 (l.step g.token s) := by
  cases l with
  | scss => exact hF.step_sheetColon h g
  | _ => exact hF.step_equals h.toInList h.inValue g

/-- A parameter adds itself, and the tokens of its value may change what is due. -/
theorem leads_freeSlot (hl : l ∈ worded) (hn : n ≠ "") (h : SlotStart (Awaits n due present) ps s)
    (p : FreeSlot l) :
    Leads l p.tokens s
      (Listing (Awaits n (due || p.valueTokens.any l.asksName)
        (present && !p.valueTokens.any l.mixes)) (ps ++ [p.parameter])) := by
  have hF : Collecting l (Awaits n due present) := collecting_awaits hl
  obtain ⟨slot, value⟩ := p
  have hempty : slot.parameter.value = "" := by
    cases slot <;> rfl
  refine (hF.leads_bareSlot h slot).append fun s' h' => ?_
  cases value with
  | none =>
    have hparameter : FreeSlot.parameter { slot := slot } = slot.parameter := by
      cases slot <;> rfl
    refine .nil ?_
    rw [hparameter]
    simpa [FreeSlot.valueTokens] using h'.toInList
  | some d =>
    have hbounds : ∀ t ∈ d.value.tokens, l.inert t = false → bounds t = false :=
      fun t ht hin => bounds_of_not_inert hl hin (d.value.heads t ht hin)
    have hvalue := leads_freeValue hl hn d.value.tokens (hF.step_valueMark h' d.sign) hbounds
      d.value.balanced
    rw [hempty, extendValue_empty _ _ fun t ht => d.value.nonempty t (List.mem_filter.1 ht).1]
      at hvalue
    exact .cons h'.frame.done hvalue

/-! ## The list -/

/-- A parameter as an action on the parameters and on the tokens of values before it. -/
def addSlot (x : List Parameter × List Token) (p : FreeSlot l) : List Parameter × List Token :=
  (x.1 ++ [p.parameter], x.2 ++ p.valueTokens)

theorem foldl_addSlot (slots : List (FreeSlot l)) (x : List Parameter × List Token) :
    slots.foldl addSlot x =
      (x.1 ++ slots.map FreeSlot.parameter, x.2 ++ slots.flatMap FreeSlot.valueTokens) := by
  induction slots generalizing x with
  | nil => simp
  | cons p slots ih => simp [ih, addSlot]

theorem leads_freeParens (hl : l ∈ worded) (hn : n ≠ "") (p : Parens (FreeSlot l))
    (h : AtList l (Awaits n false present) s) :
    Leads l (p.tokens FreeSlot.tokens) s
      (Closed
        (Awaits n ((p.slots.items.flatMap FreeSlot.valueTokens).any l.asksName)
          (present && !(p.slots.items.flatMap FreeSlot.valueTokens).any l.mixes))
        (p.slots.items.map FreeSlot.parameter)) := by
  let G (x : List Parameter × List Token) : Frame → Prop :=
    Awaits n (x.2.any l.asksName) (present && !x.2.any l.mixes)
  have hG : ∀ x, Collecting l (G x) := fun x => collecting_awaits hl
  have hitems : FoldsItems l (·.done = false) (Leads l) FreeSlot.tokens addSlot
      (fun x => SlotStart (G x) x.1) (fun x => Listing (G x) x.1) :=
    { walk := Leads.walk
      ready := fun _ _ h => h.frame.done
      comma := fun x _ c h => (hG x).comma h c
      item := fun p x s h => by
        have := leads_freeSlot hl hn h p
        simpa [G, addSlot, Bool.and_assoc] using this
      empty := fun _ _ h => h.toInList }
  have hparens := hitems.leads_parens (x := ([], [])) hG (fun _ _ h => h) rfl h.done
    (by simpa [G] using h) p
  rw [foldl_addSlot] at hparens
  simpa [G] using hparens

/-! ## Around the list -/

/-- The scan when the word and the name of a function are read. -/
def begun (n : String) (present : Bool) : Scan :=
  { decl := { name := n, kind := some .function, returns := { present } } }

theorem step_word_scss (w : Word (Language.scss.grammar.has .functionWord)) :
    Language.scss.step w.token {} =
      { begun "" (!Language.scss.mixes w.token) with nameDue := true } := by
  have hclass : Language.scss.readClass w.token {} = Scan.leave {} := by
    unfold readClass
    rw [if_neg fun hc => List.not_mem_nil (Grammar.mem_words_of_has hc), if_neg (by simp)]
  have hread : Language.scss.readFunction w.token {} =
      Scan.take { begun "" (!Language.scss.mixes w.token) with nameDue := true } := by
    show readSheetFunction .scss w.token {} = _
    unfold readSheetFunction readWordFunction
    rw [if_pos w.holds]
    by_cases hmixin : w.token.text = "@mixin"
    · simp [hmixin, mixes, begun, Scan.take, Declaration.declare, Declaration.setReturns]
    · simp [hmixin, mixes, begun, Scan.take, Declaration.declare]
  rw [step_of_readFunction rfl rfl hclass (by rw [hread]; rfl), hread]
  rfl

theorem step_word_worded (hl : l ∈ worded) (w : Word (l.grammar.has .functionWord)) :
    l.step w.token {} = { begun "" (!l.mixes w.token) with nameDue := true } := by
  simp only [worded, List.mem_cons, List.not_mem_nil, or_false] at hl
  rcases hl with rfl | rfl | rfl | rfl
  · exact step_word_php w
  · exact step_word_scss w
  · exact step_functionWord rfl w rfl rfl
  · exact step_functionWord rfl w rfl rfl

theorem Closed.outside (h : Closed (Awaits n due present) ps s) : Outside s :=
  ⟨h.frame.kind, h.frame.done, h.listOpen⟩

theorem Closed.decl_awaits (h : Closed (Awaits n due present) ps s) :
    s.decl =
      { name := n, kind := some .function, parameters := ps, returns := { present } } := by
  rw [← h.frame.name, ← h.frame.kind, ← h.parameters, ← h.frame.returns]
  rfl

/-- Pairs of brackets behind no type change nothing. -/
theorem Outside.leads_idleBrackets (hl : l ∈ registry.map (·.2)) (h : Outside s)
    (hn : s.nameDue = false) (hr : s.decl.returns.hasType = false) (arrays : List Brackets) :
    Leads l (arrays.flatMap Brackets.tokens) s (· = s) := by
  obtain ⟨hsigns, hwords⟩ := signs_of_registered hl
  have hidle : ∀ (m : Mark) (g : Sign m), m = .openBracket ∨ m = .closeBracket →
      l.step g.token s = s := by
    intro m g hm
    have htext : g.token.text = m.label := rfl
    have hleave : l.readSignature g.token s = s.leave := by
      obtain ⟨-, htype, hbegins⟩ := hwords m
      unfold readSignature
      rcases hm with rfl | rfl <;> simp [h.listOpen, hn, hr, htext, htype, hbegins]
    rcases hm with rfl | rfl <;>
      exact h.step_of_leave (hsigns _ g (by decide)) (by simp) (by simp) hleave
  refine Leads.of_invariant (fun s' hs => hs ▸ h.done) (fun t ht s' hs => ?_) rfl
  rw [hs]
  exact forall_mem_brackets (p := fun t => l.step t s = s) (fun g => hidle _ g (.inl rfl))
    (fun g => hidle _ g (.inr rfl)) arrays t ht

/-- A type that is taken for the name that is due is lost. -/
theorem Outside.leads_lostType (hl : l ∈ worded) (h : Outside s) (hdue : s.nameDue = true)
    (hr : s.decl.returns.hasType = false) (r : Ascription (isReturnType l))
    (hname : l.isName r.type.type.text = true) :
    Leads l r.tokens s fun s' => Outside s' ∧ s'.decl = s.decl.setName r.type.type.text := by
  have hregistered := registered_of_worded hl
  obtain ⟨hsigns, hwords⟩ := signs_of_registered hregistered
  obtain ⟨colon, type, arrays⟩ := r
  have hcolon := h.step_colon hsigns colon fun _ => (hwords .colon).1
  have htype : l.step type.token { s with returnDue := true } =
      { s with decl := s.decl.setName type.text, returnDue := true, nameDue := false } :=
    Outside.step_name (s := { s with returnDue := true }) ⟨h.kind, h.done, h.listOpen⟩ hdue
      (skips_worded hl _) type.plain hname
  have hout : Outside
      { s with decl := s.decl.setName type.text, returnDue := true, nameDue := false } :=
    ⟨(Declaration.kind_setName ..).trans h.kind, h.done, h.listOpen⟩
  refine .cons h.done ?_
  rw [hcolon]
  refine .cons h.done ?_
  rw [htype]
  exact (hout.leads_idleBrackets hregistered rfl (by simpa using hr) arrays).mono fun s' hs => by
    rw [hs]
    exact ⟨hout, rfl⟩

theorem Closed.leads_returns (hl : l ∈ worded) (hn : n ≠ "")
    (h : Closed (Awaits n due present) ps s) (r : Option (Ascription (isReturnType l))) :
    Leads l ((r.map Ascription.tokens).getD []) s fun s' =>
      Outside s' ∧ s'.decl =
        { name := n
          kind := some .function
          parameters := ps
          returns := { present, type := typeBehind due r } } := by
  obtain ⟨hsigns, hwords⟩ := signs_of_registered (registered_of_worded hl)
  have hdue : s.nameDue = due := h.frame.nameDue
  cases r with
  | none => exact .nil ⟨h.outside, by simp [h.decl_awaits, typeBehind]⟩
  | some r =>
    by_cases hlost : due = true ∧ l.isName r.type.type.text = true
    · have htype : typeBehind due (some r) = none := by simp [typeBehind, hlost]
      have hlead := h.outside.leads_lostType hl (hdue.trans hlost.1)
        (by simp [h.decl_awaits, Returns.hasType]) r hlost.2
      rw [Declaration.setName_of_ne (by simpa [h.decl_awaits])] at hlead
      rw [htype, ← h.decl_awaits]
      exact hlead
    · have htype : typeBehind due (some r) = some r.text := by simpa [typeBehind] using hlost
      refine ⟨_, h.outside.reads_returnType hsigns (skips_worded hl) r fun hd => ?_,
        h.outside.typed _, ?_⟩
      · exact ⟨(hwords .colon).1, by simpa [hdue.symm.trans hd] using hlost⟩
      · rw [htype]
        simp [Language.typed, h.decl_awaits, Declaration.setReturnType]

/-! ## The record -/

/-- The function up to its end. -/
theorem leads_freeFunction (hl : l ∈ worded) (f : FreeFunction l) :
    Leads l
      (f.word.token :: f.name.token ::
        (f.parameters.tokens FreeSlot.tokens ++ (f.returns.map Ascription.tokens).getD [])) {}
      fun s => Outside s ∧ s.decl =
        { name := f.name.text
          kind := some .function
          parameters := f.slots.map FreeSlot.parameter
          returns :=
            { present := !(f.word.token :: f.valueTokens).any l.mixes
              type := f.recordedType } } := by
  have hn : f.name.text ≠ "" := ne_empty_of_isName f.name.holds
  have hsigns := (signs_of_registered (registered_of_worded hl)).1
  have hname : l.step f.name.token { begun "" (!l.mixes f.word.token) with nameDue := true } =
      begun f.name.text (!l.mixes f.word.token) :=
    Outside.step_name ⟨rfl, rfl, rfl⟩ rfl (skips_worded hl _) f.name.plain f.name.holds
  have hlist : AtList l (Awaits f.name.text false (!l.mixes f.word.token))
      (begun f.name.text (!l.mixes f.word.token)) := by
    have hopen : Unopened (Awaits f.name.text false (!l.mixes f.word.token))
        (begun f.name.text (!l.mixes f.word.token)) :=
      ⟨⟨rfl, rfl, rfl, rfl, rfl, rfl⟩, rfl, rfl, rfl, rfl⟩
    exact hopen.atList hsigns fun g hg =>
      ⟨hg.name, hg.kind, hg.returns, hg.nameDue, hg.returnDue, hg.done⟩
  refine .cons rfl ?_
  rw [step_word_worded hl]
  refine .cons rfl ?_
  rw [hname, List.any_cons, Bool.not_or]
  exact (leads_freeParens hl hn f.parameters hlist).append fun s hs =>
    hs.leads_returns hl hn f.returns

theorem declaration_freeFunction (hl : l ∈ worded) (settings : Settings) (f : FreeFunction l) :
    l.declaration settings f.tokens = f.declaration settings.mixedNullable := by
  obtain ⟨hsigns, hwords⟩ := signs_of_registered (registered_of_worded hl)
  obtain ⟨s, hreads, hout, hdecl⟩ := leads_freeFunction hl f
  have hend := hout.decl_ending hsigns f.ending (fun _ m => (hwords m).1) fun _ m => (hwords m).2
  have hfamily : ∀ l ∈ worded, l.isCFamily = false := by decide
  have htokens : f.tokens =
      (f.word.token :: f.name.token ::
        (f.parameters.tokens FreeSlot.tokens ++ (f.returns.map Ascription.tokens).getD [])) ++
      f.ending.tokens := by
    simp [FreeFunction.tokens]
  unfold Language.declaration read
  rw [htokens, hreads, finish_of_function (by rw [hend, hdecl]), hend, hdecl,
    finish_function (hfamily l hl), List.map_map]
  rfl

/-! ## Values that are kept -/

/-- The characters of a text that are no spaces. -/
def visible (x : String) : List Char := x.toList.filter (· ≠ ' ')

theorem visible_append (x y : String) : visible (x ++ y) = visible x ++ visible y := by
  simp [visible]

theorem visible_joined (ts : List Token) :
    visible (Token.joined ts) = ts.flatMap fun t => visible t.text := by
  have hgap : ∀ c : Prop, [Decidable c] → visible (if c then " " else "") = [] := by
    intro c _
    split <;> rfl
  induction ts with
  | nil => rfl
  | cons t ts ih =>
    cases ts with
    | nil => simp [Token.joined]
    | cons u ts => rw [Token.joined, visible_append, visible_append, ih, hgap]; simp

/-- Tokens with something to see are missed. -/
theorem joined_filter_eq_iff {p : Token → Bool} {ts : List Token}
    (hts : ∀ t ∈ ts, p t = false → visible t.text ≠ []) :
    Token.joined (ts.filter p) = Token.joined ts ↔ ∀ t ∈ ts, p t = true := by
  refine ⟨fun h => ?_, fun h => by rw [List.filter_eq_self.2 h]⟩
  replace h := congrArg visible h
  rw [visible_joined, visible_joined] at h
  induction ts with
  | nil => exact fun t ht => absurd ht List.not_mem_nil
  | cons t ts ih =>
    obtain ⟨hhead, htail⟩ := List.forall_mem_cons.1 hts
    cases ht : p t with
    | true =>
      rw [List.filter_cons_of_pos ht, List.flatMap_cons, List.flatMap_cons] at h
      exact List.forall_mem_cons.2 ⟨ht, ih htail (List.append_cancel_left h)⟩
    | false =>
      rw [List.filter_cons_of_neg (ne_true_of_eq_false ht), List.flatMap_cons] at h
      have hlen := congrArg List.length h
      have hle := ((List.filter_sublist (p := p) (l := ts)).flatMap fun t =>
        visible t.text).length_le
      have hpos := List.length_pos_iff.2 (hhead ht)
      rw [List.length_append] at hlen
      omega

theorem visible_of_not_inert (hl : l ∈ worded) (ht : l.inert t = false)
    (h : t.isPlain = true ∨ t.text = "=>") : visible t.text ≠ [] := by
  rcases h with h | h
  · have hall : ∀ l ∈ worded, ∀ x ∈ l.grammar.classWords ++ l.grammar.functionWords,
        visible x ≠ [] := by decide
    have hword : l.grammar.has .classWord t.text = true ∨
        l.grammar.has .functionWord t.text = true := by
      cases hc : l.grammar.has .classWord t.text with
      | true => exact .inl rfl
      | false => exact .inr (by simpa [inert, hc, Token.is_eq_false h, skips_worded hl t] using ht)
    refine hall l hl _ (List.mem_append.2 ?_)
    exact hword.imp Grammar.mem_words_of_has Grammar.mem_words_of_has
  · rw [h]
    decide

/-- Default values are kept as they are written, and nothing else depends on them. -/
structure KeepsDefaults (settings : Settings) (f : FreeFunction l) : Prop where
  values : (l.declaration settings f.tokens).parameters.map (·.value) =
    f.slots.map fun p => Token.joined p.valueTokens
  name : (l.declaration settings f.tokens).name = (l.declaration settings f.bare.tokens).name
  parameters :
    ((l.declaration settings f.tokens).parameters.map fun p => { p with value := "" }) =
      (l.declaration settings f.bare.tokens).parameters
  returns :
    (l.declaration settings f.tokens).returns = (l.declaration settings f.bare.tokens).returns

theorem slots_bare (f : FreeFunction l) : f.bare.slots = f.slots.map FreeSlot.bare :=
  Listed.items_map ..

theorem valueTokens_bare (f : FreeFunction l) : f.bare.valueTokens = [] := by
  rw [FreeFunction.valueTokens, slots_bare, List.flatMap_map]
  exact List.flatMap_eq_nil_iff.2 fun _ _ => rfl

/-- What is recorded for a slot is its value as it is written, if all tokens of it are inert. -/
theorem value_eq_iff (hl : l ∈ worded) (p : FreeSlot l) :
    p.parameter.value = Token.joined p.valueTokens ↔ ∀ t ∈ p.valueTokens, l.inert t = true := by
  refine joined_filter_eq_iff fun t ht hin => visible_of_not_inert hl hin ?_
  obtain ⟨slot, value⟩ := p
  cases value with
  | none => exact absurd ht List.not_mem_nil
  | some d => exact d.value.heads t ht hin

/-- **Default values are kept exactly if they hold no token that declares something.** -/
theorem keepsDefaults_iff (hl : l ∈ worded) (settings : Settings) (f : FreeFunction l) :
    l.declaration settings f.tokens = f.declaration settings.mixedNullable ∧
      (KeepsDefaults settings f ↔ ∀ t ∈ f.valueTokens, l.inert t = true) := by
  have hread := declaration_freeFunction hl settings f
  have hbare := declaration_freeFunction hl settings f.bare
  refine ⟨hread, fun h => ?_, fun h => ?_⟩
  · have hvalues := h.values
    rw [hread, FreeFunction.declaration, List.map_map, List.map_inj_left] at hvalues
    intro t ht
    obtain ⟨p, hp, ht⟩ := List.mem_flatMap.1 ht
    exact (value_eq_iff hl p).1 (hvalues p hp) t ht
  · have hslot : ∀ p ∈ f.slots, ∀ t ∈ p.valueTokens, l.inert t = true :=
      fun p hp t ht => h t (List.mem_flatMap.2 ⟨p, hp, ht⟩)
    have hasks : f.valueTokens.any l.asksName = false :=
      List.any_eq_false.2 fun t ht => by simp [(quiet_of_inert (h t ht)).1]
    have hmixes : f.valueTokens.any l.mixes = false :=
      List.any_eq_false.2 fun t ht => by simp [(quiet_of_inert (h t ht)).2]
    have htype : f.recordedType = f.bare.recordedType := by
      rw [FreeFunction.recordedType, FreeFunction.recordedType, hasks, valueTokens_bare]
      rfl
    constructor
    · rw [hread, FreeFunction.declaration, List.map_map, List.map_inj_left]
      exact fun p hp => (value_eq_iff hl p).2 (hslot p hp)
    · rw [hread, hbare]
      rfl
    · rw [hread, hbare, FreeFunction.declaration, FreeFunction.declaration, slots_bare,
        List.map_map, List.map_map]
      rfl
    · rw [hread, hbare, FreeFunction.declaration, FreeFunction.declaration, htype,
        valueTokens_bare, List.any_cons, hmixes]
      rfl

/-- `function foo(?int[] $bar = [1, 2], $baz = null): int {` -/
def listDefault : FreeFunction .php where
  word :=
    ⟨{ kind := "function", text := "function", start := 0, stop := 8 }, by decide, by decide⟩
  name := ⟨{ kind := "name", text := "foo", start := 9, stop := 12 }, by decide, by decide⟩
  parameters :=
    { slots :=
        .of
          { slot :=
              .typed (.inl rfl)
                (some
                  { type :=
                      ⟨{ kind := "optional_type", text := "?int", start := 13, stop := 17 },
                        by decide, by decide⟩
                    arrays := [{}] })
                ⟨{ kind := "variable_name", text := "$bar", start := 20, stop := 24 }, by decide,
                  by decide⟩
            value := some
              { value :=
                  { tokens :=
                      [{ kind := "[", text := "[", start := 27, stop := 28 },
                        { kind := "integer", text := "1", start := 28, stop := 29 },
                        { kind := ",", text := ",", start := 29, stop := 30 },
                        { kind := "integer", text := "2", start := 31, stop := 32 },
                        { kind := "]", text := "]", start := 32, stop := 33 }]
                    nonempty := by decide
                    balanced := by decide
                    heads := by decide } } }
          [({},
            { slot :=
                .typed (.inl rfl) none
                  ⟨{ kind := "variable_name", text := "$baz", start := 35, stop := 39 }, by decide,
                    by decide⟩
              value := some
                { value :=
                    { tokens := [{ kind := "null", text := "null", start := 42, stop := 46 }]
                      nonempty := by decide
                      balanced := by decide
                      heads := by decide } } })] }
  returns := some
    { type :=
        { type :=
            ⟨{ kind := "primitive_type", text := "int", start := 49, stop := 52 }, by decide,
              by decide⟩ } }
  ending := .block {} []

theorem keepsDefaults_listDefault :
    Language.php ∈ worded ∧ (∀ t ∈ listDefault.valueTokens, Language.php.inert t = true) ∧
      KeepsDefaults {} listDefault ∧
      (listDefault.slots.map fun p => Token.joined p.valueTokens) = ["[1, 2]", "null"] := by
  have hin : ∀ t ∈ listDefault.valueTokens, Language.php.inert t = true := by decide
  have hphp : Language.php ∈ worded := List.mem_cons_self
  exact ⟨hphp, hin, (keepsDefaults_iff hphp {} listDefault).2.2 hin, by decide⟩

/-- `function foo($bar = Foo :: class): int {` -/
def classDefault : FreeFunction .php where
  word :=
    ⟨{ kind := "function", text := "function", start := 0, stop := 8 }, by decide, by decide⟩
  name := ⟨{ kind := "name", text := "foo", start := 9, stop := 12 }, by decide, by decide⟩
  parameters :=
    { slots :=
        .of
          { slot :=
              .typed (.inl rfl) none
                ⟨{ kind := "variable_name", text := "$bar", start := 13, stop := 17 }, by decide,
                  by decide⟩
            value := some
              { value :=
                  { tokens :=
                      [{ kind := "name", text := "Foo", start := 20, stop := 23 },
                        { kind := "::", text := "::", start := 24, stop := 26 },
                        { kind := "class", text := "class", start := 27, stop := 32 }]
                    nonempty := by decide
                    balanced := by decide
                    heads := by decide } } }
          [] }
  returns := some
    { type :=
        { type :=
            ⟨{ kind := "primitive_type", text := "int", start := 35, stop := 38 }, by decide,
              by decide⟩ } }
  ending := .block {} []

/-- The word `class` is missing in the value, and the return type is taken for a name. -/
theorem defaults_not_kept_classDefault :
    (classDefault.slots.map fun p => Token.joined p.valueTokens) = ["Foo :: class"] ∧
      (Language.php.declaration {} classDefault.tokens).parameters =
        [{ name := "$bar", value := "Foo ::" }] ∧
      (Language.php.declaration {} classDefault.bare.tokens).returns.type = some "int" ∧
      (Language.php.declaration {} classDefault.tokens).returns.type = none := by
  decide

end Language

end DocTemplate
