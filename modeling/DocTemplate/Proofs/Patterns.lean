import DocTemplate.Proofs.Defaults

/-!
# Destructuring patterns

    { a , key : b = V , "key" : { c } , ... d } : T = V        [ a , , [ b ] = V ]

A pattern binds names at any depth.  The reader of groups keeps no stack: it knows how deep it is,
whether a name is due, and whether the next name renames.  So what it does to the parameters is a
list of edits, each of which adds a parameter or renames the last one (`Pattern.edits`):

* the name of a rest element is passed over;
* a key that is a name is bound, and only a name behind its colon takes its place;
* any other key is passed over, and a name behind its colon renames the parameter before;
* tokens of a default value bind or rename like entries, behind a bracket, a comma or a colon.

A default value of the whole pattern goes to the last parameter.  The names of a pattern are recorded
exactly if there is no such value and the edits come to the same (`bindsNames_iff`).
-/

namespace DocTemplate

/-! ## Edits -/

namespace Written

/-- What a name inside of a group does to the parameters. -/
inductive Edit where
  | bind (name : String)
  | rename (name : String)
  deriving DecidableEq

namespace Edit

def apply (ps : List Parameter) : Edit → List Parameter
  | .bind name => ps ++ [{ name }]
  | .rename name =>
    if ps.isEmpty then [{ name }] else modifyLast (fun p => { p with name }) ps

def isBind : Edit → Bool
  | .bind _ => true
  | .rename _ => false

end Edit

def replay (es : List Edit) (ps : List Parameter) : List Parameter := es.foldl Edit.apply ps

theorem replay_append (es es' : List Edit) (ps : List Parameter) :
    replay (es ++ es') ps = replay es' (replay es ps) :=
  List.foldl_append

/-- What the reader of groups awaits: a name, and one that renames. -/
structure Binder where
  due : Bool
  renames : Bool

end Written

open Written

/-- What a token inside of a group does: what is awaited after it, and how the parameters change. -/
def Language.bindStep (l : Language) (σ : Binder) (t : Token) : Binder × List Edit :=
  if !l.inert t then (σ, [])
  else if t.opensGroup then (⟨true, false⟩, [])
  else if t.closesGroup then ({ σ with due := false }, [])
  else if t.is .comma then (⟨true, false⟩, [])
  else if t.is .colon then ({ σ with renames := true }, [])
  else if l.isName t.text && (σ.due || σ.renames) then
    (⟨false, false⟩, [if σ.renames then .rename t.text else .bind t.text])
  else (⟨false, false⟩, [])

def Language.edits (l : Language) : Binder → List Token → List Edit
  | _, [] => []
  | σ, t :: ts => (l.bindStep σ t).2 ++ l.edits (l.bindStep σ t).1 ts

namespace Written

/-! ## Written form -/

/-- An equals sign and a default value of any words. -/
structure PatternValue (l : Language) where
  equals : Sign .equals := {}
  value : FreeValue l

def PatternValue.tokens {l : Language} (v : PatternValue l) : List Token :=
  v.equals.token :: v.value.tokens

/-- A key, and the colon behind it.  Any word or literal may be a key. -/
structure PatternKey where
  word : Word fun _ => true
  colon : Sign .colon := {}

def PatternKey.tokens (k : PatternKey) : List Token := [k.word.token, k.colon.token]

mutual

inductive Pattern (l : Language) where
  | object (opener : Sign .openBrace) (first : PatternEntry l) (more : PatternEntries l)
    (closer : Sign .closeBrace)
  | array (opener : Sign .openBracket) (first : PatternEntry l) (more : PatternEntries l)
    (closer : Sign .closeBracket)

/-- An entry of a pattern; nothing stands in a hole. -/
inductive PatternEntry (l : Language) where
  | hole
  | rest (ellipsis : Sign .ellipsis) (name : Word l.isName)
  | name (key : Option PatternKey) (name : Word l.isName) (value : Option (PatternValue l))
  | nest (key : Option PatternKey) (pattern : Pattern l) (value : Option (PatternValue l))

/-- Entries behind a comma each. -/
inductive PatternEntries (l : Language) where
  | nil
  | cons (comma : Sign .comma) (e : PatternEntry l) (more : PatternEntries l)

end

section

variable {l : Language}

def keyTokens (key : Option PatternKey) : List Token := (key.map PatternKey.tokens).getD []

def valueTokens (value : Option (PatternValue l)) : List Token :=
  (value.map PatternValue.tokens).getD []

def Pattern.opener : Pattern l → Token
  | .object o _ _ _ => o.token
  | .array o _ _ _ => o.token

def Pattern.closer : Pattern l → Token
  | .object _ _ _ c => c.token
  | .array _ _ _ c => c.token

mutual

/-- The tokens between the brackets. -/
def Pattern.content : Pattern l → List Token
  | .object _ first more _ => first.tokens ++ more.tokens
  | .array _ first more _ => first.tokens ++ more.tokens

def PatternEntry.tokens : PatternEntry l → List Token
  | .hole => []
  | .rest ellipsis name => [ellipsis.token, name.token]
  | .name key name value => keyTokens key ++ name.token :: valueTokens value
  | .nest key p value =>
    keyTokens key ++ p.opener :: (p.content ++ p.closer :: valueTokens value)

def PatternEntries.tokens : PatternEntries l → List Token
  | .nil => []
  | .cons comma e more => comma.token :: (e.tokens ++ more.tokens)

end

def Pattern.tokens (p : Pattern l) : List Token := p.opener :: (p.content ++ [p.closer])

mutual

/-- The names that a pattern binds, in order. -/
def Pattern.names : Pattern l → List String
  | .object _ first more _ => first.names ++ more.names
  | .array _ first more _ => first.names ++ more.names

def PatternEntry.names : PatternEntry l → List String
  | .hole => []
  | .rest _ name => [name.text]
  | .name _ name _ => [name.text]
  | .nest _ p _ => p.names

def PatternEntries.names : PatternEntries l → List String
  | .nil => []
  | .cons _ e more => e.names ++ more.names

end

/-! ### What is recorded -/

def keyEdits (l : Language) (key : Option PatternKey) : List Edit :=
  match key with
  | some k => if l.isName k.word.text then [.bind k.word.text] else []
  | none => []

def valueEdits (value : Option (PatternValue l)) : List Edit :=
  match value with
  | some v => l.edits ⟨false, false⟩ v.value.tokens
  | none => []

def nameEdit (key : Option PatternKey) (name : String) : Edit :=
  if key.isSome then .rename name else .bind name

mutual

def Pattern.edits : Pattern l → List Edit
  | .object _ first more _ => first.edits ++ more.edits
  | .array _ first more _ => first.edits ++ more.edits

def PatternEntry.edits : PatternEntry l → List Edit
  | .hole => []
  | .rest _ _ => []
  | .name key name value => keyEdits l key ++ nameEdit key name.text :: valueEdits value
  | .nest key p value => keyEdits l key ++ (p.edits ++ valueEdits value)

def PatternEntries.edits : PatternEntries l → List Edit
  | .nil => []
  | .cons _ e more => e.edits ++ more.edits

end

/-- Whether what is recorded for a pattern are the names that it binds, and no parameter before it
is renamed. -/
def Pattern.faithful (p : Pattern l) : Bool :=
  p.edits.head?.all Edit.isBind && decide (replay p.edits [] = p.names.map fun name => { name })

mutual

/-- Whether a pattern has no rest elements, keys that are names before names only, other keys before
patterns only, and default values that bind nothing. -/
def Pattern.tame : Pattern l → Bool
  | .object _ first more _ => first.tame && more.tame
  | .array _ first more _ => first.tame && more.tame

def PatternEntry.tame : PatternEntry l → Bool
  | .hole => true
  | .rest _ _ => false
  | .name key _ value => key.all (fun k => l.isName k.word.text) && (valueEdits value).isEmpty
  | .nest key p value =>
    key.all (fun k => !l.isName k.word.text) && p.tame && (valueEdits value).isEmpty

def PatternEntries.tame : PatternEntries l → Bool
  | .nil => true
  | .cons _ e more => e.tame && more.tame

end

/-! ### Functions -/

/-- The default value of a whole pattern.  Not all of it are words that declare something. -/
structure WholeValue (l : Language) extends PatternValue l where
  speaks : value.tokens.any l.inert = true

structure PatternSlot (l : Language) where
  pattern : Pattern l
  type : Option (Sign .colon × Word (isSlotType l)) := none
  value : Option (WholeValue l) := none

namespace PatternSlot

def tokens (d : PatternSlot l) : List Token :=
  d.pattern.tokens ++ (d.type.map fun a => [a.1.token, a.2.token]).getD [] ++
    (d.value.map fun v => v.tokens).getD []

/-- The parameters when the slot is read, with `ps` before it. -/
def act (d : PatternSlot l) (ps : List Parameter) : List Parameter :=
  match d.value with
  | none => replay d.pattern.edits ps
  | some v =>
    modifyLast
      (fun q => { q with value := Language.extendValue q.value (-1) (v.value.tokens.filter l.inert) })
      (replay d.pattern.edits ps)

/-- One parameter for each name that is bound. -/
def parameters (d : PatternSlot l) : List Parameter := d.pattern.names.map fun name => { name }

end PatternSlot

/-- What stands around the parameters of a function. -/
inductive PatternForm (l : Language) where
  | headed (head : ScriptHead l) (returns : Option (Ascription (isReturnType l)))
  | arrow (word : Word (l.grammar.has .variableWord)) (name : Word l.isName)
    (equals : Sign .equals) (arrow : Sign .arrow)

namespace PatternForm

def head : PatternForm l → List Token
  | .headed head _ => head.tokens
  | .arrow w name equals _ => [w.token, name.token, equals.token]

def tail : PatternForm l → List Token
  | .headed _ returns => (returns.map Ascription.tokens).getD []
  | .arrow _ _ _ sign => [sign.token]

def isArrow : PatternForm l → Bool
  | .headed .. => false
  | .arrow .. => true

end PatternForm

/-- A function with a pattern among its parameters. -/
structure PatternFunction (l : Language) where
  modifiers : List (Word (l.grammar.has .modifierWord)) := []
  form : PatternForm l
  opener : Sign .openParen := {}
  before : List (ScriptSlot l × Sign .comma) := []
  slot : PatternSlot l
  after : List (Sign .comma × ScriptSlot l) := []
  closer : Sign .closeParen := {}
  ending : Ending
  /-- A word of a class before the arrow would declare a class. -/
  classless : form.isArrow = true →
    ∀ t ∈ slot.tokens, l.grammar.has .classWord t.text = false

namespace PatternFunction

def list (f : PatternFunction l) : List Token :=
  f.before.flatMap (fun p => p.1.tokens ++ [p.2.token]) ++
    (f.slot.tokens ++ Listed.moreTokens ScriptSlot.tokens f.after)

def tokens (f : PatternFunction l) : List Token :=
  f.modifiers.map (·.token) ++
    (f.form.head ++ (f.opener.token :: (f.list ++ [f.closer.token]) ++ f.form.tail)) ++
    f.ending.tokens

/-- The parameters of the slots before the pattern. -/
def earlier (f : PatternFunction l) : List Parameter :=
  f.before.flatMap fun p => p.1.parameters

/-- The parameters of the slots behind the pattern. -/
def later (f : PatternFunction l) : List Parameter :=
  (f.after.map (·.2)).flatMap ScriptSlot.parameters

end PatternFunction

end

end Written

namespace Language

variable {l : Language} {F : Frame → Prop} {ps qs : List Parameter} {t : Token} {ts : List Token}
  {s : Scan} {p d : Nat} {σ : Binder} {es : List Edit} {n : String}

/-! ## Edits -/

theorem replay_cons (e : Edit) (es : List Edit) (ps : List Parameter) :
    replay (e :: es) ps = replay es (e.apply ps) := rfl

theorem apply_ne_nil (e : Edit) (ps : List Parameter) : e.apply ps ≠ [] := by
  cases e with
  | bind name => simp [Edit.apply]
  | rename name =>
    rw [Edit.apply]
    split
    · simp
    · rename_i hps
      simpa [modifyLast_eq_nil] using hps

/-- Edits of parameters that are there leave those before them alone. -/
theorem replay_behind (es : List Edit) (ps : List Parameter) (h : qs ≠ []) :
    replay es (ps ++ qs) = ps ++ replay es qs := by
  induction es generalizing qs with
  | nil => rfl
  | cons e es ih =>
    have happly : e.apply (ps ++ qs) = ps ++ e.apply qs := by
      cases e with
      | bind name => simp [Edit.apply]
      | rename name => simp [Edit.apply, h, modifyLast_append]
    rw [replay_cons, replay_cons, happly, ih (apply_ne_nil e qs)]

/-- Edits that begin with a parameter of their own leave those before it alone. -/
theorem replay_of_own (h : es.head?.all Edit.isBind = true) (ps : List Parameter) :
    replay es ps = ps ++ replay es [] := by
  cases es with
  | nil => simp [replay]
  | cons e es =>
    cases e with
    | bind name =>
      rw [replay_cons, replay_cons]
      exact replay_behind es ps (by simp)
    | rename name => cases h

theorem length_replay (es : List Edit) (h : ps ≠ []) :
    (replay es ps).length = ps.length + es.countP Edit.isBind := by
  induction es generalizing ps with
  | nil => rfl
  | cons e es ih =>
    rw [replay_cons, ih (apply_ne_nil e ps)]
    cases e with
    | bind name =>
      rw [List.countP_cons_of_pos rfl, Edit.apply, List.length_append, List.length_singleton]
      omega
    | rename name =>
      rw [List.countP_cons_of_neg Bool.false_ne_true, Edit.apply, if_neg (by simpa using h),
        length_modifyLast]

/-- A renaming at first goes to the parameters before it, if there are any. -/
theorem own_of_replay (h : ps ≠ []) (hreplay : replay es ps = ps ++ replay es []) :
    es.head?.all Edit.isBind = true := by
  cases es with
  | nil => rfl
  | cons e es =>
    cases e with
    | bind name => rfl
    | rename name =>
      have hlen := congrArg List.length hreplay
      have hfirst : replay (.rename name :: es) [] = replay es [{ name }] := rfl
      rw [List.length_append, length_replay _ h, hfirst, length_replay es (by simp),
        List.countP_cons_of_neg Bool.false_ne_true, List.length_singleton] at hlen
      omega

/-- Edits give no values. -/
theorem value_of_mem_replay (es : List Edit) (h : ∀ q ∈ ps, q.value = "") :
    ∀ q ∈ replay es ps, q.value = "" := by
  induction es generalizing ps with
  | nil => exact h
  | cons e es ih =>
    apply ih
    cases e with
    | bind name =>
      rw [Edit.apply, List.forall_mem_append, List.forall_mem_singleton]
      exact ⟨h, rfl⟩
    | rename name =>
      rw [Edit.apply]
      split
      · exact List.forall_mem_singleton.2 rfl
      · exact forall_mem_modifyLast h fun _ hq => hq

/-- Edits that add a parameter for each of the names, and do nothing else. -/
def Binds (es : List Edit) (names : List String) : Prop :=
  ∀ ps, replay es ps = ps ++ names.map fun name => ({ name } : Parameter)

theorem Binds.nil : Binds [] [] := fun ps => (List.append_nil ps).symm

theorem Binds.append {es' : List Edit} {names names' : List String} (h : Binds es names)
    (h' : Binds es' names') : Binds (es ++ es') (names ++ names') := by
  intro ps
  rw [replay_append, h, h', List.map_append, List.append_assoc]

-- A key that is a name is bound first and renamed at once, so the entry adds one parameter.
mutual

theorem binds_pattern : ∀ q : Pattern l, q.tame = true → Binds q.edits q.names
  | .object _ first more _, h => by
    rw [Pattern.tame, Bool.and_eq_true] at h
    rw [Pattern.edits, Pattern.names]
    exact (binds_entry first h.1).append (binds_entries more h.2)
  | .array _ first more _, h => by
    rw [Pattern.tame, Bool.and_eq_true] at h
    rw [Pattern.edits, Pattern.names]
    exact (binds_entry first h.1).append (binds_entries more h.2)

theorem binds_entry : ∀ e : PatternEntry l, e.tame = true → Binds e.edits e.names
  | .hole, _ => by
    rw [PatternEntry.edits, PatternEntry.names]
    exact .nil
  | .rest _ _, h => by
    rw [PatternEntry.tame] at h
    cases h
  | .name key name value, h => by
    rw [PatternEntry.tame, Bool.and_eq_true, List.isEmpty_iff] at h
    rw [PatternEntry.edits, PatternEntry.names, h.2]
    intro ps
    cases key with
    | none => rfl
    | some k =>
      have hkey : l.isName k.word.text = true := h.1
      simp [keyEdits, hkey, nameEdit, replay, Edit.apply, modifyLast_concat]
  | .nest key q value, h => by
    rw [PatternEntry.tame, Bool.and_eq_true, Bool.and_eq_true, List.isEmpty_iff] at h
    obtain ⟨⟨hkey, htame⟩, hvalue⟩ := h
    have hkeyed : keyEdits l key = [] := by
      cases key with
      | none => rfl
      | some k =>
        have hk : l.isName k.word.text = false := by simpa using hkey
        simp [keyEdits, hk]
    rw [PatternEntry.edits, PatternEntry.names, hkeyed, hvalue, List.nil_append, List.append_nil]
    exact binds_pattern q htame

theorem binds_entries : ∀ es : PatternEntries l, es.tame = true → Binds es.edits es.names
  | .nil, _ => by
    rw [PatternEntries.edits, PatternEntries.names]
    exact .nil
  | .cons _ e more, h => by
    rw [PatternEntries.tame, Bool.and_eq_true] at h
    rw [PatternEntries.edits, PatternEntries.names]
    exact (binds_entry e h.1).append (binds_entries more h.2)

end

theorem Pattern.faithful_of_tame {q : Pattern l} (h : q.tame = true) : q.faithful = true := by
  have hbinds := binds_pattern q h
  have hnil : replay q.edits [] = q.names.map fun name => { name } := hbinds []
  refine Bool.and_eq_true_iff.2 ⟨?_, decide_eq_true hnil⟩
  have hsome : [({} : Parameter)] ≠ [] := by simp
  refine own_of_replay hsome ?_
  rw [hnil]
  exact hbinds _

/-! ## Tokens inside of a group -/

/-- Whether the word of a class may stand in a list, that is, only if a function is declared. -/
def Admits (l : Language) (F : Frame → Prop) (t : Token) : Prop :=
  l.grammar.has .classWord t.text = true →
    ∀ s : Scan, F s.frame → s.decl.kind = some .function ∧ F (Scan.frame { s with nameDue := true })

/-- The readers of heads take their words out of the list, and change nothing in it. -/
theorem Declaring.step_head (hF : Declaring l F) (hf : F s.frame) (ha : Admits l F t)
    (ht : l.inert t = false) :
    ∃ decl nameDue, l.step t s = { s with decl, nameDue } ∧
      decl.parameters = s.decl.parameters ∧ F (Scan.frame { s with decl, nameDue }) := by
  have hj := skips_script hF.script t
  by_cases hc : l.grammar.has .classWord t.text = true
  · obtain ⟨hk, hf'⟩ := ha hc s hf
    have hread : l.readClass t s = Scan.take { s with nameDue := true } := by
      unfold readClass
      rw [if_pos hc, Declaration.declare_of_some hk]
    refine ⟨s.decl, true, ?_, rfl, hf'⟩
    rw [step_eq_pass hj (hF.done _ hf), Stage.all]
    exact (pass_of_taken (g := .classHead) (by exact congrArg Outcome.taken hread)).trans
      (congrArg Outcome.scan hread)
  · have hdeclares : l.grammar.has .functionWord t.text = true ∨ t.is .arrow = true := by
      simpa [inert, hc, hj, hF.script, Decidable.or_iff_not_imp_left] using ht
    exact ⟨s.decl.declare .function, s.nameDue, hF.step_declare hf (by simpa using hc) hdeclares,
      Declaration.parameters_declare .., hF.declares s hf⟩

/-- In a pattern: `p` parentheses of a default value are open, and `d` brackets besides the first
one. -/
structure InPattern (F : Frame → Prop) (p d : Nat) (σ : Binder) (ps : List Parameter) (s : Scan) :
    Prop extends InList F ps (p + 1) 0 (d + 1) s where
  inValue : s.inValue = false
  typeDue : s.typeDue = false
  bindingDue : s.bindingDue = σ.due
  rebinding : s.rebinding = σ.renames

theorem EntryDue.inPattern (h : EntryDue F d ps s) : InPattern F 0 d ⟨true, false⟩ ps s :=
  ⟨⟨h.frame, h.parameters, h.depths⟩, h.inValue, h.typeDue, h.bindingDue, h.rebinding⟩

theorem InPattern.inGroup (h : InPattern F 0 d σ ps s) : InGroup F d ps s :=
  ⟨⟨h.frame, h.parameters, h.depths⟩, h.inValue, h.typeDue⟩

theorem InPattern.step_head (hF : Declaring l F) (h : InPattern F p d σ ps s)
    (ha : Admits l F t) (ht : l.inert t = false) : InPattern F p d σ ps (l.step t s) := by
  obtain ⟨decl, nameDue, hstep, hparameters, hf⟩ := hF.step_head h.frame ha ht
  rw [hstep]
  exact ⟨⟨hf, hparameters.trans h.parameters, h.depths⟩, h.inValue, h.typeDue, h.bindingDue,
    h.rebinding⟩

/-- Parentheses are counted, and then read like all else in the group. -/
theorem InPattern.step_eq (hF : Declaring l F) (h : InPattern F p d σ ps s)
    (hin : l.inert t = true) {p' : Nat}
    (hp : (t.is .openParen = true ∧ p' = p + 1) ∨ (t.is .closeParen = true ∧ p = p' + 1) ∨
      (t.is .openParen = false ∧ t.is .closeParen = false ∧ p' = p)) :
    l.step t s = l.readGroup t { s with parenDepth := p' + 1 } := by
  have hparen := h.parenDepth
  have hgroup := h.groupDepth
  have hlist : ∀ s' : Scan, s'.listOpen = true → s'.inValue = false → s'.groupDepth = d + 1 →
      l.readInList t s' = (l.readGroup t s').take := by
    intro s' ho hv hg
    unfold readInList
    rw [if_neg (not_not_intro ho), if_neg (ne_true_of_eq_false hv), if_pos (.inl (by omega))]
  have hread : l.readParameters t s =
      (l.readGroup t { s with parenDepth := p' + 1 }).take := by
    rw [← hlist { s with parenDepth := p' + 1 } h.listOpen h.inValue hgroup]
    rcases hp with ⟨hopen, rfl⟩ | ⟨hclose, rfl⟩ | ⟨hopen, hclose, rfl⟩
    · have hdepth : s.parenDepth + 1 = ((p + 1 : Nat) : Int) + 1 := by omega
      unfold readParameters
      rw [if_neg (not_not_intro (hF.collects h.frame)), if_pos hopen]
      dsimp only
      rw [if_neg (by omega), hdepth]
    · have hopen : t.is .openParen = false := Token.is_eq_false_of_is hclose (by decide)
      have hdepth : s.parenDepth - 1 = (p' : Int) + 1 := by omega
      unfold readParameters
      rw [if_neg (not_not_intro (hF.collects h.frame)), if_neg (ne_true_of_eq_false hopen),
        if_pos ⟨hclose, by omega⟩]
      dsimp only
      rw [if_neg (by omega), hdepth]
    · rw [hF.readParameters_eq h.frame hopen hclose, ← hparen]
  rw [hF.toCollecting.step_eq h.frame h.listOpen hin (.inl (by rw [hread]; rfl)), hread]
  rfl

theorem InPattern.parens (h : InPattern F p d σ ps s) (p' : Nat) :
    InPattern F p' d σ ps { s with parenDepth := p' + 1 } := by
  refine ⟨⟨h.frame, h.parameters, ?_⟩, h.inValue, h.typeDue, h.bindingDue, h.rebinding⟩
  simp [Scan.depths, h.listOpen, h.valueDepth, h.groupDepth, h.angleDepth]

theorem InPattern.readGroup_open (h : InPattern F p d σ ps s) (ht : t.opensGroup = true) :
    InPattern F p (d + 1) ⟨true, false⟩ ps (l.readGroup t s) := by
  rw [Language.readGroup_open ht]
  refine ⟨⟨h.frame, h.parameters, ?_⟩, h.inValue, h.typeDue, rfl, rfl⟩
  rw [h.groupDepth]
  exact h.depths_group _

theorem InPattern.readGroup_close (h : InPattern F p (d + 1) σ ps s) (ht : t.closesGroup = true) :
    InPattern F p d { σ with due := false } ps (l.readGroup t s) := by
  have hdepth := h.groupDepth
  rw [Language.readGroup_close ht, if_neg (by omega)]
  refine ⟨⟨h.frame, h.parameters, ?_⟩, h.inValue, h.typeDue, rfl, h.rebinding⟩
  rw [show s.groupDepth - 1 = d + 1 by omega]
  exact h.depths_group _

/-- A token that is no bracket acts as `bindStep` says. -/
theorem InPattern.readGroup (h : InPattern F p d σ ps s) (hin : l.inert t = true)
    (hopen : t.opensGroup = false) (hclose : t.closesGroup = false) :
    InPattern F p d (l.bindStep σ t).1 (replay (l.bindStep σ t).2 ps) (l.readGroup t s) := by
  obtain ⟨due, renames⟩ := σ
  have hdue : s.bindingDue = due := h.bindingDue
  have hrenames : s.rebinding = renames := h.rebinding
  unfold bindStep Language.readGroup
  rw [if_neg (by simp [hin]), if_neg (ne_true_of_eq_false hopen),
    if_neg (ne_true_of_eq_false hopen), if_neg (ne_true_of_eq_false hclose),
    if_neg (ne_true_of_eq_false hclose)]
  by_cases hcomma : t.is .comma = true
  · rw [if_pos hcomma, if_pos hcomma]
    exact ⟨⟨h.frame, h.parameters, h.depths⟩, h.inValue, h.typeDue, rfl, rfl⟩
  rw [if_neg hcomma, if_neg hcomma]
  by_cases hcolon : t.is .colon = true
  · rw [if_pos hcolon, if_pos hcolon]
    exact ⟨⟨h.frame, h.parameters, h.depths⟩, h.inValue, h.typeDue, hdue, rfl⟩
  rw [if_neg hcolon, if_neg hcolon, hdue, hrenames]
  by_cases hname : l.isName t.text = true ∧ (due = true ∨ renames = true)
  · rw [if_pos hname, if_pos (by simpa using hname)]
    -- a renaming binds if there is nothing to rename
    have hparameters : (if renames = true ∧ s.decl.hasParameter = true then
        s.decl.modifyLastParameter fun q => { q with name := t.text }
      else s.decl.addParameter { name := t.text }).parameters =
        replay [if renames = true then Edit.rename t.text else Edit.bind t.text] ps := by
      rw [← h.parameters]
      cases renames with
      | false => rfl
      | true =>
        by_cases hempty : s.decl.parameters.isEmpty = true
        · simp [Declaration.hasParameter, replay, Edit.apply, Declaration.addParameter,
            List.isEmpty_iff.1 hempty]
        · simp [Declaration.hasParameter, hempty, replay, Edit.apply,
            Declaration.modifyLastParameter]
    have hframe : F (Scan.frame { s with
        decl := if renames = true ∧ s.decl.hasParameter = true then
            s.decl.modifyLastParameter fun q => { q with name := t.text }
          else s.decl.addParameter { name := t.text }
        bindingDue := false
        rebinding := false }) := by
      split <;> exact h.frame
    exact ⟨⟨hframe, hparameters, h.depths⟩, h.inValue, h.typeDue, rfl, rfl⟩
  · rw [if_neg hname, if_neg (by simpa using hname)]
    exact ⟨⟨h.frame, h.parameters, h.depths⟩, h.inValue, h.typeDue, rfl, rfl⟩

/-- An inert token that is no bracket. -/
theorem InPattern.step_plain (hF : Declaring l F) (h : InPattern F p d σ ps s)
    (hin : l.inert t = true) (hopen : t.is .openParen = false) (hclose : t.is .closeParen = false)
    (hopens : t.opensGroup = false) (hcloses : t.closesGroup = false) :
    InPattern F p d (l.bindStep σ t).1 (replay (l.bindStep σ t).2 ps) (l.step t s) := by
  rw [h.step_eq hF hin (.inr (.inr ⟨hopen, hclose, rfl⟩))]
  exact (h.parens p).readGroup hin hopens hcloses

theorem InPattern.step_open (hF : Declaring l F) (h : InPattern F p d σ ps s)
    (hin : l.inert t = true) (ht : t.opensGroup = true) :
    InPattern F p (d + 1) ⟨true, false⟩ ps (l.step t s) := by
  rw [h.step_eq hF hin (.inr (.inr
    ⟨is_of_group (.inl ht) (by decide), is_of_group (.inl ht) (by decide), rfl⟩))]
  exact (h.parens p).readGroup_open ht

theorem InPattern.step_close (hF : Declaring l F) (h : InPattern F p (d + 1) σ ps s)
    (hin : l.inert t = true) (ht : t.closesGroup = true) :
    InPattern F p d { σ with due := false } ps (l.step t s) := by
  rw [h.step_eq hF hin (.inr (.inr
    ⟨is_of_group (.inr ht) (by decide), is_of_group (.inr ht) (by decide), rfl⟩))]
  exact (h.parens p).readGroup_close ht

/-! ## Default values of entries -/

theorem worded_of_isScript (hl : l.isScript = true) : l ∈ worded := by
  rcases eq_of_isScript hl with rfl | rfl <;> simp [worded]

/-- One token of a default value inside of a group, with `b` brackets of the value open. -/
theorem InPattern.step_value (hF : Declaring l F) {b : Nat} (h : InPattern F p (d + b) σ ps s)
    (hin : l.inert t = true) (hb : balanced p b (t :: ts) = true) :
    ∃ p' b' : Nat, balanced p' b' ts = true ∧
      InPattern F p' (d + b') (l.bindStep σ t).1 (replay (l.bindStep σ t).2 ps) (l.step t s) := by
  unfold balanced at hb
  by_cases h1 : t.is .openParen = true
  · rw [if_pos h1] at hb
    refine ⟨p + 1, b, hb, ?_⟩
    rw [h.step_eq hF hin (.inl ⟨h1, rfl⟩)]
    exact (h.parens (p + 1)).readGroup hin (opensGroup_of_is h1 (by decide) (by decide))
      (closesGroup_of_is h1 (by decide) (by decide))
  rw [if_neg h1] at hb
  by_cases h2 : t.is .closeParen = true
  · rw [if_pos h2] at hb
    obtain ⟨hp, hb⟩ := Bool.and_eq_true_iff.1 hb
    have hp : p ≠ 0 := by simpa using hp
    have hpred : p = (p - 1) + 1 := by omega
    refine ⟨p - 1, b, hb, ?_⟩
    rw [h.step_eq hF hin (.inr (.inl ⟨h2, hpred⟩))]
    exact (h.parens (p - 1)).readGroup hin (opensGroup_of_is h2 (by decide) (by decide))
      (closesGroup_of_is h2 (by decide) (by decide))
  rw [if_neg h2] at hb
  by_cases h3 : t.opensGroup = true
  · rw [if_pos h3] at hb
    have hbind : l.bindStep σ t = (⟨true, false⟩, []) := by simp [bindStep, hin, h3]
    rw [hbind]
    exact ⟨p, b + 1, hb, h.step_open hF hin h3⟩
  rw [if_neg h3] at hb
  by_cases h4 : t.closesGroup = true
  · rw [if_pos h4] at hb
    obtain ⟨hb0, hb⟩ := Bool.and_eq_true_iff.1 hb
    obtain ⟨c, rfl⟩ := Nat.exists_eq_succ_of_ne_zero (by simpa using hb0)
    have hbind : l.bindStep σ t = ({ σ with due := false }, []) := by
      simp [bindStep, hin, h3, h4]
    rw [hbind]
    exact ⟨p, c, hb, InPattern.step_close (d := d + c) hF h hin h4⟩
  rw [if_neg h4] at hb
  have hb' : balanced p b ts = true := by
    split at hb
    · exact (Bool.and_eq_true_iff.1 hb).2
    · exact hb
  exact ⟨p, b, hb', h.step_plain hF hin (by simpa using h1) (by simpa using h2)
    (by simpa using h3) (by simpa using h4)⟩

/-- In a group that stands in `d` other groups, whatever is awaited. -/
def AmidEntries (F : Frame → Prop) (d : Nat) (ps : List Parameter) (s : Scan) : Prop :=
  ∃ σ, InPattern F 0 d σ ps s

theorem Declaring.leads_entryValue (hF : Declaring l F) {b : Nat} (ts : List Token)
    (ha : ∀ t ∈ ts, Admits l F t) (hts : ∀ t ∈ ts, l.inert t = false → bounds t = false)
    (hb : balanced p b ts = true) (h : InPattern F p (d + b) σ ps s) :
    Leads l ts s (AmidEntries F d (replay (l.edits σ ts) ps)) := by
  induction ts generalizing p b σ ps s with
  | nil =>
    obtain ⟨rfl, rfl⟩ : p = 0 ∧ b = 0 := by simpa [balanced] using hb
    exact .nil ⟨σ, h⟩
  | cons t ts ih =>
    obtain ⟨hat, ha⟩ := List.forall_mem_cons.1 ha
    obtain ⟨htt, hts⟩ := List.forall_mem_cons.1 hts
    refine .cons (hF.done _ h.frame) ?_
    rw [edits, replay_append]
    cases hin : l.inert t with
    | true =>
      obtain ⟨p', b', hb', h'⟩ := h.step_value hF hin hb
      exact ih ha hts hb' h'
    | false =>
      have hbind : l.bindStep σ t = (σ, []) := by simp [bindStep, hin]
      rw [balanced_cons_of_not_bounds (htt hin)] at hb
      rw [hbind]
      exact ih ha hts hb (h.step_head hF hat hin)

theorem Declaring.leads_entryValue? (hF : Declaring l F) (value : Option (PatternValue l))
    (ha : ∀ t ∈ valueTokens value, Admits l F t) (h : AmidEntries F d ps s) :
    Leads l (valueTokens value) s (AmidEntries F d (replay (valueEdits value) ps)) := by
  obtain ⟨σ, h⟩ := h
  cases value with
  | none => exact .nil ⟨σ, h⟩
  | some v =>
    obtain ⟨-, ha⟩ := List.forall_mem_cons.1 ha
    have hequals : l.isName "=" = false :=
      ((signs_of_registered (registered_of_isScript hF.script)).2 .equals).1
    have hin := hF.signs _ v.equals (by decide)
    have hbind : l.bindStep σ v.equals.token = (⟨false, false⟩, []) := by
      have htext : v.equals.token.text = "=" := rfl
      simp [bindStep, hin, Token.opensGroup, Token.closesGroup, htext, hequals]
    have h' := h.step_plain hF hin (by simp) (by simp) (by simp [Token.opensGroup])
      (by simp [Token.closesGroup])
    rw [hbind] at h'
    refine .cons (hF.done _ h.frame) ?_
    exact hF.leads_entryValue (b := 0) v.value.tokens ha
      (fun t ht hin => bounds_of_not_inert (worded_of_isScript hF.script) hin
        (v.value.heads t ht hin)) v.value.balanced h'

/-! ## Entries -/

theorem bindStep_colon (hin : l.inert t = true) (ht : t.is .colon = true) (σ : Binder) :
    l.bindStep σ t = ({ σ with renames := true }, []) := by
  have hcomma : t.is .comma = false := Token.is_eq_false_of_is ht (by decide)
  simp [bindStep, hin, opensGroup_of_is ht (by decide) (by decide),
    closesGroup_of_is ht (by decide) (by decide), hcomma, ht]

/-- A word is a name, or it is passed over. -/
theorem bindStep_word (hin : l.inert t = true) (ht : t.isPlain = true) (σ : Binder) :
    l.bindStep σ t =
      if l.isName t.text && (σ.due || σ.renames) then
        (⟨false, false⟩, [if σ.renames then .rename t.text else .bind t.text])
      else (⟨false, false⟩, []) := by
  simp [bindStep, hin, Token.opensGroup_eq_false ht, closesGroup_eq_false ht, Token.is_eq_false ht]

theorem InPattern.step_word (hF : Declaring l F) (h : InPattern F p d σ ps s)
    (hin : l.inert t = true) (ht : t.isPlain = true) :
    InPattern F p d (l.bindStep σ t).1 (replay (l.bindStep σ t).2 ps) (l.step t s) :=
  h.step_plain hF hin (Token.is_eq_false ht _) (Token.is_eq_false ht _)
    (Token.opensGroup_eq_false ht) (closesGroup_eq_false ht)

/-- Behind a key, and where an entry begins without one. -/
theorem Declaring.leads_key? (hF : Declaring l F) (key : Option PatternKey)
    (ha : ∀ t ∈ keyTokens key, Admits l F t) (h : InPattern F 0 d ⟨true, false⟩ ps s) :
    Leads l (keyTokens key) s fun s' =>
      ∃ due, (due || key.isSome) = true ∧
        InPattern F 0 d ⟨due, key.isSome⟩ (replay (keyEdits l key) ps) s' := by
  cases key with
  | none => exact .nil ⟨true, rfl, h⟩
  | some k =>
    have hkey : ∃ due, InPattern F 0 d ⟨due, false⟩ (replay (keyEdits l (some k)) ps)
        (l.step k.word.token s) := by
      cases hin : l.inert k.word.token with
      | true =>
        have h' := h.step_word hF hin k.word.plain
        rw [bindStep_word hin k.word.plain] at h'
        refine ⟨false, ?_⟩
        cases hname : l.isName k.word.token.text with
        | true => simpa [keyEdits, Word.text, hname] using h'
        | false => simpa [keyEdits, Word.text, hname] using h'
      -- a word that declares something is reserved, so it is no name
      | false =>
        have hname : l.isName k.word.text = false := by
          cases hname : l.isName k.word.text with
          | false => rfl
          | true =>
            have := inert_of_isName hF.script ⟨k.word.token, k.word.plain, hname⟩
            exact absurd (this.symm.trans hin) (by decide)
        refine ⟨true, ?_⟩
        simp only [keyEdits, hname]
        exact h.step_head hF (ha _ List.mem_cons_self) hin
    obtain ⟨due, hkey⟩ := hkey
    have hin := hF.signs _ k.colon (by decide)
    have hcolon := hkey.step_plain hF hin (by simp) (by simp) (by simp [Token.opensGroup])
      (by simp [Token.closesGroup])
    rw [bindStep_colon hin (by simp)] at hcolon
    exact .cons (hF.done _ h.frame) (.single (hF.done _ hkey.frame) ⟨due, Bool.or_true _, hcolon⟩)

theorem opensGroup_patternOpener (q : Pattern l) : q.opener.opensGroup = true := by
  cases q <;> simp [Pattern.opener, Token.opensGroup]

theorem closesGroup_patternCloser (q : Pattern l) : q.closer.closesGroup = true := by
  cases q <;> simp [Pattern.closer, Token.closesGroup]

theorem inert_patternOpener (hl : SignsInert l) (q : Pattern l) : l.inert q.opener = true := by
  cases q <;> exact hl _ _ (by decide)

theorem inert_patternCloser (hl : SignsInert l) (q : Pattern l) : l.inert q.closer = true := by
  cases q <;> exact hl _ _ (by decide)

theorem Declaring.leads_rest (hF : Declaring l F) (ellipsis : Sign .ellipsis)
    (name : Word l.isName) (h : InPattern F 0 d σ ps s) :
    Leads l [ellipsis.token, name.token] s (AmidEntries F d ps) := by
  have hellipsis : l.isName "..." = false :=
    ((signs_of_registered (registered_of_isScript hF.script)).2 .ellipsis).1
  have hin := hF.signs _ ellipsis (by decide)
  have hbind : l.bindStep σ ellipsis.token = (⟨false, false⟩, []) := by
    have htext : ellipsis.token.text = "..." := rfl
    simp [bindStep, hin, Token.opensGroup, Token.closesGroup, htext, hellipsis]
  have h' := h.step_plain hF hin (by simp) (by simp) (by simp [Token.opensGroup])
    (by simp [Token.closesGroup])
  rw [hbind] at h'
  have hname := inert_of_isName hF.script name
  have h'' := h'.step_word hF hname name.plain
  rw [bindStep_word hname name.plain] at h''
  simp only [Bool.or_self, Bool.and_false, Bool.false_eq_true, if_false] at h''
  exact .cons (hF.done _ h.frame) (.single (hF.done _ h'.frame) ⟨_, h''⟩)

theorem Declaring.leads_nameEntry (hF : Declaring l F) (key : Option PatternKey)
    (name : Word l.isName) (value : Option (PatternValue l))
    (ha : ∀ t ∈ (PatternEntry.name key name value).tokens, Admits l F t)
    (h : InPattern F 0 d ⟨true, false⟩ ps s) :
    Leads l (PatternEntry.name key name value).tokens s
      (AmidEntries F d (replay (PatternEntry.name key name value).edits ps)) := by
  rw [PatternEntry.tokens] at ha ⊢
  rw [PatternEntry.edits, replay_append, replay_cons]
  obtain ⟨hakey, hatail⟩ := List.forall_mem_append.1 ha
  obtain ⟨-, havalue⟩ := List.forall_mem_cons.1 hatail
  refine (hF.leads_key? key hakey h).append fun s' ⟨due, hdue, h'⟩ => ?_
  have hin := inert_of_isName hF.script name
  have hnamed := h'.step_word hF hin name.plain
  have hbind : l.bindStep ⟨due, key.isSome⟩ name.token =
      (⟨false, false⟩, [nameEdit key name.text]) := by
    rw [bindStep_word hin name.plain, if_pos (by simp [name.holds, hdue])]
    rfl
  rw [hbind] at hnamed
  exact .cons (hF.done _ h'.frame) (hF.leads_entryValue? value havalue ⟨_, hnamed⟩)

-- The depth is that of the pattern the tokens stand in, so an inner pattern goes one deeper and
-- comes back.
mutual

theorem Declaring.leads_patternContent (hF : Declaring l F) : ∀ (q : Pattern l) {d ps s},
    (∀ t ∈ q.content, Admits l F t) → InPattern F 0 d ⟨true, false⟩ ps s →
      Leads l q.content s (AmidEntries F d (replay q.edits ps))
  | .object _ first more _, _, _, _, ha, h => by
    rw [Pattern.content] at ha ⊢
    rw [Pattern.edits, replay_append]
    obtain ⟨hafirst, hamore⟩ := List.forall_mem_append.1 ha
    exact (hF.leads_patternEntry first hafirst h).append fun _ h' =>
      hF.leads_patternEntries more hamore h'
  | .array _ first more _, _, _, _, ha, h => by
    rw [Pattern.content] at ha ⊢
    rw [Pattern.edits, replay_append]
    obtain ⟨hafirst, hamore⟩ := List.forall_mem_append.1 ha
    exact (hF.leads_patternEntry first hafirst h).append fun _ h' =>
      hF.leads_patternEntries more hamore h'

theorem Declaring.leads_patternEntry (hF : Declaring l F) : ∀ (e : PatternEntry l) {d ps s},
    (∀ t ∈ e.tokens, Admits l F t) → InPattern F 0 d ⟨true, false⟩ ps s →
      Leads l e.tokens s (AmidEntries F d (replay e.edits ps))
  | .hole, _, _, _, _, h => by
    rw [PatternEntry.tokens, PatternEntry.edits]
    exact .nil ⟨_, h⟩
  | .rest ellipsis name, _, _, _, _, h => by
    rw [PatternEntry.tokens, PatternEntry.edits]
    exact hF.leads_rest ellipsis name h
  | .name key name value, _, _, _, ha, h => hF.leads_nameEntry key name value ha h
  | .nest key q value, _, _, _, ha, h => by
    rw [PatternEntry.tokens] at ha ⊢
    rw [PatternEntry.edits, replay_append, replay_append]
    obtain ⟨hakey, hatail⟩ := List.forall_mem_append.1 ha
    obtain ⟨hacontent, hatail⟩ := List.forall_mem_append.1 (List.forall_mem_cons.1 hatail).2
    obtain ⟨-, havalue⟩ := List.forall_mem_cons.1 hatail
    refine (hF.leads_key? key hakey h).append fun s' ⟨due, _, h'⟩ => ?_
    have hopen := h'.step_open hF (inert_patternOpener hF.signs q) (opensGroup_patternOpener q)
    refine .cons (hF.done _ h'.frame) ?_
    refine (hF.leads_patternContent q hacontent hopen).append fun s'' ⟨σ, h''⟩ => ?_
    have hclose := h''.step_close hF (inert_patternCloser hF.signs q) (closesGroup_patternCloser q)
    exact .cons (hF.done _ h''.frame) (hF.leads_entryValue? value havalue ⟨_, hclose⟩)

theorem Declaring.leads_patternEntries (hF : Declaring l F) : ∀ (es : PatternEntries l) {d ps s},
    (∀ t ∈ es.tokens, Admits l F t) → AmidEntries F d ps s →
      Leads l es.tokens s (AmidEntries F d (replay es.edits ps))
  | .nil, _, _, _, _, h => by
    rw [PatternEntries.tokens, PatternEntries.edits]
    exact .nil h
  | .cons comma e more, _, _, _, ha, ⟨_, h⟩ => by
    rw [PatternEntries.tokens] at ha ⊢
    rw [PatternEntries.edits, replay_append]
    obtain ⟨haentry, hamore⟩ := List.forall_mem_append.1 (List.forall_mem_cons.1 ha).2
    refine .cons (hF.done _ h.frame) ?_
    have hcomma := (hF.group_comma h.inGroup comma).inPattern
    exact (hF.leads_patternEntry e haentry hcomma).append fun _ h' =>
      hF.leads_patternEntries more hamore h'

end

/-- The edits of a pattern are replayed on the parameters before it. -/
theorem Declaring.leads_pattern (hF : Declaring l F) (q : Pattern l)
    (ha : ∀ t ∈ q.content, Admits l F t) (h : SlotStart F ps s) :
    Leads l q.tokens s (GroupClosed F (replay q.edits ps)) := by
  have hbegin := hF.group_begin h (inert_patternOpener hF.signs q) (opensGroup_patternOpener q)
  refine .cons (hF.done _ h.frame) ?_
  refine (hF.leads_patternContent q ha hbegin.inPattern).append fun _ ⟨_, h'⟩ => ?_
  exact .single (hF.done _ h'.frame)
    (hF.group_end h'.inGroup (inert_patternCloser hF.signs q) (closesGroup_patternCloser q))

/-! ## The whole slot -/

/-- A default value of any words.  What the readers of heads take is missing in it. -/
theorem Declaring.leads_wholeValue (hF : Declaring l F) {b : Nat} {q : Parameter}
    (ts : List Token) (ha : ∀ t ∈ ts, Admits l F t)
    (hts : ∀ t ∈ ts, l.inert t = false → bounds t = false) (hb : balanced p b ts = true)
    (h : InValue F (ps ++ [q]) p b s) :
    Leads l ts s
      (Listing F
        (ps ++ [{ q with value := extendValue q.value s.valueStop (ts.filter l.inert) }])) := by
  induction ts generalizing p b q s with
  | nil =>
    obtain ⟨rfl, rfl⟩ : p = 0 ∧ b = 0 := by simpa [balanced] using hb
    exact .nil ⟨h.frame, h.parameters, h.depths⟩
  | cons t ts ih =>
    obtain ⟨hat, ha⟩ := List.forall_mem_cons.1 ha
    obtain ⟨htt, hts⟩ := List.forall_mem_cons.1 hts
    refine .cons (hF.done _ h.frame) ?_
    cases hin : l.inert t with
    | true =>
      obtain ⟨p', b', hb', hread⟩ := hF.readParameters_value h hb
      obtain ⟨h', hstop⟩ := h.appendValue p' b' t
      have hstep : l.step t s =
          Scan.appendValue { s with parenDepth := p' + 1, valueDepth := b' } t := by
        rw [hF.toCollecting.step_eq h.frame h.listOpen hin (.inl (by rw [hread]; rfl)), hread]
        rfl
      have hrest := ih ha hts hb' h'
      rw [hstop] at hrest
      rw [hstep, List.filter_cons_of_pos hin]
      exact hrest
    | false =>
      obtain ⟨decl, nameDue, hstep, hparameters, hf⟩ := hF.step_head h.frame hat hin
      rw [balanced_cons_of_not_bounds (htt hin)] at hb
      rw [hstep, List.filter_cons_of_neg (ne_true_of_eq_false hin)]
      exact ih ha hts hb ⟨⟨hf, hparameters.trans h.parameters, h.depths⟩, h.inValue⟩

theorem Declaring.leads_patternSlot (hF : Declaring l F) (c : PatternSlot l)
    (ha : ∀ t ∈ c.tokens, Admits l F t) (hc : c.value = none ∨ replay c.pattern.edits ps ≠ [])
    (h : SlotStart F ps s) : Leads l c.tokens s (Listing F (c.act ps)) := by
  obtain ⟨q, type, value⟩ := c
  obtain ⟨ha, havalue⟩ := List.forall_mem_append.1 ha
  obtain ⟨hapattern, -⟩ := List.forall_mem_append.1 ha
  have hacontent : ∀ t ∈ q.content, Admits l F t :=
    (List.forall_mem_append.1 (List.forall_mem_cons.1 hapattern).2).1
  have htyped : Leads l (q.tokens ++ (type.map fun a => [a.1.token, a.2.token]).getD []) s
      (InSlot F (replay q.edits ps) false) :=
    (hF.leads_pattern q hacontent h).append fun _ h' => hF.leads_groupType? h' type
  refine htyped.append fun s' h' => ?_
  cases value with
  | none => exact .nil h'.toInList
  | some v =>
    have hne : replay q.edits ps ≠ [] := hc.resolve_left nofun
    obtain ⟨init, last, hlist⟩ : ∃ init last, replay q.edits ps = init ++ [last] :=
      ⟨_, _, (List.dropLast_concat_getLast hne).symm⟩
    obtain ⟨-, havalue⟩ := List.forall_mem_cons.1 havalue
    rw [hlist] at h'
    have hequals := hF.step_equals h'.toInList h'.inValue v.equals
    have hstop : (l.step v.equals.token s').valueStop = -1 := by
      rw [hF.step_equals_eq h'.toInList h'.inValue v.equals]
      rfl
    have hvalue := hF.leads_wholeValue v.value.tokens havalue
      (fun t ht hin => bounds_of_not_inert (worded_of_isScript hF.script) hin
        (v.value.heads t ht hin)) v.value.balanced hequals
    rw [hstop] at hvalue
    show Leads l _ s' (Listing F (modifyLast _ (replay q.edits ps)))
    rw [hlist, modifyLast_concat]
    exact .cons (hF.done _ h'.frame) hvalue

/-! ## The list -/

theorem Declaring.leads_before (hF : Declaring l F) (before : List (ScriptSlot l × Sign .comma))
    (h : SlotStart F ps s) :
    Leads l (before.flatMap fun b => b.1.tokens ++ [b.2.token]) s
      (SlotStart F (ps ++ before.flatMap fun b => b.1.parameters)) := by
  induction before generalizing ps s with
  | nil =>
    refine .nil ?_
    rw [List.flatMap_nil, List.append_nil]
    exact h
  | cons item before ih =>
    obtain ⟨slot, comma⟩ := item
    have hslot : Leads l (slot.tokens ++ [comma.token]) s (SlotStart F (ps ++ slot.parameters)) :=
      (hF.readsSlots slot ps s h).append fun _ h' =>
        .single (hF.done _ h'.frame) (hF.comma h' comma)
    rw [List.flatMap_cons, List.flatMap_cons, ← List.append_assoc]
    exact hslot.append fun _ h' => ih h'

theorem Declaring.leads_after (hF : Declaring l F) (after : List (Sign .comma × ScriptSlot l))
    (h : Listing F ps s) :
    Leads l (Listed.moreTokens ScriptSlot.tokens after) s
      (Listing F (ps ++ (after.map (·.2)).flatMap ScriptSlot.parameters)) := by
  rw [← foldl_append_parameters]
  exact (hF.readsItems hF.readsSlots).folds.leads_more after h

theorem Declaring.leads_patternList (hF : Declaring l F) (f : PatternFunction l)
    (ha : ∀ t ∈ f.slot.tokens, Admits l F t)
    (hf : f.slot.value = none ∨ replay f.slot.pattern.edits f.earlier ≠ [])
    (h : AtList l F s) :
    Leads l (f.opener.token :: (f.list ++ [f.closer.token])) s
      (Closed F (f.slot.act f.earlier ++ f.later)) := by
  refine .cons h.done ?_
  have hlist : Leads l f.list (l.step f.opener.token s)
      (Listing F (f.slot.act f.earlier ++ f.later)) := by
    refine (hF.leads_before f.before (h.openParen hF.toCollecting f.opener)).append fun _ h' => ?_
    rw [List.nil_append] at h'
    exact (hF.leads_patternSlot f.slot ha hf h').append fun _ h'' => hF.leads_after f.after h''
  exact hlist.append fun _ h' => .single (hF.done _ h'.frame) (hF.closeParen h' f.closer)

/-! ## The function -/

/-- The frame of a function `n` whose list is being read. -/
def Underway (n : String) (f : Frame) : Prop := ∃ due, Awaits n due true f

theorem declaring_underway (hl : l.isScript = true) (hn : n ≠ "") : Declaring l (Underway n) where
  done := fun _ ⟨_, h⟩ => h.done
  kind := fun _ ⟨_, h⟩ => .inl h.kind
  signs := signsInert_script hl
  script := hl
  named := fun _ ⟨_, h⟩ => by
    rw [h.name]
    exact hn
  declares := fun s ⟨due, h⟩ => by
    rw [Declaration.declare_of_some (show s.decl.kind = _ from h.kind)]
    exact ⟨due, h⟩

theorem admits_underway (t : Token) : Admits l (Underway n) t :=
  fun _ _ ⟨_, h⟩ =>
    ⟨h.kind, true, h.name, h.kind, h.returns, rfl, h.returnDue, h.done⟩

theorem AtList.mono {G : Frame → Prop} (hFG : ∀ f, F f → G f) (h : AtList l F s) :
    AtList l G s where
  done := h.done
  kind := h.kind
  opens o := by
    obtain ⟨s', hread, hs⟩ := h.opens o
    exact ⟨s', hread, hFG _ hs.frame, hs.parameters, hs.parenDepth, hs.groupDepth, hs.angleDepth⟩

/-- Behind the list of a function, with the parameters `ps`. -/
def Recorded (ps : List Parameter) (s : Scan) : Prop :=
  Outside s ∧ s.decl.parameters = ps

theorem leads_patternForm (hl : l.isScript = true) (f : PatternFunction l)
    (hf : f.slot.value = none ∨ replay f.slot.pattern.edits f.earlier ≠ []) :
    Leads l (f.form.head ++ (f.opener.token :: (f.list ++ [f.closer.token]) ++ f.form.tail)) {}
      (Recorded (f.slot.act f.earlier ++ f.later)) := by
  have hclassless := f.classless
  cases hform : f.form with
  | headed head returns =>
    have hn := ScriptHead.name_ne_empty head
    have hF := declaring_underway hl hn
    refine (leads_head hl head).append fun s h => ?_
    have hlist : AtList l (Underway head.name) s :=
      h.mono fun _ h' => ⟨false, h'.name, h'.kind, h'.returns, h'.nameDue, h'.returnDue, h'.done⟩
    refine (hF.leads_patternList f (fun t _ => admits_underway t) hf hlist).append fun s' h' => ?_
    obtain ⟨⟨due, hawaits⟩, hparameters, hopen⟩ := h'
    have hclosed : Closed (Awaits head.name due true) _ s' := ⟨hawaits, hparameters, hopen⟩
    refine (hclosed.leads_returns (worded_of_isScript hl) hn returns).mono fun s'' h'' => ?_
    exact ⟨h''.1, congrArg Declaration.parameters h''.2⟩
  | arrow w name equals sign =>
    rw [hform] at hclassless
    have hn : name.text ≠ "" := ne_empty_of_isName name.holds
    have hF := declaring_pending hl hn
    have hadmits : ∀ t ∈ f.slot.tokens, Admits l (Pending name.text) t :=
      fun t ht hclass => absurd hclass (ne_true_of_eq_false (hclassless rfl t ht))
    refine (leads_arrowHead hl w name equals).append fun s h => ?_
    refine (hF.leads_patternList f hadmits hf h).append fun s' h' => ?_
    have harrow := step_arrow hl hn h' sign
    exact .single h'.frame.done ⟨harrow.headed.outside, harrow.parameters⟩

theorem parameters_finish (hl : l.isScript = true) (mixed : Bool) (h : Outside s) :
    (l.finish mixed s).parameters = s.decl.parameters := by
  have hkind := h.kind
  rw [finish_of_function hkind]
  cases hdecl : s.decl with
  | mk name kind parameters returns =>
    rw [hdecl] at hkind
    obtain rfl : kind = some .function := hkind
    rw [finish_script hl]

/-- What is recorded for a function with a pattern among its parameters. -/
theorem parameters_patternFunction (hl : l.isScript = true) (settings : Settings)
    (f : PatternFunction l)
    (hf : f.slot.value = none ∨ replay f.slot.pattern.edits f.earlier ≠ []) :
    (l.declaration settings f.tokens).parameters = f.slot.act f.earlier ++ f.later := by
  obtain ⟨hsigns, hwords⟩ := signs_of_registered (registered_of_isScript hl)
  obtain ⟨s, hreads, hout, hparameters⟩ :=
    (leads_modifiers f.modifiers (step_modifier hl)).append fun s hs =>
      hs ▸ leads_patternForm hl f hf
  have hend := hout.decl_ending hsigns f.ending (fun _ m => (hwords m).1) fun _ m => (hwords m).2
  unfold Language.declaration read
  rw [PatternFunction.tokens, hreads, finish_of_function (by rw [hend]; exact hout.kind), hend,
    ← finish_of_function hout.kind, parameters_finish hl _ hout, hparameters]

/-! ## Names that are recorded -/

/-- In every function, the names of the pattern are recorded between the other parameters, and those
are the same as without it. -/
def BindsNames (c : PatternSlot l) : Prop :=
  ∀ (settings : Settings) (f : PatternFunction l), f.slot = c →
    (l.declaration settings f.tokens).parameters = f.earlier ++ c.parameters ++ f.later

/-- `function f(…, pattern)` -/
def enclosing (hl : l.isScript = true) (before : List (ScriptSlot l × Sign .comma))
    (c : PatternSlot l) : PatternFunction l where
  form :=
    .headed
      (.word
        ⟨{ kind := "function", text := "function", start := 2, stop := 10 }, by decide,
          by rcases eq_of_isScript hl with rfl | rfl <;> decide⟩
        ⟨{ kind := "identifier", text := "f", start := 11, stop := 12 }, by decide,
          by rcases eq_of_isScript hl with rfl | rfl <;> decide⟩)
      none
  before := before
  slot := c
  ending := .line
  classless := nofun

/-- A parameter `x`. -/
def plainX (hl : l.isScript = true) : ScriptSlot l :=
  .plain
    { name :=
        ⟨{ kind := "identifier", text := "x", start := 13, stop := 14 }, by decide,
          by rcases eq_of_isScript hl with rfl | rfl <;> decide⟩ }
    none

theorem earlier_enclosing (hl : l.isScript = true) (c : PatternSlot l) :
    (enclosing hl [(plainX hl, {})] c).earlier = [{ name := "x" }] := rfl

theorem replay_ne_nil (es : List Edit) (h : ps ≠ []) : replay es ps ≠ [] := by
  intro he
  have hlen := length_replay es h
  have hpos := List.length_pos_iff.2 h
  rw [he, List.length_nil] at hlen
  omega

theorem joined_ne_empty {u : Token} (h : u.text ≠ "") (us : List Token) :
    Token.joined (u :: us) ≠ "" := by
  cases us with
  | nil => exact h
  | cons v us =>
    rw [Token.joined, String.append_assoc]
    exact fun he => h (String.append_eq_empty_iff.1 he).1

theorem joined_wholeValue (v : WholeValue l) :
    Token.joined (v.value.tokens.filter l.inert) ≠ "" := by
  obtain ⟨u, hu, hin⟩ := List.any_eq_true.1 v.speaks
  have hne : v.value.tokens.filter l.inert ≠ [] := List.ne_nil_of_mem (List.mem_filter.2 ⟨hu, hin⟩)
  obtain ⟨w, ws, hinert⟩ := List.exists_cons_of_ne_nil hne
  have hw : w ∈ v.value.tokens.filter l.inert := by
    rw [hinert]
    exact List.mem_cons_self
  rw [hinert]
  exact joined_ne_empty (v.value.nonempty w (List.mem_filter.1 hw).1) ws

/-- The default value of a whole pattern goes to the last parameter. -/
theorem exists_value_of_act {c : PatternSlot l} {v : WholeValue l} (hv : c.value = some v)
    (hps : ps ≠ []) (h : ∀ q ∈ ps, q.value = "") : ∃ q ∈ c.act ps, q.value ≠ "" := by
  have hne := replay_ne_nil c.pattern.edits hps
  have hlast := value_of_mem_replay c.pattern.edits h _ (List.getLast_mem hne)
  unfold PatternSlot.act
  rw [hv]
  dsimp only
  rw [← List.dropLast_concat_getLast hne, modifyLast_concat, hlast,
    extendValue_empty _ _ fun t ht => v.value.nonempty t (List.mem_filter.1 ht).1]
  exact ⟨_, List.mem_append_right _ (List.mem_singleton_self _), joined_wholeValue v⟩

/-- No name comes with a value, so there is none for the whole pattern. -/
theorem BindsNames.value_eq_none (hl : l.isScript = true) {c : PatternSlot l}
    (h : BindsNames c) : c.value = none := by
  cases hv : c.value with
  | none => rfl
  | some v =>
    have hx : [({ name := "x" } : Parameter)] ≠ [] := by simp
    have hempty : ∀ q ∈ [({ name := "x" } : Parameter)] ++ c.parameters, q.value = "" := by
      rw [List.singleton_append, List.forall_mem_cons]
      refine ⟨rfl, fun q hq => ?_⟩
      obtain ⟨name, -, rfl⟩ := List.mem_map.1 hq
      rfl
    have hread := parameters_patternFunction hl {} (enclosing hl [(plainX hl, {})] c)
      (.inr (by rw [earlier_enclosing]; exact replay_ne_nil _ hx))
    rw [h {} _ rfl, earlier_enclosing] at hread
    have hact : [{ name := "x" }] ++ c.parameters = c.act [{ name := "x" }] :=
      List.append_cancel_right hread
    obtain ⟨q, hq, hvalue⟩ := exists_value_of_act hv hx (List.forall_mem_singleton.2 rfl)
    rw [← hact] at hq
    exact absurd (hempty q hq) hvalue

theorem BindsNames.faithful (hl : l.isScript = true) {c : PatternSlot l} (h : BindsNames c) :
    c.pattern.faithful = true := by
  have hvalue := h.value_eq_none hl
  have hread : ∀ before, (enclosing hl before c).earlier ++ c.parameters =
      replay c.pattern.edits (enclosing hl before c).earlier := by
    intro before
    have := parameters_patternFunction hl {} (enclosing hl before c) (.inl hvalue)
    rw [h {} _ rfl, PatternSlot.act, show (enclosing hl before c).slot = c from rfl, hvalue] at this
    exact List.append_cancel_right this
  have hnames : c.parameters = replay c.pattern.edits [] := hread []
  have hown := hread [(plainX hl, {})]
  rw [earlier_enclosing, hnames] at hown
  exact Bool.and_eq_true_iff.2
    ⟨own_of_replay (by simp) hown.symm, decide_eq_true hnames.symm⟩

theorem bindsNames_of_faithful (hl : l.isScript = true) {c : PatternSlot l} (hc : c.value = none)
    (h : c.pattern.faithful = true) : BindsNames c := by
  obtain ⟨hown, hnames⟩ := Bool.and_eq_true_iff.1 h
  rintro settings f rfl
  rw [parameters_patternFunction hl settings f (.inl hc), PatternSlot.act, hc]
  dsimp only
  rw [replay_of_own hown, of_decide_eq_true hnames]
  rfl

/-- **The edits of a pattern are what is recorded for it.**  The names that it binds are recorded, and
the other parameters are left alone, exactly if it has no default value as a whole and its edits come
to its names; so it is for a tame pattern. -/
theorem bindsNames_iff (hl : l.isScript = true) (c : PatternSlot l) :
    (∀ (settings : Settings) (f : PatternFunction l), f.slot = c →
        c.value = none ∨ replay c.pattern.edits f.earlier ≠ [] →
        (l.declaration settings f.tokens).parameters = c.act f.earlier ++ f.later) ∧
      (BindsNames c ↔ c.value = none ∧ c.pattern.faithful = true) ∧
      (c.pattern.tame = true → c.pattern.faithful = true) := by
  refine ⟨?_, ⟨fun h => ⟨h.value_eq_none hl, h.faithful hl⟩, fun h =>
    bindsNames_of_faithful hl h.1 h.2⟩, Pattern.faithful_of_tame⟩
  rintro settings f rfl hf
  exact parameters_patternFunction hl settings f hf

/-- `{ a, key: b = [1, 2], "key": [, c] }` -/
def nestedKeys : PatternSlot .typescript where
  pattern :=
    .object {}
      (.name none ⟨{ kind := "identifier", text := "a", start := 1 }, by decide, by decide⟩ none)
      (.cons {}
        (.name
          (some { word := ⟨{ kind := "identifier", text := "key", start := 4 }, by decide, rfl⟩ })
          ⟨{ kind := "identifier", text := "b", start := 9 }, by decide, by decide⟩
          (some
            { value :=
                { tokens :=
                    [{ kind := "[", text := "[", start := 13, stop := 14 },
                      { kind := "number", text := "1", start := 14, stop := 15 },
                      { kind := ",", text := ",", start := 15, stop := 16 },
                      { kind := "number", text := "2", start := 17, stop := 18 },
                      { kind := "]", text := "]", start := 18, stop := 19 }]
                  nonempty := by decide
                  balanced := by decide
                  heads := by decide } }))
        (.cons {}
          (.nest
            (some { word := ⟨{ kind := "string", text := "\"key\"", start := 21 }, by decide, rfl⟩ })
            (.array {} .hole
              (.cons {}
                (.name none ⟨{ kind := "identifier", text := "c", start := 31 }, by decide,
                  by decide⟩ none)
                .nil)
              {})
            none)
          .nil))
      {}

theorem bindsNames_nestedKeys :
    Language.typescript.isScript = true ∧ nestedKeys.value = none ∧
      nestedKeys.pattern.tame = true ∧ BindsNames nestedKeys ∧
      nestedKeys.parameters = [{ name := "a" }, { name := "b" }, { name := "c" }] := by
  have htame : nestedKeys.pattern.tame = true := by decide
  obtain ⟨-, hiff, hfaithful⟩ := bindsNames_iff (l := .typescript) rfl nestedKeys
  exact ⟨rfl, rfl, htame, hiff.2 ⟨rfl, hfaithful htame⟩, by decide⟩

/-- `function foo({ bar = fizz(1, buzz) }) {` -/
def callDefault : PatternFunction .typescript where
  form :=
    .headed
      (.word
        ⟨{ kind := "function", text := "function", start := 4, stop := 12 }, by decide, by decide⟩
        ⟨{ kind := "identifier", text := "foo", start := 13, stop := 16 }, by decide, by decide⟩)
      none
  slot :=
    { pattern :=
        .object {}
          (.name none
            ⟨{ kind := "identifier", text := "bar", start := 19, stop := 22 }, by decide,
              by decide⟩
            (some
              { value :=
                  { tokens :=
                      [{ kind := "identifier", text := "fizz", start := 25, stop := 29 },
                        { kind := "(", text := "(", start := 29, stop := 30 },
                        { kind := "number", text := "1", start := 30, stop := 31 },
                        { kind := ",", text := ",", start := 31, stop := 32 },
                        { kind := "identifier", text := "buzz", start := 33, stop := 37 },
                        { kind := ")", text := ")", start := 37, stop := 38 }]
                    nonempty := by decide
                    balanced := by decide
                    heads := by decide } }))
          .nil {} }
  ending := .block {} []
  classless := nofun

/-- An argument inside of a default value is recorded like a name that is bound. -/
theorem names_not_bound_callDefault :
    callDefault.slot.parameters = [{ name := "bar" }] ∧
      (Language.typescript.declaration {} callDefault.tokens).parameters =
        [{ name := "bar" }, { name := "buzz" }] := by
  decide

end Language

end DocTemplate
