import DocTemplate.Proofs.Reading

/-!
# Destructuring groups

    { a , key : b = V }        [ a , [ b = V ] , { c } ]

The names bound in a group are parameters of the list that the group stands in:

    SlotStart F ps s → Leads l g.tokens s (GroupClosed F (ps ++ g.parameters))      (leads_group)

A word that declares a function, or an arrow, inside of a group is not read as part of the group.
It declares the function that the list belongs to, so the frame has to allow this.
-/

namespace DocTemplate

/-- Whether a token may stand in a default value inside of a group. -/
def Language.inEntry (l : Language) (t : Token) : Bool :=
  !(t.is .openParen || t.is .closeParen || t.opensGroup || t.closesGroup || t.is .comma ||
    t.is .colon) && !l.grammar.has .classWord t.text

namespace Written

/-! ## Written form -/

/-- An equals sign and a default value inside of a group. -/
structure EntryValue (l : Language) where
  equals : Sign .equals := {}
  tokens : List Token
  inEntry : ∀ t ∈ tokens, l.inEntry t = true

/-- A name, with a key before it and a default value behind it. -/
structure GroupEntry (l : Language) where
  key : Option (Word l.isName × Sign .colon) := none
  name : Word l.isName
  value : Option (EntryValue l) := none

namespace GroupEntry

variable {l : Language}

def keyTokens (e : GroupEntry l) : List Token :=
  (e.key.map fun k => [k.1.token, k.2.token]).getD []

def valueTokens (e : GroupEntry l) : List Token :=
  (e.value.map fun v => v.equals.token :: v.tokens).getD []

def tokens (e : GroupEntry l) : List Token := e.keyTokens ++ e.name.token :: e.valueTokens

/-- The key and the default value are not kept. -/
def parameter (e : GroupEntry l) : Parameter := { name := e.name.text }

end GroupEntry

mutual

/-- A destructuring group.  Groups inside of groups are elements of arrays. -/
inductive Group (l : Language) where
  | object (opener : Sign .openBrace) (entries : Listed (GroupEntry l)) (closer : Sign .closeBrace)
  | emptyArray (opener : Sign .openBracket) (closer : Sign .closeBracket)
  | array (opener : Sign .openBracket) (first : Element l) (more : Elements l)
    (closer : Sign .closeBracket)

inductive Element (l : Language) where
  | entry (e : GroupEntry l)
  | group (g : Group l)

/-- Elements behind a comma each. -/
inductive Elements (l : Language) where
  | nil
  | cons (comma : Sign .comma) (e : Element l) (more : Elements l)

end

section

variable {l : Language}

def Group.opener : Group l → Token
  | .object o _ _ => o.token
  | .emptyArray o _ => o.token
  | .array o _ _ _ => o.token

def Group.closer : Group l → Token
  | .object _ _ c => c.token
  | .emptyArray _ c => c.token
  | .array _ _ _ c => c.token

mutual

/-- The tokens between the brackets. -/
def Group.content : Group l → List Token
  | .object _ entries _ => entries.tokens GroupEntry.tokens
  | .emptyArray _ _ => []
  | .array _ first more _ => first.tokens ++ more.tokens

def Element.tokens : Element l → List Token
  | .entry e => e.tokens
  | .group g => g.opener :: (g.content ++ [g.closer])

def Elements.tokens : Elements l → List Token
  | .nil => []
  | .cons comma e more => comma.token :: (e.tokens ++ more.tokens)

end

def Group.tokens (g : Group l) : List Token := g.opener :: (g.content ++ [g.closer])

mutual

/-- The names that are bound, in order. -/
def Group.parameters : Group l → List Parameter
  | .object _ entries _ => entries.items.map GroupEntry.parameter
  | .emptyArray _ _ => []
  | .array _ first more _ => first.parameters ++ more.parameters

def Element.parameters : Element l → List Parameter
  | .entry e => [e.parameter]
  | .group g => g.parameters

def Elements.parameters : Elements l → List Parameter
  | .nil => []
  | .cons _ e more => e.parameters ++ more.parameters

end

end

end Written

namespace Language

open Written

variable {l : Language} {F : Frame → Prop} {ps : List Parameter} {t : Token} {s : Scan} {d : Nat}

/-! ## Tokens that declare a function -/

theorem eq_of_isScript (hl : l.isScript = true) : l = .javascript ∨ l = .typescript := by
  cases l with
  | javascript => exact .inl rfl
  | typescript => exact .inr rfl
  | _ => cases hl

theorem readFunction_script (hl : l.isScript = true) (t : Token) (s : Scan) :
    l.readFunction t s = l.readScriptFunction t s := by
  rcases eq_of_isScript hl with rfl | rfl <;> rfl

theorem skips_script (hl : l.isScript = true) (t : Token) : l.skips t = false := by
  rcases eq_of_isScript hl with rfl | rfl <;> rfl

/-- Frames of a named function, or of a name that may become one, in TypeScript and JavaScript. -/
structure Declaring (l : Language) (F : Frame → Prop) : Prop extends Collecting l F where
  script : l.isScript = true
  named : ∀ f, F f → f.name ≠ ""
  declares : ∀ s : Scan, F s.frame → F (Scan.frame { s with decl := s.decl.declare .function })

theorem Declaring.step_declare (hF : Declaring l F) (hf : F s.frame)
    (hc : l.grammar.has .classWord t.text = false)
    (ht : l.grammar.has .functionWord t.text = true ∨ t.is .arrow = true) :
    l.step t s = { s with decl := s.decl.declare .function } := by
  have hname : s.decl.name ≠ "" := hF.named _ hf
  have hset : nameFunction s s.candidate = { s with decl := s.decl.declare .function } := by
    unfold nameFunction
    rw [Declaration.setName_of_ne (by rwa [Declaration.name_declare])]
  have hkind : s.decl.kind = some .function ∨ s.decl.kind = none := by
    rcases hF.kind _ hf with hk | ⟨-, hk, -⟩
    · exact .inl hk
    · exact .inr hk
  have hclass : l.readClass t s = s.leave := by
    unfold readClass
    rw [if_neg (ne_true_of_eq_false hc), if_neg]
    rintro ⟨-, hk, -⟩
    rcases hkind with hk' | hk' <;> exact absurd (hk.symm.trans hk') (by decide)
  have hread : l.readFunction t s = Scan.take { s with decl := s.decl.declare .function } := by
    rw [readFunction_script hF.script]
    unfold readScriptFunction
    by_cases hw : l.grammar.has .functionWord t.text = true
    · rw [if_pos hw, hset]
      simp [hname]
    · have harrow : t.is .arrow = true := ht.resolve_left hw
      rw [if_neg hw]
      rcases hkind with hk | hk
      · rw [hk, Declaration.declare_of_some hk]
        exact if_pos harrow
      · rw [hk, ← hset]
        exact if_pos harrow
  rw [step_of_readFunction (skips_script hF.script t) (hF.done _ hf) hclass (by rw [hread]; rfl),
    hread]
  rfl

/-! ## Inside of a group -/

/-- In a group that stands in `d` other groups. -/
structure InGroup (F : Frame → Prop) (d : Nat) (ps : List Parameter) (s : Scan) : Prop
    extends InList F ps 1 0 (d + 1) s where
  inValue : s.inValue = false
  typeDue : s.typeDue = false

/-- Before an entry of a group. -/
structure EntryDue (F : Frame → Prop) (d : Nat) (ps : List Parameter) (s : Scan) : Prop
    extends InGroup F d ps s where
  bindingDue : s.bindingDue = true
  rebinding : s.rebinding = false

/-- Behind the name of an entry. -/
structure EntryBound (F : Frame → Prop) (d : Nat) (ps : List Parameter) (s : Scan) : Prop
    extends InGroup F d ps s where
  bindingDue : s.bindingDue = false
  rebinding : s.rebinding = false

/-- Behind a group. -/
structure GroupClosed (F : Frame → Prop) (ps : List Parameter) (s : Scan) : Prop
    extends InSlot F ps false s where
  groupClosed : s.groupClosed = true

theorem Collecting.step_group (hF : Collecting l F) (h : InGroup F d ps s)
    (hin : l.inert t = true) (h1 : t.is .openParen = false) (h2 : t.is .closeParen = false) :
    l.step t s = l.readGroup t s := by
  have hread : l.readParameters t s = (l.readGroup t s).take := by
    rw [hF.readParameters_eq h.frame h1 h2]
    unfold readInList
    have hdepth := h.groupDepth
    rw [if_neg (not_not_intro h.listOpen), if_neg (ne_true_of_eq_false h.inValue),
      if_pos (.inl (by omega))]
  rw [hF.step_eq h.frame h.listOpen hin (.inl (by rw [hread]; rfl)), hread]
  rfl

theorem readGroup_open (ht : t.opensGroup = true) :
    l.readGroup t s =
      { s with groupDepth := s.groupDepth + 1, bindingDue := true, rebinding := false } := by
  unfold readGroup
  rw [if_pos ht]

theorem Collecting.group_open (hF : Collecting l F) (h : InGroup F d ps s)
    (hin : l.inert t = true) (ht : t.opensGroup = true) :
    EntryDue F (d + 1) ps (l.step t s) := by
  rw [hF.step_group h hin (is_of_group (.inl ht) (by decide)) (is_of_group (.inl ht) (by decide)),
    readGroup_open ht]
  refine ⟨⟨⟨h.frame, h.parameters, ?_⟩, h.inValue, h.typeDue⟩, rfl, rfl⟩
  rw [h.groupDepth]
  exact h.depths_group _

/-- A bracket at the start of a parameter opens a group. -/
theorem Collecting.group_begin (hF : Collecting l F) (h : SlotStart F ps s)
    (hin : l.inert t = true) (ht : t.opensGroup = true) : EntryDue F 0 ps (l.step t s) := by
  have hread : l.readParameters t s = (l.readGroup t s).take := by
    rw [hF.readParameters_eq h.frame (is_of_group (.inl ht) (by decide))
      (is_of_group (.inl ht) (by decide))]
    unfold readInList
    rw [if_neg (not_not_intro h.listOpen), if_neg (ne_true_of_eq_false h.inValue),
      if_pos (.inr ⟨h.slotStart, ht⟩)]
  rw [hF.step_eq h.frame h.listOpen hin (.inl (by rw [hread]; rfl)), hread, readGroup_open ht]
  refine ⟨⟨⟨h.frame, h.parameters, ?_⟩, h.inValue, h.typeDue⟩, rfl, rfl⟩
  rw [h.groupDepth]
  exact h.depths_group _

theorem readGroup_close (ht : t.closesGroup = true) :
    l.readGroup t s =
      if s.groupDepth - 1 = 0 then
        { s with groupDepth := s.groupDepth - 1, bindingDue := false, groupClosed := true,
                 slotStart := false }
      else { s with groupDepth := s.groupDepth - 1, bindingDue := false } := by
  have hopen : t.opensGroup = false := by
    unfold Token.closesGroup at ht
    rcases Bool.or_eq_true_iff.1 ht with ht | ht <;>
      exact opensGroup_of_is ht (by decide) (by decide)
  unfold readGroup
  rw [if_neg (ne_true_of_eq_false hopen), if_pos ht]

theorem Collecting.group_close (hF : Collecting l F) (h : InGroup F (d + 1) ps s)
    (hin : l.inert t = true) (ht : t.closesGroup = true) : InGroup F d ps (l.step t s) := by
  have hdepth := h.groupDepth
  rw [hF.step_group h hin (is_of_group (.inr ht) (by decide)) (is_of_group (.inr ht) (by decide)),
    readGroup_close ht, if_neg (by omega)]
  refine ⟨⟨h.frame, h.parameters, ?_⟩, h.inValue, h.typeDue⟩
  rw [show s.groupDepth - 1 = d + 1 by omega]
  exact h.depths_group _

/-- The last bracket ends the group. -/
theorem Collecting.group_end (hF : Collecting l F) (h : InGroup F 0 ps s)
    (hin : l.inert t = true) (ht : t.closesGroup = true) : GroupClosed F ps (l.step t s) := by
  have hdepth : s.groupDepth - 1 = 0 := by
    have := h.groupDepth
    omega
  rw [hF.step_group h hin (is_of_group (.inr ht) (by decide)) (is_of_group (.inr ht) (by decide)),
    readGroup_close ht, if_pos hdepth]
  rw [hdepth]
  exact ⟨⟨⟨h.frame, h.parameters, h.depths_group 0⟩, h.inValue, h.typeDue, rfl⟩, rfl⟩

theorem Collecting.group_comma (hF : Collecting l F) (h : InGroup F d ps s) (c : Sign .comma) :
    EntryDue F d ps (l.step c.token s) := by
  have hread : l.readGroup c.token s = { s with bindingDue := true, rebinding := false } := by
    unfold readGroup
    rw [if_neg (by simp [Token.opensGroup]), if_neg (by simp [Token.closesGroup]),
      if_pos (by simp)]
  rw [hF.step_group h (hF.signs _ c (by decide)) (by simp) (by simp), hread]
  exact ⟨⟨⟨h.frame, h.parameters, h.depths⟩, h.inValue, h.typeDue⟩, rfl, rfl⟩

/-! ## Entries -/

theorem closesGroup_eq_false (h : t.isPlain = true) : t.closesGroup = false := by
  rw [Token.closesGroup, Token.is_eq_false h, Token.is_eq_false h]
  rfl

theorem readGroup_name (w : Word l.isName) (h : s.bindingDue = true ∨ s.rebinding = true) :
    l.readGroup w.token s =
      { s with
        decl :=
          if s.rebinding = true ∧ s.decl.hasParameter = true then
            s.decl.modifyLastParameter fun p => { p with name := w.text }
          else s.decl.addParameter { name := w.text }
        bindingDue := false
        rebinding := false } := by
  unfold readGroup
  rw [if_neg (ne_true_of_eq_false (Token.opensGroup_eq_false w.plain)),
    if_neg (ne_true_of_eq_false (closesGroup_eq_false w.plain)), if_neg (by simp),
    if_neg (by simp), if_pos ⟨w.holds, h⟩]
  rfl

theorem Declaring.step_groupName (hF : Declaring l F) (h : InGroup F d ps s) (w : Word l.isName) :
    l.step w.token s = l.readGroup w.token s :=
  hF.step_group h
    (inert_of_not_isReserved w.plain (isReserved_of_isName w.holds) (skips_script hF.script _))
    (by simp) (by simp)

/-- A name where one is due is bound. -/
theorem Declaring.entry_name (hF : Declaring l F) (h : EntryDue F d ps s) (w : Word l.isName) :
    EntryBound F d (ps ++ [{ name := w.text }]) (l.step w.token s) := by
  rw [hF.step_groupName h.toInGroup w, readGroup_name w (.inl h.bindingDue), h.rebinding,
    if_neg (by simp)]
  exact ⟨⟨⟨h.frame, Declaration.parameters_addParameter h.parameters _, h.depths⟩,
    h.inValue, h.typeDue⟩, rfl, rfl⟩

/-- A colon and a name behind it rename what was bound last. -/
theorem Declaring.entry_rename (hF : Declaring l F) {q : Parameter}
    (h : EntryBound F d (ps ++ [q]) s) (c : Sign .colon) (w : Word l.isName) :
    Leads l [c.token, w.token] s (EntryBound F d (ps ++ [{ q with name := w.text }])) := by
  have hcolon : l.step c.token s = { s with rebinding := true } := by
    rw [hF.step_group h.toInGroup (hF.signs _ c (by decide)) (by simp) (by simp)]
    unfold readGroup
    rw [if_neg (by simp [Token.opensGroup]), if_neg (by simp [Token.closesGroup]),
      if_neg (by simp), if_pos (by simp)]
  have h' : InGroup F d (ps ++ [q]) { s with rebinding := true } :=
    ⟨⟨h.frame, h.parameters, h.depths⟩, h.inValue, h.typeDue⟩
  have hparam : s.decl.hasParameter = true := by simp [Declaration.hasParameter, h.parameters]
  refine .cons (hF.done _ h.frame) ?_
  rw [hcolon]
  refine .single (hF.done _ h.frame) ?_
  rw [hF.step_groupName h' w, readGroup_name w (.inr rfl), if_pos ⟨rfl, hparam⟩]
  exact ⟨⟨⟨h.frame, Declaration.parameters_modifyLastParameter h.parameters _, h.depths⟩,
    h.inValue, h.typeDue⟩, rfl, rfl⟩

/-- Tokens of a default value bind nothing. -/
theorem Declaring.entry_value (hF : Declaring l F) (h : EntryBound F d ps s)
    (ht : l.inEntry t = true) : EntryBound F d ps (l.step t s) := by
  unfold inEntry at ht
  simp only [Bool.and_eq_true, Bool.not_eq_true', Bool.or_eq_false_iff] at ht
  obtain ⟨⟨⟨⟨⟨⟨h1, h2⟩, h3⟩, h4⟩, h5⟩, h6⟩, hc⟩ := ht
  by_cases hdeclares : l.grammar.has .functionWord t.text = true ∨ t.is .arrow = true
  · rw [hF.step_declare h.frame hc hdeclares]
    exact ⟨⟨⟨hF.declares s h.frame, (Declaration.parameters_declare ..).trans h.parameters,
      h.depths⟩, h.inValue, h.typeDue⟩, h.bindingDue, h.rebinding⟩
  · obtain ⟨hw, harrow⟩ := not_or.1 hdeclares
    have hin : l.inert t = true :=
      inert_iff.2 ⟨hc, by simpa using hw, fun _ => by simpa using harrow, skips_script hF.script t⟩
    have hread : l.readGroup t s = { s with bindingDue := false, rebinding := false } := by
      unfold readGroup
      rw [if_neg (ne_true_of_eq_false h3), if_neg (ne_true_of_eq_false h4),
        if_neg (ne_true_of_eq_false h5), if_neg (ne_true_of_eq_false h6), if_neg]
      rintro ⟨-, hb | hb⟩
      · exact ne_true_of_eq_false h.bindingDue hb
      · exact ne_true_of_eq_false h.rebinding hb
    rw [hF.step_group h.toInGroup hin h1 h2, hread]
    exact ⟨⟨⟨h.frame, h.parameters, h.depths⟩, h.inValue, h.typeDue⟩, rfl, rfl⟩

theorem Declaring.leads_entry (hF : Declaring l F) (e : GroupEntry l) (h : EntryDue F d ps s) :
    Leads l e.tokens s (EntryBound F d (ps ++ [e.parameter])) := by
  obtain ⟨key, name, value⟩ := e
  have hd : s.done = false := hF.done _ h.frame
  have hnamed : Leads l (GroupEntry.keyTokens ⟨key, name, value⟩ ++ [name.token]) s
      (EntryBound F d (ps ++ [{ name := name.text }])) := by
    cases key with
    | none => exact .single hd (hF.entry_name h name)
    | some k => exact .cons hd (hF.entry_rename (hF.entry_name h k.1) k.2 name)
  have hvalue : ∀ s', EntryBound F d (ps ++ [{ name := name.text }]) s' →
      Leads l (GroupEntry.valueTokens ⟨key, name, value⟩) s'
        (EntryBound F d (ps ++ [{ name := name.text }])) := by
    intro s' h'
    refine Leads.of_invariant (fun s'' h'' => hF.done _ h''.frame) (fun t ht s'' h'' => ?_) h'
    refine hF.entry_value h'' ?_
    cases value with
    | none => cases ht
    | some v =>
      rcases List.mem_cons.1 ht with rfl | ht
      · have := (inert_iff.1 (hF.signs _ v.equals (by decide))).1
        simp [inEntry, Token.opensGroup, Token.closesGroup, this]
      · exact v.inEntry t ht
  have := hnamed.append hvalue
  rw [List.append_assoc, List.singleton_append] at this
  exact this

/-! ## Groups in groups -/

theorem opensGroup_opener (g : Group l) : g.opener.opensGroup = true := by
  cases g <;> simp [Group.opener, Token.opensGroup]

theorem closesGroup_closer (g : Group l) : g.closer.closesGroup = true := by
  cases g <;> simp [Group.closer, Token.closesGroup]

theorem inert_opener (hl : SignsInert l) (g : Group l) : l.inert g.opener = true := by
  cases g <;> exact hl _ _ (by decide)

theorem inert_closer (hl : SignsInert l) (g : Group l) : l.inert g.closer = true := by
  cases g <;> exact hl _ _ (by decide)

theorem Declaring.readsItems_entries (hF : Declaring l F) (d : Nat) :
    ReadsItems l (·.done = false) (Leads l) GroupEntry.tokens
      (fun e : GroupEntry l => [e.parameter]) (EntryDue F d) (InGroup F d) where
  walk := Leads.walk
  ready _ _ h := hF.done _ h.frame
  comma _ _ c h := hF.group_comma h c
  item e _ _ h := (hF.leads_entry e h).mono fun _ h' => h'.toInGroup
  empty _ _ h := h.toInGroup

-- The depth is that of the group the tokens stand in, so an inner group goes one deeper and comes
-- back.
mutual

theorem Declaring.leads_content (hF : Declaring l F) : ∀ (g : Group l) {d ps s},
    EntryDue F d ps s → Leads l g.content s (InGroup F d (ps ++ g.parameters))
  | .object _ entries _, d, _, _, h => by
    have := (hF.readsItems_entries d).leads entries h
    rw [← List.map_eq_flatMap] at this
    rw [Group.content, Group.parameters]
    exact this
  | .emptyArray _ _, _, _, _, h => by
    rw [Group.content, Group.parameters, List.append_nil]
    exact .nil h.toInGroup
  | .array _ first more _, _, _, _, h => by
    rw [Group.content, Group.parameters, ← List.append_assoc]
    exact (hF.leads_element first h).append fun _ h' => hF.leads_elements more h'

theorem Declaring.leads_element (hF : Declaring l F) : ∀ (e : Element l) {d ps s},
    EntryDue F d ps s → Leads l e.tokens s (InGroup F d (ps ++ e.parameters))
  | .entry e, _, _, _, h => by
    rw [Element.tokens, Element.parameters]
    exact (hF.leads_entry e h).mono fun _ h' => h'.toInGroup
  | .group g, _, _, _, h => by
    rw [Element.tokens, Element.parameters]
    refine .cons (hF.done _ h.frame) ?_
    refine (hF.leads_content g (hF.group_open h.toInGroup (inert_opener hF.signs g)
      (opensGroup_opener g))).append fun _ h' => ?_
    exact .single (hF.done _ h'.frame)
      (hF.group_close h' (inert_closer hF.signs g) (closesGroup_closer g))

theorem Declaring.leads_elements (hF : Declaring l F) : ∀ (es : Elements l) {d ps s},
    InGroup F d ps s → Leads l es.tokens s (InGroup F d (ps ++ es.parameters))
  | .nil, _, _, _, h => by
    rw [Elements.tokens, Elements.parameters, List.append_nil]
    exact .nil h
  | .cons comma e more, _, _, _, h => by
    rw [Elements.tokens, Elements.parameters, ← List.append_assoc]
    refine .cons (hF.done _ h.frame) ?_
    exact (hF.leads_element e (hF.group_comma h comma)).append fun _ h' =>
      hF.leads_elements more h'

end

/-- **A group adds the names that it binds, in order.** -/
theorem Declaring.leads_group (hF : Declaring l F) (g : Group l) (h : SlotStart F ps s) :
    Leads l g.tokens s (GroupClosed F (ps ++ g.parameters)) := by
  refine .cons (hF.done _ h.frame) ?_
  refine (hF.leads_content g (hF.group_begin h (inert_opener hF.signs g)
    (opensGroup_opener g))).append fun _ h' => ?_
  exact .single (hF.done _ h'.frame)
    (hF.group_end h' (inert_closer hF.signs g) (closesGroup_closer g))

end Language

end DocTemplate
