import DocTemplate.Proofs.Written

/-!
# Reading the parts of a function

What the scan is like before and after the parts that all languages share: default values,
parameter lists, return types and the end of a declaration.  How a single parameter is read is left
to each language, as a property of its slots:

    (∀ a ps s, SlotStart F ps s → Leads l (f a) s (Listing F (ps ++ g a))) →
      … → Leads l (p.tokens f) s (Closed F (p.slots.items.flatMap g))

`F` is what is known of the frame of the scan.  A list may be read before it is known that there is
a function, so `F` need not fix the kind.
-/

namespace DocTemplate.Language

open Written

variable {l : Language} {F : Frame → Prop} {ps : List Parameter} {t : Token} {s s' : Scan}

/-! ## Inert tokens -/

theorem inert_iff : l.inert t = true ↔
    l.grammar.has .classWord t.text = false ∧ l.grammar.has .functionWord t.text = false ∧
      (l.isScript = true → t.is .arrow = false) ∧ l.skips t = false := by
  unfold inert
  cases l.isScript <;> simp [and_assoc]

theorem has_eq_false_of_not_isReserved {x : String} (h : l.isReserved x = false)
    {c : Grammar.Category} (hc : c ∈ Grammar.Category.reserved) : l.grammar.has c x = false := by
  have := List.any_eq_false.1 h c hc
  simpa using this

/-- A word that is not reserved is inert. -/
theorem inert_of_not_isReserved (hp : t.isPlain = true) (hr : l.isReserved t.text = false)
    (hj : l.skips t = false) : l.inert t = true :=
  inert_iff.2 ⟨has_eq_false_of_not_isReserved hr (by decide),
    has_eq_false_of_not_isReserved hr (by decide), fun _ => Token.is_eq_false hp _, hj⟩

theorem readClass_of_inert (ht : l.inert t = true) (hk : s.decl.kind ≠ some .classLike) :
    l.readClass t s = s.leave := by
  unfold readClass
  rw [if_neg (ne_true_of_eq_false ((inert_iff.1 ht).1)), if_neg fun h => hk h.2.1]

/-- In a function, inert tokens go to the reader of signatures first. -/
theorem readFunction_of_inert (ht : l.inert t = true) (hk : s.decl.kind = some .function) :
    l.readFunction t s = l.readSignature t s := by
  obtain ⟨-, hw, ha, -⟩ := inert_iff.1 ht
  have hword : l.readWordFunction t s = l.readSignature t s := by
    unfold readWordFunction
    rw [if_neg (ne_true_of_eq_false hw), if_pos hk]
  have hscript : l.isScript = true → l.readScriptFunction t s = l.readSignature t s := by
    intro hl
    unfold readScriptFunction
    rw [if_neg (ne_true_of_eq_false hw), hk]
    exact if_neg (ne_true_of_eq_false (ha hl))
  have htyped : l.readTypedFunction t s = l.readSignature t s := by
    unfold readTypedFunction
    rw [hk]
  cases l with
  | plain g => exact hword
  | php => exact hword
  | scss =>
    have htext : t.text ≠ "@mixin" := by
      intro he
      rw [he] at hw
      exact absurd hw (by decide)
    show readSheetFunction .scss t s = _
    unfold readSheetFunction
    dsimp only
    rw [if_neg htext]
    exact hword
  | javascript => exact hscript rfl
  | typescript => exact hscript rfl
  | c => exact htyped
  | java => exact htyped

theorem readSignature_of_listOpen (ho : s.listOpen = true) :
    l.readSignature t s = s.leave := by
  unfold readSignature
  rw [if_pos ho]

theorem readVariable_of_function (hk : s.decl.kind = some .function) :
    l.readVariable t s = s.leave := by
  have hword : l.readWordVariable t s = s.leave := by
    unfold readWordVariable
    rw [hk]
    rfl
  have hscript : l.readScriptVariable t s = s.leave := by
    unfold readScriptVariable
    rw [hk]
    rfl
  have htyped : readTypedVariable t s = s.leave := by
    unfold readTypedVariable
    rw [hk]
    rfl
  cases l with
  | plain g => exact hword
  | php => exact hword
  | scss => exact hword
  | javascript => exact hscript
  | typescript => exact hscript
  | c => exact htyped
  | java => exact htyped

/-! ## Tokens in an open list -/

/-- No mark but the arrow is a word that declares something. -/
def SignsInert (l : Language) : Prop :=
  ∀ (m : Mark) (g : Sign m), m ≠ .arrow → l.inert g.token = true

/-- In the languages of the registry no mark is a word of any kind. -/
theorem signs_of_registered (hl : l ∈ registry.map (·.2)) :
    SignsInert l ∧ ∀ m : Mark,
      l.isName m.label = false ∧ l.isType m.label = false ∧ l.beginsWord m.label = false := by
  have hall : ∀ l ∈ registry.map (·.2), ∀ m ∈ Mark.all,
      (m ≠ .arrow → l.inert (Sign.token (m := m) {}) = true) ∧
        l.isName m.label = false ∧ l.isType m.label = false ∧ l.beginsWord m.label = false := by
    decide
  exact ⟨fun m _ => (hall l hl m m.mem_all).1, fun m => (hall l hl m m.mem_all).2⟩

/-- Frames under which parameters are collected. -/
structure Collecting (l : Language) (F : Frame → Prop) : Prop where
  done : ∀ f, F f → f.done = false
  kind : ∀ f, F f →
    f.kind = some .function ∨ (l.isScript = true ∧ f.kind = none ∧ f.assigned = true)
  signs : SignsInert l

namespace Collecting

theorem collects (hF : Collecting l F) (hf : F s.frame) : l.collects s = true := by
  unfold Language.collects
  rcases hF.kind _ hf with hk | ⟨hl, hk, ha⟩
  · replace hk : s.decl.kind = some .function := hk
    rw [hk]
    rfl
  · replace hk : s.decl.kind = none := hk
    replace ha : s.assigned = true := ha
    rw [hk, hl, ha]
    rfl

theorem readFunction_of_listOpen (hF : Collecting l F) (hf : F s.frame) (ho : s.listOpen = true)
    (ht : l.inert t = true) : l.readFunction t s = s.leave := by
  rcases hF.kind _ hf with hk | ⟨hl, hk, ha⟩
  · rw [readFunction_of_inert ht hk, readSignature_of_listOpen ho]
  · replace hk : s.decl.kind = none := hk
    replace ha : s.assigned = true := ha
    obtain ⟨-, hw, harrow, -⟩ := inert_iff.1 ht
    have hscript : l.readScriptFunction t s = s.leave := by
      unfold readScriptFunction
      rw [if_neg (ne_true_of_eq_false hw), hk]
      dsimp only
      rw [if_neg (ne_true_of_eq_false (harrow hl)), if_neg fun h => h.2.2 ha]
    cases l with
    | javascript => exact hscript
    | typescript => exact hscript
    | _ => cases hl

/-- Only the parameter list changes on an inert token. -/
theorem step_eq (hF : Collecting l F) (hf : F s.frame) (ho : s.listOpen = true)
    (ht : l.inert t = true)
    (h : (l.readParameters t s).taken = true ∨ s.decl.kind = some .function) :
    l.step t s = (l.readParameters t s).scan := by
  have hj := (inert_iff.1 ht).2.2.2
  have hd : s.done = false := hF.done _ hf
  have hc : l.readClass t s = s.leave := by
    refine readClass_of_inert ht fun hk => ?_
    rcases hF.kind _ hf with hk' | ⟨-, hk', -⟩
    · exact absurd (hk.symm.trans hk') (by decide)
    · exact absurd (hk.symm.trans hk') (by decide)
  have hfn := hF.readFunction_of_listOpen hf ho ht
  cases htaken : (l.readParameters t s).taken with
  | true => exact step_of_readParameters hj hd hc hfn htaken
  | false =>
    have hk : s.decl.kind = some .function := by
      rcases h with h | h
      · rw [htaken] at h
        cases h
      · exact h
    have hp : l.readParameters t s = (l.readParameters t s).scan.leave := by
      rw [Scan.leave, ← htaken]
    have hk' : (l.readParameters t s).scan.decl.kind = some .function :=
      (congrArg Frame.kind (frame_readParameters l t s)).trans hk
    rw [step_of_readVariable hj hd hc hfn hp, readVariable_of_function hk']
    rfl

theorem readParameters_eq (hF : Collecting l F) (hf : F s.frame) (h1 : t.is .openParen = false)
    (h2 : t.is .closeParen = false) : l.readParameters t s = l.readInList t s := by
  unfold readParameters
  rw [if_neg (not_not_intro (hF.collects hf)),
    if_neg (ne_true_of_eq_false h1),
    if_neg fun hc => ne_true_of_eq_false h2 hc.1]

end Collecting

/-! ## Parameter lists -/

/-- An open list with the parameters `ps`: `p` parentheses are open, `b` brackets of a default value
and `g` brackets of a group. -/
structure InList (F : Frame → Prop) (ps : List Parameter) (p b g : Int) (s : Scan) : Prop where
  frame : F s.frame
  parameters : s.decl.parameters = ps
  depths : s.depths = ⟨true, p, b, g, 0⟩

namespace InList

variable {p b g : Int}

theorem listOpen (h : InList F ps p b g s) : s.listOpen = true :=
  congrArg Depths.listOpen h.depths

theorem parenDepth (h : InList F ps p b g s) : s.parenDepth = p := congrArg Depths.parens h.depths

theorem valueDepth (h : InList F ps p b g s) : s.valueDepth = b := congrArg Depths.value h.depths

theorem groupDepth (h : InList F ps p b g s) : s.groupDepth = g := congrArg Depths.group h.depths

theorem angleDepth (h : InList F ps p b g s) : s.angleDepth = 0 := congrArg Depths.angle h.depths

theorem depths_group (h : InList F ps p b g s) (x : Int) :
    { s.depths with group := x } = (⟨true, p, b, x, 0⟩ : Depths) := by
  rw [h.depths]

theorem depths_angle (h : InList F ps p b g s) :
    { s.depths with angle := 0 } = (⟨true, p, b, g, 0⟩ : Depths) := by
  rw [h.depths]

end InList

/-- An open list, outside of all inner brackets. -/
abbrev Listing (F : Frame → Prop) (ps : List Parameter) (s : Scan) : Prop := InList F ps 1 0 0 s

/-- The start of a parameter. -/
structure SlotStart (F : Frame → Prop) (ps : List Parameter) (s : Scan) : Prop
    extends InList F ps 1 0 0 s where
  inValue : s.inValue = false
  typeDue : s.typeDue = false
  slotStart : s.slotStart = true
  groupClosed : s.groupClosed = false

/-- No list was opened yet. -/
structure Unopened (F : Frame → Prop) (s : Scan) : Prop where
  frame : F s.frame
  parameters : s.decl.parameters = []
  parenDepth : s.parenDepth = 0
  groupDepth : s.groupDepth = 0
  angleDepth : s.angleDepth = 0

/-- The list is closed. -/
structure Closed (F : Frame → Prop) (ps : List Parameter) (s : Scan) : Prop where
  frame : F s.frame
  parameters : s.decl.parameters = ps
  listOpen : s.listOpen = false

theorem Listing.nextSlot (h : Listing F ps s) : SlotStart F ps s.nextSlot where
  frame := h.frame
  parameters := h.parameters
  depths := by
    simp [Scan.depths, Scan.nextSlot, h.listOpen, h.parenDepth, h.groupDepth, h.angleDepth]
  inValue := rfl
  typeDue := rfl
  slotStart := rfl
  groupClosed := rfl

/-- A comma goes to the next parameter, also at the end of a default value. -/
theorem Collecting.comma (hF : Collecting l F) (h : Listing F ps s) (g : Sign .comma) :
    SlotStart F ps (l.step g.token s) := by
  have hp : l.readParameters g.token s = s.nextSlot.take := by
    rw [hF.readParameters_eq h.frame (by simp) (by simp)]
    unfold readInList
    rw [if_neg (not_not_intro h.listOpen)]
    split
    · unfold readValue
      rw [if_pos ⟨by simp, h.parenDepth, h.valueDepth⟩]
    rw [if_neg (by simp [Token.opensGroup, h.groupDepth]), if_pos ⟨by simp, h.angleDepth⟩]
  rw [hF.step_eq h.frame h.listOpen (hF.signs _ g (by decide)) (.inl (by rw [hp]; rfl)), hp]
  exact h.nextSlot

theorem Collecting.closeParen (hF : Collecting l F) (h : Listing F ps s) (g : Sign .closeParen) :
    Closed F ps (l.step g.token s) := by
  have hp : l.readParameters g.token s = (Scan.closeList { s with parenDepth := 0 }).take := by
    unfold readParameters
    rw [if_neg (not_not_intro (hF.collects h.frame)), if_neg (by simp),
      if_pos ⟨by simp, by rw [h.parenDepth]; decide⟩]
    rw [h.parenDepth]
    rfl
  rw [hF.step_eq h.frame h.listOpen (hF.signs _ g (by decide)) (.inl (by rw [hp]; rfl)), hp]
  exact ⟨h.frame, h.parameters, rfl⟩

/-- The first parenthesis opens the list. -/
theorem Collecting.openParen (hF : Collecting l F) (h : Unopened F s) (g : Sign .openParen) :
    (l.readParameters g.token s).taken = true ∧
      SlotStart F [] (l.readParameters g.token s).scan := by
  have hp : l.readParameters g.token s = (Scan.openList { s with parenDepth := 1 }).take := by
    unfold readParameters
    rw [if_neg (not_not_intro (hF.collects h.frame)), if_pos (by simp),
      h.parenDepth]
    rfl
  have hdepths : (Scan.openList { s with parenDepth := 1 }).depths = ⟨true, 1, 0, 0, 0⟩ := by
    simp [Scan.depths, Scan.openList, Scan.nextSlot, h.groupDepth, h.angleDepth]
  rw [hp]
  exact ⟨rfl, ⟨h.frame, h.parameters, hdepths⟩, rfl, rfl, rfl, rfl⟩

section

variable {α σ : Type} {f : α → List Token} {C : Scan → Prop}
  {L : List Token → Scan → (Scan → Prop) → Prop} {act : σ → α → σ} {x : σ}
  {P Q : σ → Scan → Prop}

/-- Items with commas between them, each of which acts on what is known of the scan: `P` holds
before an item, and `Q` behind it. -/
structure FoldsItems (l : Language) (C : Scan → Prop)
    (L : List Token → Scan → (Scan → Prop) → Prop) (f : α → List Token) (act : σ → α → σ)
    (P Q : σ → Scan → Prop) : Prop where
  walk : Walk l C L
  ready : ∀ x s, Q x s → C s
  comma : ∀ x s (c : Sign .comma), Q x s → P x (l.step c.token s)
  item : ∀ a x s, P x s → L (f a) s (Q (act x a))
  empty : ∀ x s, P x s → Q x s

theorem FoldsItems.leads_more (hitems : FoldsItems l C L f act P Q)
    (more : List (Sign .comma × α)) (h : Q x s) :
    L (Listed.moreTokens f more) s (Q ((more.map (·.2)).foldl act x)) := by
  induction more generalizing x s with
  | nil => exact hitems.walk.nil h
  | cons item more ih =>
    obtain ⟨comma, a⟩ := item
    refine hitems.walk.cons (hitems.ready _ _ h) ?_
    exact hitems.walk.append (hitems.item a x _ (hitems.comma _ _ comma h)) fun s' h' => ih h'

theorem FoldsItems.leads (hitems : FoldsItems l C L f act P Q) (items : Listed α) (h : P x s) :
    L (items.tokens f) s (Q (items.items.foldl act x)) := by
  cases items with
  | empty => exact hitems.walk.nil (hitems.empty _ _ h)
  | of a more =>
    exact hitems.walk.append (hitems.item a x s h) fun s' h' => hitems.leads_more more h'

/-- Right before a parameter list.  The reader of functions leaves the parenthesis that opens the
list, but it may declare the function by it. -/
structure AtList (l : Language) (F : Frame → Prop) (s : Scan) : Prop where
  done : s.done = false
  kind : s.decl.kind ≠ some .classLike
  opens : ∀ o : Sign .openParen, ∃ s', l.readFunction o.token s = s'.leave ∧ Unopened F s'

theorem AtList.openParen (hF : Collecting l F) (h : AtList l F s) (o : Sign .openParen) :
    SlotStart F [] (l.step o.token s) := by
  have hin := hF.signs _ o (by decide)
  obtain ⟨s₁, hf, hopen⟩ := h.opens o
  obtain ⟨htaken, hstart⟩ := hF.openParen hopen o
  rw [step_of_readParameters (inert_iff.1 hin).2.2.2 h.done (readClass_of_inert hin h.kind) hf
    htaken]
  exact hstart

/-- A whole parameter list. -/
theorem FoldsItems.leads_parens {F : σ → Frame → Prop} {r : σ → List Parameter}
    (hitems : FoldsItems l C L f act (fun x => SlotStart (F x) (r x)) Q)
    (hF : ∀ x, Collecting l (F x)) (hQ : ∀ x s, Q x s → Listing (F x) (r x) s)
    (hx : r x = []) (hc : C s) (h : AtList l (F x) s) (p : Parens α) :
    L (p.tokens f) s (Closed (F (p.slots.items.foldl act x))
      (r (p.slots.items.foldl act x))) := by
  have hstart := h.openParen (hF x) p.opener
  rw [← hx] at hstart
  refine hitems.walk.cons hc ?_
  refine hitems.walk.append (hitems.leads p.slots hstart) fun s' h' => ?_
  exact hitems.walk.cons (hitems.ready _ _ h')
    (hitems.walk.nil ((hF _).closeParen (hQ _ _ h') p.closer))

end

section

variable {α : Type} {f : α → List Token} {g : α → List Parameter}
  {P Q : List Parameter → Scan → Prop} {C : Scan → Prop}
  {L : List Token → Scan → (Scan → Prop) → Prop}

/-- Items with commas between them, each of which adds its parameters. -/
structure ReadsItems (l : Language) (C : Scan → Prop)
    (L : List Token → Scan → (Scan → Prop) → Prop) (f : α → List Token) (g : α → List Parameter)
    (P Q : List Parameter → Scan → Prop) : Prop where
  walk : Walk l C L
  ready : ∀ ps s, Q ps s → C s
  comma : ∀ ps s (c : Sign .comma), Q ps s → P ps (l.step c.token s)
  item : ∀ a ps s, P ps s → L (f a) s (Q (ps ++ g a))
  empty : ∀ ps s, P ps s → Q ps s

theorem ReadsItems.folds (hitems : ReadsItems l C L f g P Q) :
    FoldsItems l C L f (fun ps a => ps ++ g a) P Q :=
  ⟨hitems.walk, hitems.ready, hitems.comma, hitems.item, hitems.empty⟩

theorem foldl_append_parameters (items : List α) (ps : List Parameter) :
    items.foldl (fun ps a => ps ++ g a) ps = ps ++ items.flatMap g := by
  rw [List.foldl_append_eq_append, List.flatMap_def]

/-- The parameters of a list are those of its items, in order. -/
theorem ReadsItems.leads (hitems : ReadsItems l C L f g P Q) (items : Listed α) (h : P ps s) :
    L (items.tokens f) s (Q (ps ++ items.items.flatMap g)) := by
  rw [← foldl_append_parameters]
  exact hitems.folds.leads items h

theorem ReadsItems.leads_parens (hitems : ReadsItems l C L f g (SlotStart F) Q)
    (hF : Collecting l F) (hQ : ∀ ps s, Q ps s → Listing F ps s) (hc : C s) (h : AtList l F s)
    (p : Parens α) : L (p.tokens f) s (Closed F (p.slots.items.flatMap g)) := by
  have hparens := hitems.folds.leads_parens (F := fun _ => F) (r := id) (fun _ => hF) hQ
    rfl hc h p
  rw [foldl_append_parameters] at hparens
  exact hparens

/-- Each slot adds its parameters. -/
def ReadsSlots (l : Language) (F : Frame → Prop) (f : α → List Token)
    (g : α → List Parameter) : Prop :=
  ∀ a ps s, SlotStart F ps s → Leads l (f a) s (Listing F (ps ++ g a))

theorem Collecting.readsItems (hF : Collecting l F) (hslot : ReadsSlots l F f g) :
    ReadsItems l (·.done = false) (Leads l) f g (SlotStart F) (Listing F) where
  walk := Leads.walk
  ready _ _ h := hF.done _ h.frame
  comma _ _ c h := hF.comma h c
  item := hslot
  empty _ _ h := h.toInList

theorem Collecting.leads_parens (hF : Collecting l F) (hslot : ReadsSlots l F f g)
    (h : AtList l F s) (p : Parens α) :
    Leads l (p.tokens f) s (Closed F (p.slots.items.flatMap g)) :=
  (hF.readsItems hslot).leads_parens hF (fun _ _ h => h) h.done h p

end

/-! ## Single parameters -/

/-- Inside a parameter, with its type due or not. -/
structure InSlot (F : Frame → Prop) (ps : List Parameter) (due : Bool) (s : Scan) : Prop
    extends InList F ps 1 0 0 s where
  inValue : s.inValue = false
  typeDue : s.typeDue = due
  slotStart : s.slotStart = false

/-- Whether a token has a meaning in every list, outside of values and groups. -/
def divides (t : Token) : Bool :=
  t.is .openParen || t.is .closeParen || t.is .comma || t.is .equals

theorem divides_eq_false (h : t.isPlain = true) : divides t = false := by
  simp [divides, Token.is_eq_false h]

/-- Other tokens are read as part of a parameter. -/
theorem Collecting.readParameters_slot (hF : Collecting l F) (h : Listing F ps s)
    (hv : s.inValue = false) (ht : divides t = false)
    (hg : s.slotStart = false ∨ t.opensGroup = false) :
    l.readParameters t s =
      if (l.readSlot t s).taken then Scan.take { (l.readSlot t s).scan with slotStart := false }
      else l.readSlot t s := by
  simp only [divides, Bool.or_eq_false_iff] at ht
  obtain ⟨⟨⟨h1, h2⟩, h3⟩, h4⟩ := ht
  rw [hF.readParameters_eq h.frame h1 h2]
  unfold readInList
  rw [if_neg (not_not_intro h.listOpen),
    if_neg (ne_true_of_eq_false hv), if_neg,
    if_neg fun hc => ne_true_of_eq_false h3 hc.1,
    if_neg fun hc => ne_true_of_eq_false h4 hc.1]
  rintro (hd | ⟨h5, h6⟩)
  · exact hd h.groupDepth
  · rcases hg with hg | hg
    · rw [hg] at h5
      cases h5
    · rw [hg] at h6
      cases h6

theorem Collecting.step_slot (hF : Collecting l F) (h : Listing F ps s) (hv : s.inValue = false)
    (hin : l.inert t = true) (ht : divides t = false)
    (hg : s.slotStart = false ∨ t.opensGroup = false) (hs : l.readSlot t s = s'.take) :
    l.step t s = { s' with slotStart := false } := by
  have hread : l.readParameters t s = Scan.take { s' with slotStart := false } := by
    rw [hF.readParameters_slot h hv ht hg, hs]
    rfl
  rw [hF.step_eq h.frame h.listOpen hin (.inl (by rw [hread]; rfl)), hread]
  rfl

/-- In a function, a token that no slot takes changes nothing. -/
theorem Collecting.step_idle (hF : Collecting l F) (h : Listing F ps s) (hv : s.inValue = false)
    (hin : l.inert t = true) (ht : divides t = false)
    (hg : s.slotStart = false ∨ t.opensGroup = false) (hk : s.decl.kind = some .function)
    (hs : l.readSlot t s = s.leave) : l.step t s = s := by
  rw [hF.step_eq h.frame h.listOpen hin (.inr hk), hF.readParameters_slot h hv ht hg, hs]
  rfl

theorem InList.lastHasType {q : Parameter} {x : String} (h : Listing F (ps ++ [q]) s)
    (hq : q.type = some x) (hx : x ≠ "") : s.decl.lastHasType = true := by
  rw [Declaration.lastHasType, Declaration.lastParameter?_of_concat h.parameters]
  simp [Parameter.hasType, hq, hx]

/-- A bracket that goes to the type of the last parameter. -/
theorem Collecting.slot_openBracket (hF : Collecting l F) {due : Bool} {q : Parameter} {x : String}
    (h : InSlot F (ps ++ [{ q with type := some x }]) due s) (g : Sign .openBracket)
    (hread : l.readSlot g.token s = Scan.take { s with decl := s.decl.arrayLastParameter }) :
    InSlot F (ps ++ [{ q with type := some (x ++ "[]") }]) due (l.step g.token s) := by
  rw [hF.step_slot h.toInList h.inValue (hF.signs _ g (by decide)) (by simp [divides])
    (.inl h.slotStart) hread]
  exact ⟨⟨h.frame, Declaration.parameters_modifyLastParameter h.parameters _, h.depths⟩,
    h.inValue, h.typeDue, rfl⟩

theorem Collecting.slot_closeBracket (hF : Collecting l F) {due : Bool} (h : InSlot F ps due s)
    (g : Sign .closeBracket) (hread : l.readSlot g.token s = s.take) : l.step g.token s = s := by
  rw [hF.step_slot h.toInList h.inValue (hF.signs _ g (by decide)) (by simp [divides])
    (.inl h.slotStart) hread, ← h.slotStart]

/-- Pairs of brackets go to the type of the last parameter, where the slots of a language do so. -/
theorem Collecting.leads_brackets (hF : Collecting l F) {due : Bool}
    (hopen : ∀ (s : Scan) (g : Sign .openBracket), s.typeDue = due → s.decl.lastHasType = true →
      l.readSlot g.token s = Scan.take { s with decl := s.decl.arrayLastParameter })
    (hclose : ∀ (s : Scan) (g : Sign .closeBracket), s.typeDue = due →
      s.decl.lastHasType = true → l.readSlot g.token s = s.take)
    (arrays : List Brackets) {q : Parameter} {x : String} (hx : x ≠ "")
    (h : InSlot F (ps ++ [{ q with type := some x }]) due s) :
    Leads l (arrays.flatMap Brackets.tokens) s
      (InSlot F (ps ++ [{ q with type := some (arrayText x arrays.length) }]) due) := by
  induction arrays generalizing x s with
  | nil =>
    rw [List.length_nil, arrayText_zero]
    exact .nil h
  | cons b arrays ih =>
    have hx' : x ++ "[]" ≠ "" := by simp
    have h' := hF.slot_openBracket h b.opener (hopen s b.opener h.typeDue (h.lastHasType rfl hx))
    refine .cons (hF.done _ h.frame) (.cons (hF.done _ h'.frame) ?_)
    rw [hF.slot_closeBracket h' b.closer (hclose _ b.closer h'.typeDue (h'.lastHasType rfl hx')),
      List.length_cons, arrayText_succ]
    exact ih hx' h'

/-! ## Default values -/

/-- In a default value, with `p` parentheses and `b` other brackets of the value open. -/
structure InValue (F : Frame → Prop) (ps : List Parameter) (p b : Nat) (s : Scan) : Prop
    extends InList F ps (p + 1) b 0 s where
  inValue : s.inValue = true

/-- A value that grows by tokens, after a last token that ended at `stop`. -/
def extendValue (value : String) (stop : Int) : List Token → String
  | [] => value
  | t :: ts =>
    extendValue (value ++ (if value ≠ "" ∧ stop < t.start then " " else "") ++ t.text) t.stop ts

theorem extendValue_append (value : String) (hv : value ≠ "") (stop : Int) (t : Token)
    (ts : List Token) (hts : ∀ u ∈ t :: ts, u.text ≠ "") :
    extendValue value stop (t :: ts) =
      value ++ (if stop < t.start then " " else "") ++ Token.joined (t :: ts) := by
  have hne : ∀ x y : String, y ≠ "" → x ++ y ≠ "" := by
    intro x y hy he
    exact hy (String.append_eq_empty_iff.1 he).2
  induction ts generalizing value stop t with
  | nil => simp [extendValue, Token.joined, hv]
  | cons u ts ih =>
    have hu : ∀ x ∈ u :: ts, x.text ≠ "" := fun x hx => hts x (List.mem_cons_of_mem _ hx)
    have ht : t.text ≠ "" := hts t List.mem_cons_self
    rw [extendValue, ih _ (hne _ _ ht) _ _ hu, Token.joined]
    simp only [ne_eq, hv, not_false_eq_true, true_and, String.append_assoc]

/-- What is read is the value as it stands in the line. -/
theorem extendValue_empty (stop : Int) (ts : List Token) (hts : ∀ u ∈ ts, u.text ≠ "") :
    extendValue "" stop ts = Token.joined ts := by
  cases ts with
  | nil => rfl
  | cons t ts =>
    have ht : t.text ≠ "" := hts t List.mem_cons_self
    cases ts with
    | nil => simp [extendValue, Token.joined]
    | cons u ts =>
      have hu : ∀ x ∈ u :: ts, x.text ≠ "" := fun x hx => hts x (List.mem_cons_of_mem _ hx)
      rw [extendValue, extendValue_append _ (by simpa using ht) _ _ _ hu, Token.joined]
      simp

theorem readInList_of_inValue (ho : s.listOpen = true) (hv : s.inValue = true) :
    l.readInList t s = (readValue t s).take := by
  unfold readInList
  rw [if_neg (not_not_intro ho), if_pos hv]

/-- A token that is no bracket and ends no value is added to it. -/
theorem readValue_of_no_bracket (hc : ¬(t.is .comma = true ∧ s.parenDepth = 1 ∧ s.valueDepth = 0))
    (h1 : t.opensGroup = false) (h2 : t.closesGroup = false) :
    readValue t s = s.appendValue t := by
  unfold readValue
  rw [if_neg hc, if_neg (ne_true_of_eq_false h1),
    if_neg fun hc => ne_true_of_eq_false h2 hc.1]

theorem opensGroup_of_is {m : Mark} (h : t.is m = true) (h1 : m ≠ .openBrace)
    (h2 : m ≠ .openBracket) : t.opensGroup = false := by
  rw [Token.opensGroup, Token.is_eq_false_of_is h h1, Token.is_eq_false_of_is h h2]
  rfl

theorem closesGroup_of_is {m : Mark} (h : t.is m = true) (h1 : m ≠ .closeBrace)
    (h2 : m ≠ .closeBracket) : t.closesGroup = false := by
  rw [Token.closesGroup, Token.is_eq_false_of_is h h1, Token.is_eq_false_of_is h h2]
  rfl

theorem is_of_group (h : t.opensGroup = true ∨ t.closesGroup = true) {m : Mark}
    (hm : m ∉ [.openBrace, .openBracket, .closeBrace, .closeBracket]) : t.is m = false := by
  simp only [List.mem_cons, not_or] at hm
  obtain ⟨h1, h2, h3, h4, -⟩ := hm
  unfold Token.opensGroup Token.closesGroup at h
  simp only [Bool.or_eq_true] at h
  rcases h with (h | h) | (h | h)
  · exact Token.is_eq_false_of_is h (Ne.symm h1)
  · exact Token.is_eq_false_of_is h (Ne.symm h2)
  · exact Token.is_eq_false_of_is h (Ne.symm h3)
  · exact Token.is_eq_false_of_is h (Ne.symm h4)

/-- A token of a value goes to its end, and the depths follow the brackets. -/
theorem Collecting.readParameters_value (hF : Collecting l F) {p b : Nat}
    (h : InValue F ps p b s) {ts : List Token} (hb : balanced p b (t :: ts) = true) :
    ∃ p' b' : Nat, balanced p' b' ts = true ∧
      l.readParameters t s =
        (Scan.appendValue { s with parenDepth := p' + 1, valueDepth := b' } t).take := by
  have hcollects : ¬¬l.collects s = true := fun hc => hc (hF.collects h.frame)
  have hp := h.parenDepth
  have hv := h.valueDepth
  unfold balanced at hb
  by_cases h1 : t.is .openParen = true
  · rw [if_pos h1] at hb
    refine ⟨p + 1, b, hb, ?_⟩
    have hdepth : s.parenDepth + 1 = ((p + 1 : Nat) : Int) + 1 := by omega
    unfold readParameters
    rw [if_neg hcollects, if_pos h1]
    dsimp only
    rw [if_neg (by omega), readInList_of_inValue (by exact h.listOpen) (by exact h.inValue),
      readValue_of_no_bracket (fun hc => absurd (Token.eq_of_is h1 hc.1) (by decide))
        (opensGroup_of_is h1 (by decide) (by decide))
        (closesGroup_of_is h1 (by decide) (by decide)), hdepth, ← hv]
  rw [if_neg h1] at hb
  by_cases h2 : t.is .closeParen = true
  · rw [if_pos h2] at hb
    obtain ⟨hp0, hb⟩ := Bool.and_eq_true_iff.1 hb
    replace hp0 : p ≠ 0 := by simpa using hp0
    refine ⟨p - 1, b, hb, ?_⟩
    have hdepth : s.parenDepth - 1 = ((p - 1 : Nat) : Int) + 1 := by omega
    unfold readParameters
    rw [if_neg hcollects, if_neg h1, if_pos ⟨h2, by omega⟩]
    dsimp only
    rw [if_neg (by omega), readInList_of_inValue (by exact h.listOpen) (by exact h.inValue),
      readValue_of_no_bracket (fun hc => absurd (Token.eq_of_is h2 hc.1) (by decide))
        (opensGroup_of_is h2 (by decide) (by decide))
        (closesGroup_of_is h2 (by decide) (by decide)), hdepth, ← hv]
  rw [if_neg h2] at hb
  rw [hF.readParameters_eq h.frame (by simpa using h1) (by simpa using h2),
    readInList_of_inValue h.listOpen h.inValue]
  by_cases h3 : t.opensGroup = true
  · rw [if_pos h3] at hb
    refine ⟨p, b + 1, hb, ?_⟩
    unfold readValue
    rw [if_neg fun hc => ne_true_of_eq_false (is_of_group (.inl h3) (by decide)) hc.1,
      if_pos h3, hv, ← hp]
    rfl
  rw [if_neg h3] at hb
  by_cases h4 : t.closesGroup = true
  · rw [if_pos h4] at hb
    obtain ⟨hb0, hb⟩ := Bool.and_eq_true_iff.1 hb
    replace hb0 : b ≠ 0 := by simpa using hb0
    refine ⟨p, b - 1, hb, ?_⟩
    have hdepth : s.valueDepth - 1 = ((b - 1 : Nat) : Int) := by omega
    unfold readValue
    rw [if_neg fun hc => ne_true_of_eq_false (is_of_group (.inr h4) (by decide)) hc.1,
      if_neg h3, if_pos ⟨h4, by omega⟩, hdepth, ← hp]
  rw [if_neg h4] at hb
  -- a comma inside brackets is part of the value like any other token
  have hcomma : balanced p b ts = true ∧
      ¬(t.is .comma = true ∧ s.parenDepth = 1 ∧ s.valueDepth = 0) := by
    by_cases h5 : t.is .comma = true
    · rw [if_pos h5] at hb
      obtain ⟨hopen, hb⟩ := Bool.and_eq_true_iff.1 hb
      simp only [Bool.or_eq_true, decide_eq_true_eq] at hopen
      exact ⟨hb, fun hc => by omega⟩
    · rw [if_neg h5] at hb
      exact ⟨hb, fun hc => h5 hc.1⟩
  refine ⟨p, b, hcomma.1, ?_⟩
  rw [readValue_of_no_bracket hcomma.2 (by simpa using h3) (by simpa using h4), ← hp, ← hv]

theorem InValue.appendValue {q : Parameter} {p b : Nat} (h : InValue F (ps ++ [q]) p b s)
    (p' b' : Nat) (t : Token) :
    InValue F
      (ps ++ [{ q with value := extendValue q.value s.valueStop [t] }]) p' b'
      (Scan.appendValue { s with parenDepth := p' + 1, valueDepth := b' } t) ∧
    (Scan.appendValue { s with parenDepth := p' + 1, valueDepth := b' } t).valueStop = t.stop := by
  have hparam : s.decl.hasParameter = true := by simp [Declaration.hasParameter, h.parameters]
  unfold Scan.appendValue
  rw [if_pos hparam]
  refine ⟨⟨⟨h.frame, Declaration.parameters_modifyLastParameter h.parameters _, ?_⟩, h.inValue⟩,
    rfl⟩
  simp [Scan.depths, h.listOpen, h.groupDepth, h.angleDepth]

/-- The whole value. -/
theorem Collecting.leads_value (hF : Collecting l F) (ts : List Token) {q : Parameter}
    {p b : Nat} (h : InValue F (ps ++ [q]) p b s) (hin : ∀ t ∈ ts, l.inert t = true)
    (hb : balanced p b ts = true) :
    Leads l ts s
      (Listing F (ps ++ [{ q with value := extendValue q.value s.valueStop ts }])) := by
  induction ts generalizing q p b s with
  | nil =>
    obtain ⟨rfl, rfl⟩ : p = 0 ∧ b = 0 := by simpa [balanced] using hb
    exact .nil ⟨h.frame, h.parameters, h.depths⟩
  | cons t ts ih =>
    obtain ⟨p', b', hb', hread⟩ := hF.readParameters_value h hb
    have hstep : l.step t s =
        Scan.appendValue { s with parenDepth := p' + 1, valueDepth := b' } t := by
      rw [hF.step_eq h.frame h.listOpen (hin t List.mem_cons_self) (.inl (by rw [hread]; rfl)),
        hread]
      rfl
    obtain ⟨h', hstop⟩ := h.appendValue p' b' t
    refine .cons (hF.done _ h.frame) ?_
    have := ih h' (fun u hu => hin u (List.mem_cons_of_mem _ hu)) hb'
    rw [hstep]
    rw [hstop] at this
    exact this

/-- An equals sign goes into the default value of the last parameter. -/
theorem Collecting.step_equals_eq (hF : Collecting l F) {q : Parameter}
    (h : Listing F (ps ++ [q]) s) (hv : s.inValue = false) (g : Sign .equals) :
    l.step g.token s = { s.enterValue with typeDue := false } := by
  have hparam : s.decl.hasParameter = true := by simp [Declaration.hasParameter, h.parameters]
  have hread : l.readParameters g.token s = Scan.take { s.enterValue with typeDue := false } := by
    rw [hF.readParameters_eq h.frame (by simp) (by simp)]
    unfold readInList
    rw [if_neg (not_not_intro h.listOpen),
      if_neg (ne_true_of_eq_false hv),
      if_neg (by simp [Token.opensGroup, h.groupDepth]), if_neg (by simp),
      if_pos ⟨by simp, hparam⟩]
  rw [hF.step_eq h.frame h.listOpen (hF.signs _ g (by decide)) (.inl (by rw [hread]; rfl)), hread]
  rfl

theorem Collecting.step_equals (hF : Collecting l F) {q : Parameter}
    (h : Listing F (ps ++ [q]) s) (hv : s.inValue = false) (g : Sign .equals) :
    InValue F (ps ++ [q]) 0 0 (l.step g.token s) := by
  rw [hF.step_equals_eq h hv g]
  exact ⟨⟨h.frame, h.parameters, h.depths⟩, rfl⟩

/-- A parameter takes the default value behind its equals sign. -/
theorem Collecting.leads_default (hF : Collecting l F) (d : Default l) {q : Parameter}
    (h : Listing F (ps ++ [q]) s) (hv : s.inValue = false) (hq : q.value = "") :
    Leads l d.tokens s (Listing F (ps ++ [{ q with value := d.value.text }])) := by
  have hvalue := hF.leads_value d.value.tokens (hF.step_equals h hv d.equals) d.value.inert
    d.value.balanced
  rw [hq, extendValue_empty _ _ d.value.nonempty] at hvalue
  exact .cons (hF.done _ h.frame) hvalue

theorem Collecting.leads_default? (hF : Collecting l F) (d : Option (Default l)) {q : Parameter}
    (h : Listing F (ps ++ [q]) s) (hv : s.inValue = false) (hq : q.value = "") :
    Leads l ((d.map Default.tokens).getD []) s
      (Listing F (ps ++ [{ q with value := (d.map (·.value.text)).getD "" }])) := by
  cases d with
  | none =>
    have hq' : { q with value := "" } = q := by rw [← hq]
    refine .nil ?_
    show Listing F (ps ++ [{ q with value := "" }]) s
    rw [hq']
    exact h
  | some d => exact hF.leads_default d h hv hq

/-! ## Before and behind the list -/

/-- In a function, tokens that the reader of signatures takes. -/
theorem step_of_readSignature (ht : l.inert t = true) (hd : s.done = false)
    (hk : s.decl.kind = some .function) (h : (l.readSignature t s).taken = true) :
    l.step t s = (l.readSignature t s).scan := by
  have hf := readFunction_of_inert ht hk
  rw [step_of_readFunction (inert_iff.1 ht).2.2.2 hd
    (readClass_of_inert ht (by rw [hk]; decide)) (by rw [hf]; exact h), hf]

/-- Words that change nothing at the start of the line. -/
theorem leads_modifiers {p : String → Bool} (ws : List (Word p))
    (h : ∀ w : Word p, l.step w.token {} = {}) : Leads l (ws.map (·.token)) {} (· = {}) := by
  refine Leads.of_invariant (fun s hs => by rw [hs]) (fun t ht s hs => ?_) rfl
  obtain ⟨w, -, rfl⟩ := List.mem_map.1 ht
  rw [hs, h]

/-- The scan when the word and the name of a function are read. -/
def named (name : String) : Scan :=
  { decl := { name, kind := some .function, returns := { present := true } } }

/-- In a function, while its list is not open. -/
structure Outside (s : Scan) : Prop where
  kind : s.decl.kind = some .function
  done : s.done = false
  listOpen : s.listOpen = false

/-- A name that is due is taken; a function that has one keeps it. -/
theorem Outside.step_name (h : Outside s) (hdue : s.nameDue = true) (hj : l.skips t = false)
    (hp : t.isPlain = true) (hn : l.isName t.text = true) :
    l.step t s = { s with decl := s.decl.setName t.text, nameDue := false } := by
  have hin := inert_of_not_isReserved hp (isReserved_of_isName hn) hj
  have hread : l.readSignature t s =
      Scan.take { s with decl := s.decl.setName t.text, nameDue := false } := by
    unfold readSignature
    rw [if_neg (ne_true_of_eq_false h.listOpen), if_neg (by simp [Token.is_eq_false hp]),
      if_neg (by simp [Token.is_eq_false hp]), if_pos ⟨hdue, hn⟩]
  rw [step_of_readSignature hin h.done h.kind (by rw [hread]; rfl), hread]
  rfl

/-- The name behind the word of a function. -/
theorem step_name (hj : ∀ t, l.skips t = false) (w : Word l.isName) :
    l.step w.token { named "" with nameDue := true } = named w.text :=
  Outside.step_name ⟨rfl, rfl, rfl⟩ rfl (hj _) w.plain w.holds

/-- Tokens that the reader of signatures leaves change nothing, but for parentheses. -/
theorem Outside.step_of_leave (h : Outside s) (hin : l.inert t = true)
    (h1 : t.is .openParen = false) (h2 : t.is .closeParen = false)
    (hf : l.readSignature t s = s.leave) : l.step t s = s := by
  have hp : l.readParameters t s = s.leave := by
    unfold readParameters readInList
    simp [h1, h2, h.listOpen]
  rw [← readFunction_of_inert hin h.kind] at hf
  rw [step_of_readVariable (inert_iff.1 hin).2.2.2 h.done
    (readClass_of_inert hin (by rw [h.kind]; decide)) hf hp, readVariable_of_function h.kind]
  rfl

/-- The scan when the return type `x` is read. -/
def typed (s : Scan) (x : String) : Scan :=
  { s with decl := s.decl.setReturnType (some x), returnDue := false }

theorem Outside.typed (h : Outside s) (x : String) : Outside (typed s x) :=
  ⟨h.kind, h.done, h.listOpen⟩

theorem Outside.step_colon (h : Outside s) (hl : SignsInert l) (g : Sign .colon)
    (hn : s.nameDue = true → l.isName ":" = false) :
    l.step g.token s = { s with returnDue := true } := by
  have hread : l.readSignature g.token s = Scan.take { s with returnDue := true } := by
    unfold readSignature
    rw [if_neg (ne_true_of_eq_false h.listOpen), if_neg (by simp), if_neg (by simp),
      if_neg fun hc => ne_true_of_eq_false (hn hc.1) hc.2, if_pos (by simp)]
  rw [step_of_readSignature (hl _ g (by decide)) h.done h.kind (by rw [hread]; rfl), hread]
  rfl

theorem Outside.step_returnType (h : Outside s) (ht : l.inert t = true) (hp : t.isPlain = true)
    (hr : isReturnType l t.text = true) (hn : s.nameDue = true → l.isName t.text = false) :
    l.step t { s with returnDue := true } = Language.typed s t.text := by
  have htype : l.isType t.text = true ∨ l.beginsWord t.text = true := by
    unfold isReturnType at hr
    simp only [Bool.and_eq_true, Bool.or_eq_true] at hr
    exact hr.1.1
  have hread : l.readSignature t { s with returnDue := true } =
      (Language.typed s t.text).take := by
    unfold readSignature
    rw [if_neg (ne_true_of_eq_false h.listOpen),
      if_neg (by simp [Token.is_eq_false hp]), if_neg (by simp [Token.is_eq_false hp]),
      if_neg fun hc => ne_true_of_eq_false (hn hc.1) hc.2,
      if_neg (by simp [Token.is_eq_false hp]), if_pos ⟨rfl, htype⟩]
    rfl
  rw [step_of_readSignature (s := { s with returnDue := true }) ht h.done h.kind
    (by rw [hread]; rfl), hread]
  rfl

theorem Outside.reads_brackets (h : Outside s) (hl : SignsInert l) (arrays : List Brackets)
    {x : String} (hx : x ≠ "") :
    Reads l (arrays.flatMap Brackets.tokens) (Language.typed s x)
      (Language.typed s (arrayText x arrays.length)) := by
  induction arrays generalizing x with
  | nil =>
    rw [List.length_nil, arrayText_zero]
    exact .nil
  | cons b arrays ih =>
    have hx' : x ++ "[]" ≠ "" := by simp
    have hopen : l.readSignature b.opener.token (Language.typed s x) =
        (Language.typed s (x ++ "[]")).take := by
      unfold readSignature
      rw [if_neg (ne_true_of_eq_false ((h.typed x).listOpen)),
        if_pos ⟨by simp, by simp [Language.typed, Declaration.setReturnType, Returns.hasType, hx],
          Bool.false_ne_true⟩]
      rfl
    have hclose : l.readSignature b.closer.token (Language.typed s (x ++ "[]")) =
        (Language.typed s (x ++ "[]")).take := by
      unfold readSignature
      rw [if_neg (ne_true_of_eq_false ((h.typed _).listOpen)), if_neg (by simp),
        if_pos ⟨by simp, by simp [Language.typed, Declaration.setReturnType, Returns.hasType]⟩]
    refine .cons h.done ?_
    rw [step_of_readSignature (hl _ b.opener (by decide)) (h.typed x).done (h.typed x).kind
      (by rw [hopen]; rfl), hopen]
    refine .cons h.done ?_
    show Reads l _ (l.step b.closer.token (Language.typed s (x ++ "[]"))) _
    rw [step_of_readSignature (hl _ b.closer (by decide)) (h.typed _).done (h.typed _).kind
      (by rw [hclose]; rfl), hclose, List.length_cons, arrayText_succ]
    exact ih hx'

theorem inert_of_isReturnType (hp : t.isPlain = true) (hj : l.skips t = false)
    (hr : isReturnType l t.text = true) : l.inert t = true := by
  unfold isReturnType at hr
  simp only [Bool.and_eq_true, Bool.not_eq_true'] at hr
  exact inert_iff.2 ⟨hr.1.2, hr.2, fun _ => Token.is_eq_false hp _, hj⟩

theorem isReturnType_of_not_isReserved {x : String} (h : l.isType x = true)
    (hr : l.isReserved x = false) : isReturnType l x = true := by
  have hclass : l.grammar.has .classWord x = false := has_eq_false_of_not_isReserved hr (by decide)
  have hword : l.grammar.has .functionWord x = false :=
    has_eq_false_of_not_isReserved hr (by decide)
  simp [isReturnType, h, hclass, hword]

/-- A return type is read, unless a name is due and the type could be one. -/
theorem Outside.reads_returnType (h : Outside s) (hl : SignsInert l) (hj : ∀ t, l.skips t = false)
    (r : Ascription (isReturnType l))
    (hn : s.nameDue = true → l.isName ":" = false ∧ l.isName r.type.type.text = false) :
    Reads l r.tokens s (Language.typed s r.text) := by
  obtain ⟨colon, type, arrays⟩ := r
  have hne : type.text ≠ "" := by
    intro he
    have hr := type.holds
    rw [show type.token.text = "" from he] at hr
    simp [isReturnType, isType_empty, beginsWord_empty] at hr
  have hin := inert_of_isReturnType type.plain (hj _) type.holds
  refine .cons h.done ?_
  rw [h.step_colon hl colon fun hd => (hn hd).1]
  refine .cons h.done ?_
  rw [h.step_returnType hin type.plain type.holds fun hd => (hn hd).2]
  exact h.reads_brackets hl arrays hne

/-- Whether a token has a meaning behind a parameter list. -/
def followsList (t : Token) : Bool :=
  [.openParen, .closeParen, .openBracket, .closeBracket, .colon, .openBrace, .semicolon].any t.is

theorem followsList_of_isPlain (h : t.isPlain = true) : followsList t = false := by
  simp [followsList, Token.is_eq_false h]

/-- What ends a declaration changes nothing in the record. -/
theorem Outside.decl_ending (h : Outside s) (hl : SignsInert l) (e : Ending)
    (hn : s.nameDue = true → ∀ m : Mark, l.isName m.label = false)
    (hr : s.returnDue = true →
      ∀ m : Mark, l.isType m.label = false ∧ l.beginsWord m.label = false) :
    (l.run e.tokens s).decl = s.decl := by
  have hend : ∀ (m : Mark) (g : Sign m) rest, m = .openBrace ∨ m = .semicolon →
      (l.run (g.token :: rest) s).decl = s.decl := by
    intro m g rest hm
    have harrow : m ≠ .arrow := by
      rintro rfl
      rcases hm with hm | hm <;> cases hm
    have hread : l.readSignature g.token s =
        Scan.take { s with nameDue := false, done := true } := by
      unfold readSignature
      rw [if_neg (ne_true_of_eq_false h.listOpen), if_neg (by rcases hm with rfl | rfl <;> simp),
        if_neg (by rcases hm with rfl | rfl <;> simp),
        if_neg fun hc => ne_true_of_eq_false (hn hc.1 m) hc.2,
        if_neg (by rcases hm with rfl | rfl <;> simp), if_neg,
        if_pos (by rcases hm with rfl | rfl <;> simp)]
      rintro ⟨hd, htype | hbegins⟩
      · exact ne_true_of_eq_false (hr hd m).1 htype
      · exact ne_true_of_eq_false (hr hd m).2 hbegins
    have hstep : l.step g.token s = { s with nameDue := false, done := true } := by
      rw [step_of_readSignature (hl m g harrow) h.done h.kind (by rw [hread]; rfl), hread]
      rfl
    have hfinished : Scan.finished { s with nameDue := false, done := true } = true := by
      unfold Scan.finished
      rw [h.listOpen]
      rfl
    rw [run_cons (finished_eq_false h.done), hstep, run_of_finished hfinished]
  cases e with
  | line => rfl
  | block opener rest => exact hend _ opener rest (.inl rfl)
  | stop semicolon rest => exact hend _ semicolon rest (.inr rfl)

/-- Behind the name and the parameters of a function. -/
structure Headed (s : Scan) : Prop where
  kind : s.decl.kind = some .function
  done : s.done = false
  nameDue : s.nameDue = false
  listOpen : s.listOpen = false

theorem Headed.outside (h : Headed s) : Outside s := ⟨h.kind, h.done, h.listOpen⟩

theorem Headed.reads_returnType (h : Headed s) (hl : SignsInert l) (hj : ∀ t, l.skips t = false)
    (r : Ascription (isReturnType l)) : Reads l r.tokens s (Language.typed s r.text) :=
  h.outside.reads_returnType hl hj r fun hd => absurd hd (ne_true_of_eq_false h.nameDue)

/-- Other tokens change nothing there, unless a return type is due. -/
theorem Headed.step_idle (h : Headed s) (hr : s.returnDue = false) (hin : l.inert t = true)
    (ht : followsList t = false) : l.step t s = s := by
  simp only [followsList, List.any_cons, List.any_nil, Bool.or_false, Bool.or_eq_false_iff] at ht
  obtain ⟨h1, h2, h3, h4, h5, h6, h7⟩ := ht
  refine h.outside.step_of_leave hin h1 h2 ?_
  unfold readSignature
  simp [h.listOpen, h.nameDue, hr, h3, h4, h5, h6, h7]

theorem Headed.decl_ending (h : Headed s) (hl : SignsInert l) (hr : s.returnDue = false)
    (e : Ending) : (l.run e.tokens s).decl = s.decl :=
  h.outside.decl_ending hl e (fun hd => absurd hd (ne_true_of_eq_false h.nameDue))
    fun hd => absurd hd (ne_true_of_eq_false hr)

/-! ## The whole declaration -/

/-- The frame of a function named `n` that returns `r`, as far as it is read. -/
structure Announces (n : String) (r : Returns) (f : Frame) : Prop where
  name : f.name = n
  kind : f.kind = some .function
  returns : f.returns = r
  nameDue : f.nameDue = false
  returnDue : f.returnDue = false
  done : f.done = false

section

variable {n : String} {r : Returns}

theorem collecting_announces (hl : SignsInert l) : Collecting l (Announces n r) :=
  ⟨fun _ h => h.done, fun _ h => .inl h.kind, hl⟩

theorem Unopened.atList (hl : SignsInert l) (hF : ∀ f, F f → Announces n r f)
    (h : Unopened F s) : AtList l F s where
  done := (hF _ h.frame).done
  kind := by
    rw [show s.decl.kind = _ from (hF _ h.frame).kind]
    decide
  opens o := by
    have hn : s.nameDue = false := (hF _ h.frame).nameDue
    have hr : s.returnDue = false := (hF _ h.frame).returnDue
    refine ⟨s, ?_, h⟩
    rw [readFunction_of_inert (hl _ o (by decide)) (hF _ h.frame).kind]
    unfold readSignature
    simp [hn, hr]

theorem Closed.headed (h : Closed (Announces n r) ps s) : Headed s :=
  ⟨h.frame.kind, h.frame.done, h.frame.nameDue, h.listOpen⟩

theorem Closed.decl_eq (h : Closed (Announces n r) ps s) :
    s.decl = { name := n, kind := some .function, parameters := ps, returns := r } := by
  rw [← h.frame.name, ← h.frame.kind, ← h.parameters, ← h.frame.returns]
  rfl

theorem Closed.leads_returnType? (h : Closed (Announces n { present := true }) ps s)
    (hl : SignsInert l) (hj : ∀ t, l.skips t = false)
    (x : Option (Ascription (isReturnType l))) :
    Leads l ((x.map Ascription.tokens).getD []) s
      (Closed (Announces n { present := true, type := x.map Ascription.text }) ps) := by
  cases x with
  | none => exact .nil h
  | some x =>
    refine ⟨_, h.headed.reads_returnType hl hj x, ⟨h.frame.name, h.frame.kind, ?_,
      h.frame.nameDue, rfl, h.frame.done⟩, h.parameters, h.listOpen⟩
    show ({ s.decl.returns with type := some x.text } : Returns) = _
    rw [show s.decl.returns = _ from h.frame.returns]
    rfl

theorem finish_of_function (hk : s.decl.kind = some .function) (mixed : Bool) :
    l.finish mixed s = l.finish mixed { decl := s.decl } := by
  have hsettle : ∀ s' : Scan, s'.decl.kind = some .function → l.settleKind s' = s' := by
    intro s' hk'
    unfold settleKind
    rw [if_pos (by rw [hk']; rfl)]
  unfold finish
  rw [hsettle s hk, hsettle { decl := s.decl } hk]

/-- The record of a function, outside of the C family. -/
theorem finish_function (hl : l.isCFamily = false) (mixed : Bool) (n : String)
    (ps : List Parameter) (r : Returns) :
    l.finish mixed
      { decl := { name := n, kind := some .function, parameters := ps, returns := r } } =
    { name := n
      kind := some .function
      parameters := ps.map fun p => { p with type := l.formatType mixed p.type }
      returns :=
        { present := r.present && !l.isVoid r.type, type := l.formatType mixed r.type } } := by
  have hparameters : ∀ d : Declaration, d.kind = some .function →
      l.settleParameters d = d.parameters := by
    intro d hk
    unfold settleParameters
    rw [if_neg (not_not_intro hk)]
    split
    · rename_i p hp
      rw [if_neg fun hc => ne_true_of_eq_false hl hc.1, hp]
    · rfl
  have hjava : l ≠ .java := by
    rintro rfl
    cases hl
  unfold finish settleReturns
  simp [settleKind, hparameters, hjava]

/-- Once the list and the return type are read, the record is that of the function. -/
theorem read_of_closed (hl : SignsInert l) {ts : List Token}
    (h : Leads l ts {} (Closed (Announces n r) ps)) (e : Ending) (mixed : Bool) :
    l.read mixed (ts ++ e.tokens) = l.finish mixed
      { decl := { name := n, kind := some .function, parameters := ps, returns := r } } := by
  obtain ⟨s, hr, hs⟩ := h
  have hdecl := hs.headed.decl_ending hl hs.frame.returnDue e
  unfold read
  rw [hr, finish_of_function (by rw [hdecl]; exact hs.frame.kind), hdecl, hs.decl_eq]

end

end DocTemplate.Language
