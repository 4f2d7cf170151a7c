import DocTemplate.Proofs.Step

/-!
# Nesting

At any time of a run the brackets of a parameter list and what is expected in it fit together
(`Scan.Nested`):

* no depth is negative, and the list is open exactly if its own parenthesis is;
* a default value is read only in an open list, and for a parameter that is there;
* brackets of a value are open only in a value, brackets of a group only in a list and not in a
  value;
* a type is due only in an open list.

No reader keeps this alone, since a closing bracket counts down whatever is open.  What keeps it is
the order in which a list asks for values, groups and parameters (`Nested.readInList`).

    (l.run ts {}).Nested      (nested_run)

The readers of heads and variables stay out of this, for they do not touch the `listPart` of a scan.
-/

namespace DocTemplate

/-- How the brackets of a list and what is expected in it fit together. -/
structure Scan.Nested (s : Scan) : Prop where
  parenDepth : 0 ≤ s.parenDepth
  groupDepth : 0 ≤ s.groupDepth
  valueDepth : 0 ≤ s.valueDepth
  angleDepth : 0 ≤ s.angleDepth
  listOpen : s.listOpen = true ↔ 1 ≤ s.parenDepth
  value : s.inValue = true → s.listOpen = true ∧ s.decl.parameters ≠ []
  valueBrackets : 0 < s.valueDepth → s.inValue = true
  group : 0 < s.groupDepth → s.listOpen = true ∧ s.inValue = false
  typeDue : s.typeDue = true → s.listOpen = true

/-- The parameter list of a scan and all that is expected in it. -/
structure ListPart where
  parameters : List Parameter
  listOpen : Bool
  typeDue : Bool
  inValue : Bool
  parenDepth : Int
  slotStart : Bool
  groupDepth : Int
  bindingDue : Bool
  rebinding : Bool
  groupClosed : Bool
  valueDepth : Int
  valueStop : Int
  deriving DecidableEq

def Scan.listPart (s : Scan) : ListPart where
  parameters := s.decl.parameters
  listOpen := s.listOpen
  typeDue := s.typeDue
  inValue := s.inValue
  parenDepth := s.parenDepth
  slotStart := s.slotStart
  groupDepth := s.groupDepth
  bindingDue := s.bindingDue
  rebinding := s.rebinding
  groupClosed := s.groupClosed
  valueDepth := s.valueDepth
  valueStop := s.valueStop

namespace Language

variable {l : Language} {t : Token} {s s' : Scan}

/-! ## Readers that stay out of the list -/

theorem listPart_eq (hd : s'.decl.parameters = s.decl.parameters)
    (h : { s'.listPart with parameters := s.decl.parameters } = s.listPart) :
    s'.listPart = s.listPart := by
  rw [← h, ← hd]
  rfl

theorem listPart_readClass (l : Language) (t : Token) (s : Scan) :
    (l.readClass t s).scan.listPart = s.listPart := by
  unfold readClass
  split
  · exact listPart_eq (Declaration.parameters_declare _ _) rfl
  split
  · exact listPart_eq (Declaration.parameters_setName _ _) rfl
  · rfl

theorem listPart_readSignature (l : Language) (t : Token) (s : Scan) :
    (l.readSignature t s).scan.listPart = s.listPart := by
  unfold readSignature
  repeat' split
  all_goals first
    | rfl
    | exact listPart_eq (Declaration.parameters_setName _ _) rfl

theorem listPart_readWordFunction (l : Language) (t : Token) (s : Scan) :
    (l.readWordFunction t s).scan.listPart = s.listPart := by
  unfold readWordFunction
  split
  · exact listPart_eq (Declaration.parameters_declare _ _) rfl
  split
  · exact listPart_readSignature l t s
  · rfl

theorem listPart_nameFunction (s : Scan) (name : String) :
    (nameFunction s name).listPart = s.listPart := by
  refine listPart_eq ?_ rfl
  exact (Declaration.parameters_setName _ _).trans (Declaration.parameters_declare _ _)

theorem listPart_readScriptFunction (l : Language) (t : Token) (s : Scan) :
    (l.readScriptFunction t s).scan.listPart = s.listPart := by
  unfold readScriptFunction
  split
  · exact listPart_nameFunction s s.candidate
  split
  · split
    · exact listPart_nameFunction s s.candidate
    split
    · exact listPart_nameFunction s s.candidate
    · rfl
  · split
    · rfl
    · exact listPart_readSignature l t s
  · rfl

theorem listPart_readTypeAndName (l : Language) (t : Token) (s : Scan) :
    (l.readTypeAndName t s).scan.listPart = s.listPart := by
  unfold readTypeAndName
  split
  · split
    · exact listPart_nameFunction s s.candidate
    · rfl
  split
  · rfl
  split
  · rfl
  · split <;> rfl

theorem listPart_readDeclarator (l : Language) (t : Token) (s : Scan) :
    (l.readDeclarator t s).scan.listPart = s.listPart := by
  unfold readDeclarator
  split
  · split
    · rfl
    split
    · exact listPart_nameFunction s s.typeText
    · exact listPart_readTypeAndName _ t s
  · exact listPart_readTypeAndName l t s

theorem listPart_readTypedFunction (l : Language) (t : Token) (s : Scan) :
    (l.readTypedFunction t s).scan.listPart = s.listPart := by
  unfold readTypedFunction
  split
  · exact listPart_readDeclarator l t s
  · exact listPart_readSignature l t s
  · rfl

/-- No reader of functions touches the parameter list. -/
theorem listPart_readFunction (l : Language) (t : Token) (s : Scan) :
    (l.readFunction t s).scan.listPart = s.listPart := by
  cases l with
  | plain g => exact listPart_readWordFunction _ t s
  | php => exact listPart_readWordFunction _ t s
  | scss =>
    have h := listPart_readWordFunction .scss t s
    show (readSheetFunction .scss t s).scan.listPart = s.listPart
    unfold readSheetFunction
    dsimp only
    split
    · exact h
    · exact h
  | javascript => exact listPart_readScriptFunction _ t s
  | typescript => exact listPart_readScriptFunction _ t s
  | c => exact listPart_readTypedFunction _ t s
  | java => exact listPart_readTypedFunction _ t s

theorem listPart_typeVariable (s : Scan) : (typeVariable s).listPart = s.listPart := by
  unfold typeVariable
  split <;> rfl

theorem listPart_readWordVariable (l : Language) (t : Token) (s : Scan) :
    (l.readWordVariable t s).scan.listPart = s.listPart := by
  unfold readWordVariable
  split
  · split
    · rfl
    · exact listPart_eq (Declaration.parameters_setName _ _) rfl
  split
  · rfl
  split
  · exact listPart_eq (Declaration.parameters_declare _ _) rfl
  split
  · refine (listPart_typeVariable _).trans (listPart_eq ?_ rfl)
    exact (Declaration.parameters_declare _ _).trans (Declaration.parameters_setName _ _)
  split
  · rfl
  · rfl

theorem listPart_readScriptVariable (l : Language) (t : Token) (s : Scan) :
    (l.readScriptVariable t s).scan.listPart = s.listPart := by
  unfold readScriptVariable
  repeat' split
  all_goals first
    | rfl
    | exact listPart_eq (Declaration.parameters_setName _ _) rfl

theorem listPart_readTypedVariable (t : Token) (s : Scan) :
    (readTypedVariable t s).scan.listPart = s.listPart := by
  have htyped : (declareTyped s).listPart = s.listPart := by
    refine listPart_eq ?_ rfl
    exact (Declaration.parameters_setName _ _).trans (Declaration.parameters_declare _ _)
  unfold readTypedVariable
  split
  · rfl
  split
  · dsimp only
    split
    · exact htyped
    · exact htyped
  · rfl

/-- No reader of variables touches the parameter list. -/
theorem listPart_readVariable (l : Language) (t : Token) (s : Scan) :
    (l.readVariable t s).scan.listPart = s.listPart := by
  cases l with
  | plain g => exact listPart_readWordVariable _ t s
  | php => exact listPart_readWordVariable _ t s
  | scss => exact listPart_readWordVariable _ t s
  | javascript => exact listPart_readScriptVariable _ t s
  | typescript => exact listPart_readScriptVariable _ t s
  | c => exact listPart_readTypedVariable t s
  | java => exact listPart_readTypedVariable t s

/-! ## Angle brackets -/

theorem angleStep_nonneg {depth : Int} (h : 0 ≤ depth) (hd : depth ≠ 0) (t : Token) :
    0 ≤ angleStep t depth := by
  unfold angleStep
  split
  · omega
  split
  · omega
  · exact h

/-- A closing angle bracket counts down only where one is open. -/
theorem extendType_nonneg {type x : String} {depth d : Int} (h : 0 ≤ depth)
    (he : l.extendType type depth t = some (x, d)) : 0 ≤ d := by
  unfold extendType at he
  split at he
  · rename_i hd
    cases he
    exact angleStep_nonneg h hd t
  · repeat' split at he
    all_goals cases he
    all_goals omega

theorem angleDepth_readClass (l : Language) (t : Token) (s : Scan) :
    (l.readClass t s).scan.angleDepth = s.angleDepth := by
  unfold readClass
  repeat' split
  all_goals rfl

theorem angleDepth_readSignature (l : Language) (t : Token) (s : Scan) :
    (l.readSignature t s).scan.angleDepth = s.angleDepth := by
  unfold readSignature
  repeat' split
  all_goals rfl

theorem angleDepth_readTypeAndName (l : Language) (t : Token) (h : 0 ≤ s.angleDepth) :
    0 ≤ (l.readTypeAndName t s).scan.angleDepth := by
  unfold readTypeAndName
  split
  · split <;> exact h
  split
  · exact h
  split
  · rename_i he
    exact extendType_nonneg h he
  · split <;> exact h

theorem angleDepth_readDeclarator (l : Language) (t : Token) (h : 0 ≤ s.angleDepth) :
    0 ≤ (l.readDeclarator t s).scan.angleDepth := by
  unfold readDeclarator
  split
  · split
    · rename_i hangle
      by_cases hd : s.angleDepth = 0
      · -- with none open, only an opening bracket is read here
        have ht : t.is .openAngle = true := hangle.2.resolve_right fun hne => hne hd
        show 0 ≤ angleStep t s.angleDepth
        rw [angleStep, if_pos ht]
        omega
      · exact angleStep_nonneg h hd t
    split
    · exact h
    · exact angleDepth_readTypeAndName _ t h
  · exact angleDepth_readTypeAndName l t h

theorem angleDepth_readFunction (l : Language) (t : Token) (h : 0 ≤ s.angleDepth) :
    0 ≤ (l.readFunction t s).scan.angleDepth := by
  have hsignature : 0 ≤ (l.readSignature t s).scan.angleDepth := by
    rw [angleDepth_readSignature]
    exact h
  have hword : 0 ≤ (l.readWordFunction t s).scan.angleDepth := by
    unfold readWordFunction
    split
    · exact h
    split
    · exact hsignature
    · exact h
  have hscript : 0 ≤ (l.readScriptFunction t s).scan.angleDepth := by
    unfold readScriptFunction
    split
    · exact h
    split
    · split
      · exact h
      split <;> exact h
    · split
      · exact h
      · exact hsignature
    · exact h
  have htyped : 0 ≤ (l.readTypedFunction t s).scan.angleDepth := by
    unfold readTypedFunction
    split
    · exact angleDepth_readDeclarator l t h
    · exact hsignature
    · exact h
  cases l with
  | plain g => exact hword
  | php => exact hword
  | scss =>
    show 0 ≤ (readSheetFunction .scss t s).scan.angleDepth
    unfold readSheetFunction
    dsimp only
    split
    · exact hword
    · exact hword
  | javascript => exact hscript
  | typescript => exact hscript
  | c => exact htyped
  | java => exact htyped

theorem angleDepth_readVariable (l : Language) (t : Token) (s : Scan) :
    (l.readVariable t s).scan.angleDepth = s.angleDepth := by
  have htype : ∀ s' : Scan, (typeVariable s').angleDepth = s'.angleDepth := by
    intro s'
    unfold typeVariable
    split <;> rfl
  have hword : (l.readWordVariable t s).scan.angleDepth = s.angleDepth := by
    unfold readWordVariable
    repeat' split
    all_goals first | rfl | exact htype _
  have hscript : (l.readScriptVariable t s).scan.angleDepth = s.angleDepth := by
    unfold readScriptVariable
    repeat' split
    all_goals rfl
  have htyped : (readTypedVariable t s).scan.angleDepth = s.angleDepth := by
    unfold readTypedVariable
    dsimp only
    repeat' split
    all_goals rfl
  cases l with
  | plain g => exact hword
  | php => exact hword
  | scss => exact hword
  | javascript => exact hscript
  | typescript => exact hscript
  | c => exact htyped
  | java => exact htyped

/-! ## Single parameters -/

/-- What a token of a parameter does to the brackets around it: nothing, but that angle brackets may
open and close.  It may lead into a default value, if there is a parameter to have one. -/
structure KeepsBrackets (s s' : Scan) : Prop where
  depths : { s'.depths with angle := s.angleDepth } = s.depths
  angle : 0 ≤ s.angleDepth → 0 ≤ s'.angleDepth
  value : s'.inValue = true → s.inValue = true ∨ s'.decl.parameters ≠ []

namespace KeepsBrackets

/-- Where only the record and the expectation of a type change. -/
theorem of_eq (hd : s'.depths = s.depths) (hv : s'.inValue = s.inValue) : KeepsBrackets s s' where
  depths := by
    rw [hd]
    rfl
  angle h := by
    rw [show s'.angleDepth = s.angleDepth from congrArg Depths.angle hd]
    exact h
  value h := .inl (hv ▸ h)

theorem readTypedSlot (l : Language) (t : Token) (s : Scan) :
    KeepsBrackets s (l.readTypedSlot t s).scan := by
  unfold Language.readTypedSlot
  repeat' split
  all_goals exact of_eq rfl rfl

theorem readSheetSlot (l : Language) (t : Token) (s : Scan) :
    KeepsBrackets s (l.readSheetSlot t s).scan := by
  unfold Language.readSheetSlot
  split
  · rename_i h
    have hne : s.decl.parameters ≠ [] := by
      simpa [Declaration.hasParameter] using h.2
    exact ⟨rfl, id, fun _ => .inr hne⟩
  · exact readTypedSlot l t s

theorem readScriptSlot (l : Language) (t : Token) (s : Scan) :
    KeepsBrackets s (l.readScriptSlot t s).scan := by
  unfold Language.readScriptSlot
  dsimp only
  repeat' split
  all_goals exact of_eq rfl rfl

theorem readDeclaratorSlot (l : Language) (t : Token) (s : Scan) :
    KeepsBrackets s (l.readDeclaratorSlot t s).scan := by
  unfold Language.readDeclaratorSlot
  split
  · split
    · rename_i he
      exact ⟨rfl, fun h => extendType_nonneg h he, .inl⟩
    · split <;> exact of_eq rfl rfl
  · split
    · rename_i he
      split at he
      · exact ⟨rfl, fun h => extendType_nonneg h he, .inl⟩
      · cases he
    · repeat' split
      all_goals exact of_eq rfl rfl

/-- No reader of parameters changes a depth but that of angle brackets. -/
theorem readSlot (l : Language) (t : Token) (s : Scan) :
    KeepsBrackets s (l.readSlot t s).scan := by
  cases l with
  | plain g => exact readTypedSlot _ t s
  | php => exact readTypedSlot _ t s
  | scss => exact readSheetSlot _ t s
  | javascript => exact readScriptSlot _ t s
  | typescript => exact readScriptSlot _ t s
  | c => exact readDeclaratorSlot _ t s
  | java => exact readDeclaratorSlot _ t s

end KeepsBrackets

end Language

/-! ## The list -/

namespace Scan.Nested

open DocTemplate.Language

variable {l : Language} {t : Token} {s s' : Scan}

theorem init : Nested {} where
  parenDepth := by decide
  groupDepth := by decide
  valueDepth := by decide
  angleDepth := by decide
  listOpen := by decide
  value h := by cases h
  valueBrackets h := by cases h
  group h := by cases h
  typeDue h := by cases h

/-- What does not touch the list keeps it nested. -/
theorem congr (h : s.Nested) (hl : s'.listPart = s.listPart) (ha : 0 ≤ s'.angleDepth) :
    s'.Nested := by
  simp only [Scan.listPart, ListPart.mk.injEq] at hl
  obtain ⟨hparameters, hopen, htype, hvalue, hparens, -, hgroup, -, -, -, hdepth, -⟩ := hl
  obtain ⟨h1, h2, h3, -, h5, h6, h7, h8, h9⟩ := h
  rw [← hparens] at h1 h5
  rw [← hgroup] at h2 h8
  rw [← hdepth] at h3 h7
  rw [← hopen] at h5 h6 h8 h9
  rw [← hvalue] at h6 h7 h8
  rw [← hparameters] at h6
  rw [← htype] at h9
  exact ⟨h1, h2, h3, ha, h5, h6, h7, h8, h9⟩

theorem valueDepth_eq_zero (h : s.Nested) (hv : s.inValue = false) : s.valueDepth = 0 := by
  have hnot : ¬0 < s.valueDepth := by
    intro hpos
    rw [h.valueBrackets hpos] at hv
    cases hv
  have hle := h.valueDepth
  omega

theorem groupDepth_eq_zero (h : s.Nested) (hn : ¬(s.listOpen = true ∧ s.inValue = false)) :
    s.groupDepth = 0 := by
  have hnot : ¬0 < s.groupDepth := fun hpos => hn (h.group hpos)
  have hle := h.groupDepth
  omega

/-- Parentheses inside of the list only change its depth. -/
theorem setParens (h : s.Nested) (ho : s.listOpen = true) {p : Int} (hp : 1 ≤ p) :
    Nested { s with parenDepth := p } where
  parenDepth := Int.le_trans (by decide) hp
  groupDepth := h.groupDepth
  valueDepth := h.valueDepth
  angleDepth := h.angleDepth
  listOpen := ⟨fun _ => hp, fun _ => ho⟩
  value := h.value
  valueBrackets := h.valueBrackets
  group := h.group
  typeDue := h.typeDue

/-- At the start of a parameter no value and no group is open. -/
theorem nextSlot (h : s.Nested) (hg : s.groupDepth = 0) : s.nextSlot.Nested where
  parenDepth := h.parenDepth
  groupDepth := h.groupDepth
  valueDepth := Int.le_refl 0
  angleDepth := h.angleDepth
  listOpen := h.listOpen
  value hv := by cases hv
  valueBrackets hv := absurd hv (Int.lt_irrefl 0)
  group hpos := absurd hg (Int.ne_of_gt hpos)
  typeDue ht := by cases ht

theorem openList (h : s.Nested) (hp : s.parenDepth + 1 = 1) :
    (Scan.openList { s with parenDepth := s.parenDepth + 1 }).Nested := by
  have hclosed : ¬s.listOpen = true := by
    rw [h.listOpen]
    omega
  have hg := h.groupDepth_eq_zero fun ho => hclosed ho.1
  have hopen : Nested { s with listOpen := true, parenDepth := s.parenDepth + 1 } := by
    refine ⟨?_, h.groupDepth, h.valueDepth, h.angleDepth, ?_, ?_, h.valueBrackets, ?_, ?_⟩
    · show 0 ≤ s.parenDepth + 1
      omega
    · exact ⟨fun _ => Int.le_of_eq hp.symm, fun _ => rfl⟩
    · exact fun hv => ⟨rfl, (h.value hv).2⟩
    · exact fun hpos => ⟨rfl, (h.group hpos).2⟩
    · exact fun _ => rfl
  exact hopen.nextSlot hg

theorem closeList (ha : 0 ≤ s.angleDepth) : s.closeList.Nested where
  parenDepth := Int.le_refl 0
  groupDepth := Int.le_refl 0
  valueDepth := Int.le_refl 0
  angleDepth := ha
  listOpen := ⟨fun ho => (by cases ho), fun hp => absurd hp (show ¬(1 : Int) ≤ 0 by decide)⟩
  value hv := by cases hv
  valueBrackets hv := absurd hv (Int.lt_irrefl 0)
  group hg := absurd hg (Int.lt_irrefl 0)
  typeDue ht := by cases ht

/-! ### Default values -/

theorem appendValue (h : s.Nested) (t : Token) : (s.appendValue t).Nested := by
  unfold Scan.appendValue
  split
  · refine ⟨h.parenDepth, h.groupDepth, h.valueDepth, h.angleDepth, h.listOpen, fun hv => ?_,
      h.valueBrackets, h.group, h.typeDue⟩
    obtain ⟨ho, hne⟩ := h.value hv
    exact ⟨ho, fun he => hne (modifyLast_eq_nil.1 he)⟩
  · exact h

/-- Brackets of a value are counted while the value is read. -/
theorem setValueDepth (h : s.Nested) (hv : s.inValue = true) {b : Int} (hb : 0 ≤ b) :
    Nested { s with valueDepth := b } :=
  ⟨h.parenDepth, h.groupDepth, hb, h.angleDepth, h.listOpen, h.value, fun _ => hv, h.group,
    h.typeDue⟩

theorem readValue (h : s.Nested) (hv : s.inValue = true) (t : Token) : (readValue t s).Nested := by
  have hb := h.valueDepth
  unfold Language.readValue
  split
  · refine h.nextSlot (h.groupDepth_eq_zero fun hn => ?_)
    rw [hn.2] at hv
    cases hv
  split
  · exact (h.setValueDepth hv (by omega)).appendValue t
  split
  · exact (h.setValueDepth hv (by omega)).appendValue t
  · exact h.appendValue t

/-! ### Groups -/

/-- Brackets of a group are counted in a list, outside of values. -/
theorem setGroupDepth (h : s.Nested) (ho : s.listOpen = true) (hv : s.inValue = false) {g : Int}
    (hg : 0 ≤ g) : Nested { s with groupDepth := g } :=
  ⟨h.parenDepth, hg, h.valueDepth, h.angleDepth, h.listOpen, h.value, h.valueBrackets,
    fun _ => ⟨ho, hv⟩, h.typeDue⟩

/-- What a group expects, and whether a parameter begins, does not matter. -/
theorem congr_group (h : s.Nested) (hd : s'.depths = s.depths) (hv : s'.inValue = s.inValue)
    (hnv : s.inValue = false) (ht : s'.typeDue = s.typeDue) : s'.Nested := by
  simp only [Scan.depths, Depths.mk.injEq] at hd
  obtain ⟨hopen, hparens, hvalue, hgroup, hangle⟩ := hd
  obtain ⟨h1, h2, h3, h4, h5, -, h7, h8, h9⟩ := h
  rw [← hparens] at h1 h5
  rw [← hgroup] at h2 h8
  rw [← hvalue] at h3 h7
  rw [← hangle] at h4
  rw [← hopen] at h5 h8 h9
  rw [← hv] at h7 h8 hnv
  rw [← ht] at h9
  exact ⟨h1, h2, h3, h4, h5, fun hin => absurd (hnv.symm.trans hin) (by decide), h7, h8, h9⟩

theorem readGroup (h : s.Nested) (ho : s.listOpen = true) (hv : s.inValue = false)
    (hg : s.groupDepth ≠ 0 ∨ t.opensGroup = true) : (l.readGroup t s).Nested := by
  have hle := h.groupDepth
  unfold Language.readGroup
  split
  · exact (h.setGroupDepth ho hv (g := s.groupDepth + 1) (by omega)).congr_group rfl rfl hv rfl
  rename_i hopens
  have hpos : s.groupDepth ≠ 0 := hg.resolve_right hopens
  split
  · have hclose := h.setGroupDepth ho hv (g := s.groupDepth - 1) (by omega)
    dsimp only
    split
    · exact hclose.congr_group rfl rfl hv rfl
    · exact hclose.congr_group rfl rfl hv rfl
  repeat' split
  all_goals exact h.congr_group rfl rfl hv rfl

/-! ### Tokens of a list -/

theorem enterValue (h : s.Nested) (ho : s.listOpen = true) (hg : s.groupDepth = 0)
    (hp : s.decl.hasParameter = true) : Nested { s.enterValue with typeDue := false } := by
  have hne : s.decl.parameters ≠ [] := by
    simpa [Declaration.hasParameter] using hp
  exact ⟨h.parenDepth, h.groupDepth, h.valueDepth, h.angleDepth, h.listOpen, fun _ => ⟨ho, hne⟩,
    fun _ => rfl, fun hpos => absurd hg (Int.ne_of_gt hpos), fun ht => by cases ht⟩

/-- A token of a parameter, where no value and no group is open. -/
theorem slot (h : s.Nested) (ho : s.listOpen = true) (hv : s.inValue = false)
    (hg : s.groupDepth = 0) (hk : KeepsBrackets s s') : s'.Nested := by
  have hd := hk.depths
  simp only [Scan.depths, Depths.mk.injEq] at hd
  obtain ⟨hopen, hparens, hvalue, hgroup, -⟩ := hd
  have hb := h.valueDepth_eq_zero hv
  refine ⟨?_, ?_, ?_, hk.angle h.angleDepth, ?_, fun hin => ?_, ?_, ?_, fun _ => ?_⟩
  · rw [hparens]
    exact h.parenDepth
  · rw [hgroup]
    exact h.groupDepth
  · rw [hvalue]
    exact h.valueDepth
  · rw [hopen, hparens]
    exact h.listOpen
  · refine ⟨hopen.trans ho, (hk.value hin).resolve_left fun hin' => ?_⟩
    rw [hin'] at hv
    cases hv
  · rw [hvalue, hb]
    exact fun hpos => absurd hpos (Int.lt_irrefl 0)
  · rw [hgroup, hg]
    exact fun hpos => absurd hpos (Int.lt_irrefl 0)
  · exact hopen.trans ho

/-- Values come before groups, groups before commas, and commas before parameters: so a bracket is
counted by the reader that owns it. -/
theorem readInList (h : s.Nested) (t : Token) : (l.readInList t s).scan.Nested := by
  unfold Language.readInList
  split
  · exact h
  rename_i ho
  replace ho : s.listOpen = true := Decidable.not_not.1 ho
  split
  · rename_i hv
    exact h.readValue hv t
  rename_i hv
  replace hv : s.inValue = false := by simpa using hv
  split
  · rename_i hg
    exact h.readGroup ho hv (hg.imp_right And.right)
  rename_i hg
  replace hg : s.groupDepth = 0 := Decidable.not_not.1 fun hne => hg (.inl hne)
  split
  · exact h.nextSlot hg
  split
  · rename_i hp
    exact h.enterValue ho hg hp.2
  · have hk := KeepsBrackets.readSlot l t s
    dsimp only
    split
    · exact h.slot ho hv hg ⟨hk.depths, hk.angle, hk.value⟩
    · exact h.slot ho hv hg hk

theorem readParameters (h : s.Nested) (t : Token) : (l.readParameters t s).scan.Nested := by
  have hle := h.parenDepth
  unfold Language.readParameters
  split
  · exact h
  split
  · dsimp only
    split
    · rename_i hp
      exact h.openList hp
    · rename_i hp
      have ho : s.listOpen = true := h.listOpen.2 (by omega)
      exact (h.setParens ho (by omega)).readInList t
  split
  · rename_i hc
    dsimp only
    split
    · exact closeList h.angleDepth
    · rename_i hp
      have ho : s.listOpen = true := h.listOpen.2 (by omega)
      exact (h.setParens ho (by omega)).readInList t
  · exact h.readInList t

/-! ## Steps and runs -/

theorem readStage (h : s.Nested) (g : Stage) (t : Token) : (l.readStage g t s).scan.Nested := by
  cases g with
  | classHead =>
    refine h.congr (listPart_readClass l t s) ?_
    rw [show (l.readStage .classHead t s).scan.angleDepth = _ from angleDepth_readClass l t s]
    exact h.angleDepth
  | function =>
    exact h.congr (listPart_readFunction l t s) (angleDepth_readFunction l t h.angleDepth)
  | parameters => exact h.readParameters t
  | var =>
    refine h.congr (listPart_readVariable l t s) ?_
    rw [show (l.readStage .var t s).scan.angleDepth = _ from angleDepth_readVariable l t s]
    exact h.angleDepth

/-- A step keeps depths in order. -/
theorem step (h : s.Nested) (t : Token) : (l.step t s).Nested :=
  pass_preserves (P := Scan.Nested) (Q := Scan.Nested) (fun _ h => h)
    (fun g _ h _ => h.readStage g t) (fun g _ h _ => h.readStage g t) _ h

/-- A run keeps depths in order. -/
theorem run (h : s.Nested) (ts : List Token) : (l.run ts s).Nested :=
  run_preserves (fun t _ h => h.step t) ts h

end Scan.Nested

/-! ## Top theorem -/

/-- **Whatever the tokens are, every run leaves the brackets of a list nested**, in every
language. -/
theorem Language.nested_run (l : Language) (ts : List Token) : (l.run ts {}).Nested :=
  Scan.Nested.init.run ts

end DocTemplate
