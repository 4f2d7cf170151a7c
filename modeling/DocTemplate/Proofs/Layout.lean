import Mathlib.Data.List.Forall2
import Mathlib.Tactic.Simps.Basic
import DocTemplate.Language.Template

/-!
# Layout

Where the tokens of a line stand shows in one place only: in the spaces of default values.  The
*dense* form of a token has no place, and the dense form of a record or a scan has no spaces in its
values.

* Every reader makes of a dense scan the dense form of what it makes of the scan; it cannot tell
  whether there was a layout.  The reader of values alone looks at places, and what it adds for
  them is a space (`dense_appendValue`).
* So does a run, and no part of a comment comes from a value.

      List.Forall₂ Token.Alike ts us → (l.declaration settings ts).Alike (l.declaration settings us)

-/

namespace DocTemplate

/-- A text without its spaces. -/
def Text.dense (s : String) : String := String.ofList (s.toList.filter (· ≠ ' '))

/-- A token without its place. -/
@[simps] def Token.dense (t : Token) : Token := { t with start := 0, stop := 0 }

/-- A parameter without the spaces in its value. -/
@[simps] def Parameter.dense (p : Parameter) : Parameter := { p with value := Text.dense p.value }

/-- A record without the spaces in the values of its parameters. -/
@[simps] def Declaration.dense (d : Declaration) : Declaration :=
  { d with parameters := d.parameters.map Parameter.dense }

/-- A scan without the spaces in values and without the place where a value stops. -/
@[simps] def Scan.dense (s : Scan) : Scan := { s with decl := s.decl.dense, valueStop := -1 }

@[simps] def Outcome.dense (o : Outcome) : Outcome := { o with scan := o.scan.dense }

/-! ## Dense forms -/

theorem Token.is_dense (t : Token) (m : Mark) : t.dense.is m = t.is m := rfl

theorem Token.opensGroup_dense (t : Token) : t.dense.opensGroup = t.opensGroup := rfl

theorem Token.closesGroup_dense (t : Token) : t.dense.closesGroup = t.closesGroup := rfl

/-- Spaces are dropped from each part of a text. -/
theorem Text.dense_append (a b : String) : dense (a ++ b) = dense a ++ dense b := by
  simp [dense]

theorem Text.dense_dense (a : String) : dense (dense a) = dense a := by
  simp [dense]

/-- A gap between two tokens is a space, or nothing. -/
theorem Text.dense_gap (c : Prop) [Decidable c] : dense (if c then " " else "") = "" := by
  split <;> rfl

theorem Parameter.dense_dense (p : Parameter) : p.dense.dense = p.dense := by
  simp only [dense, Text.dense_dense]

theorem Parameter.hasType_dense (p : Parameter) : p.dense.hasType = p.hasType := rfl

/-- A map goes past a change of the last item that it agrees with. -/
theorem map_modifyLast {α β : Type} {f : α → α} {f' : β → β} {g : α → β}
    (h : ∀ a, g (f a) = f' (g a)) (l : List α) :
    (modifyLast f l).map g = modifyLast f' (l.map g) := by
  rcases List.eq_nil_or_concat l with rfl | ⟨init, last, rfl⟩
  · rfl
  · simp [modifyLast_concat, h]

namespace Declaration

theorem dense_dense (d : Declaration) : d.dense.dense = d.dense := by
  unfold dense
  simp [Function.comp_def, Parameter.dense_dense]

theorem dense_declare (d : Declaration) (k : Kind) : (d.declare k).dense = d.dense.declare k := by
  unfold declare
  rw [dense_kind]
  split <;> rfl

theorem dense_setName (d : Declaration) (name : String) :
    (d.setName name).dense = d.dense.setName name := by
  unfold setName
  rw [dense_name]
  split <;> rfl

theorem dense_addParameter (d : Declaration) (name : String) (type : Option String) :
    (d.addParameter { name, type }).dense = d.dense.addParameter { name, type } := by
  simp only [dense, addParameter, List.map_append, List.map_cons, List.map_nil]
  rfl

/-- A change of the last parameter that agrees with dense forms leads from dense to dense. -/
theorem dense_modifyLastParameter (d : Declaration) {f f' : Parameter → Parameter}
    (h : ∀ p, (f p).dense = f' p.dense) :
    (d.modifyLastParameter f).dense = d.dense.modifyLastParameter f' := by
  simp only [dense, modifyLastParameter, map_modifyLast h]

theorem dense_renameLast (d : Declaration) (name : String) :
    (d.modifyLastParameter fun p => { p with name }).dense =
      d.dense.modifyLastParameter fun p => { p with name } :=
  d.dense_modifyLastParameter fun _ => rfl

theorem dense_retypeLast (d : Declaration) (type : Option String) :
    (d.modifyLastParameter fun p => { p with type }).dense =
      d.dense.modifyLastParameter fun p => { p with type } :=
  d.dense_modifyLastParameter fun _ => rfl

theorem dense_arrayLastParameter (d : Declaration) :
    d.arrayLastParameter.dense = d.dense.arrayLastParameter :=
  d.dense_modifyLastParameter fun _ => rfl

theorem hasParameter_dense (d : Declaration) : d.dense.hasParameter = d.hasParameter := by
  simp [hasParameter]

theorem lastParameter?_dense (d : Declaration) :
    d.dense.lastParameter? = d.lastParameter?.map Parameter.dense := by
  simp [lastParameter?]

theorem lastHasType_dense (d : Declaration) : d.dense.lastHasType = d.lastHasType := by
  simp only [lastHasType, lastParameter?_dense, Option.any_map, Parameter.hasType_dense]

end Declaration

theorem Scan.dense_dense (s : Scan) : s.dense.dense = s.dense := by
  simp only [dense, Declaration.dense_dense]

theorem Outcome.dense_dense (o : Outcome) : o.dense.dense = o.dense := by
  simp only [dense, Scan.dense_dense]

namespace Language

variable {l : Language} {t u : Token} {s s' : Scan}

/-! ## Readers of heads -/

/-- The reader of classes does not look at values. -/
theorem dense_readClass (l : Language) (t : Token) (s : Scan) :
    (l.readClass t s).dense = l.readClass t s.dense := by
  unfold readClass
  simp only [Scan.dense_nameDue, Scan.dense_decl, Declaration.dense_kind]
  split
  · simp only [Outcome.dense, Scan.take, Scan.dense, Declaration.dense_declare]
  split
  · simp only [Outcome.dense, Scan.take, Scan.dense, Declaration.dense_setName]
  · rfl

theorem dense_readSignature (l : Language) (t : Token) (s : Scan) :
    (l.readSignature t s).dense = l.readSignature t s.dense := by
  unfold readSignature
  simp only [Scan.dense_listOpen, Scan.dense_nameDue, Scan.dense_returnDue, Scan.dense_decl,
    Declaration.dense_returns]
  repeat' split
  all_goals first
    | rfl
    | simp only [Outcome.dense, Scan.take, Scan.dense, Declaration.dense_setName]

theorem dense_readWordFunction (l : Language) (t : Token) (s : Scan) :
    (l.readWordFunction t s).dense = l.readWordFunction t s.dense := by
  unfold readWordFunction
  simp only [Scan.dense_decl, Declaration.dense_kind]
  split
  · simp only [Outcome.dense, Scan.take, Scan.dense, Declaration.dense_declare]
  split
  · exact dense_readSignature l t s
  · rfl

theorem dense_nameFunction (s : Scan) (name : String) :
    (nameFunction s name).dense = nameFunction s.dense name := by
  simp only [nameFunction, Scan.dense, Declaration.dense_setName, Declaration.dense_declare]

theorem dense_readScriptFunction (l : Language) (t : Token) (s : Scan) :
    (l.readScriptFunction t s).dense = l.readScriptFunction t s.dense := by
  unfold readScriptFunction
  simp only [Scan.dense_candidate, Scan.dense_assigned, Scan.dense_decl, Declaration.dense_kind,
    ← dense_nameFunction]
  split
  · rfl
  split
  · split
    · rfl
    split <;> rfl
  · split
    · rfl
    · exact dense_readSignature l t s
  · rfl

theorem dense_readTypeAndName (l : Language) (t : Token) (s : Scan) :
    (l.readTypeAndName t s).dense = l.readTypeAndName t s.dense := by
  unfold readTypeAndName
  simp only [Scan.dense_candidate, Scan.dense_typeText, Scan.dense_angleDepth, ← dense_nameFunction]
  split
  · split <;> rfl
  split
  · rfl
  split
  · rfl
  · split <;> rfl

theorem dense_readDeclarator (l : Language) (t : Token) (s : Scan) :
    (l.readDeclarator t s).dense = l.readDeclarator t s.dense := by
  unfold readDeclarator
  simp only [Scan.dense_candidate, Scan.dense_typeText, Scan.dense_angleDepth, ← dense_nameFunction]
  split
  · split
    · rfl
    split
    · rfl
    · exact dense_readTypeAndName _ t s
  · exact dense_readTypeAndName l t s

theorem dense_readTypedFunction (l : Language) (t : Token) (s : Scan) :
    (l.readTypedFunction t s).dense = l.readTypedFunction t s.dense := by
  unfold readTypedFunction
  simp only [Scan.dense_decl, Declaration.dense_kind]
  split
  · exact dense_readDeclarator l t s
  · exact dense_readSignature l t s
  · rfl

/-- No reader of functions looks at values. -/
theorem dense_readFunction (l : Language) (t : Token) (s : Scan) :
    (l.readFunction t s).dense = l.readFunction t s.dense := by
  cases l with
  | plain g => exact dense_readWordFunction _ t s
  | php => exact dense_readWordFunction _ t s
  | scss =>
    show (readSheetFunction .scss t s).dense = readSheetFunction .scss t s.dense
    unfold readSheetFunction
    rw [← dense_readWordFunction]
    dsimp only
    split <;> rfl
  | javascript => exact dense_readScriptFunction _ t s
  | typescript => exact dense_readScriptFunction _ t s
  | c => exact dense_readTypedFunction _ t s
  | java => exact dense_readTypedFunction _ t s

/-! ## Readers of variables -/

theorem dense_typeVariable (s : Scan) : (typeVariable s).dense = typeVariable s.dense := by
  unfold typeVariable
  rw [Scan.dense_typeText]
  split <;> rfl

theorem dense_declareTyped (s : Scan) : (declareTyped s).dense = declareTyped s.dense := by
  simp only [declareTyped, Scan.dense, Declaration.setReturnType]
  rw [← Declaration.dense_declare, ← Declaration.dense_setName]
  rfl

theorem dense_readWordVariable (l : Language) (t : Token) (s : Scan) :
    (l.readWordVariable t s).dense = l.readWordVariable t s.dense := by
  unfold readWordVariable
  simp only [Scan.dense_nameDue, Scan.dense_decl, Declaration.dense_kind]
  split
  · split
    · rfl
    · simp only [Outcome.dense, Scan.take, Scan.dense, Declaration.dense_setName]
  split
  · rfl
  split
  · simp only [Outcome.dense, Scan.take, Scan.dense, Declaration.dense_declare]
  split
  · have htype := dense_typeVariable { s with decl := (s.decl.setName t.text).declare .var }
    simp only [Scan.dense, Declaration.dense_declare, Declaration.dense_setName] at htype
    simp only [Outcome.dense, Scan.take, Scan.dense, ← htype]
  split <;> rfl

theorem dense_readScriptVariable (l : Language) (t : Token) (s : Scan) :
    (l.readScriptVariable t s).dense = l.readScriptVariable t s.dense := by
  unfold readScriptVariable
  simp only [Scan.dense_variableTypeDue, Scan.dense_nameDue, Scan.dense_candidate,
    Scan.dense_assigned, Scan.dense_decl, Declaration.dense_kind, Declaration.dense_name]
  repeat' split
  all_goals first
    | rfl
    | simp only [Outcome.dense, Scan.take, Scan.dense, Declaration.dense_setName]

theorem dense_readTypedVariable (t : Token) (s : Scan) :
    (readTypedVariable t s).dense = readTypedVariable t s.dense := by
  unfold readTypedVariable
  simp only [Scan.dense_candidate, Scan.dense_decl, Declaration.dense_kind, ← dense_declareTyped]
  repeat' split
  all_goals rfl

/-- No reader of variables looks at values. -/
theorem dense_readVariable (l : Language) (t : Token) (s : Scan) :
    (l.readVariable t s).dense = l.readVariable t s.dense := by
  cases l with
  | plain g => exact dense_readWordVariable _ t s
  | php => exact dense_readWordVariable _ t s
  | scss => exact dense_readWordVariable _ t s
  | javascript => exact dense_readScriptVariable _ t s
  | typescript => exact dense_readScriptVariable _ t s
  | c => exact dense_readTypedVariable t s
  | java => exact dense_readTypedVariable t s

/-! ## Readers of parameters -/

theorem dense_readTypedSlot (l : Language) (t : Token) (s : Scan) :
    (l.readTypedSlot t s).dense = l.readTypedSlot t s.dense := by
  unfold readTypedSlot
  simp only [Scan.dense_typeDue, Scan.dense_decl, Declaration.lastHasType_dense]
  repeat' split
  all_goals first
    | rfl
    | simp only [Outcome.dense, Scan.take, Scan.dense, Declaration.dense_arrayLastParameter,
        Declaration.dense_addParameter, Declaration.dense_renameLast]

theorem dense_readSheetSlot (l : Language) (t : Token) (s : Scan) :
    (l.readSheetSlot t s).dense = l.readSheetSlot t s.dense := by
  unfold readSheetSlot
  rw [Scan.dense_decl, Declaration.hasParameter_dense]
  split
  · rfl
  · exact dense_readTypedSlot l t s

theorem dense_readScriptSlot (l : Language) (t : Token) (s : Scan) :
    (l.readScriptSlot t s).dense = l.readScriptSlot t s.dense := by
  unfold readScriptSlot
  simp only [Scan.dense_typeDue, Scan.dense_groupClosed, Scan.dense_slotStart, Scan.dense_decl,
    Declaration.lastHasType_dense]
  repeat' split
  all_goals first
    | rfl
    | simp only [Outcome.dense, Scan.take, Scan.dense, Declaration.dense_arrayLastParameter,
        Declaration.dense_addParameter, Declaration.dense_retypeLast]

theorem dense_readDeclaratorSlot (l : Language) (t : Token) (s : Scan) :
    (l.readDeclaratorSlot t s).dense = l.readDeclaratorSlot t s.dense := by
  unfold readDeclaratorSlot
  simp only [Scan.dense_typeDue, Scan.dense_slotStart, Scan.dense_angleDepth, Scan.dense_decl,
    Declaration.lastParameter?_dense]
  cases s.typeDue with
  | true =>
    cases s.decl.lastParameter? with
    | some last =>
      dsimp only [Option.map_some]
      rw [Parameter.dense_type]
      split
      · simp only [Outcome.dense, Scan.take, Scan.dense, Declaration.dense_retypeLast]
      split
      · simp only [Outcome.dense, Scan.take, Scan.dense, Declaration.dense_renameLast]
      · rfl
    | none =>
      dsimp only [Option.map_none]
      split
      · simp only [Outcome.dense, Scan.take, Scan.dense, Declaration.dense_addParameter]
      split
      · simp only [Outcome.dense, Scan.take, Scan.dense, Declaration.dense_arrayLastParameter]
      split <;> rfl
  | false =>
    dsimp only
    split
    · simp only [Outcome.dense, Scan.take, Scan.dense, Declaration.dense_addParameter]
    simp only [Option.any_map, Parameter.dense_name, Parameter.hasType_dense]
    split
    · simp only [Outcome.dense, Scan.take, Scan.dense, Declaration.dense_arrayLastParameter]
    split <;> rfl

/-- No reader of parameters looks at values. -/
theorem dense_readSlot (l : Language) (t : Token) (s : Scan) :
    (l.readSlot t s).dense = l.readSlot t s.dense := by
  cases l with
  | plain g => exact dense_readTypedSlot _ t s
  | php => exact dense_readTypedSlot _ t s
  | scss => exact dense_readSheetSlot _ t s
  | javascript => exact dense_readScriptSlot _ t s
  | typescript => exact dense_readScriptSlot _ t s
  | c => exact dense_readDeclaratorSlot _ t s
  | java => exact dense_readDeclaratorSlot _ t s

/-- The reader of groups renames and adds parameters, and gives none a value. -/
theorem dense_readGroup (l : Language) (t : Token) (s : Scan) :
    (l.readGroup t s).dense = l.readGroup t s.dense := by
  unfold readGroup
  simp only [Scan.dense_groupDepth, Scan.dense_bindingDue, Scan.dense_rebinding, Scan.dense_decl,
    Declaration.hasParameter_dense]
  repeat' split
  all_goals first
    | rfl
    | simp only [Scan.dense, Declaration.dense_addParameter, Declaration.dense_renameLast]

/-! ## Default values -/

/-- A token is added to a value with its own text; all that its place adds is a space. -/
theorem dense_appendValue (s : Scan) (t : Token) :
    (s.appendValue t).dense =
      { s.dense with
        decl := s.dense.decl.modifyLastParameter fun p =>
          { p with value := p.value ++ Text.dense t.text } } := by
  unfold Scan.appendValue
  split
  · simp only [Scan.dense]
    rw [Declaration.dense_modifyLastParameter]
    intro p
    simp only [Parameter.dense, Text.dense_append, Text.dense_gap, String.append_empty]
  · rename_i hp
    have hnil : s.decl.parameters = [] := by simpa [Declaration.hasParameter] using hp
    simp only [Scan.dense, Declaration.dense, Declaration.modifyLastParameter, hnil, List.map_nil]
    rfl

/-- With or without places, the value that is added is the same but for spaces. -/
theorem appendValue_dense (s : Scan) (t : Token) :
    (s.dense.appendValue t.dense).dense = (s.appendValue t).dense := by
  rw [dense_appendValue, dense_appendValue, Scan.dense_dense, Token.dense_text]

theorem nextSlot_dense (s : Scan) : s.dense.nextSlot.dense = s.nextSlot.dense := by
  simp only [Scan.nextSlot, Scan.dense, Declaration.dense_dense]

/-- The reader of values sees places, but it adds only spaces for them. -/
theorem readValue_dense (t : Token) (s : Scan) :
    (readValue t.dense s.dense).dense = (readValue t s).dense := by
  unfold readValue
  simp only [Token.is_dense, Token.opensGroup_dense, Token.closesGroup_dense, Scan.dense_parenDepth,
    Scan.dense_valueDepth]
  split
  · exact nextSlot_dense s
  split
  · exact appendValue_dense { s with valueDepth := s.valueDepth + 1 } t
  split
  · exact appendValue_dense { s with valueDepth := s.valueDepth - 1 } t
  · exact appendValue_dense s t

/-! ## Steps and runs -/

/-- A reader that does not see the layout: it makes the same of dense forms, up to layout. -/
def Blind (r : Token → Scan → Outcome) : Prop :=
  ∀ t s, (r t.dense s.dense).dense = (r t s).dense

/-- A reader that looks neither at places nor at values is blind to the layout. -/
theorem blind_of_dense {r : Token → Scan → Outcome} (ht : ∀ t s, r t.dense s = r t s)
    (hs : ∀ t s, (r t s).dense = r t s.dense) : Blind r := by
  intro t s
  rw [ht, hs, Scan.dense_dense, hs]

/-- Tokens and scans that differ in their layout give outcomes that differ in it alone. -/
theorem Blind.congr {r : Token → Scan → Outcome} (h : Blind r) (ht : t.dense = u.dense)
    (hs : s.dense = s'.dense) : (r t s).dense = (r u s').dense := by
  rw [← h t s, ht, hs, h u s']

/-- Inside of a parameter list, the reader of values comes before all others. -/
theorem blind_readInList (l : Language) : Blind l.readInList := by
  intro t s
  unfold readInList
  simp only [Token.is_dense, Token.opensGroup_dense, Scan.dense_listOpen, Scan.dense_inValue,
    Scan.dense_groupDepth, Scan.dense_slotStart, Scan.dense_angleDepth, Scan.dense_decl,
    Declaration.hasParameter_dense]
  split
  · exact congrArg Scan.leave s.dense_dense
  split
  · exact congrArg Scan.take (readValue_dense t s)
  split
  · refine congrArg Scan.take ?_
    show (l.readGroup t s.dense).dense = (l.readGroup t s).dense
    rw [dense_readGroup, dense_readGroup, Scan.dense_dense]
  split
  · exact congrArg Scan.take (nextSlot_dense s)
  split
  · simp only [Outcome.dense, Scan.take, Scan.enterValue, Scan.dense, Declaration.dense_dense]
  · have h : l.readSlot t.dense s.dense = (l.readSlot t s).dense := (dense_readSlot l t s).symm
    rw [h, Outcome.dense_taken]
    split
    · simp only [Outcome.dense, Scan.take, Scan.dense, Declaration.dense_dense]
    · exact (l.readSlot t s).dense_dense

theorem blind_readParameters (l : Language) : Blind l.readParameters := by
  intro t s
  unfold readParameters
  simp only [Token.is_dense, Scan.dense_parenDepth, show l.collects s.dense = l.collects s from rfl]
  split
  · exact congrArg Scan.leave s.dense_dense
  split
  · split
    · simp only [Outcome.dense, Scan.take, Scan.openList, Scan.nextSlot, Scan.dense,
        Declaration.dense_dense]
    · exact blind_readInList l t { s with parenDepth := s.parenDepth + 1 }
  split
  · split
    · simp only [Outcome.dense, Scan.take, Scan.closeList, Scan.dense, Declaration.dense_dense]
    · exact blind_readInList l t { s with parenDepth := s.parenDepth - 1 }
  · exact blind_readInList l t s

/-- All stages are blind to the layout. -/
theorem blind_readStage (l : Language) (g : Stage) : Blind (l.readStage g) := by
  cases g with
  | classHead => exact blind_of_dense (fun _ _ => rfl) (dense_readClass l)
  | function => exact blind_of_dense (fun _ _ => rfl) (dense_readFunction l)
  | parameters => exact blind_readParameters l
  | var => exact blind_of_dense (fun _ _ => rfl) (dense_readVariable l)

theorem dense_pass (ht : t.dense = u.dense) (hs : s.dense = s'.dense) (gs : List Stage) :
    (l.pass t gs s).2.dense = (l.pass u gs s').2.dense := by
  induction gs generalizing s s' with
  | nil => exact hs
  | cons g gs ih =>
    have hg := (blind_readStage l g).congr ht hs
    obtain ⟨htaken, hscan⟩ := Outcome.mk.inj hg
    unfold pass
    dsimp only
    rw [htaken]
    split
    · exact hscan
    · exact ih hscan

/-- A step is blind to the layout. -/
theorem dense_step (ht : t.dense = u.dense) (hs : s.dense = s'.dense) :
    (l.step t s).dense = (l.step u s').dense := by
  have htext : t.text = u.text := (Token.mk.inj ht).2.1
  have hdone : s.done = s'.done := by rw [← s.dense_done, hs, s'.dense_done]
  have hstages : l.stages t s = l.stages u s' := by
    unfold stages skips
    rw [htext, hdone]
  unfold step
  rw [hstages]
  exact dense_pass ht hs _

/-- A run is blind to the layout, by induction on the two lists of tokens. -/
theorem dense_run {ts us : List Token} (hts : List.Forall₂ (fun t u => t.dense = u.dense) ts us)
    (hs : s.dense = s'.dense) : (l.run ts s).dense = (l.run us s').dense := by
  induction hts generalizing s s' with
  | nil => exact hs
  | cons ht _ ih =>
    have hfinished : s.finished = s'.finished := by
      unfold Scan.finished
      rw [← s.dense_done, ← s.dense_listOpen, hs, s'.dense_done, s'.dense_listOpen]
    unfold run
    rw [hfinished]
    split
    · exact hs
    · exact ih (dense_step ht hs)

/-! ## The end of the line -/

theorem dense_settleKind (l : Language) (s : Scan) :
    (l.settleKind s).dense = l.settleKind s.dense := by
  have hscript := dense_typeVariable { s with decl := (s.decl.setName s.candidate).declare .var }
  simp only [Scan.dense, Declaration.dense_declare, Declaration.dense_setName] at hscript
  unfold settleKind
  simp only [Scan.dense_candidate, Scan.dense_decl, Declaration.dense_kind, Declaration.dense_name,
    ← dense_declareTyped]
  repeat' split
  all_goals first
    | rfl
    | exact hscript

theorem settleParameters_dense (l : Language) (d : Declaration) :
    l.settleParameters d.dense = (l.settleParameters d).map Parameter.dense := by
  unfold settleParameters
  rw [Declaration.dense_kind, Declaration.dense_parameters]
  split
  · rfl
  rcases d.parameters with _ | ⟨p, _ | ⟨q, ps⟩⟩
  · rfl
  · simp only [List.map_cons, List.map_nil, Parameter.dense_name, Parameter.dense_type]
    split <;> rfl
  · rfl

/-- What is settled at the end does not depend on values either. -/
theorem dense_finish (l : Language) (mixed : Bool) (s : Scan) :
    (l.finish mixed s).dense = l.finish mixed s.dense := by
  unfold finish
  rw [← dense_settleKind, Scan.dense_decl]
  simp only [settleParameters_dense, List.map_map]
  unfold Declaration.dense
  rw [List.map_map]
  rfl

/-- Declarations differ in the spaces of values alone. -/
theorem dense_declaration (l : Language) (settings : Settings) {ts us : List Token}
    (hts : List.Forall₂ (fun t u => t.dense = u.dense) ts us) :
    (l.declaration settings ts).dense = (l.declaration settings us).dense := by
  unfold declaration read
  rw [dense_finish, dense_finish, dense_run hts rfl]

end Language

/-! ## Comments -/

namespace DocBlock

variable (s : Settings) (tag : Option String) (d : Declaration)

/-- No row of the aligned layout shows a value. -/
theorem sections_dense : sections s tag d.dense = sections s tag d := by
  have hparameters : parameterSection d.dense = parameterSection d := by
    unfold parameterSection
    rw [Declaration.hasParameter_dense, Declaration.dense_parameters, List.mapM_map]
    rfl
  have hreturn : returnRow d.dense = returnRow d := by
    unfold returnRow
    rw [Declaration.dense_parameters, List.isEmpty_map]
    rfl
  unfold sections returnSection
  rw [hparameters, hreturn]
  rfl

/-- No line of the indented layout shows a value. -/
theorem indentedTags_dense : indentedTags s tag d.dense = indentedTags s tag d := by
  have hparameters : parameterTags d.dense = parameterTags d := by
    unfold parameterTags
    rw [Declaration.hasParameter_dense, Declaration.dense_parameters, List.mapM_map]
    rfl
  unfold indentedTags
  rw [hparameters]
  rfl

/-- A comment shows nothing of default values. -/
theorem compose_dense (limits : Limits) (style : Comment.Style) :
    compose limits s style tag d.dense = compose limits s style tag d := by
  have hgaps : gaps s tag d.dense = gaps s tag d := by
    unfold gaps
    rw [sections_dense]
  have hbody : body s tag d.dense = body s tag d := by
    unfold body alignedTags
    rw [sections_dense, indentedTags_dense]
    rfl
  unfold compose render
  rw [hgaps, hbody]

end DocBlock

/-! ## Top theorem -/

/-- Two tokens of the same kind and text, wherever they stand. -/
def Token.Alike (t u : Token) : Prop := t.kind = u.kind ∧ t.text = u.text

/-- Two parameters that differ in the spaces of their values at most. -/
structure Parameter.Alike (p q : Parameter) : Prop where
  name : p.name = q.name
  type : p.type = q.type
  value : Text.dense p.value = Text.dense q.value

/-- Two records that differ in the spaces of default values at most. -/
structure Declaration.Alike (d e : Declaration) : Prop where
  name : d.name = e.name
  kind : d.kind = e.kind
  parameters : List.Forall₂ Parameter.Alike d.parameters e.parameters
  returns : d.returns = e.returns

theorem Token.Alike.dense {t u : Token} (h : t.Alike u) : t.dense = u.dense := by
  unfold Token.dense
  rw [h.1, h.2]

theorem Parameter.alike_of_dense {p q : Parameter} (h : p.dense = q.dense) : p.Alike q := by
  obtain ⟨hname, htype, hvalue⟩ := Parameter.mk.inj h
  exact ⟨hname, htype, hvalue⟩

/-- Records with one dense form are alike. -/
theorem Declaration.alike_of_dense {d e : Declaration} (h : d.dense = e.dense) : d.Alike e := by
  obtain ⟨hname, hkind, hparameters, hreturns⟩ := Declaration.mk.inj h
  refine ⟨hname, hkind, ?_, hreturns⟩
  rw [← List.forall₂_eq_eq_eq, List.forall₂_map_left_iff, List.forall₂_map_right_iff] at hparameters
  exact hparameters.imp fun _ _ hp => Parameter.alike_of_dense hp

/-- **The layout of a line shows in the spaces of default values alone.**  Tokens of the same kinds
and texts give records that are alike, and the same comment, wherever they stand. -/
theorem Language.declaration_alike (l : Language) (limits : Limits) (settings : Settings)
    {ts us : List Token} (h : List.Forall₂ Token.Alike ts us) :
    (l.declaration settings ts).Alike (l.declaration settings us) ∧
    l.template limits settings (l.declaration settings ts) =
      l.template limits settings (l.declaration settings us) := by
  have hdense := dense_declaration l settings (h.imp fun _ _ ht => ht.dense)
  refine ⟨Declaration.alike_of_dense hdense, ?_⟩
  unfold template
  rw [← DocBlock.compose_dense, hdense, DocBlock.compose_dense]

/-- `function pad($by = - 1) {` -/
def wideLine : List Token :=
  [{ kind := "function", text := "function", start := 0, stop := 8 },
    { kind := "name", text := "pad", start := 9, stop := 12 },
    { kind := "(", text := "(", start := 12, stop := 13 },
    { kind := "variable_name", text := "$by", start := 13, stop := 16 },
    { kind := "=", text := "=", start := 17, stop := 18 },
    { kind := "-", text := "-", start := 19, stop := 20 },
    { kind := "integer", text := "1", start := 21, stop := 22 },
    { kind := ")", text := ")", start := 22, stop := 23 },
    { kind := "\x7b", text := "\x7b", start := 24, stop := 25 }]

/-- `function pad($by=-1){` -/
def tightLine : List Token :=
  [{ kind := "function", text := "function", start := 0, stop := 8 },
    { kind := "name", text := "pad", start := 9, stop := 12 },
    { kind := "(", text := "(", start := 12, stop := 13 },
    { kind := "variable_name", text := "$by", start := 13, stop := 16 },
    { kind := "=", text := "=", start := 16, stop := 17 },
    { kind := "-", text := "-", start := 17, stop := 18 },
    { kind := "integer", text := "1", start := 18, stop := 19 },
    { kind := ")", text := ")", start := 19, stop := 20 },
    { kind := "\x7b", text := "\x7b", start := 20, stop := 21 }]

/-- The two values are `- 1` and `-1`. -/
theorem Language.declaration_alike_wideLine :
    List.Forall₂ Token.Alike wideLine tightLine ∧
    (Language.php.declaration {} wideLine).parameters = [{ name := "$by", value := "- 1" }] ∧
    (Language.php.declaration {} tightLine).parameters = [{ name := "$by", value := "-1" }] ∧
    (Language.php.declaration {} wideLine).Alike (Language.php.declaration {} tightLine) ∧
    Language.php.template .small {} (Language.php.declaration {} wideLine) =
      Language.php.template .small {} (Language.php.declaration {} tightLine) := by
  have hline : List.Forall₂ Token.Alike wideLine tightLine := by
    simp [wideLine, tightLine, Token.Alike]
  exact ⟨hline, by decide, by decide, declaration_alike .php .small {} hline⟩

end DocTemplate
