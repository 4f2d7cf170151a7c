import DocTemplate.Proofs.Reading

/-!
# Types and names of the C family

In the C family a declaration and a parameter are a type and a name behind it.  A type grows by its
tokens, as `extendType` says, and a name is what the type does not take.  In a declaration the type
is kept in the scan, in a parameter it is that of the last parameter:

    l.extendType x d t = some (y, e) → … → l.step t (heading x d) = heading y e
    l.extendType x d t = some (y, e) → … → l.step t (typing s x d) = typing s y e

What the two places have in common is said by `TypeSite`: the scan depends on the text of the type
so far and on the angle brackets that are open.

Behind the name of a declaration a parenthesis shows a function (`atList_declared`), and the signs
of `endsVariable` show a variable (`run_endsVariable`).  Tokens that are part of no type and are no
names change nothing in a parameter (`Collecting.slot_idle`).
-/

namespace DocTemplate

/-- Whether the token is a sign that a parameter list takes before its parameters do. -/
def Token.isListSign (t : Token) : Bool := t.is .openParen || t.is .closeParen || t.is .equals

theorem Token.isListSign_eq_false {t : Token} : t.isListSign = false ↔
    t.is .openParen = false ∧ t.is .closeParen = false ∧ t.is .equals = false := by
  simp [isListSign, and_assoc]

namespace Language

open Written

variable {l : Language} {F : Frame → Prop} {ps : List Parameter} {t : Token} {s s' : Scan}
  {x y n : String} {d e : Int}

theorem readSlot_of_isCFamily (hl : l.isCFamily = true) (t : Token) (s : Scan) :
    l.readSlot t s = l.readDeclaratorSlot t s := by
  cases l with
  | c => rfl
  | java => rfl
  | _ => cases hl

theorem isVariableName_of_isCFamily (hl : l.isCFamily = true) (x : String) :
    l.isVariableName x = l.isName x := by
  cases l with
  | c => rfl
  | java => rfl
  | _ => cases hl

theorem startsType_empty (l : Language) : l.startsType "" = false := by
  cases l <;> rfl

theorem Collecting.kind_of_isCFamily (hF : Collecting l F) (hl : l.isCFamily = true)
    (hf : F s.frame) : s.decl.kind = some .function := by
  rcases hF.kind _ hf with hk | ⟨hscript, -⟩
  · exact hk
  · cases l with
    | c => cases hscript
    | java => cases hscript
    | _ => cases hl

theorem registered_of_isCFamily (hl : l.isCFamily = true) : l ∈ registry.map (·.2) := by
  cases l with
  | c => simp [registry]
  | java => simp [registry]
  | _ => cases hl

/-! ## Before the parameters -/

theorem readFunction_undeclared (hl : l.isCFamily = true) (hk : s.decl.kind = none) :
    l.readFunction t s = l.readDeclarator t s := by
  have htyped : l.readTypedFunction t s = l.readDeclarator t s := by
    unfold readTypedFunction
    rw [hk]
  cases l with
  | c => exact htyped
  | java => exact htyped
  | _ => cases hl

theorem readParameters_undeclared (hl : l.isCFamily = true) (hk : s.decl.kind = none) :
    l.readParameters t s = s.leave := by
  have hscript : l.isScript = false := by
    cases l with
    | c => rfl
    | java => rfl
    | _ => cases hl
  unfold readParameters
  rw [if_pos (by simp [collects, hk, hscript])]

theorem readVariable_of_isCFamily (hl : l.isCFamily = true) (t : Token) (s : Scan) :
    l.readVariable t s = readTypedVariable t s := by
  cases l with
  | c => rfl
  | java => rfl
  | _ => cases hl

/-- A token that belongs to the type or to the name, or to type parameters. -/
theorem step_of_readDeclarator (hl : l.isCFamily = true) (hin : l.inert t = true)
    (hk : s.decl.kind = none) (hd : s.done = false) (h : l.readDeclarator t s = s'.take) :
    l.step t s = s' := by
  have hread : l.readFunction t s = s'.take := by
    rw [readFunction_undeclared hl hk, h]
  rw [step_of_readFunction (inert_iff.1 hin).2.2.2 hd
    (readClass_of_inert hin (by rw [hk]; exact nofun)) (by rw [hread]; rfl), hread]
  rfl

/-- Other tokens go to the reader of variables. -/
theorem step_of_readTypedVariable (hl : l.isCFamily = true) (hin : l.inert t = true)
    (hk : s.decl.kind = none) (hd : s.done = false) (h : l.readDeclarator t s = s.leave) :
    l.step t s = (readTypedVariable t s).scan := by
  rw [step_of_readVariable (inert_iff.1 hin).2.2.2 hd
    (readClass_of_inert hin (by rw [hk]; exact nofun))
    ((readFunction_undeclared hl hk).trans h) (readParameters_undeclared hl hk),
    readVariable_of_isCFamily hl]

/-- Type parameters and constructors apart, all languages read a declaration alike. -/
theorem readDeclarator_eq (hx : s.typeText = "" → t.is .openAngle = false ∧ s.angleDepth = 0)
    (hn : s.candidate = "" → t.is .openParen = false) :
    l.readDeclarator t s = l.readTypeAndName t s := by
  cases l with
  | java =>
    unfold readDeclarator
    rw [if_neg, if_neg]
    · rintro ⟨hopen, hc, -⟩
      rw [hn hc] at hopen
      cases hopen
    · rintro ⟨htype, hangle | hdepth⟩
      · rw [(hx htype).1] at hangle
        cases hangle
      · exact hdepth (hx htype).2
  | _ => rfl

theorem readTypeAndName_of_some (ht : t.is .openParen = false) (hc : s.candidate = "")
    (he : l.extendType s.typeText s.angleDepth t = some (y, e)) :
    l.readTypeAndName t s = Scan.take { s with typeText := y, angleDepth := e } := by
  unfold readTypeAndName
  rw [if_neg (ne_true_of_eq_false ht), if_neg (not_not_intro hc), he]

theorem readTypeAndName_of_none (ht : t.is .openParen = false) (hc : s.candidate = "")
    (he : l.extendType s.typeText s.angleDepth t = none) :
    l.readTypeAndName t s =
      if s.typeText ≠ "" ∧ l.isName t.text = true then Scan.take { s with candidate := t.text }
      else s.leave := by
  unfold readTypeAndName
  rw [if_neg (ne_true_of_eq_false ht), if_neg (not_not_intro hc), he]

/-- The scan when the type of a declaration is read up to `x`, and `d` angle brackets are open. -/
def heading (x : String) (d : Int) : Scan := { typeText := x, angleDepth := d }

theorem step_heading (hl : l.isCFamily = true) (hin : l.inert t = true)
    (hparen : t.is .openParen = false) (hx : x = "" → t.is .openAngle = false ∧ d = 0)
    (he : l.extendType x d t = some (y, e)) : l.step t (heading x d) = heading y e := by
  refine step_of_readDeclarator hl hin rfl rfl ?_
  rw [readDeclarator_eq hx fun _ => hparen, readTypeAndName_of_some hparen rfl he]
  rfl

/-- The name behind the type. -/
theorem step_headingName (hl : l.isCFamily = true) (hin : l.inert t = true)
    (hp : t.isPlain = true) (hx : x ≠ "") (he : l.extendType x 0 t = none)
    (hn : l.isName t.text = true) :
    l.step t (heading x 0) = { typeText := x, candidate := t.text } := by
  refine step_of_readDeclarator hl hin rfl rfl ?_
  rw [readDeclarator_eq (fun h => absurd h hx) fun _ => Token.is_eq_false hp _,
    readTypeAndName_of_none (Token.is_eq_false hp _) rfl he]
  exact if_pos ⟨hx, hn⟩

/-- A parenthesis behind the name shows a function. -/
theorem atList_declared (hl : l.isCFamily = true) (hx : x ≠ "") (hn : n ≠ "") :
    AtList l (Announces n { present := true, type := some x })
      { typeText := x, candidate := n } where
  done := rfl
  kind := by exact nofun
  opens o := by
    refine ⟨{ decl := (named n).decl.setReturnType (some x), typeText := x, candidate := n }, ?_,
      ⟨⟨rfl, rfl, rfl, rfl, rfl, rfl⟩, rfl, rfl, rfl, rfl⟩⟩
    have htype : nonempty x = some x := if_neg hx
    rw [readFunction_undeclared hl rfl,
      readDeclarator_eq (fun h => absurd h hx) fun h => absurd h hn]
    unfold readTypeAndName
    rw [if_pos (by simp), if_pos hn, ← htype]
    rfl

/-! ## Variables -/

/-- The record of the variable whose type and name are read. -/
def typedVariable (x n : String) : Declaration :=
  { name := n, kind := some .var, returns := { present := false, type := some x } }

theorem decl_declareTyped (hx : x ≠ "") :
    (declareTyped { typeText := x, candidate := n }).decl = typedVariable x n := by
  have htype : nonempty x = some x := if_neg hx
  unfold declareTyped
  simp [htype, Declaration.declare, Declaration.setName, Declaration.setReturnType,
    typedVariable]

theorem finish_variable (hl : l.isCFamily = true) (mixed : Bool)
    (h : (l.settleKind s).decl = typedVariable x n) : l.finish mixed s = typedVariable x n := by
  have hphp : l ≠ .php := by
    rintro rfl
    cases hl
  unfold finish
  simp only [h, formatType_of_ne_php hphp]
  rfl

theorem finish_declared (hl : l.isCFamily = true) (mixed : Bool)
    (h : s.decl = typedVariable x n) : l.finish mixed s = typedVariable x n := by
  apply finish_variable hl
  unfold settleKind
  rw [if_pos (by rw [h]; rfl), h]

/-- A sign that ends the name of a variable declares it, and what comes after the sign is not read.
A bracket is also the last to go to the type. -/
theorem run_endsVariable (hl : l.isCFamily = true) (hx : x ≠ "") (hn : n ≠ "")
    (hin : l.inert t = true) (hends : endsVariable t = true) (hparen : t.is .openParen = false)
    (rest : List Token) :
    (l.run (t :: rest) { typeText := x, candidate := n }).decl =
      typedVariable (if t.is .openBracket then x ++ "[]" else x) n := by
  have hread : l.readDeclarator t { typeText := x, candidate := n } =
      Scan.leave { typeText := x, candidate := n } := by
    rw [readDeclarator_eq (fun h => absurd h hx) fun h => absurd h hn]
    unfold readTypeAndName
    rw [if_neg (ne_true_of_eq_false hparen), if_pos hn]
  have hstep := Reads.step (l := l) (t := t) (s := { typeText := x, candidate := n }) rfl rest
  rw [List.singleton_append, step_of_readTypedVariable hl hin rfl rfl hread] at hstep
  rw [hstep]
  unfold readTypedVariable
  rw [if_neg (by simp [hn]), if_pos hends]
  split
  · rw [run_of_finished (by exact rfl)]
    show (declareTyped { typeText := x, candidate := n }).decl.appendReturnType "[]" = _
    rw [decl_declareTyped hx]
    rfl
  · rw [run_of_finished (by exact rfl)]
    exact decl_declareTyped hx

/-! ## One slot -/

/-- In a parameter whose type is read up to `x`. -/
def TypeAt (F : Frame → Prop) (ps : List Parameter) (x : String) (s : Scan) : Prop :=
  (x = "" ∧ SlotStart F ps s) ∨ (x ≠ "" ∧ InSlot F (ps ++ [{ type := some x }]) true s)

theorem TypeAt.inSlot (h : TypeAt F ps x s) (hx : x ≠ "") :
    InSlot F (ps ++ [{ type := some x }]) true s := by
  rcases h with ⟨hx', -⟩ | ⟨-, h⟩
  · exact absurd hx' hx
  · exact h

theorem TypeAt.listing (h : TypeAt F ps x s) :
    ∃ ps', Listing F ps' s ∧ s.inValue = false := by
  rcases h with ⟨-, h⟩ | ⟨-, h⟩
  · exact ⟨_, h.toInList, h.inValue⟩
  · exact ⟨_, h.toInList, h.inValue⟩

theorem TypeAt.done (hF : Collecting l F) (h : TypeAt F ps x s) : s.done = false := by
  obtain ⟨_, hlist, -⟩ := h.listing
  exact hF.done _ hlist.frame

theorem readSlot_start (hl : l.isCFamily = true) (h : SlotStart F ps s) :
    l.readSlot t s =
      match l.extendType "" 0 t with
      | some (type, depth) =>
        Scan.take
          { s with
            decl := s.decl.addParameter { type := some type }
            typeDue := true
            angleDepth := depth }
      | none =>
        if t.is .openBracket = true ∧
            s.decl.lastParameter?.any (fun p => p.name ≠ "" && p.hasType) = true then
          Scan.take { s with decl := s.decl.arrayLastParameter }
        else if t.is .closeBracket = true then s.take
        else s.leave := by
  rw [readSlot_of_isCFamily hl]
  unfold readDeclaratorSlot
  split
  · rename_i hdue _
    exact absurd (hdue.symm.trans h.typeDue) (by decide)
  · rewrite [if_pos h.slotStart, h.angleDepth]
    rfl

theorem readSlot_type (hl : l.isCFamily = true) {q : Parameter}
    (h : InSlot F (ps ++ [q]) true s) :
    l.readSlot t s =
      match l.extendType (q.type.getD "") 0 t with
      | some (type, depth) =>
        Scan.take
          { s with
            decl := s.decl.modifyLastParameter fun p => { p with type := some type }
            angleDepth := depth }
      | none =>
        if l.isName t.text = true then
          Scan.take
            { s with
              decl := s.decl.modifyLastParameter fun p => { p with name := t.text }
              typeDue := false }
        else s.leave := by
  rw [readSlot_of_isCFamily hl, ← isVariableName_of_isCFamily hl]
  unfold readDeclaratorSlot
  rewrite [h.typeDue, Declaration.lastParameter?_of_concat h.parameters, h.angleDepth]
  rfl

theorem readSlot_named (hl : l.isCFamily = true) {q : Parameter}
    (h : InSlot F (ps ++ [q]) false s) :
    l.readSlot t s =
      if t.is .openBracket = true ∧ (q.name ≠ "" && q.hasType) = true then
        Scan.take { s with decl := s.decl.arrayLastParameter }
      else if t.is .closeBracket = true then s.take
      else s.leave := by
  rw [readSlot_of_isCFamily hl]
  simp only [readDeclaratorSlot, h.typeDue, Declaration.lastParameter?_of_concat h.parameters,
    h.slotStart, Bool.false_eq_true, if_false, Option.any_some]

theorem ne_empty_of_extendType (hx : x = "" → d = 0) (he : l.extendType x d t = some (y, e)) :
    y ≠ "" := by
  have happend : ∀ a b : String, a ≠ "" → a ++ b ≠ "" := by
    intro a b ha h
    exact ha (String.append_eq_empty_iff.1 h).1
  unfold extendType at he
  split at he
  · rename_i hd
    cases he
    exact happend _ _ fun h => hd (hx h)
  split at he
  · split at he
    · rename_i hstart
      cases he
      intro ht
      rw [ht, startsType_empty] at hstart
      cases hstart
    · cases he
  · rename_i hx
    repeat' split at he
    all_goals cases he
    all_goals first | exact hx | exact happend _ _ (happend _ _ hx) | exact happend _ _ hx

theorem extendType_openBracket (hx : x ≠ "") (g : Sign .openBracket) :
    l.extendType x 0 g.token = some (x ++ "[]", 0) := by
  unfold extendType
  simp [hx]

theorem extendType_closeBracket (hx : x ≠ "") (g : Sign .closeBracket) :
    l.extendType x 0 g.token = some (x, 0) := by
  unfold extendType
  simp [hx]

namespace Collecting

/-- A token of a type goes to the type of the parameter. -/
theorem slot_extend (hF : Collecting l F) (hl : l.isCFamily = true) (h : TypeAt F ps x s)
    (hin : l.inert t = true) (ht : divides t = false) (hg : x ≠ "" ∨ t.opensGroup = false)
    (he : l.extendType x 0 t = some (y, 0)) : TypeAt F ps y (l.step t s) := by
  refine .inr ⟨ne_empty_of_extendType (fun _ => rfl) he, ?_⟩
  rcases h with ⟨rfl, h⟩ | ⟨-, h⟩
  · have hread := readSlot_start (t := t) hl h
    rw [he] at hread
    rw [hF.step_slot h.toInList h.inValue hin ht (.inr (hg.resolve_left fun hx => hx rfl)) hread]
    exact ⟨⟨h.frame, Declaration.parameters_addParameter h.parameters _, h.depths_angle⟩,
      h.inValue, rfl, rfl⟩
  · have hread := readSlot_type (t := t) hl h
    rw [show (({ type := some x } : Parameter).type.getD "") = x from rfl, he] at hread
    rw [hF.step_slot h.toInList h.inValue hin ht (.inl h.slotStart) hread]
    exact ⟨⟨h.frame, Declaration.parameters_modifyLastParameter h.parameters _, h.depths_angle⟩,
      h.inValue, h.typeDue, rfl⟩

/-- A name that the type does not take is that of the parameter. -/
theorem slot_declaredName (hF : Collecting l F) (hl : l.isCFamily = true)
    (h : InSlot F (ps ++ [{ type := some x }]) true s) (hin : l.inert t = true)
    (ht : t.isPlain = true) (he : l.extendType x 0 t = none) (hn : l.isName t.text = true) :
    InSlot F (ps ++ [{ name := t.text, type := some x }]) false (l.step t s) := by
  have hread := readSlot_type (t := t) hl h
  rw [show (({ type := some x } : Parameter).type.getD "") = x from rfl, he] at hread
  simp only [hn, if_true] at hread
  rw [hF.step_slot h.toInList h.inValue hin (divides_eq_false ht) (.inl h.slotStart) hread]
  exact ⟨⟨h.frame, Declaration.parameters_modifyLastParameter h.parameters _, h.depths⟩,
    h.inValue, rfl, rfl⟩

/-- Brackets behind the name go to the type. -/
theorem slot_nameOpenBracket (hF : Collecting l F) (hl : l.isCFamily = true) (hn : n ≠ "")
    (hx : x ≠ "") (h : InSlot F (ps ++ [{ name := n, type := some x }]) false s)
    (g : Sign .openBracket) :
    InSlot F (ps ++ [{ name := n, type := some (x ++ "[]") }]) false (l.step g.token s) := by
  have hread := readSlot_named (t := g.token) hl h
  rw [if_pos ⟨by simp, by simp [hn, Parameter.hasType, hx]⟩] at hread
  exact hF.slot_openBracket (q := { name := n }) h g hread

theorem slot_nameCloseBracket (hF : Collecting l F) (hl : l.isCFamily = true) {q : Parameter}
    (h : InSlot F (ps ++ [q]) false s) (g : Sign .closeBracket) : l.step g.token s = s := by
  have hread := readSlot_named (t := g.token) hl h
  rw [if_neg (by simp), if_pos (by simp)] at hread
  exact hF.slot_closeBracket h g hread

/-- A word that is part of no type and is no name changes nothing. -/
theorem slot_idle (hF : Collecting l F) (hl : l.isCFamily = true) (h : Listing F ps s)
    (hv : s.inValue = false) (hin : l.inert t = true) (ht : t.isPlain = true)
    (he : ∀ x, l.extendType x 0 t = none) (hn : l.isName t.text = false) : l.step t s = s := by
  have hread : l.readSlot t s = s.leave := by
    rw [readSlot_of_isCFamily hl]
    unfold readDeclaratorSlot
    simp only [h.angleDepth, he, isVariableName_of_isCFamily hl, hn, Token.is_eq_false ht,
      Bool.false_eq_true, if_false, false_and, ite_self]
    split <;> rfl
  exact hF.step_idle h hv hin (divides_eq_false ht) (.inr (Token.opensGroup_eq_false ht))
    (hF.kind_of_isCFamily hl h.frame) hread

end Collecting

/-! ## Types with angle brackets -/

/-- A parameter whose type is read up to `x`, with `d` angle brackets open. -/
def typing (s : Scan) (x : String) (d : Int) : Scan :=
  { s with
    decl := s.decl.addParameter { type := some x }
    typeDue := true
    slotStart := false
    angleDepth := d }

theorem SlotStart.typing (h : SlotStart F ps s) (x : String) :
    InSlot F (ps ++ [{ type := some x }]) true (typing s x 0) :=
  ⟨⟨h.frame, Declaration.parameters_addParameter h.parameters _, h.depths_angle⟩, h.inValue, rfl,
    rfl⟩

namespace Collecting

theorem step_typingStart (hF : Collecting l F) (hl : l.isCFamily = true) (h : SlotStart F ps s)
    (hin : l.inert t = true) (hp : t.isPlain = true)
    (he : l.extendType "" 0 t = some (y, e)) : l.step t s = Language.typing s y e := by
  have hread := readSlot_start (t := t) hl h
  rw [he] at hread
  rw [hF.step_slot h.toInList h.inValue hin (divides_eq_false hp)
    (.inr (Token.opensGroup_eq_false hp)) hread]
  rfl

/-- A comma goes to the type as well, between angle brackets. -/
theorem step_typing (hF : Collecting l F) (hl : l.isCFamily = true) (h : SlotStart F ps s)
    (hin : l.inert t = true) (ht : t.is .openParen = false ∧ t.is .closeParen = false)
    (hequals : t.is .equals = false) (hcomma : d = 0 → t.is .comma = false)
    (he : l.extendType x d t = some (y, e)) :
    l.step t (Language.typing s x d) = Language.typing s y e := by
  have hslot : l.readSlot t (Language.typing s x d) = (Language.typing s y e).take := by
    have hlast : (Language.typing s x d).decl.lastParameter? = some { type := some x } :=
      Declaration.lastParameter?_of_concat rfl
    rw [readSlot_of_isCFamily hl]
    unfold readDeclaratorSlot
    rw [hlast]
    simp [Language.typing, he, Declaration.addParameter, Declaration.modifyLastParameter,
      modifyLast_concat]
  have hread : l.readParameters t (Language.typing s x d) = (Language.typing s y e).take := by
    have hlist : (Language.typing s x d).listOpen = true := h.listOpen
    have hvalue : (Language.typing s x d).inValue = false := h.inValue
    have hgroup : (Language.typing s x d).groupDepth = 0 := h.groupDepth
    have hstart : (Language.typing s x d).slotStart = false := rfl
    rw [hF.readParameters_eq (s := Language.typing s x d) h.frame ht.1 ht.2]
    unfold readInList
    rw [if_neg (not_not_intro hlist), if_neg (ne_true_of_eq_false hvalue),
      if_neg (by simp [hgroup, hstart]),
      if_neg (fun hc => ne_true_of_eq_false (hcomma hc.2) hc.1),
      if_neg (fun hc => ne_true_of_eq_false hequals hc.1), hslot]
    rfl
  rw [hF.step_eq (s := Language.typing s x d) h.frame h.listOpen hin (.inl (by rw [hread]; rfl)),
    hread]
  rfl

end Collecting

/-! ## Places of types -/

/-- A place where a type is read: `s` is the scan before it, and `site x d` the one when the text
`x` is read and `d` angle brackets are open. -/
structure TypeSite (l : Language) (s : Scan) (site : String → Int → Scan) : Prop where
  start : s.done = false
  done : ∀ x d, (site x d).done = false
  first : ∀ {t y e}, l.inert t = true → t.isPlain = true → l.extendType "" 0 t = some (y, e) →
    l.step t s = site y e
  next : ∀ {x d t y e}, x ≠ "" → l.inert t = true → t.isListSign = false →
    (d = 0 → t.is .comma = false) → l.extendType x d t = some (y, e) →
      l.step t (site x d) = site y e

/-- Before the name of a declaration. -/
theorem typeSite_head (hl : l.isCFamily = true) : TypeSite l {} heading where
  start := rfl
  done _ _ := rfl
  first hin hp he :=
    step_heading hl hin (Token.is_eq_false hp _) (fun _ => ⟨Token.is_eq_false hp _, rfl⟩) he
  next hx hin ht _ he :=
    step_heading hl hin (Token.isListSign_eq_false.1 ht).1 (fun h => absurd h hx) he

/-- Before the name of a parameter. -/
theorem SlotStart.typeSite (hF : Collecting l F) (hl : l.isCFamily = true)
    (h : SlotStart F ps s) : TypeSite l s (Language.typing s) where
  start := hF.done _ h.frame
  done _ _ := hF.done _ h.frame
  first hin hp he := hF.step_typingStart hl h hin hp he
  next _ hin ht hcomma he := by
    obtain ⟨hopen, hclose, hequals⟩ := Token.isListSign_eq_false.1 ht
    exact hF.step_typing hl h hin ⟨hopen, hclose⟩ hequals hcomma he

theorem TypeSite.reads_brackets {site : String → Int → Scan} (h : TypeSite l s site)
    (hl : l.isCFamily = true) (arrays : List Brackets) (hx : x ≠ "") :
    Reads l (arrays.flatMap Brackets.tokens) (site x 0) (site (arrayText x arrays.length) 0) := by
  obtain ⟨hsigns, -⟩ := signs_of_registered (registered_of_isCFamily hl)
  induction arrays generalizing x with
  | nil =>
    rw [List.length_nil, arrayText_zero]
    exact .nil
  | cons b arrays ih =>
    have hx' : x ++ "[]" ≠ "" := by simp
    refine .cons (h.done _ _) ?_
    rw [h.next hx (hsigns _ b.opener (by decide)) (by simp [Token.isListSign])
      (fun _ => by simp) (extendType_openBracket hx b.opener)]
    refine .cons (h.done _ _) ?_
    rw [h.next hx' (hsigns _ b.closer (by decide)) (by simp [Token.isListSign])
      (fun _ => by simp) (extendType_closeBracket hx' b.closer), List.length_cons, arrayText_succ]
    exact ih hx'

end Language

end DocTemplate
