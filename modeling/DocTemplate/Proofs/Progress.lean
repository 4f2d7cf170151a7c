import DocTemplate.Proofs.Isolation

/-!
# Progress

What a token can still change.

* Kind and name are written once, and a declaration that is done stays done (`Scan.Grows`).  So do
  the parameters but the last, and one is added at most (`Touches`).
* A token that no reader takes changes nothing, except that parentheses inside of a list are
  counted (`step_of_left`).  A parenthesis that shows a function is left by the reader that declares
  it, but then it opens a list and is taken there.

The second rests on where a list can be open: in a function, or behind the equals sign of a script
(`Scan.Announced`).
-/

namespace DocTemplate

/-! ## What is written once -/

/-- Whatever kind and name a record has, the other one has too. -/
structure Declaration.Keeps (d d' : Declaration) : Prop where
  kind : ∀ k, d.kind = some k → d'.kind = some k
  name : d.name ≠ "" → d'.name = d.name

namespace Declaration

variable (d : Declaration)

theorem keeps_refl : d.Keeps d := ⟨fun _ h => h, fun _ => rfl⟩

variable {d} in
theorem Keeps.trans {d₁ d₂ : Declaration} (h : d.Keeps d₁) (h' : d₁.Keeps d₂) : d.Keeps d₂ := by
  refine ⟨fun k hk => h'.kind k (h.kind k hk), fun hn => ?_⟩
  have h₁ := h.name hn
  rw [h'.name (by rw [h₁]; exact hn), h₁]

theorem keeps_declare (k : Kind) : d.Keeps (d.declare k) := by
  refine ⟨fun k' hk => ?_, fun _ => name_declare d k⟩
  rw [declare_of_some hk, hk]

theorem keeps_setName (name : String) : d.Keeps (d.setName name) := by
  refine ⟨fun k hk => (kind_setName d name).trans hk, fun hn => ?_⟩
  rw [setName_of_ne hn]

end Declaration

/-- What is settled in a scan stays so. -/
structure Scan.Grows (s s' : Scan) : Prop where
  decl : s.decl.Keeps s'.decl
  assigned : s.assigned = true → s'.assigned = true
  done : s.done = true → s'.done = true

namespace Scan.Grows

open DocTemplate.Language

variable {l : Language} {t : Token} {s s₁ s₂ : Scan}

theorem refl (s : Scan) : s.Grows s := ⟨s.decl.keeps_refl, id, id⟩

theorem trans (h : s.Grows s₁) (h' : s₁.Grows s₂) : s.Grows s₂ :=
  ⟨h.decl.trans h'.decl, h'.assigned ∘ h.assigned, h'.done ∘ h.done⟩

theorem of_eq (hk : s₁.decl.kind = s.decl.kind) (hn : s₁.decl.name = s.decl.name)
    (ha : s₁.assigned = s.assigned) (hd : s₁.done = s.done) : s.Grows s₁ :=
  ⟨⟨fun _ h => hk.trans h, fun _ => hn⟩, ha.trans, hd.trans⟩

theorem readClass (l : Language) (t : Token) (s : Scan) : s.Grows (l.readClass t s).scan := by
  unfold Language.readClass
  split
  · exact ⟨s.decl.keeps_declare _, id, id⟩
  split
  · exact ⟨s.decl.keeps_setName _, id, fun _ => rfl⟩
  · exact refl s

theorem readSignature (l : Language) (t : Token) (s : Scan) :
    s.Grows (l.readSignature t s).scan := by
  unfold Language.readSignature
  repeat' split
  all_goals first
    | exact of_eq rfl rfl rfl rfl
    | exact ⟨s.decl.keeps_setName _, id, id⟩
    | exact ⟨s.decl.keeps_refl, id, fun _ => rfl⟩

theorem readWordFunction (l : Language) (t : Token) (s : Scan) :
    s.Grows (l.readWordFunction t s).scan := by
  unfold Language.readWordFunction
  split
  · exact ⟨s.decl.keeps_declare _, id, id⟩
  split
  · exact readSignature l t s
  · exact refl s

theorem nameFunction (s : Scan) (name : String) : s.Grows (nameFunction s name) :=
  ⟨(s.decl.keeps_declare .function).trans (Declaration.keeps_setName _ name), id, id⟩

theorem readScriptFunction (l : Language) (t : Token) (s : Scan) :
    s.Grows (l.readScriptFunction t s).scan := by
  have hname := nameFunction s s.candidate
  unfold Language.readScriptFunction
  split
  · exact ⟨hname.decl, id, id⟩
  split
  · split
    · exact hname
    split
    · exact hname
    · exact refl s
  · split
    · exact refl s
    · exact readSignature l t s
  · exact refl s

theorem readTypeAndName (l : Language) (t : Token) (s : Scan) :
    s.Grows (l.readTypeAndName t s).scan := by
  have hname := nameFunction s s.candidate
  unfold Language.readTypeAndName
  split
  · split
    · exact ⟨⟨hname.decl.kind, hname.decl.name⟩, id, id⟩
    · exact refl s
  repeat' split
  all_goals exact of_eq rfl rfl rfl rfl

theorem readDeclarator (l : Language) (t : Token) (s : Scan) :
    s.Grows (l.readDeclarator t s).scan := by
  unfold Language.readDeclarator
  split
  · split
    · exact of_eq rfl rfl rfl rfl
    split
    · exact nameFunction s s.typeText
    · exact readTypeAndName _ t s
  · exact readTypeAndName l t s

theorem readTypedFunction (l : Language) (t : Token) (s : Scan) :
    s.Grows (l.readTypedFunction t s).scan := by
  unfold Language.readTypedFunction
  split
  · exact readDeclarator l t s
  · exact readSignature l t s
  · exact refl s

theorem readFunction (l : Language) (t : Token) (s : Scan) :
    s.Grows (l.readFunction t s).scan := by
  cases l with
  | plain g => exact readWordFunction _ t s
  | php => exact readWordFunction _ t s
  | scss =>
    have h := readWordFunction .scss t s
    show s.Grows (readSheetFunction .scss t s).scan
    unfold readSheetFunction
    dsimp only
    split
    · exact ⟨⟨h.decl.kind, h.decl.name⟩, h.assigned, h.done⟩
    · exact h
  | javascript => exact readScriptFunction _ t s
  | typescript => exact readScriptFunction _ t s
  | c => exact readTypedFunction _ t s
  | java => exact readTypedFunction _ t s

theorem readParameters (l : Language) (t : Token) (s : Scan) :
    s.Grows (l.readParameters t s).scan := by
  have h := frame_readParameters l t s
  exact of_eq (congrArg Frame.kind h) (congrArg Frame.name h) (congrArg Frame.assigned h)
    (congrArg Frame.done h)

theorem typeVariable (s : Scan) : s.Grows (typeVariable s) := by
  unfold Language.typeVariable
  split
  · exact refl s
  · exact of_eq rfl rfl rfl rfl

theorem readWordVariable (l : Language) (t : Token) (s : Scan) :
    s.Grows (l.readWordVariable t s).scan := by
  unfold Language.readWordVariable
  split
  · split
    · exact refl s
    · exact ⟨s.decl.keeps_setName _, id, fun _ => rfl⟩
  split
  · exact refl s
  split
  · exact ⟨s.decl.keeps_declare _, id, id⟩
  split
  · have htype := typeVariable { s with decl := (s.decl.setName t.text).declare .var }
    exact ⟨((s.decl.keeps_setName _).trans (Declaration.keeps_declare _ _)).trans htype.decl,
      htype.assigned, fun _ => rfl⟩
  split
  · exact of_eq rfl rfl rfl rfl
  · exact refl s

theorem readScriptVariable (l : Language) (t : Token) (s : Scan) :
    s.Grows (l.readScriptVariable t s).scan := by
  unfold Language.readScriptVariable
  repeat' split
  all_goals first
    | exact of_eq rfl rfl rfl rfl
    | exact ⟨s.decl.keeps_setName _, id, id⟩
    | exact ⟨s.decl.keeps_refl, fun _ => rfl, id⟩

theorem readTypedVariable (t : Token) (s : Scan) : s.Grows (readTypedVariable t s).scan := by
  have htyped : s.decl.Keeps (declareTyped s).decl := by
    have h := (s.decl.keeps_declare .var).trans (Declaration.keeps_setName _ s.candidate)
    exact ⟨h.kind, h.name⟩
  unfold Language.readTypedVariable
  split
  · exact refl s
  split
  · dsimp only
    split
    · exact ⟨⟨htyped.kind, htyped.name⟩, id, fun _ => rfl⟩
    · exact ⟨htyped, id, fun _ => rfl⟩
  · exact refl s

theorem readVariable (l : Language) (t : Token) (s : Scan) :
    s.Grows (l.readVariable t s).scan := by
  cases l with
  | plain g => exact readWordVariable _ t s
  | php => exact readWordVariable _ t s
  | scss => exact readWordVariable _ t s
  | javascript => exact readScriptVariable _ t s
  | typescript => exact readScriptVariable _ t s
  | c => exact readTypedVariable t s
  | java => exact readTypedVariable t s

/-- Whichever stage reads a token, nothing that was found is lost. -/
theorem readStage (l : Language) (g : Stage) (t : Token) (s : Scan) :
    s.Grows (l.readStage g t s).scan := by
  cases g with
  | classHead => exact readClass l t s
  | function => exact readFunction l t s
  | parameters => exact readParameters l t s
  | var => exact readVariable l t s

theorem step (l : Language) (t : Token) (s : Scan) : s.Grows (l.step t s) :=
  pass_preserves (P := s.Grows) (Q := s.Grows) (fun _ h => h)
    (fun g s₁ h _ => h.trans (readStage l g t s₁)) (fun g s₁ h _ => h.trans (readStage l g t s₁))
    _ (refl s)

end Scan.Grows

/-! ## Where lists are open -/

/-- A list is open in a function, or behind the equals sign of a script. -/
def Scan.Announced (l : Language) (s : Scan) : Prop :=
  s.listOpen = true → s.decl.kind = some .function ∨ (l.isScript = true ∧ s.assigned = true)

namespace Scan.Announced

open DocTemplate.Language

variable {l : Language} {t : Token} {s s' : Scan}

theorem init (l : Language) : Announced l {} := fun h => by cases h

/-- A function stays one, and what was assigned stays so. -/
theorem of_grows (h : s.Announced l) (hg : s.Grows s') (hl : s'.listPart = s.listPart) :
    s'.Announced l := by
  intro ho
  have ho' : s.listOpen = true := (congrArg ListPart.listOpen hl).symm.trans ho
  exact (h ho').imp (hg.decl.kind _) (And.imp_right hg.assigned)

theorem readParameters (h : s.Announced l) (t : Token) :
    Announced l (l.readParameters t s).scan := by
  by_cases hc : l.collects s = true
  · have hf := frame_readParameters l t s
    have hkind : (l.readParameters t s).scan.decl.kind = s.decl.kind := congrArg Frame.kind hf
    have hassigned : (l.readParameters t s).scan.assigned = s.assigned :=
      congrArg Frame.assigned hf
    intro _
    rw [hkind, hassigned]
    simp only [Language.collects, Bool.or_eq_true, Bool.and_eq_true, decide_eq_true_eq] at hc
    exact hc.imp_right fun h => ⟨h.1.1, h.2⟩
  · unfold Language.readParameters
    rw [if_pos hc]
    exact h

theorem readStage (h : s.Announced l) (g : Stage) (t : Token) :
    Announced l (l.readStage g t s).scan := by
  have hg := Grows.readStage l g t s
  cases g with
  | classHead => exact h.of_grows hg (listPart_readClass l t s)
  | function => exact h.of_grows hg (listPart_readFunction l t s)
  | parameters => exact h.readParameters t
  | var => exact h.of_grows hg (listPart_readVariable l t s)

theorem step (h : s.Announced l) (t : Token) : Announced l (l.step t s) :=
  pass_preserves (P := Announced l) (Q := Announced l) (fun _ h => h)
    (fun g _ h _ => h.readStage g t) (fun g _ h _ => h.readStage g t) _ h

theorem run (h : s.Announced l) (ts : List Token) : Announced l (l.run ts s) :=
  run_preserves (fun t _ h => h.step t) ts h

/-- Outside of scripts, no list is open before there is a function. -/
theorem listOpen_eq_false (ha : s.Announced l) (hl : l.isScript = false)
    (hk : s.decl.kind ≠ some .function) : s.listOpen = false := by
  refine eq_false_of_ne_true fun ho => ?_
  rcases ha ho with h | ⟨h, -⟩
  · exact hk h
  · rw [hl] at h
    cases h

end Scan.Announced

/-! ## Tokens that no reader takes -/

namespace Language

variable {l : Language} {t : Token} {s s₁ : Scan}

/-- Where a parenthesis shows a function no list is open yet, so it opens one. -/
theorem readParameters_of_showsFunction (hn : s.Nested) (ha : s.Announced l)
    (hl : s₁.listPart = s.listPart) (h : ShowsFunction l t s s₁) :
    (l.readParameters t s₁).taken = true := by
  have hclosed : ¬s.listOpen = true := by
    intro ho
    rcases ha ho with hk | ⟨hs, has⟩
    · rw [h.kind] at hk
      cases hk
    · rw [h.assigned hs] at has
      cases has
  have hdepth : s₁.parenDepth = 0 := by
    have hle := hn.parenDepth
    rw [hn.listOpen] at hclosed
    rw [show s₁.parenDepth = s.parenDepth from congrArg ListPart.parenDepth hl]
    omega
  unfold readParameters
  simp [collects, h.function, h.openParen, hdepth, Scan.take]

/-- What a token that all stages leave can do. -/
theorem pass_of_left (hn : s.Nested) (ha : s.Announced l)
    (h : ∀ v ∈ (l.pass t Stage.all s).1, v.2 = false) : Passes t s (l.pass t Stage.all s).2 := by
  unfold Stage.all at h ⊢
  obtain ⟨hc, hpass, h⟩ := pass_cons_of_left h
  have hclass : l.readStage .classHead t s = s.leave := readClass_of_leave hc
  rw [hclass] at hpass h
  rw [hpass]
  obtain ⟨hf, hpass, h⟩ := pass_cons_of_left h
  rw [hpass]
  obtain ⟨hp, hpass, h⟩ := pass_cons_of_left h
  rw [hpass]
  rcases readFunction_of_leave hf with hs | hs
  · have hfunction : l.readStage .function t s.leave.scan = s.leave := hs
    rw [hfunction] at hp h ⊢
    obtain ⟨hv, hpass, -⟩ := pass_cons_of_left h
    have hvar : l.readStage .var t (l.readStage .parameters t s).scan =
        (l.readStage .parameters t s).scan.leave := readVariable_of_leave hv
    rw [hpass]
    show Passes t s (l.readStage .var t (l.readStage .parameters t s).scan).scan
    rw [hvar]
    exact readParameters_of_leave hn.parenDepth hp
  · have htaken := readParameters_of_showsFunction hn ha (listPart_readFunction l t s) hs
    exact absurd (hp.symm.trans htaken) Bool.false_ne_true

/-- A token that no reader takes changes nothing but the depth of parentheses. -/
theorem step_of_left (hn : s.Nested) (ha : s.Announced l)
    (h : ∀ v ∈ l.visits t s, v.2 = false) : Passes t s (l.step t s) := by
  unfold visits at h
  unfold step
  revert h
  unfold stages
  split
  · exact fun _ => .unchanged
  split
  · intro h
    obtain ⟨hp, hpass, -⟩ := pass_cons_of_left h
    rw [hpass]
    exact readParameters_of_leave hn.parenDepth hp
  · exact pass_of_left hn ha

end Language

/-- What one token may do to a scan: what is settled stays, and of the parameters the last one may
change, or one may be added. -/
structure Scan.Progress (s s' : Scan) : Prop where
  kind : ∀ k, s.decl.kind = some k → s'.decl.kind = some k
  name : s.decl.name ≠ "" → s'.decl.name = s.decl.name
  done : s.done = true → s'.done = true
  kept : s.decl.parameters.dropLast <+: s'.decl.parameters
  not_fewer : s.decl.parameters.length ≤ s'.decl.parameters.length
  one_more : s'.decl.parameters.length ≤ s.decl.parameters.length + 1

theorem Touches.dropLast_prefix {ps ps' : List Parameter} (h : Touches ps ps') :
    ps.dropLast <+: ps' := by
  cases h with
  | keep => exact List.dropLast_prefix ps
  | change f =>
    rcases List.eq_nil_or_concat ps with rfl | ⟨init, last, rfl⟩
    · exact List.nil_prefix
    · rw [List.concat_eq_append, List.dropLast_concat, modifyLast_concat]
      exact List.prefix_append _ _
  | add p => exact (List.dropLast_prefix ps).trans (List.prefix_append _ _)

/-- There is at most one parameter more. -/
theorem Touches.length_bounds {ps ps' : List Parameter} (h : Touches ps ps') :
    ps.length ≤ ps'.length ∧ ps'.length ≤ ps.length + 1 := by
  cases h with
  | keep => omega
  | change f =>
    rw [length_modifyLast]
    omega
  | add p =>
    rw [List.length_append, List.length_singleton]
    omega

namespace Language

variable {l : Language} {t : Token} {s s₁ : Scan}

/-- **Kind, name and end of a declaration are written once, and parameters are only added.**  A token
that no reader takes changes nothing but the depth of nested parentheses. -/
theorem progress_step (l : Language) (ts : List Token) (t : Token) :
    (l.run ts {}).Progress (l.step t (l.run ts {})) ∧
    ((∀ v ∈ l.visits t (l.run ts {}), v.2 = false) →
      Passes t (l.run ts {}) (l.step t (l.run ts {}))) := by
  have hgrows := Scan.Grows.step l t (l.run ts {})
  have htouches := touches_step l t (l.run ts {})
  constructor
  · exact ⟨hgrows.decl.kind, hgrows.decl.name, hgrows.done, htouches.dropLast_prefix,
      htouches.length_bounds.1, htouches.length_bounds.2⟩
  · exact step_of_left (Scan.Nested.init.run ts) ((Scan.Announced.init l).run ts)

/-- `function foo(int` -/
def typedHead : List Token :=
  [{ kind := "function", text := "function", start := 2, stop := 10 },
    { kind := "name", text := "foo", start := 11, stop := 14 },
    { kind := "(", text := "(", start := 14, stop := 15 },
    { kind := "primitive_type", text := "int", start := 15, stop := 18 }]

/-- A parenthesis where a name is due is left by all readers. -/
theorem progress_step_typedHead :
    (∀ v ∈ Language.php.visits { kind := "(", text := "(", start := 19, stop := 20 }
      (Language.php.run typedHead {}), v.2 = false) ∧
    (Language.php.run typedHead {}).parenDepth = 1 ∧
    (Language.php.run (typedHead ++ [{ kind := "(", text := "(", start := 19, stop := 20 }])
      {}).parenDepth = 2 ∧
    Passes { kind := "(", text := "(", start := 19, stop := 20 } (Language.php.run typedHead {})
      (Language.php.step { kind := "(", text := "(", start := 19, stop := 20 }
        (Language.php.run typedHead {})) := by
  have hleft : ∀ v ∈ Language.php.visits { kind := "(", text := "(", start := 19, stop := 20 }
      (Language.php.run typedHead {}), v.2 = false := by decide
  exact ⟨hleft, by decide, by decide, (progress_step .php typedHead _).2 hleft⟩

end Language

end DocTemplate
