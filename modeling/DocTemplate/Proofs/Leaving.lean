import DocTemplate.Proofs.Step

/-!
# Tokens that are left

A reader that leaves a token leaves the scan as it was, with two exceptions.

* The reader of parameters counts the parentheses inside of a list before it looks at the token
  (`Passes`).
* In the C family and in scripts, a parenthesis shows that what was read is a function.  The reader
  of functions declares it and leaves the parenthesis to the reader of parameters
  (`ShowsFunction`).
-/

namespace DocTemplate.Language

variable {l : Language} {t : Token} {s : Scan}

/-! ## Heads -/

/-- A reader of classes that leaves a token leaves the scan as it is. -/
theorem readClass_of_leave (h : (l.readClass t s).taken = false) :
    l.readClass t s = s.leave := by
  revert h
  unfold readClass
  repeat' split
  all_goals first | exact fun _ => rfl | exact fun h => by cases h

theorem readSignature_of_leave (h : (l.readSignature t s).taken = false) :
    l.readSignature t s = s.leave := by
  revert h
  unfold readSignature
  repeat' split
  all_goals first | exact fun _ => rfl | exact fun h => by cases h

theorem readWordFunction_of_leave (h : (l.readWordFunction t s).taken = false) :
    l.readWordFunction t s = s.leave := by
  revert h
  unfold readWordFunction
  split
  · exact fun h => by cases h
  split
  · exact readSignature_of_leave
  · exact fun _ => rfl

theorem kind_nameFunction (hk : s.decl.kind = none) (name : String) :
    (nameFunction s name).decl.kind = some .function := by
  unfold nameFunction
  rw [Declaration.kind_setName, Declaration.kind_declare, hk]
  rfl

/-- A parenthesis that shows a function may be left by the reader that declares it. -/
structure ShowsFunction (l : Language) (t : Token) (s s' : Scan) : Prop where
  openParen : t.is .openParen = true
  kind : s.decl.kind = none
  assigned : l.isScript = true → s.assigned = false
  function : s'.decl.kind = some .function
  done : s'.done = s.done

/-- A parenthesis that shows a function is left for the reader of parameters. -/
theorem readScriptFunction_of_leave (h : (l.readScriptFunction t s).taken = false) :
    l.readScriptFunction t s = s.leave ∨
      ShowsFunction l t s (l.readScriptFunction t s).scan := by
  revert h
  unfold readScriptFunction
  split
  · exact fun h => by cases h
  split
  · rename_i hk
    split
    · exact fun h => by cases h
    split
    · rename_i hp
      exact fun _ => .inr ⟨hp.1, hk, fun _ => by simpa using hp.2.2, kind_nameFunction hk _, rfl⟩
    · exact fun _ => .inl rfl
  · split
    · exact fun h => by cases h
    · exact fun h => .inl (readSignature_of_leave h)
  · exact fun _ => .inl rfl

theorem readTypeAndName_of_leave (hl : l.isScript = false) (hk : s.decl.kind = none)
    (h : (l.readTypeAndName t s).taken = false) :
    l.readTypeAndName t s = s.leave ∨ ShowsFunction l t s (l.readTypeAndName t s).scan := by
  have hscript : l.isScript = true → s.assigned = false := fun hs => by rw [hl] at hs; cases hs
  revert h
  unfold readTypeAndName
  split
  · rename_i hp
    split
    · exact fun _ => .inr ⟨hp, hk, hscript, kind_nameFunction hk _, rfl⟩
    · exact fun _ => .inl rfl
  repeat' split
  all_goals first | exact fun _ => .inl rfl | exact fun h => by cases h

/-- A parenthesis after a type and a name is left in the same way. -/
theorem readTypedFunction_of_leave (hl : l.isScript = false)
    (h : (l.readTypedFunction t s).taken = false) :
    l.readTypedFunction t s = s.leave ∨ ShowsFunction l t s (l.readTypedFunction t s).scan := by
  revert h
  unfold readTypedFunction
  split
  · rename_i hk
    unfold readDeclarator
    split
    · split
      · exact fun h => by cases h
      split
      · rename_i hp
        exact fun _ => .inr ⟨hp.1, hk, nofun, kind_nameFunction hk _, rfl⟩
      · exact readTypeAndName_of_leave hl hk
    · exact readTypeAndName_of_leave hl hk
  · exact fun h => .inl (readSignature_of_leave h)
  · exact fun _ => .inl rfl

/-- A token that the reader of functions leaves changes nothing, or shows a function. -/
theorem readFunction_of_leave (h : (l.readFunction t s).taken = false) :
    l.readFunction t s = s.leave ∨ ShowsFunction l t s (l.readFunction t s).scan := by
  cases l with
  | plain g => exact .inl (readWordFunction_of_leave h)
  | php => exact .inl (readWordFunction_of_leave h)
  | scss =>
    -- the word of a mixin is that of a function, and never left
    have htext : t.text ≠ "@mixin" := by
      intro ht
      have hword : Grammar.scss.has .functionWord t.text = true := by rw [ht]; decide
      have htaken : (Language.scss.readFunction t s).taken = true := by
        show (readSheetFunction .scss t s).taken = true
        unfold readSheetFunction readWordFunction
        rw [if_pos ht, if_pos (show Language.scss.grammar.has _ _ = true from hword)]
        rfl
      rw [htaken] at h
      cases h
    revert h
    show (readSheetFunction .scss t s).taken = false → readSheetFunction .scss t s = s.leave ∨ _
    unfold readSheetFunction
    dsimp only
    rw [if_neg htext]
    exact fun h => .inl (readWordFunction_of_leave h)
  | javascript => exact readScriptFunction_of_leave h
  | typescript => exact readScriptFunction_of_leave h
  | c => exact readTypedFunction_of_leave rfl h
  | java => exact readTypedFunction_of_leave rfl h

/-! ## Variables -/

theorem readWordVariable_of_leave (h : (l.readWordVariable t s).taken = false) :
    l.readWordVariable t s = s.leave := by
  revert h
  unfold readWordVariable
  dsimp only
  repeat' split
  all_goals first | exact fun _ => rfl | exact fun h => by cases h

theorem readScriptVariable_of_leave (h : (l.readScriptVariable t s).taken = false) :
    l.readScriptVariable t s = s.leave := by
  revert h
  unfold readScriptVariable
  repeat' split
  all_goals first | exact fun _ => rfl | exact fun h => by cases h

theorem readTypedVariable_of_leave (h : (readTypedVariable t s).taken = false) :
    readTypedVariable t s = s.leave := by
  revert h
  unfold readTypedVariable
  dsimp only
  repeat' split
  all_goals first | exact fun _ => rfl | exact fun h => by cases h

/-- A token that the reader of variables leaves changes nothing. -/
theorem readVariable_of_leave (h : (l.readVariable t s).taken = false) :
    l.readVariable t s = s.leave := by
  cases l with
  | plain g => exact readWordVariable_of_leave h
  | php => exact readWordVariable_of_leave h
  | scss => exact readWordVariable_of_leave h
  | javascript => exact readScriptVariable_of_leave h
  | typescript => exact readScriptVariable_of_leave h
  | c => exact readTypedVariable_of_leave h
  | java => exact readTypedVariable_of_leave h

/-! ## Parameters -/

theorem readTypedSlot_of_leave (h : (l.readTypedSlot t s).taken = false) :
    l.readTypedSlot t s = s.leave := by
  revert h
  unfold readTypedSlot
  repeat' split
  all_goals first | exact fun _ => rfl | exact fun h => by cases h

theorem readScriptSlot_of_leave (h : (l.readScriptSlot t s).taken = false) :
    l.readScriptSlot t s = s.leave := by
  revert h
  unfold readScriptSlot
  dsimp only
  repeat' split
  all_goals first | exact fun _ => rfl | exact fun h => by cases h

theorem readDeclaratorSlot_of_leave (h : (l.readDeclaratorSlot t s).taken = false) :
    l.readDeclaratorSlot t s = s.leave := by
  revert h
  unfold readDeclaratorSlot
  repeat' split
  all_goals first | exact fun _ => rfl | exact fun h => by cases h

/-- A token that no reader of parameters takes changes nothing. -/
theorem readSlot_of_leave (h : (l.readSlot t s).taken = false) : l.readSlot t s = s.leave := by
  cases l with
  | plain g => exact readTypedSlot_of_leave h
  | php => exact readTypedSlot_of_leave h
  | scss =>
    revert h
    show (readSheetSlot .scss t s).taken = false → readSheetSlot .scss t s = s.leave
    unfold readSheetSlot
    split
    · exact fun h => by cases h
    · exact readTypedSlot_of_leave
  | javascript => exact readScriptSlot_of_leave h
  | typescript => exact readScriptSlot_of_leave h
  | c => exact readDeclaratorSlot_of_leave h
  | java => exact readDeclaratorSlot_of_leave h

theorem readInList_of_leave (h : (l.readInList t s).taken = false) :
    l.readInList t s = s.leave := by
  revert h
  unfold readInList
  split
  · exact fun _ => rfl
  iterate 4
    split
    · exact fun h => by cases h
  · dsimp only
    split
    · exact fun h => by cases h
    · exact readSlot_of_leave

/-- What a token that is left does to a scan: nothing, but for parentheses inside of a list. -/
inductive Passes (t : Token) (s : Scan) : Scan → Prop where
  | unchanged : Passes t s s
  | opens : t.is .openParen = true → 1 ≤ s.parenDepth →
      Passes t s { s with parenDepth := s.parenDepth + 1 }
  | closes : t.is .closeParen = true → 2 ≤ s.parenDepth →
      Passes t s { s with parenDepth := s.parenDepth - 1 }

/-- What a token can do that the reader of parameter lists leaves. -/
theorem readParameters_of_leave (hs : 0 ≤ s.parenDepth)
    (h : (l.readParameters t s).taken = false) : Passes t s (l.readParameters t s).scan := by
  revert h
  unfold readParameters
  split
  · exact fun _ => .unchanged
  split
  · rename_i ho
    dsimp only
    split
    · exact fun h => by cases h
    · rename_i hp
      intro h
      rw [readInList_of_leave h]
      exact .opens ho (by omega)
  split
  · rename_i hc
    dsimp only
    split
    · exact fun h => by cases h
    · rename_i hp
      intro h
      rw [readInList_of_leave h]
      exact .closes hc.1 (by omega)
  · intro h
    rw [readInList_of_leave h]
    exact .unchanged

/-! ## All readers -/

/-- A reader that leaves its token does not end the declaration. -/
theorem done_of_leave {g : Stage} (h : (l.readStage g t s).taken = false) :
    (l.readStage g t s).scan.done = s.done := by
  cases g with
  | classHead => exact congrArg (fun o => o.scan.done) (readClass_of_leave h)
  | function =>
    rcases readFunction_of_leave h with hs | hs
    · exact congrArg (fun o => o.scan.done) hs
    · exact hs.done
  | parameters => exact congrArg Frame.done (frame_readParameters l t s)
  | var => exact congrArg (fun o => o.scan.done) (readVariable_of_leave h)

/-- Where all readers leave a token, the first one does, and so do those after it. -/
theorem pass_cons_of_left {g : Stage} {gs : List Stage}
    (h : ∀ v ∈ (l.pass t (g :: gs) s).1, v.2 = false) :
    (l.readStage g t s).taken = false ∧
    (l.pass t (g :: gs) s).2 = (l.pass t gs (l.readStage g t s).scan).2 ∧
    ∀ v ∈ (l.pass t gs (l.readStage g t s).scan).1, v.2 = false := by
  rw [pass] at h ⊢
  dsimp only at h ⊢
  split at h
  · exact absurd (h (g, true) List.mem_cons_self).symm Bool.false_ne_true
  · rename_i ht
    rw [if_neg ht]
    exact ⟨eq_false_of_ne_true ht, rfl, fun v hv => h v (List.mem_cons_of_mem _ hv)⟩

end DocTemplate.Language
