import DocTemplate.Proofs.Progress
import DocTemplate.Language.Template

/-!
# The end of a declaration

Once a declaration is done, no token changes it:

    (l.run ts {}).done → l.declaration settings (ts ++ rest) = l.declaration settings ts

A scan goes on behind the end while a parameter list is open.  That happens only in a class
(`Scan.Concluded`), where no token of a list means anything (`step_of_doneClass`): the list
belongs to what a script took for a function, until it met the word of a class.
-/

namespace DocTemplate

/-- Where the declaration is done, the list is closed or it is a class. -/
def Scan.Concluded (s : Scan) : Prop :=
  s.done = true → s.listOpen = false ∨ s.decl.kind = some .classLike

namespace Language

variable {l : Language} {t : Token} {s s' : Scan}

/-- A step from `s` to `s'` that ends the declaration finds the list closed, or a class. -/
def Concludes (s s' : Scan) : Prop :=
  s'.done = true → s.done = true ∨ s.listOpen = false ∨ s.decl.kind = some .classLike

theorem concludes_readClass (l : Language) (t : Token) (s : Scan) :
    Concludes s (l.readClass t s).scan := by
  unfold readClass
  split
  · exact .inl
  split
  · rename_i hk
    exact fun _ => .inr (.inr hk.2.1)
  · exact .inl

theorem concludes_readSignature (l : Language) (t : Token) (s : Scan) :
    Concludes s (l.readSignature t s).scan := by
  unfold readSignature
  split
  · exact .inl
  · rename_i ho
    exact fun _ => .inr (.inl (eq_false_of_ne_true ho))

theorem concludes_readWordFunction (l : Language) (t : Token) (s : Scan) :
    Concludes s (l.readWordFunction t s).scan := by
  unfold readWordFunction
  split
  · exact .inl
  split
  · exact concludes_readSignature l t s
  · exact .inl

theorem concludes_readScriptFunction (l : Language) (t : Token) (s : Scan) :
    Concludes s (l.readScriptFunction t s).scan := by
  unfold readScriptFunction
  split
  · exact .inl
  split
  · repeat' split
    all_goals exact .inl
  · split
    · exact .inl
    · exact concludes_readSignature l t s
  · exact .inl

theorem concludes_readTypedFunction (l : Language) (t : Token) (s : Scan) :
    Concludes s (l.readTypedFunction t s).scan := by
  unfold readTypedFunction
  split
  · unfold readDeclarator readTypeAndName
    dsimp only
    repeat' split
    all_goals exact .inl
  · exact concludes_readSignature l t s
  · exact .inl

theorem concludes_readFunction (l : Language) (t : Token) (s : Scan) :
    Concludes s (l.readFunction t s).scan := by
  cases l with
  | plain g => exact concludes_readWordFunction _ t s
  | php => exact concludes_readWordFunction _ t s
  | scss =>
    have h := concludes_readWordFunction .scss t s
    show Concludes s (readSheetFunction .scss t s).scan
    unfold readSheetFunction
    dsimp only
    split
    · exact h
    · exact h
  | javascript => exact concludes_readScriptFunction _ t s
  | typescript => exact concludes_readScriptFunction _ t s
  | c => exact concludes_readTypedFunction _ t s
  | java => exact concludes_readTypedFunction _ t s

theorem concludes_readWordVariable (ha : s.Announced l) (hl : l.isScript = false) (t : Token) :
    Concludes s (l.readWordVariable t s).scan := by
  unfold readWordVariable
  split
  · rename_i hk
    have hclosed := ha.listOpen_eq_false hl (by rw [hk.1]; exact nofun)
    exact fun _ => .inr (.inl hclosed)
  split
  · exact .inl
  · rename_i hk
    have hnone : s.decl.kind = none := by simpa using hk
    have hclosed := ha.listOpen_eq_false hl (by rw [hnone]; exact nofun)
    exact fun _ => .inr (.inl hclosed)

theorem concludes_readScriptVariable (l : Language) (t : Token) (s : Scan) :
    Concludes s (l.readScriptVariable t s).scan := by
  unfold readScriptVariable
  repeat' split
  all_goals exact .inl

theorem concludes_readTypedVariable (ha : s.Announced l) (hl : l.isScript = false) (t : Token) :
    Concludes s (readTypedVariable t s).scan := by
  unfold readTypedVariable
  split
  · exact .inl
  · rename_i hk
    have hclosed := ha.listOpen_eq_false hl fun h => hk (.inl (by rw [h]; rfl))
    exact fun _ => .inr (.inl hclosed)

theorem concludes_readVariable (ha : s.Announced l) (t : Token) :
    Concludes s (l.readVariable t s).scan := by
  cases l with
  | plain g => exact concludes_readWordVariable ha rfl t
  | php => exact concludes_readWordVariable ha rfl t
  | scss => exact concludes_readWordVariable ha rfl t
  | javascript => exact concludes_readScriptVariable _ t s
  | typescript => exact concludes_readScriptVariable _ t s
  | c => exact concludes_readTypedVariable ha rfl t
  | java => exact concludes_readTypedVariable ha rfl t

/-- In a class that is done, no token means anything. -/
theorem step_of_doneClass (hd : s.done = true) (hk : s.decl.kind = some .classLike) (t : Token) :
    l.step t s = s := by
  have hread : l.readParameters t s = s.leave := by
    unfold readParameters
    rw [if_pos (by simp [collects, hk])]
  by_cases hj : l.skips t = true
  · exact step_of_skips hj s
  · unfold step stages
    rw [if_neg hj, if_pos hd, pass_single]
    exact congrArg Outcome.scan hread

end Language

namespace Scan.Concluded

open DocTemplate.Language

variable {l : Language} {t : Token} {s s' : Scan}

theorem of_concludes (hd : s.done = false) (h : Concludes s s') (hg : s.Grows s')
    (hl : s'.listPart = s.listPart) : s'.Concluded := by
  intro hdone
  rcases h hdone with h | h | h
  · rw [hd] at h
    cases h
  · exact .inl ((congrArg ListPart.listOpen hl).trans h)
  · exact .inr (hg.decl.kind _ h)

theorem readStage (hd : s.done = false) (ha : s.Announced l) (g : Stage) (t : Token) :
    (l.readStage g t s).scan.Concluded := by
  have hg := Grows.readStage l g t s
  cases g with
  | classHead => exact of_concludes hd (concludes_readClass l t s) hg (listPart_readClass l t s)
  | function =>
    exact of_concludes hd (concludes_readFunction l t s) hg (listPart_readFunction l t s)
  | parameters =>
    intro hdone
    rw [show (l.readStage .parameters t s).scan.done = s.done from
      congrArg Frame.done (frame_readParameters l t s), hd] at hdone
    cases hdone
  | var => exact of_concludes hd (concludes_readVariable ha t) hg (listPart_readVariable l t s)

theorem step (h : s.Concluded) (ha : s.Announced l) (hf : s.finished = false) (t : Token) :
    (l.step t s).Concluded := by
  cases hd : s.done with
  | true =>
    -- the scan goes on, so the list is open
    have ho : s.listOpen = true := by simpa [Scan.finished, hd] using hf
    rcases h hd with hclosed | hk
    · rw [ho] at hclosed
      cases hclosed
    · rw [step_of_doneClass hd hk]
      exact h
  | false =>
    refine pass_preserves (P := fun s => s.done = false ∧ s.Announced l) (Q := Concluded)
      (fun s h hd => ?_) (fun g s h _ => readStage h.1 h.2 g t) (fun g s h hg => ?_) _ ⟨hd, ha⟩
    · rw [h.1] at hd
      cases hd
    · exact ⟨(done_of_leave hg).trans h.1, h.2.readStage g t⟩

theorem run (h : s.Concluded) (ha : s.Announced l) (ts : List Token) :
    (l.run ts s).Concluded :=
  (run_keeps (P := fun s => s.Concluded ∧ s.Announced l)
    (fun t _ hf h => ⟨h.1.step h.2 hf t, h.2.step t⟩) ts ⟨h, ha⟩).1

/-- Once the declaration is done, nothing is read any more. -/
theorem run_eq (h : s.Concluded) (hd : s.done = true) (ts : List Token) : l.run ts s = s := by
  rcases h hd with hclosed | hk
  · exact run_of_finished (by simp [Scan.finished, hd, hclosed])
  · induction ts with
    | nil => rfl
    | cons t ts ih =>
      unfold Language.run
      rw [step_of_doneClass hd hk, ih]
      exact ite_self s

end Scan.Concluded

namespace Language

/-- **What comes behind the end of a declaration does not count**, even where a parameter list is
still open; and this is so only in a class of a script. -/
theorem declaration_append_of_done (l : Language) (settings : Settings) (ts rest : List Token)
    (h : (l.run ts {}).done = true) :
    l.declaration settings (ts ++ rest) = l.declaration settings ts ∧
    ((l.run ts {}).listOpen = true →
      (l = .typescript ∨ l = .javascript) ∧ (l.run ts {}).decl.kind = some .classLike) := by
  have hannounced := (Scan.Announced.init l).run ts
  have hconcluded : (l.run ts {}).Concluded :=
    Scan.Concluded.run (fun hd => by cases hd) (Scan.Announced.init l) ts
  constructor
  · unfold declaration read
    rw [run_append, hconcluded.run_eq h]
  · intro ho
    have hk : (l.run ts {}).decl.kind = some .classLike :=
      (hconcluded h).resolve_left (by rw [ho]; exact nofun)
    refine ⟨?_, hk⟩
    rcases hannounced ho with hf | ⟨hs, -⟩
    · rw [hk] at hf
      cases hf
    · cases l <;> simp_all [isScript]

/-- `foo = (class Bar` -/
def classInList : List Token :=
  [{ kind := "identifier", text := "foo", start := 2, stop := 5 },
    { kind := "=", text := "=", start := 6, stop := 7 },
    { kind := "(", text := "(", start := 8, stop := 9 },
    { kind := "class", text := "class", start := 9, stop := 14 },
    { kind := "identifier", text := "Bar", start := 15, stop := 18 }]

/-- `, fizz) => {` -/
def arrowRest : List Token :=
  [{ kind := ",", text := ",", start := 18, stop := 19 },
    { kind := "identifier", text := "fizz", start := 20, stop := 24 },
    { kind := ")", text := ")", start := 24, stop := 25 },
    { kind := "=>", text := "=>", start := 26, stop := 28 },
    { kind := "\x7b", text := "\x7b", start := 29, stop := 30 }]

theorem declaration_append_classInList :
    (Language.typescript.run classInList {}).done = true ∧
    (Language.typescript.run classInList {}).listOpen = true ∧
    Language.typescript.declaration {} (classInList ++ arrowRest) =
      Language.typescript.declaration {} classInList ∧
    (Language.typescript.run classInList {}).decl.kind = some .classLike := by
  have hdone : (Language.typescript.run classInList {}).done = true := by decide
  have hopen : (Language.typescript.run classInList {}).listOpen = true := by decide
  obtain ⟨hsame, hclass⟩ := declaration_append_of_done .typescript {} classInList arrowRest hdone
  exact ⟨hdone, hopen, hsame, (hclass hopen).2⟩

end Language

end DocTemplate
