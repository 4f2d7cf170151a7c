import DocTemplate.Language.Template
import DocTemplate.Proofs.Leaving

/-!
# Well-formed records

Whatever the tokens are, the record of a declaration keeps these rules (`Declaration.WellFormed`):

* without a kind it is the empty record;
* a class has no parameters and no type, and returns something except in PHP;
* a variable has no parameters and returns nothing;
* a function returns nothing exactly if its type is a void type, it is a constructor of Java or a
  mixin of SCSS.

`Coherent` is what every step of a run keeps of this, while the kind may still be open.
-/

namespace DocTemplate

/-- The rules that hold of every record; `mixin` tells whether a mixin was read. -/
structure Declaration.WellFormed (l : Language) (mixin : Prop) (d : Declaration) : Prop where
  empty : d.kind = none → d = {}
  classLike : d.kind = some .classLike →
    d.parameters = [] ∧ d.returns.type = none ∧ (d.returns.present = true ↔ l ≠ .php)
  var : d.kind = some .var → d.parameters = [] ∧ d.returns.present = false
  function : d.kind = some .function →
    (d.returns.present = false ↔
      (∃ type ∈ l.grammar.voidTypes, d.returns.type = some type) ∨
      (l = .java ∧ d.returns.type = none) ∨ (l = .scss ∧ mixin))

namespace Language

variable {l : Language} {m : Bool} {t : Token} {s s' : Scan}

/-- The tokens that a run from `s` reads. -/
def passed (l : Language) (ts : List Token) (s : Scan) : List Token :=
  ts.take (l.trace ts s).length

theorem passed_cons_of_finished {ts : List Token} (h : s.finished = true) :
    l.passed (t :: ts) s = [] := by
  unfold passed trace
  rw [if_pos h]
  rfl

theorem passed_cons {ts : List Token} (h : s.finished = false) :
    l.passed (t :: ts) s = t :: l.passed ts (l.step t s) := by
  unfold passed
  rw [trace, if_neg (ne_true_of_eq_false h)]
  rfl

/-- Whether a token makes a function of SCSS a mixin. -/
def mixes (l : Language) (t : Token) : Bool := l = .scss && t.text = "@mixin"

theorem nonempty_ne_some_empty (x : String) : nonempty x ≠ some "" := by
  unfold nonempty
  split
  · exact nofun
  · rename_i h
    intro he
    exact h (Option.some.inj he)

theorem kind_typeVariable (s : Scan) : (typeVariable s).decl.kind = s.decl.kind := by
  unfold typeVariable
  split <;> rfl

/-- What the end of the line does to a scan. -/
theorem settleKind_cases (l : Language) (s : Scan) :
    (l.settleKind s = s ∧ (l.isScript = true → s.decl.kind = none → s.decl.name = "")) ∨
    (s.decl.kind = none ∧ l.isScript = true ∧ l.settleKind s =
      typeVariable { s with decl := (s.decl.setName s.candidate).declare .var }) ∨
    (s.decl.kind = none ∧ l.settleKind s = declareTyped s) := by
  unfold settleKind
  cases hk : s.decl.kind with
  | some k => exact .inl ⟨rfl, fun _ h => by cases h⟩
  | none =>
    rw [if_neg (by exact Bool.false_ne_true)]
    split
    all_goals try split
    all_goals first
      | exact .inr (.inl ⟨rfl, rfl, rfl⟩)
      | exact .inr (.inr ⟨rfl, rfl⟩)
      | skip
    · rename_i hn
      exact .inl ⟨rfl, fun _ _ => Decidable.not_not.1 fun hne => hn (.inl hne)⟩
    · rename_i hn
      exact .inl ⟨rfl, fun _ _ => Decidable.not_not.1 fun hne => hn (.inl hne)⟩
    · exact .inl ⟨rfl, nofun⟩
    · exact .inl ⟨rfl, nofun⟩
    · refine .inl ⟨rfl, fun hl => ?_⟩
      cases l <;> simp_all [isScript]

/-- What holds of a scan at any time; `m` tells whether a mixin was read. -/
structure Coherent (l : Language) (m : Bool) (s : Scan) : Prop where
  unset : s.decl.kind = none →
    s.decl.returns = {} ∧ m = false ∧ (l.isScript = false → s.decl.name = "")
  classLike : s.decl.kind = some .classLike → s.decl.returns = { present := true } ∧ l ≠ .scss
  function : s.decl.kind = some .function →
    s.decl.returns.present = !m ∧ s.decl.returns.type ≠ some ""
  kind_of_listOpen : l.isScript = false → s.listOpen = true → s.decl.kind = some .function
  /-- In SCSS the list is closed before the scan is done, so that no mixin is overlooked. -/
  listOpen_of_done : l = .scss → s.done = true → s.listOpen = false

namespace Coherent

theorem init (l : Language) : Coherent l false {} where
  unset _ := ⟨rfl, rfl, fun _ => rfl⟩
  classLike h := by cases h
  function h := by cases h
  kind_of_listOpen _ h := by cases h
  listOpen_of_done _ h := by cases h

/-! ## Changes of a scan -/

/-- Only the record and two marks of a scan matter. -/
theorem congr (h : Coherent l m s) (hd : s'.decl = s.decl) (ho : s'.listOpen = s.listOpen)
    (hn : s'.done = s.done) : Coherent l m s' := by
  obtain ⟨h1, h2, h3, h4, h5⟩ := h
  rw [← hd] at h1 h2 h3 h4
  rw [← ho] at h4 h5
  rw [← hn] at h5
  exact ⟨h1, h2, h3, h4, h5⟩

theorem listOpen_eq_false (h : Coherent l m s) (hl : l.isScript = false)
    (hk : s.decl.kind ≠ some .function) : s.listOpen = false := by
  cases ho : s.listOpen
  · rfl
  · exact absurd (h.kind_of_listOpen hl ho) hk

theorem declare (h : Coherent l m s) (k : Kind) (hk : k = .classLike → l ≠ .scss) :
    Coherent l m { s with decl := s.decl.declare k } := by
  cases hs : s.decl.kind with
  | some k' => exact h.congr (Declaration.declare_of_some hs k) rfl rfl
  | none =>
    obtain ⟨hr, rfl, -⟩ := h.unset hs
    have hkind : (s.decl.declare k).kind = some k := by
      rw [Declaration.kind_declare, hs]
      rfl
    have hreturns : (s.decl.declare k).returns = { present := decide (k ≠ .var) } := by
      rw [Declaration.returns_declare_of_none hs, hr]
    refine ⟨fun hn => ?_, fun hn => ?_, fun hn => ?_, fun hl ho => ?_, h.listOpen_of_done⟩
    · rw [hkind] at hn
      cases hn
    · rw [hkind] at hn
      cases hn
      exact ⟨hreturns, hk rfl⟩
    · rw [hkind] at hn
      cases hn
      exact ⟨congrArg Returns.present hreturns, by rw [hreturns]; exact nofun⟩
    · rw [h.listOpen_eq_false hl (by rw [hs]; exact nofun)] at ho
      cases ho

theorem setName (h : Coherent l m s) (name : String)
    (hk : s.decl.kind ≠ none ∨ l.isScript = true) :
    Coherent l m { s with decl := s.decl.setName name } := by
  refine ⟨?_, ?_, ?_, ?_, h.listOpen_of_done⟩
  · intro hn
    rw [Declaration.kind_setName] at hn
    obtain ⟨h1, h2, -⟩ := h.unset hn
    refine ⟨by rw [Declaration.returns_setName]; exact h1, h2, fun hl => ?_⟩
    rcases hk with hk | hk
    · exact absurd hn hk
    · rw [hl] at hk
      cases hk
  · simpa using h.classLike
  · simpa using h.function
  · simpa using h.kind_of_listOpen

theorem setReturnType (h : Coherent l m s) (type : Option String) (ht : type ≠ some "")
    (hk : s.decl.kind = some .function ∨ s.decl.kind = some .var) :
    Coherent l m { s with decl := s.decl.setReturnType type } := by
  refine ⟨?_, ?_, ?_, h.kind_of_listOpen, h.listOpen_of_done⟩
  · intro hn
    replace hn : s.decl.kind = none := hn
    rw [hn] at hk
    rcases hk with hk | hk <;> cases hk
  · intro hn
    replace hn : s.decl.kind = some .classLike := hn
    rw [hn] at hk
    rcases hk with hk | hk <;> cases hk
  · intro hn
    exact ⟨(h.function hn).1, ht⟩

theorem finish (h : Coherent l m s) (ho : l = .scss → s.listOpen = false) :
    Coherent l m { s with done := true } :=
  ⟨h.unset, h.classLike, h.function, h.kind_of_listOpen, fun hl _ => ho hl⟩

/-- A mixin returns nothing, whatever else follows. -/
theorem mix (h : Coherent .scss m s) (hk : s.decl.kind ≠ none) :
    Coherent .scss true { s with decl := s.decl.setReturns false } := by
  refine ⟨fun hn => absurd hn hk, fun hn => ?_, fun hn => ?_, h.kind_of_listOpen,
    h.listOpen_of_done⟩
  · exact absurd rfl (h.classLike hn).2
  · exact ⟨rfl, (h.function hn).2⟩

/-! ## Readers of heads -/

theorem readClass (h : Coherent l m s) (t : Token) : Coherent l m (l.readClass t s).scan := by
  unfold Language.readClass
  split
  · rename_i hw
    have hl : l ≠ .scss := by
      rintro rfl
      simp [Language.grammar, Grammar.has, Grammar.words, Grammar.scss] at hw
    exact (h.declare .classLike fun _ => hl).congr rfl rfl rfl
  split
  · rename_i hk
    have hkind : s.decl.kind ≠ none := by rw [hk.2.1]; exact nofun
    have hl := (h.classLike hk.2.1).2
    exact ((h.setName t.text (.inl hkind)).finish fun e => absurd e hl).congr rfl rfl rfl
  · exact h

theorem readSignature (h : Coherent l m s) (t : Token) (hk : s.decl.kind = some .function) :
    Coherent l m (l.readSignature t s).scan := by
  have hkind : s.decl.kind ≠ none := by rw [hk]; exact nofun
  unfold Language.readSignature
  split
  · exact h
  rename_i ho
  split
  · refine h.setReturnType _ ?_ (.inl hk)
    simp
  split
  · exact h
  split
  · exact (h.setName t.text (.inl hkind)).congr rfl rfl rfl
  split
  · exact h.congr rfl rfl rfl
  split
  · rename_i hr
    have ht : t.text ≠ "" := by
      intro he
      rw [he] at hr
      rcases hr.2 with hr | hr
      · exact Bool.false_ne_true ((isType_empty l).symm.trans hr)
      · exact Bool.false_ne_true ((beginsWord_empty l).symm.trans hr)
    refine (h.setReturnType (some t.text) ?_ (.inl hk)).congr rfl rfl rfl
    intro he
    exact ht (Option.some.inj he)
  split
  · exact (h.finish fun _ => by simpa using ho).congr rfl rfl rfl
  · exact h

theorem readWordFunction (h : Coherent l m s) (t : Token) :
    Coherent l m (l.readWordFunction t s).scan := by
  unfold Language.readWordFunction
  split
  · exact (h.declare .function nofun).congr rfl rfl rfl
  split
  · rename_i hk
    exact h.readSignature t hk
  · exact h

theorem nameFunction (h : Coherent l m s) (name : String) :
    Coherent l m (nameFunction s name) := by
  refine (h.declare .function nofun).setName name (.inl ?_)
  show (s.decl.declare .function).kind ≠ none
  rw [Declaration.kind_declare]
  exact nofun

theorem readScriptFunction (h : Coherent l m s) (t : Token) :
    Coherent l m (l.readScriptFunction t s).scan := by
  unfold Language.readScriptFunction
  split
  · exact (h.nameFunction s.candidate).congr rfl rfl rfl
  split
  · split
    · exact h.nameFunction s.candidate
    split
    · exact h.nameFunction s.candidate
    · exact h
  · rename_i hk
    split
    · exact h
    · exact h.readSignature t hk
  · exact h

theorem readTypeAndName (h : Coherent l m s) (t : Token) (hk : s.decl.kind = none) :
    Coherent l m (l.readTypeAndName t s).scan := by
  unfold Language.readTypeAndName
  split
  · split
    · exact (h.nameFunction s.candidate).setReturnType _ (nonempty_ne_some_empty _)
        (.inl (kind_nameFunction hk s.candidate))
    · exact h
  split
  · exact h
  split
  · exact h.congr rfl rfl rfl
  split
  · exact h.congr rfl rfl rfl
  · exact h

theorem readDeclarator (h : Coherent l m s) (t : Token) (hk : s.decl.kind = none) :
    Coherent l m (l.readDeclarator t s).scan := by
  unfold Language.readDeclarator
  split
  · split
    · exact h.congr rfl rfl rfl
    split
    · exact h.nameFunction s.typeText
    · exact h.readTypeAndName t hk
  · exact h.readTypeAndName t hk

theorem readTypedFunction (h : Coherent l m s) (t : Token) :
    Coherent l m (l.readTypedFunction t s).scan := by
  unfold Language.readTypedFunction
  split
  · rename_i hk
    exact h.readDeclarator t hk
  · rename_i hk
    exact h.readSignature t hk
  · exact h

/-- The readers of functions, for every token that makes no mixin. -/
theorem readFunction (h : Coherent l m s) (ht : l.mixes t = false) :
    Coherent l m (l.readFunction t s).scan := by
  unfold Language.readFunction
  split
  · exact h.readWordFunction t
  · exact h.readWordFunction t
  · unfold readSheetFunction
    have htext : t.text ≠ "@mixin" := by simpa [mixes] using ht
    dsimp only
    rw [if_neg htext]
    exact h.readWordFunction t
  · exact h.readScriptFunction t
  · exact h.readScriptFunction t
  · exact h.readTypedFunction t
  · exact h.readTypedFunction t

/-! ## Readers of parameters and variables -/

theorem readParameters (h : Coherent l m s) (t : Token) (hs : l = .scss → s.done = false) :
    Coherent l m (l.readParameters t s).scan := by
  by_cases hc : l.collects s = true
  · have hf := frame_readParameters l t s
    have hkind := congrArg Frame.kind hf
    have hname := congrArg Frame.name hf
    have hreturns := congrArg Frame.returns hf
    have hdone := congrArg Frame.done hf
    simp only [Scan.frame] at hkind hname hreturns hdone
    refine ⟨?_, ?_, ?_, ?_, ?_⟩
    · rw [hkind, hname, hreturns]
      exact h.unset
    · rw [hkind, hreturns]
      exact h.classLike
    · rw [hkind, hreturns]
      exact h.function
    · intro hl _
      rw [hkind]
      simpa [collects, hl] using hc
    · intro hl hd
      rw [hdone, hs hl] at hd
      cases hd
  · have hleave : l.readParameters t s = s.leave := by
      unfold Language.readParameters
      rw [if_pos hc]
    rw [hleave]
    exact h

theorem declareVar (h : Coherent l m s) (name : String) :
    Coherent l m { s with decl := (s.decl.declare .var).setName name } := by
  refine (h.declare .var nofun).setName name (.inl ?_)
  show (s.decl.declare .var).kind ≠ none
  rw [Declaration.kind_declare]
  exact nofun

theorem typeVariable (h : Coherent l m s) (hk : s.decl.kind = some .var) :
    Coherent l m (typeVariable s) := by
  unfold Language.typeVariable
  split
  · exact h
  · rename_i ht
    refine h.setReturnType _ ?_ (.inr hk)
    intro he
    exact ht (Option.some.inj he)

theorem readWordVariable (h : Coherent l m s) (t : Token) (hl : l.isScript = false) :
    Coherent l m (l.readWordVariable t s).scan := by
  unfold Language.readWordVariable
  split
  · rename_i hk
    have hkind : s.decl.kind ≠ none := by rw [hk.1]; exact nofun
    have hclosed := h.listOpen_eq_false hl (by rw [hk.1]; exact nofun)
    split
    · exact h
    · exact ((h.setName t.text (.inl hkind)).finish fun _ => hclosed).congr rfl rfl rfl
  split
  · exact h
  rename_i hk
  replace hk : s.decl.kind = none := by simpa using hk
  have hclosed := h.listOpen_eq_false hl (by rw [hk]; exact nofun)
  split
  · exact (h.declare .var nofun).congr rfl rfl rfl
  split
  · dsimp only
    rw [Declaration.declare_setName]
    have hvar : ((s.decl.declare .var).setName t.text).kind = some .var := by
      rw [Declaration.kind_setName, Declaration.kind_declare, hk]
      rfl
    refine ((h.declareVar t.text).typeVariable hvar).finish fun _ => ?_
    unfold Language.typeVariable
    split
    · exact hclosed
    · exact hclosed
  split
  · exact h.congr rfl rfl rfl
  · exact h

theorem readScriptVariable (h : Coherent l m s) (t : Token) (hl : l.isScript = true) :
    Coherent l m (l.readScriptVariable t s).scan := by
  unfold Language.readScriptVariable
  split
  · exact h
  split
  · exact h.congr rfl rfl rfl
  split
  · exact h.congr rfl rfl rfl
  split
  · exact (h.setName t.text (.inr hl)).congr rfl rfl rfl
  split
  · exact h.congr rfl rfl rfl
  split
  · exact h.congr rfl rfl rfl
  split
  · exact h.congr rfl rfl rfl
  · exact h

theorem declareTyped (h : Coherent l m s) (hk : s.decl.kind = none) :
    Coherent l m (declareTyped s) := by
  refine (h.declareVar s.candidate).setReturnType _ (nonempty_ne_some_empty _) (.inr ?_)
  show ((s.decl.declare .var).setName s.candidate).kind = some .var
  rw [Declaration.kind_setName, Declaration.kind_declare, hk]
  rfl

theorem readTypedVariable (h : Coherent l m s) (t : Token) (hl : l.isScript = false) :
    Coherent l m (readTypedVariable t s).scan := by
  unfold Language.readTypedVariable
  split
  · exact h
  rename_i hk
  replace hk : s.decl.kind = none := by
    cases hs : s.decl.kind with
    | none => rfl
    | some k => exact absurd (.inl (by rw [hs]; rfl)) hk
  have hclosed := h.listOpen_eq_false hl (by rw [hk]; exact nofun)
  split
  · have hdone := (h.declareTyped hk).finish fun _ => hclosed
    dsimp only
    split
    · refine hdone.setReturnType _ ?_ (.inr ?_)
      · simp
      · show ((s.decl.declare .var).setName s.candidate).kind = some .var
        rw [Declaration.kind_setName, Declaration.kind_declare, hk]
        rfl
    · exact hdone
  · exact h

theorem readVariable (h : Coherent l m s) (t : Token) :
    Coherent l m (l.readVariable t s).scan := by
  unfold Language.readVariable
  split
  · exact h.readWordVariable t rfl
  · exact h.readWordVariable t rfl
  · exact h.readWordVariable t rfl
  · exact h.readScriptVariable t rfl
  · exact h.readScriptVariable t rfl
  · exact h.readTypedVariable t rfl
  · exact h.readTypedVariable t rfl

/-! ## Steps and runs -/

/-- Every stage keeps a scan coherent. -/
theorem readStage (h : Coherent l m s) (hs : l = .scss → s.done = false)
    (ht : l.mixes t = false) (g : Stage) : Coherent l m (l.readStage g t s).scan := by
  cases g with
  | classHead => exact h.readClass t
  | function => exact h.readFunction ht
  | parameters => exact h.readParameters t hs
  | var => exact h.readVariable t

/-- A mixin word is taken as the word of a function. -/
theorem step_mixin (h : Coherent .scss m s) (hd : s.done = false) (ht : t.text = "@mixin") :
    Coherent .scss true (Language.scss.step t s) := by
  have hc : Language.scss.readClass t s = s.leave := by
    unfold Language.readClass
    rw [if_neg (by simp [Language.grammar, Grammar.has, Grammar.words, Grammar.scss]), if_neg]
    intro hk
    exact (h.classLike hk.2.1).2 rfl
  have hw : Language.scss.readWordFunction t s =
      Scan.take { s with decl := s.decl.declare .function, nameDue := true } := by
    unfold Language.readWordFunction
    rw [if_pos (by rw [ht]; decide)]
  have hf : Language.scss.readFunction t s =
      Scan.take
        { s with decl := (s.decl.declare .function).setReturns false, nameDue := true } := by
    show readSheetFunction .scss t s = _
    unfold readSheetFunction
    rw [hw]
    exact if_pos ht
  rw [step_of_readFunction rfl hd hc (by rw [hf]; rfl), hf]
  refine ((h.declare .function nofun).mix ?_).congr rfl rfl rfl
  show (s.decl.declare .function).kind ≠ none
  rw [Declaration.kind_declare]
  exact nofun

/-- A step keeps a scan coherent, with its token counted in. -/
theorem step (h : Coherent l m s) (hs : s.finished = false) (t : Token) :
    Coherent l (m || l.mixes t) (l.step t s) := by
  -- a sheet that is done has its list closed, and would be finished
  have hdone : l = .scss → s.done = false := by
    intro hl
    cases hd : s.done with
    | false => rfl
    | true =>
      rw [Scan.finished, hd, h.listOpen_of_done hl hd] at hs
      cases hs
  cases ht : l.mixes t with
  | true =>
    obtain ⟨rfl, htext⟩ : l = .scss ∧ t.text = "@mixin" := by simpa [mixes] using ht
    rw [Bool.or_true]
    exact h.step_mixin (hdone rfl) htext
  | false =>
    rw [Bool.or_false]
    refine pass_preserves (P := fun s => Coherent l m s ∧ (l = .scss → s.done = false))
      (fun s h => h.1) (fun g s h _ => h.1.readStage h.2 ht g) (fun g s h hg => ?_) _ ⟨h, hdone⟩
    refine ⟨h.1.readStage h.2 ht g, fun hl => ?_⟩
    subst hl
    rw [done_of_leave hg]
    exact h.2 rfl

/-- A run keeps a scan coherent, with the tokens that it passes counted in. -/
theorem run (h : Coherent l m s) (ts : List Token) :
    Coherent l (m || (l.passed ts s).any l.mixes) (l.run ts s) := by
  induction ts generalizing m s with
  | nil =>
    rw [show l.passed [] s = [] from rfl, List.any_nil, Bool.or_false]
    exact h
  | cons t ts ih =>
    cases hs : s.finished with
    | true =>
      rw [passed_cons_of_finished hs, List.any_nil, Bool.or_false, run_of_finished hs]
      exact h
    | false =>
      rw [passed_cons hs, List.any_cons, ← Bool.or_assoc, Language.run,
        if_neg (ne_true_of_eq_false hs)]
      exact ih (h.step hs t)

/-! ## The end of the line -/

/-- The end of the line keeps a scan coherent. -/
theorem settleKind (h : Coherent l m s) : Coherent l m (l.settleKind s) := by
  rcases settleKind_cases l s with ⟨he, -⟩ | ⟨hk, hl, he⟩ | ⟨hk, he⟩
  · rw [he]
    exact h
  · rw [he]
    refine ((h.setName s.candidate (.inr hl)).declare .var nofun).typeVariable ?_
    show ((s.decl.setName s.candidate).declare .var).kind = some .var
    rw [Declaration.kind_declare, Declaration.kind_setName, hk]
    rfl
  · rw [he]
    exact h.declareTyped hk

/-- What is still of no kind at the end of the line has no name either. -/
theorem name_settleKind (h : Coherent l m s) (hk : (l.settleKind s).decl.kind = none) :
    (l.settleKind s).decl.name = "" := by
  rcases settleKind_cases l s with ⟨he, hn⟩ | ⟨-, -, he⟩ | ⟨-, he⟩
  · rw [he] at hk ⊢
    cases hl : l.isScript with
    | false => exact (h.unset hk).2.2 hl
    | true => exact hn hl hk
  · rw [he, kind_typeVariable, Declaration.kind_declare] at hk
    cases hk
  · rw [he, show (Language.declareTyped s).decl.kind = _ from Declaration.kind_setName _ _,
      Declaration.kind_declare] at hk
    cases hk

end Coherent

theorem append_null_ne_void (x : String) : x ++ "|null" ≠ "void" := by
  intro h
  have hlen := congrArg String.length h
  rw [String.length_append, show "|null".length = 5 from rfl, show "void".length = 4 from rfl]
    at hlen
  omega

/-- The final form of a type is void exactly if the type is. -/
theorem isVoid_formatType (l : Language) (mixed : Bool) (type : Option String) :
    l.isVoid (l.formatType mixed type) = l.isVoid type := by
  by_cases hl : l = .php
  · subst hl
    cases type with
    | none => rfl
    | some x =>
      have hvoid : ∀ y, Language.php.isVoid (some y) = decide (y = "void") := by
        intro y
        simp [isVoid, Language.grammar, Grammar.php]
      by_cases hx : isNullable x = true
      · have hx' : x ≠ "void" := by
          rintro rfl
          exact absurd hx (by decide)
        have hf : Language.php.formatType mixed (some x) =
            some (if mixed then "mixed" else dropNullable x ++ "|null") := by
          show (if isNullable x then _ else _) = _
          rw [if_pos hx]
        rw [hf, hvoid, hvoid, decide_eq_false hx', decide_eq_false]
        split
        · decide
        · exact append_null_ne_void _
      · have hf : Language.php.formatType mixed (some x) = some x := by
          show (if isNullable x then _ else _) = _
          rw [if_neg hx]
        rw [hf]
  · rw [formatType_of_ne_php hl]

theorem hasType_eq_false_iff {r : Returns} (h : r.type ≠ some "") :
    r.hasType = false ↔ r.type = none := by
  unfold Returns.hasType
  cases ht : r.type with
  | none => simp
  | some x =>
    have hx : x ≠ "" := fun he => h (by rw [ht, he])
    simp [hx]

theorem settleParameters_of_ne {d : Declaration} (h : d.kind ≠ some .function) :
    l.settleParameters d = [] := by
  unfold settleParameters
  rw [if_pos h]

theorem settleReturns_function {d : Declaration} (hk : d.kind = some .function) :
    l.settleReturns d = false ↔
      l.isVoid d.returns.type = true ∨ (l = .java ∧ d.returns.hasType = false) ∨
        d.returns.present = false := by
  unfold settleReturns
  rw [hk]
  cases d.returns.present <;> cases l.isVoid d.returns.type <;> simp

/-- The record of a scan that is read to its end. -/
theorem Coherent.wellFormed_finish (h : Coherent l m s) (hm : m = true → l = .scss)
    (mixed : Bool) : (l.finish mixed s).WellFormed l (m = true) := by
  have hs := h.settleKind
  refine ⟨fun hk => ?_, fun hk => ?_, fun hk => ?_, fun hk => ?_⟩
  · replace hk : (l.settleKind s).decl.kind = none := hk
    have hparameters := settleParameters_of_ne (l := l) (d := (l.settleKind s).decl)
      (by rw [hk]; decide)
    unfold Language.finish settleReturns
    simp only [hk, hparameters, h.name_settleKind hk, (hs.unset hk).1, formatType_none,
      List.map_nil]
  · replace hk : (l.settleKind s).decl.kind = some .classLike := hk
    have hparameters := settleParameters_of_ne (l := l) (d := (l.settleKind s).decl)
      (by rw [hk]; decide)
    unfold Language.finish settleReturns
    simp [hk, hparameters, (hs.classLike hk).1, formatType_none]
  · replace hk : (l.settleKind s).decl.kind = some .var := hk
    have hparameters := settleParameters_of_ne (l := l) (d := (l.settleKind s).decl)
      (by rw [hk]; decide)
    unfold Language.finish settleReturns
    simp [hk, hparameters]
  · replace hk : (l.settleKind s).decl.kind = some .function := hk
    obtain ⟨hpresent, htype⟩ := hs.function hk
    show l.settleReturns (l.settleKind s).decl = false ↔ _
    rw [settleReturns_function hk, ← isVoid_iff]
    show _ ↔ l.isVoid (l.formatType mixed (l.settleKind s).decl.returns.type) = true ∨
      (l = .java ∧ l.formatType mixed (l.settleKind s).decl.returns.type = none) ∨ _
    rw [isVoid_formatType, hpresent]
    refine or_congr Iff.rfl (or_congr (and_congr_right fun hl => ?_) ?_)
    · subst hl
      rw [formatType_of_ne_php (by simp)]
      exact hasType_eq_false_iff htype
    · cases m with
      | false => simp
      | true => simp [hm rfl]

/-! ## Top theorem -/

/-- **Every record is well formed**, in every language, under all settings, for all tokens. -/
theorem wellFormed_declaration (l : Language) (settings : Settings) (ts : List Token) :
    (l.declaration settings ts).WellFormed l (∃ t ∈ l.passed ts {}, t.text = "@mixin") := by
  have hrun := (Coherent.init l).run ts
  rw [Bool.false_or] at hrun
  have hmixes : (l.passed ts {}).any l.mixes = true ↔
      l = .scss ∧ ∃ t ∈ l.passed ts {}, t.text = "@mixin" := by
    simp only [List.any_eq_true, mixes, Bool.and_eq_true, decide_eq_true_eq]
    constructor
    · rintro ⟨t, ht, hl, htext⟩
      exact ⟨hl, t, ht, htext⟩
    · rintro ⟨hl, t, ht, htext⟩
      exact ⟨t, ht, hl, htext⟩
  obtain ⟨h1, h2, h3, h4⟩ :=
    hrun.wellFormed_finish (fun h => (hmixes.1 h).1) settings.mixedNullable
  refine ⟨h1, h2, h3, fun hk => (h4 hk).trans ?_⟩
  rw [hmixes, and_self_left]
  exact Iff.rfl

end Language

end DocTemplate
