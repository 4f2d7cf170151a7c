import DocTemplate.Scan.Run

/-!
# One token at a time

A token goes to the readers in order, and the first that takes it decides the step: one lemma for
each reader behind that of classes.  `Reads l ts s s'` says that the tokens `ts` lead from `s` to
`s'`, whatever comes after them:

    Reads l ts s s' → Reads l us s' s'' → Reads l (ts ++ us) s s''      (Reads.append)

and `Leads l ts s Q` that they lead from `s` to a scan with the property `Q`.

The readers of parameters keep the `frame` of a scan, which is all that they do not own
(`frame_readParameters`).  What they follow in a list are its `depths`.
-/

namespace DocTemplate

/-- What a scan holds besides its parameter list. -/
structure Frame where
  name : String
  kind : Option Kind
  returns : Returns
  nameDue : Bool
  returnDue : Bool
  done : Bool
  typeText : String
  candidate : String
  assigned : Bool
  variableTypeDue : Bool
  deriving DecidableEq

def Scan.frame (s : Scan) : Frame where
  name := s.decl.name
  kind := s.decl.kind
  returns := s.decl.returns
  nameDue := s.nameDue
  returnDue := s.returnDue
  done := s.done
  typeText := s.typeText
  candidate := s.candidate
  assigned := s.assigned
  variableTypeDue := s.variableTypeDue

/-- How far the brackets of a parameter list are open. -/
structure Depths where
  listOpen : Bool
  parens : Int
  value : Int
  group : Int
  angle : Int
  deriving DecidableEq

def Scan.depths (s : Scan) : Depths where
  listOpen := s.listOpen
  parens := s.parenDepth
  value := s.valueDepth
  group := s.groupDepth
  angle := s.angleDepth

namespace Language

variable {l : Language} {t : Token} {ts us : List Token} {s s₁ s₂ s' s'' : Scan}

/-! ## The reader that takes a token -/

/-- The stage that takes a token is the last one to see it. -/
theorem pass_of_taken {g : Stage} {gs : List Stage} (h : (l.readStage g t s).taken = true) :
    (l.pass t (g :: gs) s).2 = (l.readStage g t s).scan := by
  rw [pass, if_pos h]

/-- A stage that leaves a token hands it on. -/
theorem pass_of_leave {g : Stage} {gs : List Stage} (h : l.readStage g t s = s₁.leave) :
    (l.pass t (g :: gs) s).2 = (l.pass t gs s₁).2 := by
  rw [pass, h, if_neg (by exact Bool.false_ne_true)]
  rfl

theorem pass_single (g : Stage) : (l.pass t [g] s).2 = (l.readStage g t s).scan := by
  by_cases h : (l.readStage g t s).taken = true
  · exact pass_of_taken h
  · rw [pass, if_neg h]
    rfl

/-- What holds before a token and is kept by readers that leave it, holds until one takes it. -/
theorem pass_preserves {P Q : Scan → Prop} (hPQ : ∀ s, P s → Q s)
    (htake : ∀ g s, P s → (l.readStage g t s).taken = true → Q (l.readStage g t s).scan)
    (hleave : ∀ g s, P s → (l.readStage g t s).taken = false → P (l.readStage g t s).scan)
    (gs : List Stage) (h : P s) : Q (l.pass t gs s).2 := by
  induction gs generalizing s with
  | nil => exact hPQ s h
  | cons g gs ih =>
    cases ht : (l.readStage g t s).taken with
    | true =>
      rw [pass_of_taken ht]
      exact htake g s h ht
    | false =>
      have hg : l.readStage g t s = (l.readStage g t s).scan.leave := by
        rw [Scan.leave, ← ht]
      rw [pass_of_leave hg]
      exact ih (hleave g s h ht)

theorem step_of_skips (h : l.skips t = true) (s : Scan) : l.step t s = s := by
  unfold step stages
  rw [if_pos h]
  rfl

theorem step_eq_pass (hj : l.skips t = false) (hd : s.done = false) :
    l.step t s = (l.pass t Stage.all s).2 := by
  unfold step stages
  rw [hj, hd, if_neg Bool.false_ne_true, if_neg Bool.false_ne_true]

theorem step_of_readFunction (hj : l.skips t = false) (hd : s.done = false)
    (hc : l.readClass t s = s.leave) (h : (l.readFunction t s).taken = true) :
    l.step t s = (l.readFunction t s).scan := by
  rw [step_eq_pass hj hd, Stage.all, pass_of_leave (g := .classHead) hc]
  exact pass_of_taken (g := .function) h

theorem step_of_readParameters (hj : l.skips t = false) (hd : s.done = false)
    (hc : l.readClass t s = s.leave) (hf : l.readFunction t s = s₁.leave)
    (h : (l.readParameters t s₁).taken = true) :
    l.step t s = (l.readParameters t s₁).scan := by
  rw [step_eq_pass hj hd, Stage.all, pass_of_leave (g := .classHead) hc,
    pass_of_leave (g := .function) hf]
  exact pass_of_taken (g := .parameters) h

theorem step_of_readVariable (hj : l.skips t = false) (hd : s.done = false)
    (hc : l.readClass t s = s.leave) (hf : l.readFunction t s = s₁.leave)
    (hp : l.readParameters t s₁ = s₂.leave) : l.step t s = (l.readVariable t s₂).scan := by
  rw [step_eq_pass hj hd, Stage.all, pass_of_leave (g := .classHead) hc,
    pass_of_leave (g := .function) hf, pass_of_leave (g := .parameters) hp]
  exact pass_single .var

/-! ## Reading a list of tokens -/

/-- The tokens `ts` lead from `s` to `s'`, whatever comes after them. -/
def Reads (l : Language) (ts : List Token) (s s' : Scan) : Prop :=
  ∀ rest, l.run (ts ++ rest) s = l.run rest s'

theorem finished_eq_false (hd : s.done = false) : s.finished = false := by
  unfold Scan.finished
  rw [hd]
  rfl

/-- A finished scan reads no more tokens. -/
theorem run_of_finished (h : s.finished = true) : l.run ts s = s := by
  cases ts with
  | nil => rfl
  | cons t ts =>
    unfold run
    rw [if_pos h]

/-- What every step that a run makes keeps, the run keeps. -/
theorem run_keeps {P : Scan → Prop} (hstep : ∀ t s, s.finished = false → P s → P (l.step t s))
    (ts : List Token) (h : P s) : P (l.run ts s) := by
  induction ts generalizing s with
  | nil => exact h
  | cons t ts ih =>
    unfold run
    split
    · exact h
    · rename_i hf
      exact ih (hstep t s (eq_false_of_ne_true hf) h)

/-- What every step keeps, a run keeps. -/
theorem run_preserves {P : Scan → Prop} (hstep : ∀ t s, P s → P (l.step t s)) (ts : List Token)
    (h : P s) : P (l.run ts s) :=
  run_keeps (fun t s _ => hstep t s) ts h

/-- A run over two lists is a run over the second after one over the first. -/
theorem run_append (ts us : List Token) (s : Scan) :
    l.run (ts ++ us) s = l.run us (l.run ts s) := by
  induction ts generalizing s with
  | nil => rfl
  | cons t ts ih =>
    by_cases h : s.finished = true
    · rw [run_of_finished h, run_of_finished h, run_of_finished h]
    · rw [List.cons_append, run, if_neg h, ih, run, if_neg h]

theorem run_cons (h : s.finished = false) : l.run (t :: ts) s = l.run ts (l.step t s) := by
  rw [run, if_neg (ne_true_of_eq_false h)]

theorem Reads.nil : Reads l [] s s := fun _ => rfl

theorem Reads.append (h : Reads l ts s s') (h' : Reads l us s' s'') :
    Reads l (ts ++ us) s s'' := by
  intro rest
  rw [List.append_assoc, h, h']

theorem Reads.step (hd : s.done = false) : Reads l [t] s (l.step t s) := by
  intro rest
  show l.run (t :: rest) s = l.run rest (l.step t s)
  rw [run, if_neg (ne_true_of_eq_false (finished_eq_false hd))]

theorem Reads.cons (hd : s.done = false) (h : Reads l ts (l.step t s) s') :
    Reads l (t :: ts) s s' := by
  have := (Reads.step (l := l) (t := t) hd).append h
  rwa [List.singleton_append] at this

/-- The tokens `ts` lead from `s` to a scan with the property `Q`, whatever comes after them. -/
def Leads (l : Language) (ts : List Token) (s : Scan) (Q : Scan → Prop) : Prop :=
  ∃ s', Reads l ts s s' ∧ Q s'

variable {P Q : Scan → Prop}

theorem Leads.nil (h : Q s) : Leads l [] s Q := ⟨s, Reads.nil, h⟩

theorem Leads.cons (hd : s.done = false) (h : Leads l ts (l.step t s) Q) :
    Leads l (t :: ts) s Q := by
  obtain ⟨s', hr, hq⟩ := h
  exact ⟨s', Reads.cons hd hr, hq⟩

theorem Leads.single (hd : s.done = false) (h : Q (l.step t s)) : Leads l [t] s Q :=
  .cons hd (.nil h)

/-- Runs follow each other where the first one leads. -/
theorem Leads.append (h : Leads l ts s P) (h' : ∀ s', P s' → Leads l us s' Q) :
    Leads l (ts ++ us) s Q := by
  obtain ⟨s₁, hr, hp⟩ := h
  obtain ⟨s₂, hr', hq⟩ := h' s₁ hp
  exact ⟨s₂, hr.append hr', hq⟩

theorem Leads.mono (h : Leads l ts s P) (h' : ∀ s', P s' → Q s') : Leads l ts s Q := by
  obtain ⟨s₁, hr, hp⟩ := h
  exact ⟨s₁, hr, h' s₁ hp⟩

/-- A way to lead from a scan to a property: by one token after the other, each of which is read
from a scan with the property `C`. -/
structure Walk (l : Language) (C : Scan → Prop)
    (L : List Token → Scan → (Scan → Prop) → Prop) : Prop where
  nil : ∀ {s : Scan} {Q : Scan → Prop}, Q s → L [] s Q
  cons : ∀ {t : Token} {ts : List Token} {s : Scan} {Q : Scan → Prop},
    C s → L ts (l.step t s) Q → L (t :: ts) s Q
  append : ∀ {ts us : List Token} {s : Scan} {P Q : Scan → Prop},
    L ts s P → (∀ s', P s' → L us s' Q) → L (ts ++ us) s Q

theorem Leads.walk : Walk l (·.done = false) (Leads l) := ⟨Leads.nil, Leads.cons, Leads.append⟩

/-- What each token keeps, all of them keep. -/
theorem Leads.of_invariant (hd : ∀ s, P s → s.done = false)
    (hstep : ∀ t ∈ ts, ∀ s, P s → P (l.step t s)) (h : P s) : Leads l ts s P := by
  induction ts generalizing s with
  | nil => exact .nil h
  | cons t ts ih =>
    refine .cons (hd s h) (ih (fun u hu => hstep u (List.mem_cons_of_mem _ hu)) ?_)
    exact hstep t List.mem_cons_self s h

/-! ## What the readers of parameters keep -/

theorem frame_appendValue (s : Scan) (t : Token) : (s.appendValue t).frame = s.frame := by
  unfold Scan.appendValue
  split <;> rfl

theorem frame_readValue (t : Token) (s : Scan) : (readValue t s).frame = s.frame := by
  unfold readValue
  split
  · rfl
  · split
    · exact frame_appendValue _ t
    · split
      · exact frame_appendValue _ t
      · exact frame_appendValue s t

theorem frame_readGroup (l : Language) (t : Token) (s : Scan) :
    (l.readGroup t s).frame = s.frame := by
  unfold readGroup
  dsimp only
  repeat' split
  all_goals rfl

theorem frame_readTypedSlot (l : Language) (t : Token) (s : Scan) :
    (l.readTypedSlot t s).scan.frame = s.frame := by
  unfold readTypedSlot
  repeat' split
  all_goals rfl

theorem frame_readScriptSlot (l : Language) (t : Token) (s : Scan) :
    (l.readScriptSlot t s).scan.frame = s.frame := by
  unfold readScriptSlot
  dsimp only
  repeat' split
  all_goals rfl

theorem frame_readDeclaratorSlot (l : Language) (t : Token) (s : Scan) :
    (l.readDeclaratorSlot t s).scan.frame = s.frame := by
  unfold readDeclaratorSlot
  split
  · split
    · rfl
    · split <;> rfl
  · split
    · rfl
    · repeat' split
      all_goals rfl

/-- No reader of parameters changes what is around the list. -/
theorem frame_readSlot (l : Language) (t : Token) (s : Scan) :
    (l.readSlot t s).scan.frame = s.frame := by
  unfold readSlot
  split
  · exact frame_readTypedSlot _ t s
  · exact frame_readTypedSlot _ t s
  · unfold readSheetSlot
    split
    · rfl
    · exact frame_readTypedSlot _ t s
  · exact frame_readScriptSlot _ t s
  · exact frame_readScriptSlot _ t s
  · exact frame_readDeclaratorSlot _ t s
  · exact frame_readDeclaratorSlot _ t s

theorem frame_readInList (l : Language) (t : Token) (s : Scan) :
    (l.readInList t s).scan.frame = s.frame := by
  unfold readInList
  split
  · rfl
  split
  · exact frame_readValue t s
  split
  · exact frame_readGroup l t s
  split
  · rfl
  split
  · rfl
  · have h := frame_readSlot l t s
    dsimp only
    split
    · exact h
    · exact h

/-- The reader of parameter lists changes nothing that is around the list. -/
theorem frame_readParameters (l : Language) (t : Token) (s : Scan) :
    (l.readParameters t s).scan.frame = s.frame := by
  unfold readParameters
  split
  · rfl
  split
  · dsimp only
    split
    · rfl
    · exact frame_readInList l t _
  split
  · dsimp only
    split
    · rfl
    · exact frame_readInList l t _
  · exact frame_readInList l t s

end Language

end DocTemplate
