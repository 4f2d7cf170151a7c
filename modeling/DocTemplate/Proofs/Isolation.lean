import DocTemplate.Proofs.Nesting
import DocTemplate.Proofs.Reading
import DocTemplate.Proofs.Record

/-!
# Isolation

What is recorded of a parameter list and what may still change of it.

* A token leaves the parameters alone, changes the last one, or adds one (`Touches`).  So all
  parameters but the last are safe from everything that comes.
* Behind a comma the last parameter is that of the slot before, until the new slot has one of its
  own.  It is safe if no token refers to the parameter before it in the meantime (`ownFirst`):

      EndsSlot l s c → l.ownFirst n ts s.nextSlot → s.parameters <+: (l.run ts s.nextSlot).parameters

* Once the list is closed, nothing changes until another parenthesis opens one.

Only the reader of parameters touches the list, so all this is about that reader (`listPart_step`).
-/

namespace DocTemplate

/-- What one token may do to the parameters recorded so far. -/
inductive Touches (ps : List Parameter) : List Parameter → Prop where
  | keep : Touches ps ps
  | change (f : Parameter → Parameter) : Touches ps (modifyLast f ps)
  | add (p : Parameter) : Touches ps (ps ++ [p])

/-- Parameters before the last one are out of reach. -/
theorem Touches.prefix_of_lt {qs ps ps' : List Parameter} (h : Touches ps ps') (hp : qs <+: ps)
    (hlt : qs.length < ps.length) : qs <+: ps' ∧ qs.length < ps'.length := by
  cases h with
  | keep => exact ⟨hp, hlt⟩
  | change f =>
    rcases List.eq_nil_or_concat ps with rfl | ⟨init, last, rfl⟩
    · cases hlt
    · rw [List.concat_eq_append] at hp hlt ⊢
      have hinit : qs <+: init := by
        refine List.prefix_of_prefix_length_le hp (List.prefix_append init [last]) ?_
        rw [List.length_append, List.length_singleton] at hlt
        omega
      rw [modifyLast_concat]
      exact ⟨hinit.trans (List.prefix_append _ _), by simpa using hlt⟩
  | add p =>
    refine ⟨hp.trans (List.prefix_append _ _), ?_⟩
    rw [List.length_append]
    omega

namespace Language

variable {l : Language} {t : Token} {s : Scan} {ps : List Parameter}

/-! ## The reader that touches the list -/

/-- In a step, all that happens to the list is what the reader of parameters does. -/
theorem listPart_step (l : Language) (t : Token) (s : Scan) :
    (l.step t s).listPart = s.listPart ∨
    ∃ s₁ : Scan, s₁.listPart = s.listPart ∧
      (l.step t s).listPart = (l.readParameters t s₁).scan.listPart := by
  by_cases hj : l.skips t = true
  · left
    rw [step_of_skips hj]
  replace hj : l.skips t = false := by simpa using hj
  by_cases hd : s.done = true
  · right
    refine ⟨s, rfl, ?_⟩
    unfold step stages
    rw [hj, hd, if_neg Bool.false_ne_true, if_pos rfl, pass_single]
    rfl
  replace hd : s.done = false := by simpa using hd
  rw [step_eq_pass hj hd, Stage.all]
  have hclass : (l.readStage .classHead t s).scan.listPart = s.listPart := listPart_readClass l t s
  cases hc : (l.readStage .classHead t s).taken with
  | true =>
    rw [pass_of_taken hc]
    exact .inl hclass
  | false =>
    rw [pass_of_leave (g := .classHead) (readClass_of_leave hc)]
    have hfunction : (l.readStage .function t s).scan.listPart = s.listPart :=
      listPart_readFunction l t s
    cases hf : (l.readStage .function t s).taken with
    | true =>
      rw [pass_of_taken hf]
      exact .inl hfunction
    | false =>
      have hleave : l.readStage .function t s = (l.readStage .function t s).scan.leave := by
        rw [Scan.leave, ← hf]
      rw [pass_of_leave hleave]
      generalize (l.readStage .function t s).scan = s₁ at hfunction
      refine .inr ⟨s₁, hfunction, ?_⟩
      cases hp : (l.readStage .parameters t s₁).taken with
      | true =>
        rw [pass_of_taken hp]
        rfl
      | false =>
        have hleave : l.readStage .parameters t s₁ =
            (l.readStage .parameters t s₁).scan.leave := by
          rw [Scan.leave, ← hp]
        rw [pass_of_leave hleave, pass_single]
        exact listPart_readVariable l t _

theorem touches_appendValue (s : Scan) (t : Token) :
    Touches s.decl.parameters (s.appendValue t).decl.parameters := by
  unfold Scan.appendValue
  split
  · exact .change _
  · exact .keep

theorem touches_readValue (t : Token) (s : Scan) :
    Touches s.decl.parameters (readValue t s).decl.parameters := by
  unfold readValue
  split
  · exact .keep
  split
  · exact touches_appendValue { s with valueDepth := s.valueDepth + 1 } t
  split
  · exact touches_appendValue { s with valueDepth := s.valueDepth - 1 } t
  · exact touches_appendValue s t

theorem touches_readGroup (l : Language) (t : Token) (s : Scan) :
    Touches s.decl.parameters (l.readGroup t s).decl.parameters := by
  unfold readGroup
  dsimp only
  repeat' split
  all_goals first | exact .keep | exact .change _ | exact .add _

theorem touches_readTypedSlot (l : Language) (t : Token) (s : Scan) :
    Touches s.decl.parameters (l.readTypedSlot t s).scan.decl.parameters := by
  unfold readTypedSlot
  repeat' split
  all_goals first | exact .keep | exact .change _ | exact .add _

theorem touches_readScriptSlot (l : Language) (t : Token) (s : Scan) :
    Touches s.decl.parameters (l.readScriptSlot t s).scan.decl.parameters := by
  unfold readScriptSlot
  dsimp only
  repeat' split
  all_goals first | exact .keep | exact .change _ | exact .add _

theorem touches_readDeclaratorSlot (l : Language) (t : Token) (s : Scan) :
    Touches s.decl.parameters (l.readDeclaratorSlot t s).scan.decl.parameters := by
  unfold readDeclaratorSlot
  split
  · split
    · exact .change _
    · split
      · exact .change _
      · exact .keep
  · split
    · exact .add _
    · repeat' split
      all_goals first | exact .keep | exact .change _

theorem touches_readSlot (l : Language) (t : Token) (s : Scan) :
    Touches s.decl.parameters (l.readSlot t s).scan.decl.parameters := by
  unfold readSlot
  split
  · exact touches_readTypedSlot _ t s
  · exact touches_readTypedSlot _ t s
  · unfold readSheetSlot
    split
    · exact .keep
    · exact touches_readTypedSlot _ t s
  · exact touches_readScriptSlot _ t s
  · exact touches_readScriptSlot _ t s
  · exact touches_readDeclaratorSlot _ t s
  · exact touches_readDeclaratorSlot _ t s

theorem touches_readInList (l : Language) (t : Token) (s : Scan) :
    Touches s.decl.parameters (l.readInList t s).scan.decl.parameters := by
  unfold readInList
  split
  · exact .keep
  split
  · exact touches_readValue t s
  split
  · exact touches_readGroup l t s
  split
  · exact .keep
  split
  · exact .keep
  · have h := touches_readSlot l t s
    dsimp only
    split
    · exact h
    · exact h

theorem touches_readParameters (l : Language) (t : Token) (s : Scan) :
    Touches s.decl.parameters (l.readParameters t s).scan.decl.parameters := by
  unfold readParameters
  split
  · exact .keep
  split
  · dsimp only
    split
    · exact .keep
    · exact touches_readInList l t { s with parenDepth := s.parenDepth + 1 }
  split
  · dsimp only
    split
    · exact .keep
    · exact touches_readInList l t { s with parenDepth := s.parenDepth - 1 }
  · exact touches_readInList l t s

/-- A token changes the last parameter at most, or adds one. -/
theorem touches_step (l : Language) (t : Token) (s : Scan) :
    Touches s.decl.parameters (l.step t s).decl.parameters := by
  rcases listPart_step l t s with h | ⟨s₁, h₁, h⟩
  · rw [show (l.step t s).decl.parameters = _ from congrArg ListPart.parameters h]
    exact .keep
  · rw [show (l.step t s).decl.parameters = _ from congrArg ListPart.parameters h,
      ← show s₁.decl.parameters = s.decl.parameters from congrArg ListPart.parameters h₁]
    exact touches_readParameters l t s₁

end Language

/-! ## Slots without a parameter of their own -/

/-- Nothing is expected that would go to the last parameter. -/
structure ListPart.Bare (p : ListPart) : Prop where
  inValue : p.inValue = false
  typeDue : p.typeDue = false
  rebinding : p.groupDepth ≠ 0 → p.rebinding = false

/-- Whether a token refers to the parameter before it: an equals sign, a colon, or a bracket that
begins no group. -/
def ListPart.refersBack (p : ListPart) (t : Token) : Bool :=
  t.is .equals || t.is .colon || (t.is .openBracket && !p.slotStart)

/-- Behind the parameters `ps`: a slot without a parameter of its own, or more parameters. -/
def ListPart.Behind (ps : List Parameter) (p : ListPart) : Prop :=
  (p.parameters = ps ∧ p.Bare) ∨ (ps <+: p.parameters ∧ ps.length < p.parameters.length)

namespace Language

variable {l : Language} {t : Token} {s s' : Scan} {ps : List Parameter}

/-- A token that is left, or that adds a parameter. -/
def AddsOnly (s s' : Scan) : Prop := s' = s ∨ ∃ p, s'.decl.parameters = s.decl.parameters ++ [p]

theorem addsOnly_readTypedSlot (l : Language) (t : Token) (hd : s.typeDue = false) :
    AddsOnly s (l.readTypedSlot t s).scan := by
  unfold readTypedSlot
  rw [hd]
  repeat' split
  all_goals first
    | exact .inl rfl
    | exact .inr ⟨_, rfl⟩
    | (rename_i h; cases h.1)

theorem addsOnly_readScriptSlot (l : Language) (hd : s.typeDue = false)
    (hc : t.is .colon = false) (hb : t.is .openBracket = false) :
    AddsOnly s (l.readScriptSlot t s).scan := by
  unfold readScriptSlot
  rw [if_neg (ne_true_of_eq_false hd), if_neg (ne_true_of_eq_false hc)]
  repeat' split
  all_goals first
    | exact .inl rfl
    | exact .inr ⟨_, rfl⟩
    | (rename_i h; exact absurd h.1 (ne_true_of_eq_false hb))

theorem addsOnly_readDeclaratorSlot (l : Language) (hd : s.typeDue = false)
    (hb : t.is .openBracket = false) : AddsOnly s (l.readDeclaratorSlot t s).scan := by
  unfold readDeclaratorSlot
  split
  · rename_i hdue _
    rw [hd] at hdue
    cases hdue
  · split
    · exact .inr ⟨_, rfl⟩
    rw [if_neg fun h => ne_true_of_eq_false hb h.1]
    split
    · exact .inl rfl
    · exact .inl rfl

theorem addsOnly_readSlot (l : Language) (hd : s.typeDue = false) (hc : t.is .colon = false)
    (hb : t.is .openBracket = false) : AddsOnly s (l.readSlot t s).scan := by
  cases l with
  | plain g => exact addsOnly_readTypedSlot _ t hd
  | php => exact addsOnly_readTypedSlot _ t hd
  | scss =>
    show AddsOnly s (readSheetSlot .scss t s).scan
    unfold readSheetSlot
    rw [if_neg fun h => ne_true_of_eq_false hc h.1]
    exact addsOnly_readTypedSlot _ t hd
  | javascript => exact addsOnly_readScriptSlot _ hd hc hb
  | typescript => exact addsOnly_readScriptSlot _ hd hc hb
  | c => exact addsOnly_readDeclaratorSlot _ hd hb
  | java => exact addsOnly_readDeclaratorSlot _ hd hb

end Language

namespace ListPart.Behind

open DocTemplate.Language

variable {l : Language} {t : Token} {s s' : Scan} {ps : List Parameter}

theorem of_bare (hp : s.decl.parameters = ps) (h : s.listPart.Bare) : Behind ps s.listPart :=
  .inl ⟨hp, h⟩

theorem of_add {p : Parameter} (hp : s'.decl.parameters = ps ++ [p]) : Behind ps s'.listPart := by
  refine .inr ?_
  show ps <+: s'.decl.parameters ∧ ps.length < s'.decl.parameters.length
  rw [hp]
  exact ⟨List.prefix_append _ _, by simp⟩

theorem readGroup (h : s.listPart.Bare) (hg : s.groupDepth ≠ 0 ∨ t.opensGroup = true)
    (hc : t.is .colon = false) : Behind s.decl.parameters (l.readGroup t s).listPart := by
  unfold Language.readGroup
  split
  · exact of_bare rfl ⟨h.inValue, h.typeDue, fun _ => rfl⟩
  rename_i hopens
  have hre : s.rebinding = false := h.rebinding (hg.resolve_right hopens)
  split
  · dsimp only
    split
    · exact of_bare rfl ⟨h.inValue, h.typeDue, fun _ => hre⟩
    · exact of_bare rfl ⟨h.inValue, h.typeDue, fun _ => hre⟩
  split
  · exact of_bare rfl ⟨h.inValue, h.typeDue, fun _ => rfl⟩
  rw [if_neg (ne_true_of_eq_false hc)]
  split
  · -- no name is due in place of another, so this one is bound
    dsimp only
    rw [if_neg fun hn => ne_true_of_eq_false hre hn.1]
    exact of_add (p := { name := t.text }) rfl
  · exact of_bare rfl ⟨h.inValue, h.typeDue, fun _ => rfl⟩

theorem readInList (h : s.listPart.Bare) (ht : s.listPart.refersBack t = false) :
    Behind s.decl.parameters (l.readInList t s).scan.listPart := by
  simp only [ListPart.refersBack, Bool.or_eq_false_iff] at ht
  obtain ⟨⟨hequals, hcolon⟩, hbracket⟩ := ht
  have hvalue : s.inValue = false := h.inValue
  unfold Language.readInList
  split
  · exact of_bare rfl h
  rw [if_neg (ne_true_of_eq_false hvalue)]
  split
  · rename_i hg
    exact readGroup h (hg.imp_right And.right) hcolon
  rename_i hg
  split
  · exact of_bare rfl ⟨rfl, rfl, h.rebinding⟩
  rw [if_neg fun he => ne_true_of_eq_false hequals he.1]
  -- a bracket at the start of a slot would have begun a group
  have hopen : t.is .openBracket = false := by
    cases hb : t.is .openBracket with
    | false => rfl
    | true =>
      have hstart : s.listPart.slotStart = true := by simpa [hb] using hbracket
      exact absurd (.inr ⟨hstart, by simp [Token.opensGroup, hb]⟩) hg
  rcases addsOnly_readSlot l h.typeDue hcolon hopen with hs | ⟨p, hp⟩
  · dsimp only
    split
    · rw [hs]
      exact of_bare rfl ⟨h.inValue, h.typeDue, h.rebinding⟩
    · rw [hs]
      exact of_bare rfl h
  · dsimp only
    split
    · exact of_add hp
    · exact of_add hp

theorem readParameters (h : s.listPart.Bare) (ht : s.listPart.refersBack t = false) :
    Behind s.decl.parameters (l.readParameters t s).scan.listPart := by
  unfold Language.readParameters
  split
  · exact of_bare rfl h
  split
  · dsimp only
    split
    · exact of_bare rfl ⟨rfl, rfl, h.rebinding⟩
    · exact readInList (s := { s with parenDepth := s.parenDepth + 1 })
        ⟨h.inValue, h.typeDue, h.rebinding⟩ ht
  split
  · dsimp only
    split
    · exact of_bare rfl ⟨rfl, rfl, fun hd => absurd rfl hd⟩
    · exact readInList (s := { s with parenDepth := s.parenDepth - 1 })
        ⟨h.inValue, h.typeDue, h.rebinding⟩ ht
  · exact readInList h ht

/-- Until the slot has a parameter of its own, only a token that refers back could change `ps`. -/
theorem step (h : Behind ps s.listPart)
    (ht : s.decl.parameters.length = ps.length → s.listPart.refersBack t = false) :
    Behind ps (l.step t s).listPart := by
  rcases h with ⟨hp, hbare⟩ | ⟨hkept, hlt⟩
  · replace hp : s.decl.parameters = ps := hp
    have hback := ht (congrArg List.length hp)
    rcases listPart_step l t s with h | ⟨s₁, h₁, h⟩
    · rw [h]
      exact of_bare hp hbare
    · rw [h, ← hp, ← show s₁.decl.parameters = s.decl.parameters from
        congrArg ListPart.parameters h₁]
      rw [← h₁] at hbare hback
      exact readParameters hbare hback
  · exact .inr ((touches_step l t s).prefix_of_lt hkept hlt)

end ListPart.Behind

namespace Language

variable {l : Language} {t c : Token} {s : Scan} {ps : List Parameter}

/-- Whether no token refers to the parameter before it, as long as there are only `n` of them. -/
def ownFirst (l : Language) (n : Nat) : List Token → Scan → Bool
  | [], _ => true
  | t :: ts, s =>
    s.finished ||
      ((s.decl.parameters.length ≠ n || !s.listPart.refersBack t) && ownFirst l n ts (l.step t s))

theorem behind_run (ts : List Token) (h : s.listPart.Behind ps)
    (ht : l.ownFirst ps.length ts s = true) : (l.run ts s).listPart.Behind ps := by
  induction ts generalizing s with
  | nil => exact h
  | cons t ts ih =>
    cases hf : s.finished with
    | true =>
      rw [run_of_finished hf]
      exact h
    | false =>
      rw [ownFirst, hf, Bool.false_or, Bool.and_eq_true_iff] at ht
      rw [run_cons hf]
      refine ih (h.step fun hn => ?_) ht.2
      simpa [hn] using ht.1

/-- A comma that ends a slot. -/
structure EndsSlot (l : Language) (s : Scan) (c : Token) : Prop where
  comma : c.is .comma = true
  listOpen : s.listOpen = true
  outside : s.groupDepth = 0
  next : l.step c s = s.nextSlot

theorem dropLast_prefix_run (ts : List Token) (s : Scan) :
    s.decl.parameters.dropLast <+: (l.run ts s).decl.parameters := by
  rcases List.eq_nil_or_concat s.decl.parameters with hp | ⟨init, last, hp⟩
  · rw [hp]
    exact List.nil_prefix
  · -- what is before the last parameter stays shorter than the list
    have hkeep := run_preserves (l := l) (s := s)
      (P := fun s' => init <+: s'.decl.parameters ∧ init.length < s'.decl.parameters.length)
      (fun t s' h => (touches_step l t s').prefix_of_lt h.1 h.2) ts
    rw [hp, List.concat_eq_append, List.dropLast_concat]
    refine (hkeep ?_).1
    rw [hp, List.concat_eq_append]
    exact ⟨List.prefix_append _ _, by simp⟩

theorem EndsSlot.finished (h : EndsSlot l s c) : s.finished = false := by
  unfold Scan.finished
  rw [h.listOpen, Bool.not_true, Bool.and_false]

theorem EndsSlot.bare (h : EndsSlot l s c) : s.nextSlot.listPart.Bare :=
  ⟨rfl, rfl, fun hg => absurd h.outside hg⟩

/-- **What is recorded before a comma that ends a slot is not changed by what comes behind it.**
This holds of all parameters but the last in any case, and of the last one too if nothing refers to
the parameter before it until the new slot has a parameter of its own. -/
theorem slots_isolated (l : Language) (us : List Token) (c : Token) (vs : List Token)
    (h : EndsSlot l (l.run us {}) c) :
    (l.run us {}).decl.parameters.dropLast <+: (l.run (us ++ c :: vs) {}).decl.parameters ∧
    (l.ownFirst (l.run us {}).decl.parameters.length vs (l.run us {}).nextSlot = true →
      (l.run us {}).decl.parameters <+: (l.run (us ++ c :: vs) {}).decl.parameters) := by
  rw [run_append, run_cons h.finished, h.next]
  refine ⟨dropLast_prefix_run vs (l.run us {}).nextSlot, fun hown => ?_⟩
  have hbehind := behind_run vs (ListPart.Behind.of_bare rfl h.bare) hown
  rcases hbehind with ⟨hp, -⟩ | ⟨hp, -⟩
  · exact ⟨[], (List.append_nil _).trans hp.symm⟩
  · exact hp

/-- `function foo(bar: T` -/
def fooHead : List Token :=
  [{ kind := "function", text := "function" }, { kind := "identifier", text := "foo" },
    { kind := "(", text := "(" }, { kind := "identifier", text := "bar" },
    { kind := ":", text := ":" }, { kind := "type_identifier", text := "T" }]

/-- `{fizz, key: buzz}, last = 1) {` -/
def groupTail : List Token :=
  [{ kind := "\x7b", text := "\x7b" }, { kind := "identifier", text := "fizz" },
    { kind := ",", text := "," }, { kind := "property_identifier", text := "key" },
    { kind := ":", text := ":" }, { kind := "identifier", text := "buzz" },
    { kind := "\x7d", text := "\x7d" }, { kind := ",", text := "," },
    { kind := "identifier", text := "last" }, { kind := "=", text := "=" },
    { kind := "number", text := "1" }, { kind := ")", text := ")" },
    { kind := "\x7b", text := "\x7b" }]

theorem slots_isolated_groupTail :
    EndsSlot .typescript (Language.typescript.run fooHead {}) { kind := ",", text := "," } ∧
    Language.typescript.ownFirst 1 groupTail (Language.typescript.run fooHead {}).nextSlot = true ∧
    [{ name := "bar", type := some "T" }] <+:
      (Language.typescript.run (fooHead ++ { kind := ",", text := "," } :: groupTail)
        {}).decl.parameters := by
  have hends : EndsSlot .typescript (Language.typescript.run fooHead {})
      { kind := ",", text := "," } := ⟨by decide, by decide, by decide, by decide⟩
  have hown : Language.typescript.ownFirst 1 groupTail
      (Language.typescript.run fooHead {}).nextSlot = true := by decide
  exact ⟨hends, hown, (slots_isolated .typescript fooHead _ groupTail hends).2 hown⟩

/-- `{"key": fizz}) {` -/
def keyedTail : List Token :=
  [{ kind := "\x7b", text := "\x7b" }, { kind := "string", text := "\"key\"" },
    { kind := ":", text := ":" }, { kind := "identifier", text := "fizz" },
    { kind := "\x7d", text := "\x7d" }, { kind := ")", text := ")" },
    { kind := "\x7b", text := "\x7b" }]

/-- A key that is no name binds nothing, so the name behind its colon goes to the slot before. -/
theorem slots_not_isolated_keyedTail :
    EndsSlot .typescript (Language.typescript.run fooHead {}) { kind := ",", text := "," } ∧
    ¬(Language.typescript.run fooHead {}).decl.parameters <+:
      (Language.typescript.run (fooHead ++ { kind := ",", text := "," } :: keyedTail)
        {}).decl.parameters :=
  ⟨⟨by decide, by decide, by decide, by decide⟩, by decide⟩

/-! ## Behind the list -/

/-- While no list is open, only a parenthesis has a meaning for one. -/
theorem listPart_step_closed (ho : s.listOpen = false) (hp : s.parenDepth = 0)
    (ht : t.is .openParen = false) : (l.step t s).listPart = s.listPart := by
  rcases listPart_step l t s with h | ⟨s₁, h₁, h⟩
  · exact h
  · have ho₁ : s₁.listOpen = false := (congrArg ListPart.listOpen h₁).trans ho
    have hp₁ : s₁.parenDepth = 0 := (congrArg ListPart.parenDepth h₁).trans hp
    have hread : l.readParameters t s₁ = s₁.leave := by
      unfold readParameters readInList
      simp [ht, ho₁, hp₁]
    rw [h, hread]
    exact h₁

theorem listPart_run_closed (ts : List Token) (ho : s.listOpen = false) (hp : s.parenDepth = 0)
    (hts : ∀ t ∈ l.passed ts s, t.is .openParen = false) :
    (l.run ts s).listPart = s.listPart := by
  induction ts generalizing s with
  | nil => rfl
  | cons t ts ih =>
    cases hf : s.finished with
    | true => rw [run_of_finished hf]
    | false =>
      rw [passed_cons hf] at hts
      have hstep := listPart_step_closed (l := l) ho hp (hts t List.mem_cons_self)
      rw [run_cons hf, ← hstep]
      refine ih ?_ ?_ fun u hu => hts u (List.mem_cons_of_mem _ hu)
      · exact (congrArg ListPart.listOpen hstep).trans ho
      · exact (congrArg ListPart.parenDepth hstep).trans hp

/-- In a function, a parenthesis outside of the list opens another one. -/
theorem step_reopens (hl : l ∈ registry.map (·.2)) (hk : s.decl.kind = some .function)
    (hd : s.done = false) (ho : s.listOpen = false) (hp : s.parenDepth = 0)
    (o : Written.Sign .openParen) : (l.step o.token s).listOpen = true := by
  obtain ⟨hsigns, hwords⟩ := signs_of_registered hl
  obtain ⟨hname, htype, hbegins⟩ := hwords .openParen
  have hin := hsigns _ o (by decide)
  have htext : o.token.text = Mark.label .openParen := rfl
  have hf : l.readFunction o.token s = s.leave := by
    rw [readFunction_of_inert hin hk]
    unfold readSignature
    simp [ho, htext, hname, htype, hbegins]
  have hread : l.readParameters o.token s =
      (Scan.openList { s with parenDepth := s.parenDepth + 1 }).take := by
    unfold readParameters
    simp [Language.collects, hk, hp]
  rw [step_of_readParameters (inert_iff.1 hin).2.2.2 hd
    (readClass_of_inert hin (by rw [hk]; decide)) hf (by rw [hread]; rfl), hread]
  rfl

/-- **Once the parameter list of a function is closed, no token but a parenthesis adds a parameter or
changes one.**  Before the end of the declaration, a parenthesis opens another list. -/
theorem parameters_behind_list (hl : l ∈ registry.map (·.2)) (us : List Token)
    (hk : (l.run us {}).decl.kind = some .function) (hp : (l.run us {}).parenDepth = 0) :
    (∀ vs, (∀ t ∈ l.passed vs (l.run us {}), t.is .openParen = false) →
      (l.run (us ++ vs) {}).decl.parameters = (l.run us {}).decl.parameters) ∧
    (∀ o : Written.Sign .openParen, (l.run us {}).done = false →
      (l.run (us ++ [o.token]) {}).listOpen = true) := by
  have hnested : (l.run us {}).Nested := Scan.Nested.init.run us
  have ho : (l.run us {}).listOpen = false := by
    cases ho : (l.run us {}).listOpen with
    | false => rfl
    | true =>
      have hle := hnested.listOpen.1 ho
      omega
  constructor
  · intro vs hvs
    rw [run_append]
    exact congrArg ListPart.parameters (listPart_run_closed vs ho hp hvs)
  · intro o hd
    rw [run_append, run_cons (finished_eq_false hd)]
    exact step_reopens hl hk hd ho hp o

/-- `const foo = (bar) => fizz` -/
def arrowHead : List Token :=
  [{ kind := "const", text := "const" }, { kind := "identifier", text := "foo" },
    { kind := "=", text := "=" }, { kind := "(", text := "(" },
    { kind := "identifier", text := "bar" }, { kind := ")", text := ")" },
    { kind := "=>", text := "=>" }, { kind := "identifier", text := "fizz" }]

/-- `[buzz];` -/
def indexTail : List Token :=
  [{ kind := "[", text := "[" }, { kind := "identifier", text := "buzz" },
    { kind := "]", text := "]" }, { kind := ";", text := ";" }]

theorem parameters_behind_arrowHead :
    (Language.typescript.run arrowHead {}).decl.kind = some .function ∧
    (Language.typescript.run arrowHead {}).parenDepth = 0 ∧
    (Language.typescript.run (arrowHead ++ indexTail) {}).decl.parameters = [{ name := "bar" }] := by
  have hclosed := (parameters_behind_list (l := .typescript) (by simp [registry]) arrowHead
    (by decide) (by decide)).1 indexTail (by decide)
  exact ⟨by decide, by decide, hclosed.trans (by decide)⟩

/-- `(buzz);` -/
def callTail : List Token :=
  [{ kind := "(", text := "(" }, { kind := "identifier", text := "buzz" },
    { kind := ")", text := ")" }, { kind := ";", text := ";" }]

/-- The arguments of a call in the body of an arrow function are taken for parameters. -/
theorem parameters_behind_list_callTail :
    (Language.typescript.run arrowHead {}).decl.kind = some .function ∧
    (Language.typescript.run arrowHead {}).parenDepth = 0 ∧
    (Language.typescript.run arrowHead {}).decl.parameters = [{ name := "bar" }] ∧
    (Language.typescript.run (arrowHead ++ callTail) {}).decl.parameters =
      [{ name := "bar" }, { name := "buzz" }] := by
  decide

end Language

end DocTemplate
