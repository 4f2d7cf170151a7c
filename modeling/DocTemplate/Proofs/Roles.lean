import DocTemplate.Proofs.C
import DocTemplate.Proofs.Java

/-!
# A declarator as a variable and as a parameter

    T n [ ]… ;                   a variable
    void f ( T n [ ]… ) ;        a parameter

In the C family the types of variables and of parameters have different readers, and all that these
share is `extendType`.  Up to the name they make the same text of the same tokens
(`TypeSite.reads_declarator`).  Behind the name they part: the first bracket ends a variable, while
a parameter takes all brackets into its type.  So the two types are the same exactly if there is one
pair of brackets at most (`rolesAgree_iff`).  A type of C that ends in the word of a tag, such as
`struct`, takes the name into it, and then no variable is declared at all.
-/

namespace DocTemplate

/-- Whether the token has the text of a mark if it is one. -/
def Token.isSpelled (t : Token) : Bool := Mark.all.all fun m => !t.is m || t.spells m

theorem Token.text_of_isSpelled {t : Token} (h : t.isSpelled = true) {m : Mark}
    (hm : t.is m = true) : t.text = m.label := by
  have := List.all_eq_true.1 h m m.mem_all
  simpa [hm, spells] using this

theorem Written.Sign.isSpelled {m : Mark} (g : Sign m) : g.token.isSpelled = true := by
  refine List.all_eq_true.2 fun m' _ => ?_
  by_cases hm : m = m'
  · subst hm
    simp [Token.spells, Sign.token]
  · simp [hm]

namespace Language

/-- What the reader of types makes of tokens behind a text with some angle brackets open. -/
def growType (l : Language) (ts : List Token) (x : String × Int) : Option (String × Int) :=
  ts.foldlM (fun x t => l.extendType x.1 x.2 t) x

/-- Whether a token comes to the reader of types wherever a type may stand.  The signs of parameter
lists and class words are taken before. -/
def comesToType (l : Language) (t : Token) : Bool :=
  !t.isListSign && !l.grammar.has .classWord t.text

/-- The tokens that are read at all. -/
def kept (l : Language) (ts : List Token) : List Token := ts.filter fun t => !l.skips t

end Language

namespace Written

/-! ## Written form -/

/-- Whether a text may be the name of a variable, a function or a parameter. -/
def isDeclaredName (l : Language) (x : String) : Bool :=
  l.isName x && !l.grammar.has .typeWord x

/-- A type, a name and pairs of brackets.  The type is any sequence of tokens that the reader of
types takes as a whole. -/
structure Declarator (l : Language) where
  type : List Token
  text : String
  accepted : l.growType (l.kept type) ("", 0) = some (text, 0)
  begun : l.kept type ≠ []
  spelled : ∀ t ∈ type, t.isSpelled = true
  comes : ∀ t ∈ type, l.comesToType t = true
  name : Word (isDeclaredName l)
  arrays : List Brackets := []

namespace Declarator

variable {l : Language}

def tokens (d : Declarator l) : List Token :=
  d.type ++ d.name.token :: d.arrays.flatMap Brackets.tokens

/-- Whether the type leaves the name alone. -/
def complete (d : Declarator l) : Bool := Language.lastPart d.text ∉ l.tagWords

end Declarator

/-- A declarator in two lines, that of a variable and that of a function. -/
structure Roles (l : Language) where
  declarator : Declarator l
  semicolon : Sign .semicolon := {}
  result : Word (· == "void")
  function : Word (isDeclaredName l)
  opener : Sign .openParen := {}
  closer : Sign .closeParen := {}
  ending : Ending := .line

namespace Roles

variable {l : Language}

def variableLine (r : Roles l) : List Token := r.declarator.tokens ++ [r.semicolon.token]

theorem variableLine_eq (r : Roles l) :
    r.variableLine = r.declarator.type ++ r.declarator.name.token ::
      (r.declarator.arrays.flatMap Brackets.tokens ++ [r.semicolon.token]) := by
  simp [variableLine, Declarator.tokens]

def functionLine (r : Roles l) : List Token :=
  [r.result.token, r.function.token, r.opener.token] ++ r.declarator.tokens ++ [r.closer.token] ++
    r.ending.tokens

/-- No more than one pair of brackets goes to the type of a variable. -/
def variableType (r : Roles l) : String :=
  arrayText r.declarator.text (min r.declarator.arrays.length 1)

def parameterType (r : Roles l) : String :=
  arrayText r.declarator.text r.declarator.arrays.length

def functionRecord (r : Roles l) : Declaration where
  name := r.function.text
  kind := some .function
  parameters := [{ name := r.declarator.name.text, type := some r.parameterType }]
  returns := { present := false, type := some "void" }

end Roles

end Written

namespace Language

open Written

variable {l : Language} {F : Frame → Prop} {ps : List Parameter} {t : Token} {ts : List Token}
  {s s' : Scan} {x y n : String} {d e : Int} {site : String → Int → Scan}

/-! ## Tokens that are not read -/

theorem run_kept (l : Language) (ts : List Token) (s : Scan) :
    l.run (l.kept ts) s = l.run ts s := by
  induction ts generalizing s with
  | nil => rfl
  | cons t ts ih =>
    by_cases hf : s.finished = true
    · rw [run_of_finished hf, run_of_finished hf]
    · have hf' := eq_false_of_ne_true hf
      rw [run_cons hf']
      by_cases ht : l.skips t = true
      · rw [step_of_skips ht, kept, List.filter_cons_of_neg (by simp [ht])]
        exact ih s
      · rw [kept, List.filter_cons_of_pos (by simpa using ht), run_cons hf']
        exact ih _

theorem Reads.of_kept (h : Reads l (l.kept ts) s s') : Reads l ts s s' := by
  intro rest
  rw [← run_kept l (ts ++ rest), kept, List.filter_append]
  exact (h _).trans (run_kept l rest s')

/-! ## Tokens of a type -/

/-- A mark that is no part of types is not taken by them. -/
theorem extendType_of_is (hl : l.isCFamily = true) (hx : x ≠ "") (hs : t.isSpelled = true)
    {m : Mark} (ht : t.is m = true)
    (hm : m ∉ [.openAngle, .star, .ellipsis, .openBracket, .closeBracket]) :
    l.extendType x 0 t = none := by
  obtain ⟨-, hwords⟩ := signs_of_registered (registered_of_isCFamily hl)
  obtain ⟨hname, htype, -⟩ := hwords m
  simp only [List.mem_cons, List.not_mem_nil, or_false, not_or] at hm
  obtain ⟨h1, h2, h3, h4, h5⟩ := hm
  unfold extendType
  simp [hx, Token.is_eq_false_of_is ht, h1, h2, h3, h4, h5, Token.text_of_isSpelled hs ht, hname,
    htype]

/-- What begins a type is no mark. -/
theorem isPlain_of_startsType (hl : l.isCFamily = true) (hs : t.isSpelled = true)
    (ht : l.startsType t.text = true) : t.isPlain = true := by
  obtain ⟨-, hwords⟩ := signs_of_registered (registered_of_isCFamily hl)
  refine List.all_eq_true.2 fun m _ => ?_
  cases hm : t.is m with
  | false => rfl
  | true =>
    obtain ⟨hname, htype, -⟩ := hwords m
    rw [Token.text_of_isSpelled hs hm] at ht
    cases l with
    | c => simp [startsType, hname, htype] at ht
    | java => exact absurd ht (ne_true_of_eq_false htype)
    | _ => cases hl

/-- The name goes to the type only behind the word of a tag. -/
theorem extendType_declaredName (hl : l.isCFamily = true) (hx : x ≠ "")
    (w : Word (isDeclaredName l)) :
    l.extendType x 0 w.token =
      if lastPart x ∈ l.tagWords then some (x ++ " " ++ w.text, 0) else none := by
  obtain ⟨hname, htype⟩ := Bool.and_eq_true_iff.1 w.holds
  have hjoins : l.joinsTypeWords = true → l.isType w.token.text = false := by
    intro hj
    cases l with
    | c =>
      rw [Bool.not_eq_true'] at htype
      exact htype
    | java => cases hj
    | _ => cases hl
  unfold extendType
  by_cases hj : l.joinsTypeWords = true
  · simp [hx, hj, hjoins hj, hname, Word.text]
  · simp [hx, hj, hname, Word.text]

theorem extendType_of_complete (hl : l.isCFamily = true) (d : Declarator l) (hx : d.text ≠ "")
    (hc : d.complete = true) : l.extendType d.text 0 d.name.token = none := by
  rw [extendType_declaredName hl hx, if_neg (of_decide_eq_true hc)]

theorem inert_of_comesToType (hl : l.isCFamily = true) (ht : l.comesToType t = true)
    (hj : l.skips t = false) : l.inert t = true ∧ t.isListSign = false := by
  simp only [comesToType, Bool.and_eq_true, Bool.not_eq_true'] at ht
  have hwords : l.isScript = false ∧ l.grammar.functionWords = [] := by
    cases l with
    | c => exact ⟨rfl, rfl⟩
    | java => exact ⟨rfl, rfl⟩
    | _ => cases hl
  have hscript : l.isScript ≠ true := ne_true_of_eq_false hwords.1
  refine ⟨inert_iff.2 ⟨ht.2, ?_, fun h => absurd h hscript, hj⟩, ht.1⟩
  simp [Grammar.has, Grammar.words, hwords.2]

theorem isName_declared (w : Word (isDeclaredName l)) : l.isName w.token.text = true :=
  (Bool.and_eq_true_iff.1 w.holds).1

theorem inert_declared (hl : l.isCFamily = true) (w : Word (isDeclaredName l)) :
    l.inert w.token = true := by
  cases l with
  | c => exact inert_c _
  | java => exact inert_name ⟨w.token, w.plain, isName_declared w⟩
  | _ => cases hl

/-! ## Places of types -/

theorem growType_cons (l : Language) (t : Token) (ts : List Token) (x : String × Int) :
    l.growType (t :: ts) x = (l.extendType x.1 x.2 t).bind (l.growType ts) :=
  List.foldlM_cons

namespace TypeSite

/-- Tokens that a type takes lead from text to text. -/
theorem reads_more (h : TypeSite l s site) (hl : l.isCFamily = true) (hx : x ≠ "")
    (hts : ∀ t ∈ ts, t.isSpelled = true ∧ l.comesToType t = true ∧ l.skips t = false)
    (hg : l.growType ts (x, d) = some (y, e)) : y ≠ "" ∧ Reads l ts (site x d) (site y e) := by
  induction ts generalizing x d with
  | nil =>
    cases hg
    exact ⟨hx, .nil⟩
  | cons t ts ih =>
    obtain ⟨⟨hspelled, hcomes, hskips⟩, hts⟩ := List.forall_mem_cons.1 hts
    rw [growType_cons, Option.bind_eq_some_iff] at hg
    obtain ⟨⟨z, f⟩, he, hg⟩ := hg
    have hcomma : d = 0 → t.is .comma = false := by
      rintro rfl
      refine eq_false_of_ne_true fun ht => ?_
      rw [extendType_of_is hl hx hspelled ht (by decide)] at he
      cases he
    obtain ⟨hy, hreads⟩ := ih (ne_empty_of_extendType (fun h => absurd h hx) he) hts hg
    obtain ⟨hin, hsign⟩ := inert_of_comesToType hl hcomes hskips
    refine ⟨hy, .cons (h.done x d) ?_⟩
    rw [h.next hx hin hsign hcomma he]
    exact hreads

/-- The type of a declarator gives its text, wherever it stands. -/
theorem reads_declarator (h : TypeSite l s site) (hl : l.isCFamily = true) (d : Declarator l) :
    d.text ≠ "" ∧ Reads l d.type s (site d.text 0) := by
  have hts : ∀ t ∈ l.kept d.type,
      t.isSpelled = true ∧ l.comesToType t = true ∧ l.skips t = false := by
    intro t ht
    obtain ⟨hmem, hskips⟩ := List.mem_filter.1 ht
    exact ⟨d.spelled t hmem, d.comes t hmem, by simpa using hskips⟩
  have hg := d.accepted
  suffices d.text ≠ "" ∧ Reads l (l.kept d.type) s (site d.text 0) from ⟨this.1, this.2.of_kept⟩
  cases hkept : l.kept d.type with
  | nil => exact absurd hkept d.begun
  | cons t ts =>
    rw [hkept] at hts hg
    obtain ⟨⟨hspelled, hcomes, hskips⟩, hts⟩ := List.forall_mem_cons.1 hts
    rw [growType_cons, Option.bind_eq_some_iff] at hg
    obtain ⟨⟨z, f⟩, he, hg⟩ := hg
    have hplain : t.isPlain = true := by
      refine isPlain_of_startsType hl hspelled (Bool.of_not_eq_false fun hstart => ?_)
      simp [extendType, hstart] at he
    obtain ⟨hy, hreads⟩ := h.reads_more hl (ne_empty_of_extendType (fun _ => rfl) he) hts hg
    refine ⟨hy, .cons h.start ?_⟩
    rw [h.first (inert_of_comesToType hl hcomes hskips).1 hplain he]
    exact hreads

end TypeSite

/-! ## The variable -/

theorem run_brackets (hl : l.isCFamily = true) (hx : x ≠ "") (hn : n ≠ "")
    (arrays : List Brackets) (g : Sign .semicolon) :
    (l.run (arrays.flatMap Brackets.tokens ++ [g.token]) { typeText := x, candidate := n }).decl =
      typedVariable (arrayText x (min arrays.length 1)) n := by
  obtain ⟨hsigns, -⟩ := signs_of_registered (registered_of_isCFamily hl)
  cases arrays with
  | nil =>
    have hend := run_endsVariable hl hx hn (hsigns _ g (by decide)) rfl (by simp) []
    rw [if_neg (by simp)] at hend
    rw [List.length_nil, Nat.zero_min, arrayText_zero]
    exact hend
  | cons b arrays =>
    have hend := run_endsVariable hl hx hn (hsigns _ b.opener (by decide)) rfl (by simp)
      (b.closer.token :: (arrays.flatMap Brackets.tokens ++ [g.token]))
    rw [if_pos (by simp)] at hend
    rw [List.length_cons, Nat.min_eq_right (Nat.succ_pos _), arrayText_succ, arrayText_zero]
    exact hend

theorem declaration_variableLine (hl : l.isCFamily = true) (settings : Settings) (r : Roles l)
    (hc : r.declarator.complete = true) :
    l.declaration settings r.variableLine =
      typedVariable r.variableType r.declarator.name.text := by
  obtain ⟨hx, hreads⟩ := (typeSite_head hl).reads_declarator hl r.declarator
  have hn := ne_empty_of_isName (isName_declared r.declarator.name)
  have hname := extendType_of_complete hl r.declarator hx hc
  refine finish_declared hl _ ?_
  rw [r.variableLine_eq, hreads, run_cons rfl, step_headingName hl (inert_declared hl _)
    r.declarator.name.plain hx hname (isName_declared _)]
  exact run_brackets hl hx hn _ _

theorem step_headingSemicolon (hl : l.isCFamily = true) (hx : x ≠ "") (g : Sign .semicolon) :
    l.step g.token (heading x 0) = heading x 0 := by
  obtain ⟨hsigns, hwords⟩ := signs_of_registered (registered_of_isCFamily hl)
  have hread : l.readDeclarator g.token (heading x 0) = (heading x 0).leave := by
    have he : l.extendType x 0 g.token = none :=
      extendType_of_is hl hx g.isSpelled (m := .semicolon) (by simp) (by decide)
    rw [readDeclarator_eq (fun h => absurd h hx) fun _ => by simp,
      readTypeAndName_of_none (by simp) rfl he]
    exact if_neg fun h => ne_true_of_eq_false (hwords .semicolon).1 h.2
  rw [step_of_readTypedVariable hl (hsigns _ g (by decide)) rfl rfl hread]
  rfl

/-- A type that takes the name into it declares nothing. -/
theorem declaration_variableLine_of_tag (hl : l.isCFamily = true) (settings : Settings)
    (r : Roles l) (hc : r.declarator.complete = false) :
    (l.declaration settings r.variableLine).returns.type = none := by
  have hsite := typeSite_head hl
  obtain ⟨hx, hreads⟩ := hsite.reads_declarator hl r.declarator
  have htag : lastPart r.declarator.text ∈ l.tagWords := by
    simpa [Declarator.complete] using hc
  have hname := extendType_declaredName hl hx r.declarator.name
  rw [if_pos htag] at hname
  have hx' := ne_empty_of_extendType (fun _ => rfl) hname
  unfold Language.declaration read
  rw [r.variableLine_eq, hreads, run_cons rfl,
    step_heading hl (inert_declared hl _) (by simp) (fun h => absurd h hx) hname,
    hsite.reads_brackets hl _ hx', run_cons rfl,
    step_headingSemicolon hl (arrayText_ne_empty hx' _)]
  cases l with
  | c => rfl
  | java => rfl
  | _ => cases hl

/-! ## The parameter -/

theorem leads_nameBrackets (hF : Collecting l F) (hl : l.isCFamily = true) (hn : n ≠ "")
    (hx : x ≠ "") (arrays : List Brackets)
    (h : InSlot F (ps ++ [{ name := n, type := some x }]) false s) :
    Leads l (arrays.flatMap Brackets.tokens) s
      (InSlot F (ps ++ [{ name := n, type := some (arrayText x arrays.length) }]) false) := by
  induction arrays generalizing x s with
  | nil =>
    rw [List.length_nil, arrayText_zero]
    exact .nil h
  | cons b arrays ih =>
    have h' := hF.slot_nameOpenBracket hl hn hx h b.opener
    refine .cons (hF.done _ h.frame) (.cons (hF.done _ h'.frame) ?_)
    rw [hF.slot_nameCloseBracket hl h' b.closer, List.length_cons, arrayText_succ]
    exact ih (by simp) h'

theorem leads_declarator (hF : Collecting l F) (hl : l.isCFamily = true) (h : SlotStart F ps s)
    (d : Declarator l) (hc : d.complete = true) :
    Leads l d.tokens s
      (Listing F
        (ps ++ [{ name := d.name.text, type := some (arrayText d.text d.arrays.length) }])) := by
  obtain ⟨hx, hreads⟩ := (h.typeSite hF hl).reads_declarator hl d
  have hname := extendType_of_complete hl d hx hc
  have hslot := h.typing d.text
  have hnamed := hF.slot_declaredName hl hslot (inert_declared hl d.name) d.name.plain hname
    (isName_declared d.name)
  have hbrackets := leads_nameBrackets hF hl (ne_empty_of_isName (isName_declared d.name)) hx
    d.arrays hnamed
  refine Leads.append (P := (· = Language.typing s d.text 0)) ⟨_, hreads, rfl⟩ ?_
  rintro s' rfl
  exact .cons (hF.done _ hslot.frame) (hbrackets.mono fun _ h => h.toInList)

theorem leads_voidHead (hl : l.isCFamily = true) (result : Word (· == "void"))
    (name : Word (isDeclaredName l)) :
    Leads l [result.token, name.token] {}
      (AtList l (Announces name.text { present := true, type := some "void" })) := by
  have hvoid : result.token.text = "void" := beq_iff_eq.1 result.holds
  have hword : l.startsType "void" = true ∧ lastPart "void" ∉ l.tagWords ∧
      l.isReserved "void" = false ∧ l.skips result.token = false := by
    cases l with
    | c => exact ⟨by decide, by decide, by decide, rfl⟩
    | java => exact ⟨by decide, by decide, by decide, by rw [skips, hvoid]; rfl⟩
    | _ => cases hl
  obtain ⟨hstarts, htag, hreserved, hskips⟩ := hword
  have hin := inert_of_not_isReserved result.plain (by rw [hvoid]; exact hreserved) hskips
  have htype : l.extendType "" 0 result.token = some ("void", 0) := by
    simp [extendType, hvoid, hstarts]
  have hname : l.extendType "void" 0 name.token = none := by
    rw [extendType_declaredName hl (by decide), if_neg htag]
  refine .cons rfl ?_
  rw [show ({} : Scan) = heading "" 0 from rfl,
    step_heading hl hin (by simp) (fun _ => ⟨by simp, rfl⟩) htype]
  refine .single rfl ?_
  rw [step_headingName hl (inert_declared hl name) name.plain (by decide) hname
    (isName_declared name)]
  exact atList_declared hl (by decide) (ne_empty_of_isName (isName_declared name))

/-- A single parameter with a name stays. -/
theorem finish_named (hl : l.isCFamily = true) (mixed : Bool) (f : String) {p : Parameter}
    (hp : p.name ≠ "") :
    l.finish mixed
      { decl :=
          { name := f
            kind := some .function
            parameters := [p]
            returns := { present := true, type := some "void" } } } =
    { name := f
      kind := some .function
      parameters := [p]
      returns := { present := false, type := some "void" } } := by
  have hlang : l ≠ .php ∧ l.grammar.voidTypes = ["void"] := by
    cases l with
    | c => exact ⟨by simp, rfl⟩
    | java => exact ⟨by simp, rfl⟩
    | _ => cases hl
  simp [finish, settleKind, settleParameters, settleReturns, formatType_of_ne_php hlang.1,
    isVoid_eq hlang.2, hp]

theorem declaration_functionLine (hl : l.isCFamily = true) (settings : Settings) (r : Roles l)
    (hc : r.declarator.complete = true) :
    l.declaration settings r.functionLine = r.functionRecord := by
  obtain ⟨hsigns, -⟩ := signs_of_registered (registered_of_isCFamily hl)
  have hF : Collecting l (Announces r.function.text { present := true, type := some "void" }) :=
    collecting_announces hsigns
  have hlead := ((leads_voidHead hl r.result r.function).append fun s h =>
    Leads.single h.done (h.openParen hF r.opener)).append fun s h =>
      (leads_declarator hF hl h r.declarator hc).append fun s h =>
        Leads.single (t := r.closer.token) (hF.done _ h.frame) (hF.closeParen h r.closer)
  have hline : r.functionLine = [r.result.token, r.function.token] ++ [r.opener.token] ++
      (r.declarator.tokens ++ [r.closer.token]) ++ r.ending.tokens := by
    simp [Roles.functionLine]
  unfold Language.declaration
  rw [hline, read_of_closed hsigns hlead]
  exact finish_named hl _ _ (ne_empty_of_isName (isName_declared r.declarator.name))

/-! ## Both roles -/

theorem length_arrayText (x : String) (k : Nat) :
    (arrayText x k).length = x.length + 2 * k := by
  induction k generalizing x with
  | zero => rw [arrayText_zero, Nat.mul_zero, Nat.add_zero]
  | succ k ih =>
    have hpair : (x ++ "[]").length = x.length + 2 := String.length_append x "[]"
    rw [arrayText_succ, ih, hpair]
    omega

/-- The type of the variable is that of the parameter. -/
def RolesAgree (settings : Settings) (r : Roles l) : Prop :=
  ∃ type : String, (l.declaration settings r.variableLine).returns.type = some type ∧
    (l.declaration settings r.functionLine).parameters =
      [{ name := r.declarator.name.text, type := some type }]

/-- **The variable and the parameter have the same type exactly if there is one pair of brackets at
most.**  All that a type has before the name is the same in both. -/
theorem rolesAgree_iff (hl : l.isCFamily = true) (settings : Settings) (r : Roles l) :
    (r.declarator.complete = true →
      l.declaration settings r.variableLine =
          typedVariable r.variableType r.declarator.name.text ∧
        l.declaration settings r.functionLine = r.functionRecord) ∧
      (RolesAgree settings r ↔
        r.declarator.complete = true ∧ r.declarator.arrays.length ≤ 1) := by
  have hread := fun hc : r.declarator.complete = true =>
    And.intro (declaration_variableLine hl settings r hc)
      (declaration_functionLine hl settings r hc)
  refine ⟨hread, ?_, ?_⟩
  · rintro ⟨type, htype, hparameters⟩
    have hc : r.declarator.complete = true := by
      refine Bool.of_not_eq_false fun hc => ?_
      rw [declaration_variableLine_of_tag hl settings r hc] at htype
      cases htype
    refine ⟨hc, ?_⟩
    obtain ⟨hvariable, hfunction⟩ := hread hc
    rw [hvariable] at htype
    rw [hfunction] at hparameters
    have hsame : r.variableType = r.parameterType := by
      simp only [typedVariable, Option.some.injEq] at htype
      simp only [Roles.functionRecord, List.cons.injEq, Parameter.mk.injEq, Option.some.injEq]
        at hparameters
      rw [htype, hparameters.1.2.1]
    have hlength := congrArg String.length hsame
    rw [Roles.variableType, Roles.parameterType, length_arrayText, length_arrayText] at hlength
    omega
  · rintro ⟨hc, hle⟩
    obtain ⟨hvariable, hfunction⟩ := hread hc
    have hsame : r.variableType = r.parameterType := by
      rw [Roles.variableType, Roles.parameterType, Nat.min_eq_left hle]
    refine ⟨r.parameterType, ?_, ?_⟩
    · rw [hvariable, ← hsame]
      rfl
    · rw [hfunction]
      rfl

/-- `Map<String, int[]> @Size foo[]` -/
def sizedMap : Roles .java where
  declarator :=
    { type :=
        [{ kind := "type_identifier", text := "Map", start := 8, stop := 11 },
          Sign.token (m := .openAngle) {},
          { kind := "type_identifier", text := "String", start := 12, stop := 18 },
          Sign.token (m := .comma) {}, { kind := "int", text := "int", start := 20, stop := 23 },
          Sign.token (m := .openBracket) {}, Sign.token (m := .closeBracket) {},
          Sign.token (m := .closeAngle) {},
          { kind := "marker_annotation", text := "@Size", start := 27, stop := 32 }]
      text := "Map<String,int[]>"
      accepted := by decide
      begun := by decide
      spelled := by decide
      comes := by decide
      name :=
        ⟨{ kind := "identifier", text := "foo", start := 33, stop := 36 }, by decide, by decide⟩
      arrays := [{}] }
  result := ⟨{ kind := "void_type", text := "void", start := 4, stop := 8 }, by decide, by decide⟩
  function :=
    ⟨{ kind := "identifier", text := "bar", start := 9, stop := 12 }, by decide, by decide⟩
  ending := .stop {} []

theorem rolesAgree_sizedMap :
    Language.java.isCFamily = true ∧ sizedMap.declarator.complete = true ∧
      RolesAgree {} sizedMap ∧
      Language.java.declaration {} sizedMap.variableLine =
        { name := "foo"
          kind := some .var
          returns := { present := false, type := some "Map<String,int[]>[]" } } := by
  obtain ⟨hread, hagree⟩ := rolesAgree_iff (by decide) {} sizedMap
  exact ⟨by decide, by decide, hagree.2 ⟨by decide, by decide⟩,
    (hread (by decide)).1.trans (by decide)⟩

/-- `int foo[][]` -/
def doubleArray : Roles .c where
  declarator :=
    { type := [{ kind := "int", text := "int", start := 0, stop := 3 }]
      text := "int"
      accepted := by decide
      begun := by decide
      spelled := by decide
      comes := by decide
      name := ⟨{ kind := "foo", text := "foo", start := 4, stop := 7 }, by decide, by decide⟩
      arrays :=
        [{ opener := ⟨7, 8⟩, closer := ⟨8, 9⟩ }, { opener := ⟨9, 10⟩, closer := ⟨10, 11⟩ }] }
  semicolon := ⟨11, 12⟩
  result := ⟨{ kind := "void", text := "void", start := 0, stop := 4 }, by decide, by decide⟩
  function := ⟨{ kind := "bar", text := "bar", start := 5, stop := 8 }, by decide, by decide⟩
  ending := .stop {} []

/-- The second pair of brackets goes to the type of the parameter only. -/
theorem types_differ_doubleArray :
    Language.c.declaration {} doubleArray.variableLine =
        { name := "foo"
          kind := some .var
          returns := { present := false, type := some "int[]" } } ∧
      (Language.c.declaration {} doubleArray.functionLine).parameters =
        [{ name := "foo", type := some "int[][]" }] := by
  decide

end Language

end DocTemplate
