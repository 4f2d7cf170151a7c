import DocTemplate.Proofs.Script

/-!
# Spellings of one function

In TypeScript and JavaScript the same function has four spellings:

    function name [< A , B … >] ( slots ) [: R [ ]…] end
    name [< A , B … >] ( slots ) [: R [ ]…] end
    p . q . name = function [< A , B … >] ( slots ) [: R [ ]…] end
    const name = [< A , B … >] ( slots ) [: R [ ]…] => end

A slot is `x [?] [: T [ ]…]`.  The first spelling and the third always give the same record.  In the
second the last of the type names is taken for the name of the function, since it is the last name
before the list.  In the last the return type is lost, since it stands before the arrow that declares
the function.  So all spellings agree exactly where neither can be seen (`spellings_agree_iff`).
-/

namespace DocTemplate.Written

/-! ## Written form -/

/-- Type names between angle brackets. -/
structure TypeNames (l : Language) where
  opener : Sign .openAngle := {}
  names : Listed (Word l.isName)
  closer : Sign .closeAngle := {}

def TypeNames.tokens {l : Language} (n : TypeNames l) : List Token :=
  n.opener.token :: (n.names.tokens (fun w => [w.token]) ++ [n.closer.token])

inductive Spelling (l : Language) where
  | word (word : Word (l.grammar.has .functionWord))
  | method
  | property (path : List (Word l.isName × Word fun x => x = ".")) (equals : Sign .equals)
    (word : Word (l.grammar.has .functionWord))
  | arrow (word : Word (l.grammar.has .variableWord)) (equals : Sign .equals)
    (arrow : Sign .arrow)

namespace Spelling

variable {l : Language}

/-- The tokens up to the type names. -/
def before : Spelling l → Word l.isName → List Token
  | .word w, name => [w.token, name.token]
  | .method, name => [name.token]
  | .property path equals w, name =>
    path.flatMap (fun p => [p.1.token, p.2.token]) ++ [name.token, equals.token, w.token]
  | .arrow w equals _, name => [w.token, name.token, equals.token]

/-- The tokens behind the return type. -/
def behind : Spelling l → List Token
  | .arrow _ _ sign => [sign.token]
  | _ => []

end Spelling

/-- A function, apart from how it is spelled. -/
structure SpelledFunction (l : Language) where
  name : Word l.isName
  typeNames : Option (TypeNames l) := none
  parameters : Parens (PlainSlot l)
  returns : Option (Ascription l.isType) := none
  ending : Ending

namespace SpelledFunction

variable {l : Language}

def tokens (f : SpelledFunction l) (p : Spelling l) : List Token :=
  p.before f.name ++ (f.typeNames.map TypeNames.tokens).getD [] ++
    f.parameters.tokens PlainSlot.tokens ++ (f.returns.map Ascription.tokens).getD [] ++
    p.behind ++ f.ending.tokens

/-- The last name before the parameters. -/
def lastName (f : SpelledFunction l) : String :=
  ((f.typeNames.map fun n => n.names.items.map Word.text).getD []).getLastD f.name.text

/-- The name that is recorded for a spelling. -/
def nameIn (f : SpelledFunction l) : Spelling l → String
  | .method => f.lastName
  | _ => f.name.text

/-- The return type that is recorded for a spelling. -/
def returnTypeIn (f : SpelledFunction l) : Spelling l → Option String
  | .arrow .. => none
  | _ => f.returns.map Ascription.text

theorem lastName_ne_empty (f : SpelledFunction l) : f.lastName ≠ "" := by
  have hword : ∀ w : Word l.isName, w.text ≠ "" := fun w => Language.ne_empty_of_isName w.holds
  unfold lastName
  cases f.typeNames with
  | none => exact hword f.name
  | some names =>
    have hmem : (names.names.items.map Word.text).getLastD f.name.text ∈
        f.name.text :: names.names.items.map Word.text := List.getLastD_mem_cons
    rcases List.mem_cons.1 hmem with h | h
    · exact fun he => hword f.name (h.symm.trans he)
    · obtain ⟨w, -, h⟩ := List.mem_map.1 h
      exact fun he => hword w (h.trans he)

def declaration (f : SpelledFunction l) (p : Spelling l) : Declaration where
  name := f.nameIn p
  kind := some .function
  parameters := f.parameters.slots.items.map PlainSlot.parameter
  returns := { present := !l.isVoid (f.returnTypeIn p), type := f.returnTypeIn p }

end SpelledFunction

end Written

namespace Language

open Written

variable {l : Language} {F : Frame → Prop} {ps : List Parameter} {t : Token} {s : Scan}
  {n : String}

/-! ## Type names behind a head -/

theorem not_isReserved_of_isType (hl : l.isScript = true) {x : String} (h : l.isType x = true) :
    l.isReserved x = false := by
  rcases eq_of_isScript hl with rfl | rfl
  · simpa using (Bool.and_eq_true_iff.1 h).1
  · simpa using (Bool.and_eq_true_iff.1 h).1

theorem isReturnType_of_isType (hl : l.isScript = true) (x : String) (h : l.isType x = true) :
    isReturnType l x = true :=
  isReturnType_of_not_isReserved h (not_isReserved_of_isType hl h)

/-- What holds of names, commas and angle brackets holds of all tokens of type names. -/
theorem forall_mem_typeNames {p : Token → Prop} (hname : ∀ w : Word l.isName, p w.token)
    (hsign : ∀ (m : Mark) (g : Sign m), m = .openAngle ∨ m = .closeAngle ∨ m = .comma → p g.token)
    (names : Option (TypeNames l)) :
    ∀ t ∈ (names.map TypeNames.tokens).getD [], p t := by
  cases names with
  | none => exact fun t ht => absurd ht List.not_mem_nil
  | some names =>
    refine List.forall_mem_cons.2 ⟨hsign _ names.opener (by decide), List.forall_mem_append.2
      ⟨Listed.forall_mem_tokens (fun c => hsign _ c (by decide)) ?_ names.names, ?_⟩⟩
    · exact fun w => List.forall_mem_singleton.2 (hname w)
    · exact List.forall_mem_singleton.2 (hsign _ names.closer (by decide))

/-- Behind the name of a function type names change nothing. -/
theorem AtName.leads_typeNames (hl : l.isScript = true) (h : AtName n s)
    (names : Option (TypeNames l)) :
    Leads l ((names.map TypeNames.tokens).getD []) s (AtName n) := by
  have hidle : ∀ t ∈ (names.map TypeNames.tokens).getD [],
      l.inert t = true ∧ followsList t = false := by
    refine forall_mem_typeNames (fun w => ⟨inert_of_isName hl w, followsList_of_isPlain w.plain⟩)
      ?_ names
    rintro m g (rfl | rfl | rfl) <;>
      exact ⟨signsInert_script hl _ g (by decide), by simp [followsList]⟩
  refine Leads.of_invariant (fun s h => h.frame.done) (fun t ht s h => ?_) h
  have hheaded : Headed s := ⟨h.frame.kind, h.frame.done, h.frame.nameDue, h.listOpen⟩
  rw [hheaded.step_idle h.frame.returnDue (hidle t ht).1 (hidle t ht).2]
  exact h

/-! ## Type names behind a name alone -/

theorem step_sign_candidate (hl : l.isScript = true) {m : Mark} (g : Sign m)
    (hm : m = .openAngle ∨ m = .closeAngle ∨ m = .comma) (c : String) :
    l.step g.token { candidate := c } = { candidate := c } := by
  have hname : l.isName m.label = false :=
    ((signs_of_registered (registered_of_isScript hl)).2 m).1
  have htext : g.token.text = m.label := rfl
  have hmarks : g.token.is .openParen = false ∧ g.token.is .equals = false ∧
      g.token.is .colon = false ∧ m ≠ .arrow := by
    rcases hm with rfl | rfl | rfl <;> simp
  obtain ⟨h1, h2, h3, h4⟩ := hmarks
  rw [step_undeclared hl (signsInert_script hl _ g h4) h1 rfl rfl rfl]
  unfold readScriptVariable
  simp [htext, variableWord_of_mark hl, hname, h2, h3, Scan.leave]

theorem foldl_text_eq_getLastD {p : String → Bool} (ws : List (Word p)) (c : String) :
    ws.foldl (fun _ w => w.text) c = (ws.map Word.text).getLastD c := by
  induction ws generalizing c with
  | nil => rfl
  | cons w ws ih => rw [List.foldl_cons, ih, List.map_cons, List.getLastD_cons]

/-- While nothing is declared, the last type name is the candidate. -/
theorem leads_typeNames_candidate (hl : l.isScript = true) (names : Option (TypeNames l))
    (c : String) :
    Leads l ((names.map TypeNames.tokens).getD []) { candidate := c }
      (· = { candidate :=
        ((names.map fun n => n.names.items.map Word.text).getD []).getLastD c }) := by
  cases names with
  | none => exact .nil rfl
  | some names =>
    have hitems : FoldsItems l (·.done = false) (Leads l) (fun w : Word l.isName => [w.token])
        (fun _ w => w.text) (fun c s => s = { candidate := c })
        (fun c s => s = { candidate := c }) :=
      { walk := Leads.walk
        ready := fun _ _ hs => by rw [hs]
        comma := fun c _ g hs => hs ▸ step_sign_candidate hl g (by decide) c
        item := fun w c _ hs => hs ▸ .single rfl (step_candidate hl w c)
        empty := fun _ _ hs => hs }
    refine .cons rfl ?_
    rw [step_sign_candidate hl names.opener (by decide) c]
    refine (hitems.leads names.names rfl).append fun s hs => ?_
    rw [hs, foldl_text_eq_getLastD]
    exact .single rfl (step_sign_candidate hl names.closer (by decide) _)

/-! ## Around the list of an arrow function -/

/-- Whether a token has no meaning between an assignment and an arrow, outside of the list. -/
def idlesAssigned (l : Language) (t : Token) : Bool :=
  l.inert t && !t.is .openParen && !t.is .closeParen && !t.is .equals &&
    !l.grammar.has .variableWord t.text

theorem idlesAssigned_of_not_isReserved (hl : l.isScript = true) (hp : t.isPlain = true)
    (hr : l.isReserved t.text = false) : idlesAssigned l t = true := by
  have hword : l.grammar.has .variableWord t.text = false :=
    has_eq_false_of_not_isReserved hr (by decide)
  simp [idlesAssigned, inert_of_not_isReserved hp hr (skips_script hl t), Token.is_eq_false hp,
    hword]

theorem idlesAssigned_sign (hl : l.isScript = true) {m : Mark} (g : Sign m)
    (hm : m ∉ [.openParen, .closeParen, .equals, .arrow]) : idlesAssigned l g.token = true := by
  simp only [List.mem_cons, List.not_mem_nil, or_false, not_or] at hm
  obtain ⟨h1, h2, h3, h4⟩ := hm
  have hword : l.grammar.has .variableWord g.token.text = false := variableWord_of_mark hl m
  simp [idlesAssigned, signsInert_script hl m g h4, h1, h2, h3, hword]

theorem step_of_idlesAssigned (hl : l.isScript = true) (hn : n ≠ "")
    (h : s.frame = (assignedTo n).frame) (ho : s.listOpen = false)
    (ht : idlesAssigned l t = true) : l.step t s = s := by
  simp only [idlesAssigned, Bool.and_eq_true, Bool.not_eq_true'] at ht
  obtain ⟨⟨⟨⟨hin, h1⟩, h2⟩, h3⟩, h4⟩ := ht
  have hk : s.decl.kind = none := congrArg Frame.kind h
  have hname : s.decl.name = n := congrArg Frame.name h
  have hnameDue : s.nameDue = false := congrArg Frame.nameDue h
  have hassigned : s.assigned = true := congrArg Frame.assigned h
  have hdue : s.variableTypeDue = false := congrArg Frame.variableTypeDue h
  obtain ⟨-, hw, harrow, hj⟩ := inert_iff.1 hin
  have hf : l.readFunction t s = s.leave := by
    rw [readFunction_script hl]
    unfold readScriptFunction
    rw [if_neg (ne_true_of_eq_false hw), hk]
    dsimp only
    rw [if_neg (ne_true_of_eq_false (harrow hl)), if_neg fun hc => ne_true_of_eq_false h1 hc.1]
  have hp : l.readParameters t s = s.leave := by
    unfold readParameters readInList
    simp [h1, h2, ho]
  have hv : l.readVariable t s = s.leave := by
    rw [readVariable_script hl]
    unfold readScriptVariable
    simp [hk, hdue, h4, hnameDue, h3, hassigned, hname, hn]
  rw [step_of_readVariable hj (congrArg Frame.done h)
    (readClass_of_inert hin (by rw [hk]; decide)) hf hp, hv]
  rfl

theorem leads_idlesAssigned (hl : l.isScript = true) (hn : n ≠ "")
    (h : s.frame = (assignedTo n).frame) (ho : s.listOpen = false) {ts : List Token}
    (hts : ∀ t ∈ ts, idlesAssigned l t = true) : Leads l ts s (· = s) := by
  refine Leads.of_invariant (fun s' hs => ?_) (fun t ht s' hs => ?_) rfl
  · rw [hs]
    exact congrArg Frame.done h
  · rw [hs]
    exact step_of_idlesAssigned hl hn h ho (hts t ht)

theorem idlesAssigned_typeNames (hl : l.isScript = true) (names : Option (TypeNames l)) :
    ∀ t ∈ (names.map TypeNames.tokens).getD [], idlesAssigned l t = true := by
  refine forall_mem_typeNames
    (fun w => idlesAssigned_of_not_isReserved hl w.plain (isReserved_of_isName w.holds)) ?_ names
  rintro m g (rfl | rfl | rfl) <;> exact idlesAssigned_sign hl g (by decide)

theorem idlesAssigned_returns (hl : l.isScript = true) (r : Option (Ascription l.isType)) :
    ∀ t ∈ (r.map Ascription.tokens).getD [], idlesAssigned l t = true := by
  cases r with
  | none => exact fun t ht => absurd ht List.not_mem_nil
  | some r =>
    refine List.forall_mem_cons.2 ⟨idlesAssigned_sign hl r.colon (by decide),
      List.forall_mem_cons.2 ⟨idlesAssigned_of_not_isReserved hl r.type.type.plain
        (not_isReserved_of_isType hl r.type.type.holds), ?_⟩⟩
    exact forall_mem_brackets (fun g => idlesAssigned_sign hl g (by decide))
      (fun g => idlesAssigned_sign hl g (by decide)) r.type.arrays

/-! ## All spellings -/

theorem Collecting.leads_plainParens (hF : Collecting l F) (hl : l.isScript = true)
    (h : AtList l F s) (p : Parens (PlainSlot l)) :
    Leads l (p.tokens PlainSlot.tokens) s (Closed F (p.slots.items.map PlainSlot.parameter)) := by
  rw [List.map_eq_flatMap]
  exact hF.leads_parens (fun slot _ _ h => (hF.leads_plainSlot hl h slot).mono fun _ h' =>
    h'.toInList) h p

theorem leads_returns (hl : l.isScript = true) (h : Closed (Announces n { present := true }) ps s)
    (r : Option (Ascription l.isType)) :
    Leads l ((r.map Ascription.tokens).getD []) s
      (Closed (Announces n { present := true, type := r.map Ascription.text }) ps) := by
  have hlead := h.leads_returnType? (signsInert_script hl) (skips_script hl)
    (r.map (Ascription.widen (isReturnType_of_isType hl)))
  cases r with
  | none => exact hlead
  | some r => exact hlead

/-- The function up to its end. -/
theorem leads_spelling (hl : l.isScript = true) (f : SpelledFunction l) (p : Spelling l) :
    Leads l (p.before f.name ++ (f.typeNames.map TypeNames.tokens).getD [] ++
        f.parameters.tokens PlainSlot.tokens ++ (f.returns.map Ascription.tokens).getD [] ++
        p.behind) {}
      (Closed (Announces (f.nameIn p) { present := true, type := f.returnTypeIn p })
        (f.parameters.slots.items.map PlainSlot.parameter)) := by
  have hsigns := signsInert_script hl
  have hname : f.name.text ≠ "" := ne_empty_of_isName f.name.holds
  -- from the list on, all spellings but the arrow are read alike
  have hrest : ∀ {ts : List Token} {n : String},
      Leads l ts {} (AtList l (Announces n { present := true })) →
      Leads l (ts ++ f.parameters.tokens PlainSlot.tokens ++
          (f.returns.map Ascription.tokens).getD [] ++ []) {}
        (Closed (Announces n { present := true, type := f.returns.map Ascription.text })
          (f.parameters.slots.items.map PlainSlot.parameter)) := by
    intro ts n h
    have hlist := h.append fun s hs =>
      (collecting_announces hsigns).leads_plainParens hl hs f.parameters
    exact (hlist.append fun s hs => leads_returns hl hs f.returns).append fun s hs => .nil hs
  cases p with
  | word w =>
    have hnames := (leads_word hl w f.name).append fun s hs => hs.leads_typeNames hl f.typeNames
    exact hrest (hnames.mono fun s hs => hs.atList hsigns fun _ hf => hf)
  | method =>
    have hhead : Leads l [f.name.token] {} (· = { candidate := f.name.text }) :=
      .single rfl (step_candidate hl f.name "")
    have hnames := hhead.append (Q := (· = { candidate := f.lastName })) fun s hs =>
      hs ▸ leads_typeNames_candidate hl f.typeNames f.name.text
    exact hrest (hnames.mono fun s hs => hs ▸ atList_candidate hl f.lastName_ne_empty)
  | property path equals w =>
    have hnames := (leads_property hl path f.name equals w).append fun s hs =>
      hs.leads_typeNames hl f.typeNames
    exact hrest (hnames.mono fun s hs => hs.atList hsigns fun _ hf => hf)
  | arrow w equals sign =>
    -- nothing is declared before the arrow, so only the list is read
    let F : Frame → Prop := fun g => g = (assignedTo f.name.text).frame
    have hF : Collecting l F :=
      ⟨fun g hg => by rw [hg]; rfl, fun g hg => by rw [hg]; exact .inr ⟨hl, rfl, rfl⟩, hsigns⟩
    have hhead : Leads l [w.token, f.name.token, equals.token] {}
        (· = assignedTo f.name.text) := ⟨_, reads_arrowHead hl w f.name equals, rfl⟩
    have hnames := hhead.append (Q := (· = assignedTo f.name.text)) fun s hs => by
      rw [hs]
      exact leads_idlesAssigned hl hname rfl rfl (idlesAssigned_typeNames hl f.typeNames)
    have hlist := hnames.append fun s hs => hF.leads_plainParens hl
      (hs ▸ atList_assignedTo hl rfl) f.parameters
    have hreturns := hlist.append fun s hs => (leads_idlesAssigned hl hname hs.frame hs.listOpen
      (idlesAssigned_returns hl f.returns)).mono fun s' hs' => hs' ▸ hs
    refine hreturns.append fun s hs => .single (hF.done _ hs.frame) (step_arrow hl hname ?_ sign)
    refine ⟨?_, hs.parameters, hs.listOpen⟩
    rw [hs.frame]
    exact ⟨rfl, .inr ⟨rfl, rfl, rfl⟩, rfl, rfl, rfl⟩

theorem declaration_spelling (hl : l.isScript = true) (settings : Settings)
    (f : SpelledFunction l) (p : Spelling l) :
    l.declaration settings (f.tokens p) = f.declaration p := by
  unfold Language.declaration
  rw [SpelledFunction.tokens, read_of_closed (signsInert_script hl) (leads_spelling hl f p),
    finish_script hl]
  rfl

/-- **The spellings of a function of TypeScript or JavaScript agree exactly if its last type name,
if there is one, is its own name, and no return type is written.** -/
theorem spellings_agree_iff (hl : l.isScript = true) (settings : Settings)
    (f : SpelledFunction l) :
    (∀ p, l.declaration settings (f.tokens p) = f.declaration p) ∧
      ((∀ p q, l.declaration settings (f.tokens p) = l.declaration settings (f.tokens q)) ↔
        f.lastName = f.name.text ∧ f.returns = none) := by
  refine ⟨declaration_spelling hl settings f, ?_⟩
  simp only [declaration_spelling hl]
  constructor
  · intro h
    obtain ⟨word⟩ : Nonempty (Word (l.grammar.has .functionWord)) := by
      rcases eq_of_isScript hl with rfl | rfl <;>
        exact ⟨⟨{ kind := "function", text := "function" }, by decide, by decide⟩⟩
    obtain ⟨const⟩ : Nonempty (Word (l.grammar.has .variableWord)) := by
      rcases eq_of_isScript hl with rfl | rfl <;>
        exact ⟨⟨{ kind := "const", text := "const" }, by decide, by decide⟩⟩
    have hname := congrArg Declaration.name (h .method (.word word))
    have htype := congrArg (·.returns.type) (h (.word word) (.arrow const {} {}))
    exact ⟨hname, Option.map_eq_none_iff.1 htype⟩
  · rintro ⟨hname, hreturns⟩ p q
    have hsame : ∀ p, f.nameIn p = f.name.text ∧ f.returnTypeIn p = none := by
      intro p
      cases p <;> simp [SpelledFunction.nameIn, SpelledFunction.returnTypeIn, hname, hreturns]
    simp [SpelledFunction.declaration, hsame]

/-- `foo(bar?: T[], baz) {`, in one of its spellings. -/
def plainFoo : SpelledFunction .typescript where
  name := ⟨{ kind := "identifier", text := "foo" }, by decide, by decide⟩
  parameters :=
    { slots :=
        .of
          { name := ⟨{ kind := "identifier", text := "bar" }, by decide, by decide⟩
            question := some {}
            type := some
              { type :=
                  { type :=
                      ⟨{ kind := "type_identifier", text := "T", start := 10, stop := 11 }, by decide,
                        by decide⟩
                    arrays := [{}] } } }
          [({}, { name := ⟨{ kind := "identifier", text := "baz" }, by decide, by decide⟩ })] }
  ending := .block {} []

theorem spellings_agree_plainFoo :
    Language.typescript.isScript = true ∧ plainFoo.lastName = plainFoo.name.text ∧
      plainFoo.returns = none ∧
      ∀ p q, Language.typescript.declaration {} (plainFoo.tokens p) =
        Language.typescript.declaration {} (plainFoo.tokens q) :=
  ⟨rfl, rfl, rfl, (spellings_agree_iff rfl {} plainFoo).2.2 ⟨rfl, rfl⟩⟩

/-- `foo<T>(bar: T): T {`, in one of its spellings. -/
def genericFoo : SpelledFunction .typescript where
  name := ⟨{ kind := "identifier", text := "foo" }, by decide, by decide⟩
  typeNames := some
    { names :=
        .of
          ⟨{ kind := "type_identifier", text := "T", start := 4, stop := 5 }, by decide, by decide⟩
          [] }
  parameters :=
    { slots :=
        .of
          { name := ⟨{ kind := "identifier", text := "bar" }, by decide, by decide⟩
            type := some
              { type :=
                  { type :=
                      ⟨{ kind := "type_identifier", text := "T", start := 12, stop := 13 }, by decide,
                        by decide⟩ } } }
          [] }
  returns := some
    { type :=
        { type :=
            ⟨{ kind := "type_identifier", text := "T", start := 16, stop := 17 }, by decide, by decide⟩ } }
  ending := .block {} []

/-- `export function` -/
def fooWord : Spelling .typescript :=
  .word ⟨{ kind := "function", text := "function", start := 7, stop := 15 }, by decide, by decide⟩

/-- `export const` -/
def fooArrow : Spelling .typescript :=
  .arrow ⟨{ kind := "const", text := "const", start := 7, stop := 12 }, by decide, by decide⟩ {} {}

/-- The method is named after its type, and the arrow function has no return type. -/
theorem spellings_differ_genericFoo :
    (Language.typescript.declaration {} (genericFoo.tokens fooWord)).name = "foo" ∧
      (Language.typescript.declaration {} (genericFoo.tokens .method)).name = "T" ∧
      (Language.typescript.declaration {} (genericFoo.tokens fooWord)).returns.type = some "T" ∧
      (Language.typescript.declaration {} (genericFoo.tokens fooArrow)).returns.type = none := by
  decide

end Language

end DocTemplate
