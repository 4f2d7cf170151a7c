import DocTemplate.Proofs.Java

/-!
# Types of Java in one token or in many

    H < … > [ ] …        the token `H<…>[]…`

A type with angle brackets may come in one token or in many, and the record does not tell the two
apart (`declaration_spelled`).  Types stand at two places, before the name of a declaration and before
the name of a parameter, and each has its reader.  What the readers share is said by `TypeSite`: the
scan at such a place depends on the text of the type so far and on the angle brackets that are open.

    TypeSite .java s site → Reads .java g.tokens s (site g.text 0)        (TypeSite.reads_generic)

So the tokens of a type and its one token lead to the same scan, and what comes after them is free.
-/

namespace DocTemplate

namespace Written

/-! ## Written form -/

/-- Whether a token may stand between the angle brackets of a type. -/
def inAngles (t : Token) : Bool :=
  !(t.is .openParen || t.is .closeParen || t.is .equals) && Language.java.inert t

/-- A type with angle brackets, in its tokens. -/
structure GenericType where
  head : Word isClassWord
  opener : Sign .openAngle := {}
  inner : List Token
  inAngles : ∀ t ∈ inner, inAngles t = true
  closed : anglesClosed 0 inner = true
  closer : Sign .closeAngle := {}
  arrays : List Brackets := []

def joinTexts (ts : List Token) : String := String.join (ts.map (·.text))

namespace GenericType

def tokens (g : GenericType) : List Token :=
  g.head.token :: g.opener.token ::
    (g.inner ++ g.closer.token :: g.arrays.flatMap Brackets.tokens)

def text (g : GenericType) : String := joinTexts g.tokens

end GenericType

/-- A type of a line: a word and pairs of brackets, or a type with angle brackets in one token or in
many. -/
inductive LineType where
  | word (type : JavaType)
  | whole (type : GenericType) (token : Word (· == type.text))
  | parts (type : GenericType)

namespace LineType

def tokens : LineType → List Token
  | .word type => type.tokens
  | .whole _ w => [w.token]
  | .parts type => type.tokens

/-- The same type with all its tokens apart. -/
def splitTokens : LineType → List Token
  | .word type => type.tokens
  | .whole type _ => type.tokens
  | .parts type => type.tokens

def text : LineType → String
  | .word type => type.text
  | .whole type _ => type.text
  | .parts type => type.text

end LineType

structure SpelledSlot where
  type : LineType
  ellipsis : Option (Sign .ellipsis) := none
  name : JavaName

def SpelledSlot.parameter (p : SpelledSlot) : Parameter where
  name := p.name.text
  type := some (p.type.text ++ if p.ellipsis.isSome then "..." else "")

/-- A declaration up to its name, or up to the end of its parameters. -/
inductive SpelledForm where
  | var (type : LineType) (name : JavaName)
  | method (type : LineType) (name : JavaName) (parameters : Parens SpelledSlot)
  | constructor (name : Word isClassWord) (parameters : Parens SpelledSlot)

def SpelledForm.declaration : SpelledForm → Declaration
  | .var type name =>
    { name := name.text
      kind := some .var
      returns := { present := false, type := some type.text } }
  | .method type name ps =>
    { name := name.text
      kind := some .function
      parameters := ps.slots.items.map SpelledSlot.parameter
      returns := { present := type.text ≠ "void", type := some type.text } }
  | .constructor name ps =>
    { name := name.text
      kind := some .function
      parameters := ps.slots.items.map SpelledSlot.parameter
      returns := { present := false, type := none } }

structure SpelledLine where
  typeParameters : Option TypeParameters := none
  form : SpelledForm
  /-- The asides before each part; a type is one part. -/
  asides : Nat → List Aside := fun _ => []
  /-- What comes behind the declaration. -/
  rest : List Token := []

section

variable (spell : LineType → List Token)

def SpelledSlot.parts (p : SpelledSlot) : List (List Token) :=
  spell p.type :: ((p.ellipsis.map fun g => [[g.token]]).getD [] ++ [[p.name.token]])

def moreSlotParts : List (Sign .comma × SpelledSlot) → List (List Token)
  | [] => []
  | (comma, p) :: more => [comma.token] :: (p.parts spell ++ moreSlotParts more)

def slotParts : Listed SpelledSlot → List (List Token)
  | .empty => []
  | .of p more => p.parts spell ++ moreSlotParts spell more

def listParts (ps : Parens SpelledSlot) : List (List Token) :=
  [ps.opener.token] :: (slotParts spell ps.slots ++ [[ps.closer.token]])

def SpelledForm.parts : SpelledForm → List (List Token)
  | .var type name => [spell type, [name.token]]
  | .method type name ps => spell type :: [name.token] :: listParts spell ps
  | .constructor name ps => [name.token] :: listParts spell ps

/-- Parts with the asides that stand before each of them. -/
def strewParts (asides : Nat → List Aside) : List (List Token) → List Token
  | [] => []
  | p :: ps => (asides 0).map (·.token) ++ p ++ strewParts (fun i => asides (i + 1)) ps

def SpelledLine.spelled (d : SpelledLine) : List Token :=
  strewParts d.asides
    (((d.typeParameters.map TypeParameters.tokens).getD []).map (fun t => [t]) ++
      d.form.parts spell) ++ d.rest

end

theorem strewParts_append (asides : Nat → List Aside) (ps qs : List (List Token)) :
    strewParts asides (ps ++ qs) =
      strewParts asides ps ++ strewParts (fun i => asides (i + ps.length)) qs := by
  induction ps generalizing asides with
  | nil => rfl
  | cons p ps ih =>
    rw [List.cons_append, strewParts, ih, strewParts, List.append_assoc, List.append_assoc,
      List.append_assoc]
    rfl

/-- Tokens apart are strewn as parts. -/
theorem strewParts_tokens (asides : Nat → List Aside) (ts : List Token) :
    strewParts asides (ts.map fun t => [t]) = strew asides ts := by
  induction ts generalizing asides with
  | nil => rfl
  | cons t ts ih =>
    rw [List.map_cons, strewParts, ih, strew, List.append_assoc, List.singleton_append]

/-! ## Texts -/

theorem joinTexts_cons (t : Token) (ts : List Token) :
    joinTexts (t :: ts) = t.text ++ joinTexts ts := by
  rw [joinTexts, List.map_cons, String.join_cons, joinTexts]

theorem joinTexts_append (ts us : List Token) :
    joinTexts (ts ++ us) = joinTexts ts ++ joinTexts us := by
  rw [joinTexts, List.map_append, String.join_append, joinTexts, joinTexts]

theorem append_joinTexts_brackets (x : String) (arrays : List Brackets) :
    x ++ joinTexts (arrays.flatMap Brackets.tokens) = arrayText x arrays.length := by
  induction arrays generalizing x with
  | nil => rfl
  | cons b arrays ih =>
    have hb : joinTexts b.tokens = "[]" := rfl
    rw [List.flatMap_cons, joinTexts_append, hb, List.length_cons, arrayText_succ, ← ih,
      String.append_assoc]

/-- The text of a type: its head, what is in angle brackets, and pairs of brackets. -/
theorem GenericType.text_eq (g : GenericType) :
    g.text =
      arrayText (g.head.text ++ "<" ++ joinTexts g.inner ++ ">") g.arrays.length := by
  rw [text, tokens, joinTexts_cons, joinTexts_cons, joinTexts_append, joinTexts_cons,
    ← append_joinTexts_brackets]
  simp only [String.append_assoc]
  rfl

end Written

namespace Language

open Written

variable {F : Frame → Prop} {ps : List Parameter} {t : Token} {ts : List Token} {s s₁ : Scan}
  {P Q : Scan → Prop} {x y n : String} {site : String → Int → Scan}

/-! ## One token -/

/-- A character that is no part of words ends the word at the start of a text. -/
theorem leading?_append {w : WordShape} {x : String} (hx : w.accepts x = true) {c : Char}
    (hc : w.later.has c = false) (cs : List Char) :
    w.leading? (String.ofList (x.toList ++ c :: cs)) = some x := by
  unfold WordShape.accepts at hx
  unfold WordShape.leading?
  rw [String.toList_ofList]
  cases h : x.toList with
  | nil =>
    rw [h] at hx
    cases hx
  | cons a as =>
    rw [h] at hx
    obtain ⟨ha, has⟩ := Bool.and_eq_true_iff.1 hx
    have htail : (as ++ c :: cs).takeWhile w.later.has = as := by
      rw [List.takeWhile_append_of_pos (List.all_eq_true.1 has),
        List.takeWhile_cons_of_neg (ne_true_of_eq_false hc), List.append_nil]
    simp only [List.cons_append, ha, if_true, htail]
    rw [← h, String.ofList_toList]

/-- A type is told by the word at its start. -/
theorem isType_of_leading? (hx : Language.java.isType x = true)
    (hbase : Language.java.grammar.word.leading? y = Language.java.grammar.word.leading? x)
    (hy : Language.java.isReserved y = false) : Language.java.isType y = true := by
  have hx' :
      (!Language.java.isReserved x && (Language.java.grammar.word.leading? x).any _) = true := hx
  show (!Language.java.isReserved y && (Language.java.grammar.word.leading? y).any _) = true
  rw [hbase, hy]
  exact (Bool.and_eq_true_iff.1 hx').2

/-- The one token of a type is read as a type, by its head. -/
theorem isType_text (g : GenericType) : Language.java.isType g.text = true := by
  obtain ⟨htype, hword⟩ := Bool.and_eq_true_iff.1 g.head.holds
  obtain ⟨cs, hcs⟩ : ∃ cs, g.text = String.ofList (g.head.text.toList ++ '<' :: cs) := by
    rw [g.text_eq, arrayText]
    refine ⟨((joinTexts g.inner ++ ">") ++
      String.join (List.replicate g.arrays.length "[]")).toList, ?_⟩
    rw [← String.toList_inj]
    simp
  have haccepts : WordShape.standard.accepts g.head.text = true := by
    rw [← Grammar.isWord_ofShape (g := Language.java.grammar) rfl]
    exact hword
  refine isType_of_leading? htype ?_ ?_
  · have hbase : WordShape.standard.leading? g.text = some g.head.text := by
      rw [hcs]
      exact leading?_append haccepts (by decide) cs
    exact hbase.trans (WordShape.leading?_of_accepts haccepts).symm
  -- no keyword has an angle bracket in it
  · cases hr : Language.java.isReserved g.text with
    | false => rfl
    | true =>
      have hall : ∀ w ∈ Language.java.grammar.keywords, '<' ∉ w.toList := by decide
      refine absurd ?_ (hall _ (mem_keywords_of_isReserved hr))
      rw [hcs, String.toList_ofList]
      simp

/-! ## Places of types -/

theorem extendType_openAngle (hx : x ≠ "") (g : Sign .openAngle) :
    Language.java.extendType x 0 g.token = some (x ++ "<", 1) := by
  unfold extendType
  simp [hx]
  rfl

/-- Between angle brackets every token is part of the type. -/
theorem extendType_angles {d : Int} (hd : d ≠ 0) (x : String) (t : Token) :
    Language.java.extendType x d t = some (x ++ t.text, angleStep t d) := by
  unfold extendType
  rw [if_pos hd]

theorem inAngles_sign {m : Mark} (g : Sign m)
    (hm : m ∉ [.openParen, .closeParen, .equals, .arrow]) : inAngles g.token = true := by
  simp only [List.mem_cons, List.not_mem_nil, or_false, not_or] at hm
  obtain ⟨h1, h2, h3, harrow⟩ := hm
  simp [inAngles, h1, h2, h3, signsInert_java _ g harrow]

namespace TypeSite

theorem extend (h : TypeSite .java s site) {d d' : Int} (hx : x ≠ "") (ht : inAngles t = true)
    (hcomma : d = 0 → t.is .comma = false)
    (he : Language.java.extendType x d t = some (y, d')) :
    Language.java.step t (site x d) = site y d' := by
  obtain ⟨hsign, hin⟩ := Bool.and_eq_true_iff.1 ht
  rw [Bool.not_eq_true'] at hsign
  exact h.next hx hin hsign hcomma he

theorem reads_word (h : TypeSite .java s site) (w : Word Language.java.isType) :
    Reads .java [w.token] s (site w.text 0) := by
  refine .cons h.start ?_
  rw [h.first (inert_type w) w.plain (extendType_type w)]
  exact .nil

/-- Between the outermost angle brackets, with `d` inner ones open. -/
theorem reads_angles (h : TypeSite .java s site) (hts : ∀ t ∈ ts, inAngles t = true) {d : Nat}
    (hclosed : anglesClosed d ts = true) (hx : x ≠ "") :
    Reads .java ts (site x (d + 1)) (site (x ++ joinTexts ts) 1) := by
  induction ts generalizing x d with
  | nil =>
    have hd : d = 0 := by simpa [anglesClosed] using hclosed
    rw [hd, show joinTexts [] = "" from rfl, String.append_empty]
    exact .nil
  | cons t ts ih =>
    obtain ⟨ht, hts⟩ := List.forall_mem_cons.1 hts
    have hx' : x ++ t.text ≠ "" := fun he => hx (String.append_eq_empty_iff.1 he).1
    have hopen : ((d : Int) + 1) ≠ 0 := by omega
    obtain ⟨d', hclosed, hdepth⟩ := anglesClosed_cons hclosed
    refine .cons (h.done _ _) ?_
    rw [h.extend hx ht (fun hd => absurd hd hopen) (extendType_angles hopen x t), hdepth,
      joinTexts_cons, ← String.append_assoc]
    exact ih hts hclosed hx'

/-- The tokens of a type lead to its text. -/
theorem reads_generic (h : TypeSite .java s site) (g : GenericType) :
    Reads .java g.tokens s (site g.text 0) := by
  obtain ⟨head, opener, inner, hinner, hclosed, closer, arrays⟩ := g
  obtain ⟨htype, -⟩ := Bool.and_eq_true_iff.1 head.holds
  have hx : head.text ≠ "" := ne_empty_of_isType ⟨head.token, head.plain, htype⟩
  have hx₁ : head.text ++ "<" ≠ "" := by simp
  have hx₂ : head.text ++ "<" ++ joinTexts inner ≠ "" :=
    fun he => hx₁ (String.append_eq_empty_iff.1 he).1
  have hx₃ : head.text ++ "<" ++ joinTexts inner ++ ">" ≠ "" := by simp
  have hopen : Language.java.step opener.token (site head.text 0) =
      site (head.text ++ "<") ((0 : Nat) + 1) :=
    h.extend hx (inAngles_sign opener (by decide)) (fun _ => by simp)
      (extendType_openAngle hx opener)
  have hclose : Language.java.step closer.token (site (head.text ++ "<" ++ joinTexts inner) 1) =
      site (head.text ++ "<" ++ joinTexts inner ++ ">") 0 := by
    refine h.extend hx₂ (inAngles_sign closer (by decide)) (fun _ => by simp) ?_
    rw [extendType_angles (by decide)]
    simp [angleStep]
    rfl
  rw [GenericType.text_eq]
  have hword : Reads .java [head.token] s (site head.text 0) :=
    h.reads_word ⟨head.token, head.plain, htype⟩
  refine hword.append (.cons (h.done _ _) ?_)
  rw [hopen]
  refine (h.reads_angles hinner hclosed hx₁).append ?_
  refine .cons (h.done _ _) ?_
  rw [hclose]
  exact h.reads_brackets rfl arrays hx₃

/-- However a type is cut into tokens, it leads to one scan. -/
theorem reads (h : TypeSite .java s site) (type : LineType) :
    Reads .java type.tokens s (site type.text 0) ∧
      Reads .java type.splitTokens s (site type.text 0) := by
  cases type with
  | word type =>
    have hx := ne_empty_of_isType type.type
    have hword := h.reads_word type.type
    have hreads : Reads .java type.tokens s (site type.text 0) :=
      hword.append (h.reads_brackets rfl type.arrays hx)
    exact ⟨hreads, hreads⟩
  | whole type w =>
    have htext : w.token.text = type.text := by simpa using w.holds
    have hword := h.reads_word ⟨w.token, w.plain, by rw [htext]; exact isType_text type⟩
    refine ⟨?_, h.reads_generic type⟩
    rw [LineType.text, ← htext]
    exact hword
  | parts type => exact ⟨h.reads_generic type, h.reads_generic type⟩

end TypeSite

theorem ne_empty_of_lineType (type : LineType) : type.text ≠ "" := by
  have hgeneric : ∀ g : GenericType, g.text ≠ "" := by
    intro g he
    have htype := isType_text g
    rw [he, isType_empty] at htype
    cases htype
  cases type with
  | word type => exact arrayText_ne_empty (ne_empty_of_isType type.type) _
  | whole type _ => exact hgeneric type
  | parts type => exact hgeneric type

/-! ## Lines -/

/-- A way to write types: the tokens of a type lead to its text. -/
def Spells (spell : LineType → List Token) : Prop :=
  ∀ s site, TypeSite .java s site → ∀ type, Reads .java (spell type) s (site type.text 0)

/-- The parts lead to a scan with the property `Q`, and to the same one however types are written
and whatever asides stand before the parts. -/
def Settles (f : (LineType → List Token) → List (List Token)) (s : Scan) (Q : Scan → Prop) : Prop :=
  ∃ s', Q s' ∧ ∀ spell, Spells spell → ∀ asides, Reads .java (strewParts asides (f spell)) s s'

namespace Settles

variable {f g : (LineType → List Token) → List (List Token)}

theorem nil (h : Q s) : Settles (fun _ => []) s Q := ⟨s, h, fun _ _ _ => .nil⟩

theorem cons (hc : Calm s) {p : (LineType → List Token) → List Token}
    (hp : ∀ spell, Spells spell → Reads .java (p spell) s s₁) (h : Settles f s₁ Q) :
    Settles (fun spell => p spell :: f spell) s Q := by
  obtain ⟨s', hq, hreads⟩ := h
  refine ⟨s', hq, fun spell hspell asides => ?_⟩
  exact ((hc.reads _).append (hp spell hspell)).append (hreads spell hspell _)

theorem token (hc : Calm s) (hd : s.done = false) (h : Settles f (Language.java.step t s) Q) :
    Settles (fun spell => [t] :: f spell) s Q :=
  cons hc (fun _ _ => .cons hd .nil) h

theorem type (hc : Calm s) (hs : TypeSite .java s site) (type : LineType)
    (h : Settles f (site type.text 0) Q) : Settles (fun spell => spell type :: f spell) s Q :=
  cons hc (fun _ hspell => hspell _ _ hs type) h

theorem append (h : Settles f s P) (h' : ∀ s', P s' → Settles g s' Q) :
    Settles (fun spell => f spell ++ g spell) s Q := by
  obtain ⟨s₁, hp, hreads⟩ := h
  obtain ⟨s₂, hq, hreads'⟩ := h' s₁ hp
  refine ⟨s₂, hq, fun spell hspell asides => ?_⟩
  rw [strewParts_append]
  exact (hreads spell hspell _).append (hreads' spell hspell _)

/-- Tokens that lead to one scan among all asides. -/
theorem of_amid (h : Amid ts s (· = s₁)) (hq : Q s₁) :
    Settles (fun _ => ts.map fun t => [t]) s Q := by
  refine ⟨s₁, hq, fun _ _ asides => ?_⟩
  obtain ⟨s', hreads, rfl⟩ := h asides
  rw [strewParts_tokens]
  exact hreads

end Settles

theorem settles_slot (hF : Collecting .java F) (p : SpelledSlot) (h : SlotStart F ps s) :
    Settles p.parts s (Between F (ps ++ [p.parameter])) := by
  obtain ⟨type, ellipsis, name⟩ := p
  have hx := ne_empty_of_lineType type
  have hsite := h.typeSite hF rfl
  have hcalm : ∀ y, Calm (typing s y 0) := fun y => (h.typing y).between.calm hF
  have hname : ∀ y, y ≠ "" → Settles (fun _ => [[name.token]]) (typing s y 0)
      (Between F (ps ++ [{ name := name.text, type := some y }])) := by
    intro y hy
    refine .token (hcalm y) (hsite.done y 0) (.nil ?_)
    exact (hF.slot_declaredName rfl (h.typing y) (inert_name name) name.plain
      (extendType_plain hy name.plain) name.holds).between
  refine .type (h.between.calm hF) hsite type ?_
  cases ellipsis with
  | none =>
    rw [show SpelledSlot.parameter ⟨type, none, name⟩ =
      { name := name.text, type := some type.text } by simp [SpelledSlot.parameter]]
    exact hname _ hx
  | some g =>
    refine .token (hcalm _) (hsite.done _ 0) ?_
    rw [hsite.extend hx (inAngles_sign g (by decide)) (fun _ => by simp)
      (extendType_ellipsis hx g)]
    exact hname _ (by simp)

theorem settles_moreSlots (hF : Collecting .java F) (more : List (Sign .comma × SpelledSlot))
    (h : Between F ps s) :
    Settles (moreSlotParts · more) s
      (Between F (ps ++ (more.map (·.2)).map SpelledSlot.parameter)) := by
  induction more generalizing ps s with
  | nil => exact .nil (by simpa using h)
  | cons item more ih =>
    obtain ⟨comma, p⟩ := item
    refine .token (h.calm hF) (hF.done _ h.frame) ?_
    refine (settles_slot hF p (hF.comma h.toInList comma)).append fun s' h' => ?_
    have hmore := ih h'
    rw [List.append_assoc] at hmore
    exact hmore

theorem settles_list (hF : Collecting .java F) (hc : Calm s) (h : AtList .java F s)
    (p : Parens SpelledSlot) :
    Settles (listParts · p) s (Closed F (p.slots.items.map SpelledSlot.parameter)) := by
  have hstart := h.openParen hF p.opener
  refine .token hc h.done (.append
    (P := Between F (p.slots.items.map SpelledSlot.parameter)) ?_ fun s' h' => ?_)
  · cases hslots : p.slots with
    | empty => exact .nil hstart.between
    | of slot more =>
      exact (settles_slot hF slot hstart).append fun s' h' => settles_moreSlots hF more h'
  · exact .token (h'.calm hF) (hF.done _ h'.frame) (.nil (hF.closeParen h'.toInList p.closer))

theorem settles_typeParameters? (p : Option TypeParameters)
    {f : (LineType → List Token) → List (List Token)} (h : Settles f {} Q) :
    Settles (fun spell => ((p.map TypeParameters.tokens).getD []).map (fun t => [t]) ++ f spell)
      {} Q := by
  cases p with
  | none => exact h
  | some p =>
    refine (Settles.of_amid (Q := (· = {})) (amid_typeParameters p) rfl).append ?_
    rintro s rfl
    exact h

theorem settles_typeAndName (type : LineType) (name : JavaName)
    {f : (LineType → List Token) → List (List Token)}
    (h : Settles f { typeText := type.text, candidate := name.text } Q) :
    Settles (fun spell => spell type :: [name.token] :: f spell) {} Q := by
  refine .type (calm_head rfl rfl (.inl rfl)) (typeSite_head rfl) type ?_
  refine .token (calm_head rfl rfl (.inl rfl)) rfl ?_
  rw [step_headName (ne_empty_of_lineType type) name]
  exact h

/-- The scan at the end of a form gives its record. -/
def Holds (form : SpelledForm) (s : Scan) : Prop :=
  ∀ mixed, Language.java.finish mixed s = form.declaration

theorem holds_of_closed {form : SpelledForm} {type : Option String} {list : Parens SpelledSlot}
    (h : Closed (Announces n { present := true, type })
      (list.slots.items.map SpelledSlot.parameter) s)
    (hform : form.declaration =
      { name := n
        kind := some .function
        parameters := list.slots.items.map SpelledSlot.parameter
        returns := { present := type.getD "" ≠ "" ∧ type ≠ some "void", type } }) :
    Holds form s := by
  intro mixed
  rw [finish_of_function h.frame.kind, h.decl_eq, hform]
  apply finish_ofNamed
  intro q hq
  obtain ⟨slot, -, rfl⟩ := List.mem_map.1 hq
  exact ne_empty_of_isName slot.name.holds

theorem settles_form (form : SpelledForm) : Settles (SpelledForm.parts · form) {} (Holds form) := by
  cases form with
  | var type name =>
    refine settles_typeAndName type name (.nil fun mixed => ?_)
    exact finish_run_variable mixed (ne_empty_of_lineType type) (ne_empty_of_isName name.holds)
      .line
  | method type name list =>
    have hx := ne_empty_of_lineType type
    have hn : name.text ≠ "" := ne_empty_of_isName name.holds
    refine settles_typeAndName type name ?_
    obtain ⟨s', h', hreads⟩ := settles_list (collecting_announces signsInert_java)
      (calm_head rfl rfl (.inl rfl)) (atList_declared rfl hx hn) list
    exact ⟨s', holds_of_closed h' (by simp [SpelledForm.declaration, hx]), hreads⟩
  | constructor name list =>
    obtain ⟨htype, hword⟩ := Bool.and_eq_true_iff.1 name.holds
    refine .token (calm_head rfl rfl (.inl rfl)) rfl ?_
    rw [step_headWord ⟨name.token, name.plain, htype⟩]
    obtain ⟨s', h', hreads⟩ := settles_list (collecting_announces signsInert_java)
      (calm_head rfl rfl (.inl rfl))
      (atList_constructor (ne_empty_of_isType ⟨name.token, name.plain, htype⟩) hword) list
    exact ⟨s', holds_of_closed (n := name.text) h' (by simp [SpelledForm.declaration]), hreads⟩

theorem spells_tokens : Spells LineType.tokens := fun _ _ hs type => (hs.reads type).1

theorem spells_splitTokens : Spells LineType.splitTokens := fun _ _ hs type => (hs.reads type).2

/-- **The record does not depend on how its types are cut into tokens**, and it holds the types in
full when the line ends behind the declaration. -/
theorem declaration_spelled (settings : Settings) (d : SpelledLine) :
    Language.java.declaration settings (d.spelled LineType.tokens) =
        Language.java.declaration settings (d.spelled LineType.splitTokens) ∧
      Language.java.declaration settings (({ d with rest := [] } : SpelledLine).spelled
        LineType.tokens) = d.form.declaration := by
  obtain ⟨s, hs, hreads⟩ := settles_typeParameters? d.typeParameters (settles_form d.form)
  have hrun : ∀ spell, Spells spell → ∀ rest, Language.java.run
      (({ d with rest } : SpelledLine).spelled spell) {} = Language.java.run rest s :=
    fun spell hspell rest => hreads spell hspell d.asides rest
  constructor
  · show Language.java.finish _ (Language.java.run _ {}) =
      Language.java.finish _ (Language.java.run _ {})
    rw [hrun _ spells_tokens d.rest, hrun _ spells_splitTokens d.rest]
  · show Language.java.finish _ (Language.java.run _ {}) = _
    rw [hrun _ spells_tokens []]
    exact hs _

/-- `Map<K,List<V>>[]` -/
def mapType : GenericType where
  head := ⟨{ kind := "type_identifier", text := "Map" }, by decide, by decide⟩
  inner :=
    [{ kind := "type_identifier", text := "K" }, ({} : Sign .comma).token,
      { kind := "type_identifier", text := "List" }, ({} : Sign .openAngle).token,
      { kind := "type_identifier", text := "V" }, ({} : Sign .closeAngle).token]
  inAngles := by decide
  closed := by decide
  arrays := [{}]

example : mapType.text = "Map<K,List<V>>[]" ∧ mapType.tokens.length = 11 := by decide

end Language

end DocTemplate
