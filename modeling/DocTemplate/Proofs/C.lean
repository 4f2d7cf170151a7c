import DocTemplate.Language.Template
import DocTemplate.Proofs.Declarator

/-!
# Functions of C

    S n ( S₁ [n₁ [ size? ]…] , … ) end

A type specifier `S` is made of built-in words, of a word like `struct` and a tag, or of one typedef
name, with stars behind it and modifiers anywhere.  Reading the written form of a function gives
back what was written (`declaration_cFunction`).

The type before the name and the types of the parameters are read by the same rule, from scans of
different shape.  So it is said apart from scans how a text grows by the tokens of a type:

    TypeSteps "" S.tokens S.text        (steps_specifier)
-/

namespace DocTemplate.Written

/-! ## Written form -/

abbrev Modifier := Word (Language.c.grammar.has .modifierWord)

/-- A name that is no built-in type. -/
def isCName (x : String) : Bool := Language.c.isName x && !Language.c.grammar.has .typeWord x

def isTagWord (x : String) : Bool := x ∈ Language.c.tagWords

/-- A built-in type that takes no tag. -/
def isBuiltin (x : String) : Bool := Language.c.grammar.has .typeWord x && !isTagWord x

/-- An item with modifiers before it. -/
structure Modified (α : Type) where
  modifiers : List Modifier := []
  item : α

def Modified.tokens {α : Type} (f : α → Token) (m : Modified α) : List Token :=
  m.modifiers.map (·.token) ++ [f m.item]

inductive TypeWords where
  | builtin (first : Modified (Word isBuiltin)) (more : List (Modified (Word isBuiltin)))
  | tagged (word : Modified (Word isTagWord)) (tag : Modified (Word isCName))
  | typedef (name : Modified (Word isCName))

namespace TypeWords

def tokens : TypeWords → List Token
  | .builtin first more => first.tokens Word.token ++ more.flatMap (Modified.tokens Word.token)
  | .tagged word tag => word.tokens Word.token ++ tag.tokens Word.token
  | .typedef name => name.tokens Word.token

def texts : TypeWords → List String
  | .builtin first more => first.item.text :: more.map (·.item.text)
  | .tagged word tag => [word.item.text, tag.item.text]
  | .typedef name => [name.item.text]

end TypeWords

structure Specifier where
  words : TypeWords
  stars : List (Modified (Sign .star)) := []
  modifiers : List Modifier := []

namespace Specifier

def tokens (s : Specifier) : List Token :=
  s.words.tokens ++ s.stars.flatMap (Modified.tokens Sign.token) ++ s.modifiers.map (·.token)

/-- The words with a space between each two, and the stars. -/
def text (s : Specifier) : String :=
  String.intercalate " " s.words.texts ++ String.join (List.replicate s.stars.length "*")

end Specifier

/-- A pair of brackets behind a name, with a size or not. -/
structure SizedBrackets where
  opener : Sign .openBracket := {}
  size : Option (Word fun _ => true) := none
  closer : Sign .closeBracket := {}

def SizedBrackets.tokens (b : SizedBrackets) : List Token :=
  b.opener.token :: ((b.size.map fun w => [w.token]).getD [] ++ [b.closer.token])

structure CSlot where
  specifier : Specifier
  name : Option (Word isCName × List SizedBrackets) := none

namespace CSlot

def tokens (p : CSlot) : List Token :=
  p.specifier.tokens ++
    (p.name.map fun n => n.1.token :: n.2.flatMap SizedBrackets.tokens).getD []

def parameter (p : CSlot) : Parameter where
  name := (p.name.map (·.1.text)).getD ""
  type := some (arrayText p.specifier.text ((p.name.map (·.2.length)).getD 0))

end CSlot

structure CFunction where
  specifier : Specifier
  name : Word isCName
  parameters : Parens CSlot
  ending : Ending

namespace CFunction

def tokens (f : CFunction) : List Token :=
  f.specifier.tokens ++ f.name.token :: (f.parameters.tokens CSlot.tokens ++ f.ending.tokens)

/-- A single `void` is no parameter. -/
def parameterList (f : CFunction) : List Parameter :=
  let ps := f.parameters.slots.items.map CSlot.parameter
  if ps = [{ type := some "void" }] then [] else ps

def declaration (f : CFunction) : Declaration where
  name := f.name.text
  kind := some .function
  parameters := f.parameterList
  returns := { present := f.specifier.text ≠ "void", type := some f.specifier.text }

end CFunction

end Written

namespace Language

open Written

variable {F : Frame → Prop} {ps : List Parameter} {t : Token} {ts us : List Token} {s : Scan}
  {x y z : String}

/-! ## The last word of a type -/

theorem takeWhile_no_space (hx : ' ' ∉ x.toList) (cs : List Char) :
    (x.toList.reverse ++ cs).takeWhile (· ≠ ' ') = x.toList.reverse ++ cs.takeWhile (· ≠ ' ') := by
  refine List.takeWhile_append_of_pos fun c hc => ?_
  rw [List.mem_reverse] at hc
  exact decide_eq_true fun he => hx (he ▸ hc)

theorem lastPart_of_no_space (hx : ' ' ∉ x.toList) : lastPart x = x := by
  have htake := takeWhile_no_space hx []
  rw [List.takeWhile_nil, List.append_nil] at htake
  unfold lastPart
  rw [htake, List.reverse_reverse, String.ofList_toList]

theorem lastPart_append (x : String) (hy : ' ' ∉ y.toList) : lastPart (x ++ " " ++ y) = y := by
  have hlist : (x ++ " " ++ y).toList.reverse = y.toList.reverse ++ ' ' :: x.toList.reverse := by
    simp
  unfold lastPart
  rw [hlist, takeWhile_no_space hy, List.takeWhile_cons_of_neg (by simp), List.append_nil,
    List.reverse_reverse, String.ofList_toList]

/-- No tag goes behind a star. -/
theorem lastPart_star (x : String) : lastPart (x ++ "*") ∉ Language.c.tagWords := by
  have hlist : (x ++ "*").toList.reverse = '*' :: x.toList.reverse := by
    simp
  have hlast : (lastPart (x ++ "*")).toList.getLast? = some '*' := by
    unfold lastPart
    rw [hlist, List.takeWhile_cons_of_pos (by decide), String.toList_ofList]
    simp
  have hall : ∀ w ∈ Language.c.tagWords, w.toList.getLast? ≠ some '*' := by decide
  intro hmem
  exact hall _ hmem hlast

theorem no_space_of_isName (h : Language.c.isName x = true) : ' ' ∉ x.toList := by
  have hword : Grammar.c.isWord x = true := (Bool.and_eq_true_iff.1 h).1
  rw [Grammar.isWord_ofShape rfl] at hword
  unfold WordShape.accepts at hword
  intro hmem
  split at hword
  · cases hword
  · rename_i c cs hx
    rw [hx] at hmem
    obtain ⟨hfirst, hlater⟩ := Bool.and_eq_true_iff.1 hword
    rcases List.mem_cons.1 hmem with rfl | hmem
    · exact absurd hfirst (by decide)
    · exact absurd (List.all_eq_true.1 hlater ' ' hmem) (by decide)

theorem no_space_of_typeWord (h : Language.c.grammar.has .typeWord x = true) :
    ' ' ∉ x.toList := by
  have hmem : x ∈ Grammar.c.typeWords := Grammar.mem_words_of_has h
  have hall : ∀ w ∈ Grammar.c.typeWords, ' ' ∉ w.toList := by decide
  exact hall x hmem

/-! ## One token of a type -/

/-- A type that takes no name into it. -/
structure Complete (x : String) : Prop where
  nonempty : x ≠ ""
  untagged : lastPart x ∉ Language.c.tagWords

theorem isBuiltin_iff : isBuiltin x = true ↔
    Language.c.grammar.has .typeWord x = true ∧ x ∉ Language.c.tagWords := by
  simp [isBuiltin, isTagWord]

theorem isCName_iff : isCName x = true ↔
    Language.c.isName x = true ∧ Language.c.grammar.has .typeWord x = false := by
  simp [isCName]

theorem typeWord_of_isTagWord (h : isTagWord x = true) :
    Language.c.grammar.has .typeWord x = true := by
  have hall : ∀ w ∈ Language.c.tagWords, Language.c.grammar.has .typeWord w = true := by decide
  exact hall x (of_decide_eq_true h)

theorem extendType_start (h : Language.c.startsType t.text = true) :
    Language.c.extendType "" 0 t = some (t.text, 0) := by
  unfold extendType
  rw [if_neg (by simp), if_pos rfl, if_pos h]

/-- A type that has begun is extended by stars, by built-in words and by tags. -/
theorem extendType_of_ne (hx : x ≠ "") (h1 : t.is .openAngle = false) (h2 : t.is .ellipsis = false)
    (h3 : t.is .openBracket = false) (h4 : t.is .closeBracket = false) :
    Language.c.extendType x 0 t =
      if t.is .star = true then some (x ++ t.text, 0)
      else if isBuiltin t.text = true then some (x ++ " " ++ t.text, 0)
      else if lastPart x ∈ Language.c.tagWords ∧ Language.c.isName t.text = true then
        some (x ++ " " ++ t.text, 0)
      else none := by
  have hjoins : Language.c.joinsTypeWords = true := rfl
  have htype : Language.c.isType t.text = Language.c.grammar.has .typeWord t.text := rfl
  unfold extendType
  simp only [hx, h1, h2, h3, h4, hjoins, htype, isBuiltin_iff, ne_eq, not_true_eq_false, if_false,
    Bool.false_eq_true, or_false, true_and]

theorem extendType_word (hx : x ≠ "") (ht : t.isPlain = true) :
    Language.c.extendType x 0 t =
      if isBuiltin t.text = true then some (x ++ " " ++ t.text, 0)
      else if lastPart x ∈ Language.c.tagWords ∧ Language.c.isName t.text = true then
        some (x ++ " " ++ t.text, 0)
      else none := by
  rw [extendType_of_ne hx (Token.is_eq_false ht _) (Token.is_eq_false ht _)
    (Token.is_eq_false ht _) (Token.is_eq_false ht _), if_neg (by simp [Token.is_eq_false ht])]

theorem extendType_star (hx : x ≠ "") (g : Sign .star) :
    Language.c.extendType x 0 g.token = some (x ++ "*", 0) := by
  rw [extendType_of_ne hx (by simp) (by simp) (by simp) (by simp), if_pos (by simp)]
  rfl

theorem extendType_builtin (hx : x ≠ "") (w : Word isBuiltin) :
    Language.c.extendType x 0 w.token = some (x ++ " " ++ w.text, 0) := by
  rw [extendType_word hx w.plain, if_pos w.holds]
  rfl

theorem not_isBuiltin_of_isCName (h : isCName x = true) : ¬isBuiltin x = true := by
  intro hb
  exact ne_true_of_eq_false (isCName_iff.1 h).2 (isBuiltin_iff.1 hb).1

theorem extendType_tag (hx : x ≠ "") (htag : lastPart x ∈ Language.c.tagWords)
    (w : Word isCName) : Language.c.extendType x 0 w.token = some (x ++ " " ++ w.text, 0) := by
  rw [extendType_word hx w.plain, if_neg (not_isBuiltin_of_isCName w.holds),
    if_pos ⟨htag, (isCName_iff.1 w.holds).1⟩]
  rfl

/-- A name behind a complete type is not part of it. -/
theorem extendType_name (hx : Complete x) (w : Word isCName) :
    Language.c.extendType x 0 w.token = none := by
  rw [extendType_word hx.nonempty w.plain, if_neg (not_isBuiltin_of_isCName w.holds),
    if_neg fun h => hx.untagged h.1]

theorem modifier_apart (w : Modifier) : isBuiltin w.token.text = false ∧
    Language.c.isName w.token.text = false ∧ Language.c.startsType w.token.text = false := by
  have hmem : w.token.text ∈ Grammar.c.modifierWords := Grammar.mem_words_of_has w.holds
  have hall : ∀ m ∈ Grammar.c.modifierWords, isBuiltin m = false ∧
      Language.c.isName m = false ∧ Language.c.startsType m = false := by decide
  exact hall _ hmem

/-- Modifiers are not part of a type. -/
theorem extendType_modifier (x : String) (w : Modifier) :
    Language.c.extendType x 0 w.token = none := by
  obtain ⟨h1, h2, h3⟩ := modifier_apart w
  by_cases hx : x = ""
  · rw [hx]
    unfold extendType
    rw [if_neg (by simp), if_pos rfl, if_neg (ne_true_of_eq_false h3)]
  · rw [extendType_word hx w.plain, if_neg (ne_true_of_eq_false h1),
      if_neg fun h => ne_true_of_eq_false h2 h.2]

/-! ## Specifiers -/

/-- The tokens of a type make `z` of the text `x`.  Modifiers among them change nothing. -/
inductive TypeSteps : String → List Token → String → Prop where
  | nil {x : String} : TypeSteps x [] x
  | extend {x y z : String} {t : Token} {ts : List Token} :
    divides t = false → t.opensGroup = false → Language.c.extendType x 0 t = some (y, 0) →
      TypeSteps y ts z → TypeSteps x (t :: ts) z
  | modifier {x z : String} {ts : List Token} (w : Modifier) :
    TypeSteps x ts z → TypeSteps x (w.token :: ts) z

theorem TypeSteps.append (h : TypeSteps x ts y) (h' : TypeSteps y us z) :
    TypeSteps x (ts ++ us) z := by
  induction h with
  | nil => exact h'
  | extend hd hg he _ ih => exact .extend hd hg he (ih h')
  | modifier w _ ih => exact .modifier w (ih h')

theorem TypeSteps.modifiers (ms : List Modifier) : TypeSteps x (ms.map (·.token)) x := by
  induction ms with
  | nil => exact .nil
  | cons w ms ih => exact .modifier w ih

theorem TypeSteps.word {p : String → Bool} (m : Modified (Word p))
    (h : Language.c.extendType x 0 m.item.token = some (y, 0)) :
    TypeSteps x (m.tokens Word.token) y :=
  (TypeSteps.modifiers m.modifiers).append
    (.extend (divides_eq_false m.item.plain) (Token.opensGroup_eq_false m.item.plain) h .nil)

theorem TypeSteps.star (hx : x ≠ "") (m : Modified (Sign .star)) :
    TypeSteps x (m.tokens Sign.token) (x ++ "*") :=
  (TypeSteps.modifiers m.modifiers).append
    (.extend (by simp [divides]) (by simp [Token.opensGroup]) (extendType_star hx m.item) .nil)

theorem complete_of_isBuiltin (h : isBuiltin x = true) : Complete x := by
  obtain ⟨hword, htag⟩ := isBuiltin_iff.1 h
  refine ⟨?_, ?_⟩
  · rintro rfl
    cases hword
  · rw [lastPart_of_no_space (no_space_of_typeWord hword)]
    exact htag

theorem not_isTagWord_of_isCName (h : isCName x = true) : x ∉ Language.c.tagWords := by
  intro htag
  exact ne_true_of_eq_false (isCName_iff.1 h).2 (typeWord_of_isTagWord (decide_eq_true htag))

theorem complete_of_isCName (h : isCName x = true) : Complete x := by
  have hname := (isCName_iff.1 h).1
  refine ⟨ne_empty_of_isName hname, ?_⟩
  rw [lastPart_of_no_space (no_space_of_isName hname)]
  exact not_isTagWord_of_isCName h

theorem complete_append (x : String) (hy : ' ' ∉ y.toList) (htag : y ∉ Language.c.tagWords) :
    Complete (x ++ " " ++ y) := by
  refine ⟨by simp, ?_⟩
  rw [lastPart_append x hy]
  exact htag

theorem startsType_of_typeWord (h : Language.c.grammar.has .typeWord x = true) :
    Language.c.startsType x = true := by
  show (Language.c.grammar.has .typeWord x || _) = true
  rw [h]
  rfl

theorem startsType_of_isName (h : Language.c.isName x = true) :
    Language.c.startsType x = true := by
  show (_ || Language.c.isName x) = true
  rw [h, Bool.or_true]

theorem steps_builtin (hx : Complete x) (more : List (Modified (Word isBuiltin))) :
    TypeSteps x (more.flatMap (Modified.tokens Word.token))
        (String.intercalate " " (x :: more.map (·.item.text))) ∧
      Complete (String.intercalate " " (x :: more.map (·.item.text))) := by
  induction more generalizing x with
  | nil => exact ⟨.nil, hx⟩
  | cons m more ih =>
    obtain ⟨hword, htag⟩ := isBuiltin_iff.1 m.item.holds
    obtain ⟨hsteps, hcomplete⟩ :=
      ih (complete_append x (no_space_of_typeWord hword) htag)
    exact ⟨(TypeSteps.word m (extendType_builtin hx.nonempty m.item)).append hsteps, hcomplete⟩

theorem steps_words (w : TypeWords) :
    TypeSteps "" w.tokens (String.intercalate " " w.texts) ∧
      Complete (String.intercalate " " w.texts) := by
  cases w with
  | builtin first more =>
    have hword := (isBuiltin_iff.1 first.item.holds).1
    obtain ⟨hsteps, hcomplete⟩ := steps_builtin (complete_of_isBuiltin first.item.holds) more
    exact ⟨(TypeSteps.word first (extendType_start (startsType_of_typeWord hword))).append hsteps,
      hcomplete⟩
  | tagged word tag =>
    have hword : Language.c.grammar.has .typeWord word.item.text = true :=
      typeWord_of_isTagWord word.item.holds
    have hne : word.item.text ≠ "" := by
      intro he
      rw [he] at hword
      cases hword
    -- the word alone is a type already, but one that takes the name behind it
    have hlast : lastPart word.item.text ∈ Language.c.tagWords := by
      rw [lastPart_of_no_space (no_space_of_typeWord hword)]
      exact of_decide_eq_true word.item.holds
    refine ⟨(TypeSteps.word word (extendType_start (startsType_of_typeWord hword))).append
      (TypeSteps.word tag (extendType_tag hne hlast tag.item)), ?_⟩
    exact complete_append _ (no_space_of_isName (isCName_iff.1 tag.item.holds).1)
      (not_isTagWord_of_isCName tag.item.holds)
  | typedef name =>
    have hname := (isCName_iff.1 name.item.holds).1
    exact ⟨TypeSteps.word name (extendType_start (startsType_of_isName hname)),
      complete_of_isCName name.item.holds⟩

theorem steps_stars (hx : Complete x) (stars : List (Modified (Sign .star))) :
    TypeSteps x (stars.flatMap (Modified.tokens Sign.token))
        (x ++ String.join (List.replicate stars.length "*")) ∧
      Complete (x ++ String.join (List.replicate stars.length "*")) := by
  induction stars generalizing x with
  | nil =>
    rw [List.length_nil, List.replicate_zero, String.join_nil, String.append_empty]
    exact ⟨.nil, hx⟩
  | cons m stars ih =>
    have hstar : Complete (x ++ "*") := ⟨by simp, lastPart_star x⟩
    obtain ⟨hsteps, hcomplete⟩ := ih hstar
    rw [List.length_cons, List.replicate_succ, String.join_cons, ← String.append_assoc]
    exact ⟨(TypeSteps.star hx.nonempty m).append hsteps, hcomplete⟩

/-- The tokens of a specifier make its text. -/
theorem steps_specifier (p : Specifier) : TypeSteps "" p.tokens p.text ∧ Complete p.text := by
  obtain ⟨hwords, hx⟩ := steps_words p.words
  obtain ⟨hstars, hcomplete⟩ := steps_stars hx p.stars
  exact ⟨(hwords.append hstars).append (TypeSteps.modifiers p.modifiers), hcomplete⟩

/-! ## The type and the name of the function -/

/-- No word declares anything in C. -/
theorem inert_c (t : Token) : Language.c.inert t = true := by
  simp [inert, Grammar.has, Grammar.words, Language.grammar, Grammar.c, isScript, skips]

theorem signsInert_c : SignsInert .c := fun _ g _ => inert_c g.token

theorem readFunction_c (hk : s.decl.kind = none) :
    Language.c.readFunction t s = Language.c.readTypeAndName t s :=
  readFunction_undeclared rfl hk

theorem openParen_of_divides (h : divides t = false) : t.is .openParen = false := by
  simp only [divides, Bool.or_eq_false_iff] at h
  exact h.1.1.1

theorem step_typeText (ht : divides t = false)
    (he : Language.c.extendType x 0 t = some (y, 0)) :
    Language.c.step t { typeText := x } = { typeText := y } := by
  have hread : Language.c.readFunction t { typeText := x } = Scan.take { typeText := y } := by
    rw [readFunction_c rfl, readTypeAndName_of_some (openParen_of_divides ht) rfl he]
  rw [step_of_readFunction rfl rfl (readClass_of_inert (inert_c t) (by exact nofun))
    (by rw [hread]; rfl), hread]
  rfl

theorem step_typeModifier (x : String) (w : Modifier) :
    Language.c.step w.token { typeText := x } = { typeText := x } := by
  have hread : Language.c.readFunction w.token { typeText := x } =
      Scan.leave { typeText := x } := by
    rw [readFunction_c rfl, readTypeAndName_of_none (by simp) rfl (extendType_modifier x w)]
    exact if_neg fun h => ne_true_of_eq_false (modifier_apart w).2.1 h.2
  rw [step_of_readVariable rfl rfl (readClass_of_inert (inert_c _) (by exact nofun)) hread rfl]
  rfl

theorem step_declaredName (hx : Complete x) (w : Word isCName) :
    Language.c.step w.token { typeText := x } = { typeText := x, candidate := w.text } :=
  step_headingName rfl (inert_c _) w.plain hx.nonempty (extendType_name hx w)
    (isCName_iff.1 w.holds).1

/-- Before the name, the tokens of a type grow the text of the type. -/
theorem TypeSteps.leads_head (h : TypeSteps x ts y) :
    Leads .c ts { typeText := x } (· = { typeText := y }) := by
  induction h with
  | nil => exact .nil rfl
  | extend hd _ he _ ih =>
    refine .cons rfl ?_
    rw [step_typeText hd he]
    exact ih
  | modifier w _ ih =>
    refine .cons rfl ?_
    rw [step_typeModifier]
    exact ih

theorem leads_cHead (p : Specifier) (name : Word isCName) :
    Leads .c (p.tokens ++ [name.token]) {}
      (AtList .c (Announces name.text { present := true, type := some p.text })) := by
  obtain ⟨hsteps, hcomplete⟩ := steps_specifier p
  have hn : name.text ≠ "" := ne_empty_of_isName (isCName_iff.1 name.holds).1
  refine hsteps.leads_head.append ?_
  rintro s rfl
  refine .single rfl ?_
  rw [step_declaredName hcomplete name]
  exact atList_declared rfl hcomplete.nonempty hn

/-! ## Parameters -/

theorem typeAt_modifier (hF : Collecting .c F) (h : TypeAt F ps x s) (w : Modifier) :
    Language.c.step w.token s = s := by
  obtain ⟨_, hlist, hv⟩ := h.listing
  exact hF.slot_idle rfl hlist hv (inert_c _) w.plain (fun y => extendType_modifier y w)
    (modifier_apart w).2.1

/-- In a parameter, the tokens of a type grow the type of the parameter. -/
theorem TypeSteps.leads_slot (hF : Collecting .c F) (h : TypeSteps x ts y)
    (hs : TypeAt F ps x s) : Leads .c ts s (TypeAt F ps y) := by
  induction h generalizing s with
  | nil => exact .nil hs
  | extend hd hg he _ ih =>
    exact .cons (hs.done hF) (ih (hF.slot_extend rfl hs (inert_c _) hd (.inr hg) he))
  | modifier w _ ih =>
    refine .cons (hs.done hF) (ih ?_)
    rw [typeAt_modifier hF hs w]
    exact hs

/-- Brackets behind a name go to the type, and sizes in them are passed over. -/
theorem leads_sizedBrackets (hF : Collecting .c F) {n : String} (hn : n ≠ "")
    (arrays : List SizedBrackets) (hx : x ≠ "")
    (h : InSlot F (ps ++ [{ name := n, type := some x }]) false s) :
    Leads .c (arrays.flatMap SizedBrackets.tokens) s
      (InSlot F (ps ++ [{ name := n, type := some (arrayText x arrays.length) }]) false) := by
  induction arrays generalizing x s with
  | nil =>
    rw [List.length_nil, arrayText_zero]
    exact .nil h
  | cons b arrays ih =>
    obtain ⟨opener, size, closer⟩ := b
    have h' := hF.slot_nameOpenBracket rfl hn hx h opener
    -- with no type due, a size is read by nothing and leaves the parameter as it is
    have hsize : ∀ t ∈ (size.map fun w => [w.token]).getD [], ∀ s',
        InSlot F (ps ++ [{ name := n, type := some (x ++ "[]") }]) false s' →
          InSlot F (ps ++ [{ name := n, type := some (x ++ "[]") }]) false
            (Language.c.step t s') := by
      intro t ht s' hs'
      cases size with
      | none => cases ht
      | some w =>
        rw [List.mem_singleton.1 ht]
        have hread := readSlot_named (l := .c) (t := w.token) rfl hs'
        simp only [Word.token_is, Bool.false_eq_true, false_and, if_false] at hread
        rw [hF.step_idle hs'.toInList hs'.inValue (inert_c _) (divides_eq_false w.plain)
          (.inl hs'.slotStart) (hF.kind_of_isCFamily rfl hs'.frame) hread]
        exact hs'
    have hpair := (Leads.of_invariant (fun s' hs' => hF.done _ hs'.frame) hsize h').append
      fun s' hs' => Leads.single (t := closer.token) (hF.done _ hs'.frame)
        (show InSlot F _ false _ by rw [hF.slot_nameCloseBracket rfl hs' closer]; exact hs')
    rw [List.flatMap_cons, List.length_cons, arrayText_succ]
    exact (Leads.cons (hF.done _ h.frame) hpair).append fun s' hs' => ih (by simp) hs'

theorem readsSlots_c (hF : Collecting .c F) :
    ReadsSlots .c F CSlot.tokens fun p => [p.parameter] := by
  intro p ps s h
  obtain ⟨specifier, name⟩ := p
  obtain ⟨hsteps, hcomplete⟩ := steps_specifier specifier
  refine (hsteps.leads_slot hF (.inl ⟨rfl, h⟩)).append fun s' h' => ?_
  have hslot := h'.inSlot hcomplete.nonempty
  cases name with
  | none =>
    refine .nil ?_
    show Listing F (ps ++ [{ type := some (arrayText specifier.text 0) }]) s'
    rw [arrayText_zero]
    exact hslot.toInList
  | some n =>
    have hn : n.1.text ≠ "" := ne_empty_of_isName (isCName_iff.1 n.1.holds).1
    refine .cons (hF.done _ hslot.frame) ?_
    exact (leads_sizedBrackets hF hn n.2 hcomplete.nonempty
      (hF.slot_declaredName rfl hslot (inert_c _) n.1.plain (extendType_name hcomplete n.1)
        (isCName_iff.1 n.1.holds).1)).mono fun s'' h'' => h''.toInList

/-! ## Top theorem -/

/-- A single parameter of type `void` is dropped, if it has no name. -/
theorem settleParameters_c {d : Declaration} (hk : d.kind = some .function)
    (hvalue : ∀ p ∈ d.parameters, p.value = "") :
    Language.c.settleParameters d =
      if d.parameters = [{ type := some "void" }] then [] else d.parameters := by
  unfold settleParameters
  rw [if_neg (not_not_intro hk)]
  split
  · rename_i p hp
    obtain ⟨name, type, value⟩ := p
    have hmem : ⟨name, type, value⟩ ∈ d.parameters := by
      rw [hp]
      exact List.mem_singleton_self _
    obtain rfl : value = "" := hvalue _ hmem
    have hvoid : (Language.c.isCFamily = true ∧ name = "" ∧ Language.c.isVoid type = true) ↔
        [({ name, type } : Parameter)] = [{ type := some "void" }] := by
      rw [isVoid_eq rfl]
      simp [isCFamily]
    simp only [hp, hvoid]
  · rename_i hsingle
    rw [if_neg (hsingle _)]

theorem settleReturns_c (d : Declaration) (hk : d.kind = some .function)
    (hr : d.returns = { present := true, type := some x }) :
    Language.c.settleReturns d = decide (x ≠ "void") := by
  unfold settleReturns
  rw [hk, hr, isVoid_eq rfl]
  simp

/-- **Reading the written form of a function of C gives back what was written.** -/
theorem declaration_cFunction (settings : Settings) (f : CFunction) :
    Language.c.declaration settings f.tokens = f.declaration := by
  have hF : Collecting .c
      (Announces f.name.text { present := true, type := some f.specifier.text }) :=
    collecting_announces signsInert_c
  have hlead := (leads_cHead f.specifier f.name).append fun s h =>
    hF.leads_parens (readsSlots_c hF) h f.parameters
  rw [← List.map_eq_flatMap] at hlead
  have htokens : f.tokens = f.specifier.tokens ++ [f.name.token] ++
      f.parameters.tokens CSlot.tokens ++ f.ending.tokens := by
    simp [CFunction.tokens]
  have hvalue : ∀ p ∈ f.parameters.slots.items.map CSlot.parameter, p.value = "" := by
    intro p hp
    obtain ⟨slot, -, rfl⟩ := List.mem_map.1 hp
    rfl
  have hformat := formatType_of_ne_php (l := .c) (by decide) settings.mixedNullable
  unfold Language.declaration
  rw [htokens, read_of_closed signsInert_c hlead]
  unfold finish
  simp only [settleKind, Option.isSome_some, if_true, hformat, List.map_id']
  rw [settleParameters_c rfl hvalue, settleReturns_c _ rfl rfl]
  rfl

/-- `extern unsigned long *find(volatile struct node *list, char name[16][], status);` -/
def findNode : CFunction where
  specifier :=
    { words :=
        .builtin
          { modifiers := [⟨{ kind := "extern", text := "extern" }, by decide, by decide⟩]
            item := ⟨{ kind := "unsigned", text := "unsigned" }, by decide, by decide⟩ }
          [{ item := ⟨{ kind := "long", text := "long" }, by decide, by decide⟩ }]
      stars := [{ item := {} }] }
  name := ⟨{ kind := "identifier", text := "find" }, by decide, by decide⟩
  parameters :=
    { slots :=
        .of
          { specifier :=
              { words :=
                  .tagged
                    { modifiers := [⟨{ kind := "volatile", text := "volatile" }, by decide, by decide⟩]
                      item := ⟨{ kind := "struct", text := "struct" }, by decide, by decide⟩ }
                    { item := ⟨{ kind := "identifier", text := "node" }, by decide, by decide⟩ }
                stars := [{ item := {} }] }
            name := some (⟨{ kind := "identifier", text := "list" }, by decide, by decide⟩, []) }
          [({},
            { specifier :=
                { words :=
                    .builtin
                      { item := ⟨{ kind := "char", text := "char" }, by decide, by decide⟩ }
                      [] }
              name := some
                (⟨{ kind := "identifier", text := "name" }, by decide, by decide⟩,
                  [{ size := some ⟨{ kind := "number_literal", text := "16" }, by decide, rfl⟩ },
                    {}]) }),
            ({},
              { specifier :=
                  { words :=
                      .typedef
                        { item :=
                            ⟨{ kind := "identifier", text := "status" }, by decide,
                              by decide⟩ } } })] }
  ending := .stop {} []

theorem declaration_findNode :
    Language.c.declaration {} findNode.tokens =
      { name := "find"
        kind := some .function
        parameters :=
          [{ name := "list", type := some "struct node*" },
            { name := "name", type := some "char[][]" }, { type := some "status" }]
        returns := { present := true, type := some "unsigned long*" } } :=
  (declaration_cFunction {} findNode).trans (by decide)

end Language

end DocTemplate
