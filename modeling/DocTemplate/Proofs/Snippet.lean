import DocTemplate.Snippet

/-!
# Reading snippets

An editor reads a snippet from left to right.  A backslash before `\`, `$` or `}` stands for that
character, `${N:` opens the tab stop `N`, the next `}` without a backslash closes it, and all else
stands for itself.  Reading what was written from pieces gives back what the pieces show:

    (∀ p ∈ ps, p.isLiteral) → read (write ps) = ps.flatMap Piece.shown      (read_write)

From this follow the tab stops of the snippet (`stops_write`), and its text once every tab stop is
replaced by the text that it offers (`expand_write`).

That tab stops are numbered in the order in which they stand is no matter of writing, but of the
way in which they are made.  `Numbers` says it of one action, and the lemmas on it are the rules by
which actions are put together.
-/

namespace DocTemplate.Snippet

/-! ## Algorithm -/

/-- A character of a snippet, and whether a backslash made it stand for itself. -/
structure Glyph where
  char : Char
  escaped : Bool
  deriving DecidableEq, Repr

def glyphs : List Char → List Glyph
  | [] => []
  | [c] => [⟨c, false⟩]
  | c :: d :: cs =>
    if c = '\\' ∧ isSpecial d then ⟨d, true⟩ :: glyphs cs else ⟨c, false⟩ :: glyphs (d :: cs)

inductive Shown where
  | char (c : Char)
  | stop (number : Nat) (text : List Char)
  deriving DecidableEq, Repr

/-- The text and the number of a tab stop. -/
def Shown.stop? : Shown → Option (String × Nat)
  | .char _ => none
  | .stop n text => some (String.ofList text, n)

def Shown.chars : Shown → List Char
  | .char c => [c]
  | .stop _ text => text

def Glyph.isDigit (g : Glyph) : Bool := g.char.isDigit

/-- Whether a tab stop goes on behind a glyph of it. -/
def Glyph.goesOn (g : Glyph) : Bool := g.char ≠ '\x7d' || g.escaped

/-- Reads a tab stop behind its dollar sign, `{N:text}`, and gives what comes after it. -/
def readStop (gs : List Glyph) : Option (Shown × List Glyph) :=
  match gs with
  | [] => none
  | opener :: gs =>
    let digits := (gs.takeWhile Glyph.isDigit).map (·.char)
    match gs.dropWhile Glyph.isDigit with
    | [] => none
    | colon :: gs =>
      let text := (gs.takeWhile Glyph.goesOn).map (·.char)
      match gs.dropWhile Glyph.goesOn with
      | [] => none
      | _ :: rest =>
        if opener = ⟨'\x7b', false⟩ ∧ colon = ⟨':', false⟩ ∧ digits ≠ [] then
          some (.stop (Nat.ofDigitChars 10 digits 0) text, rest)
        else none

theorem length_readStop {gs rest : List Glyph} {x : Shown} (h : readStop gs = some (x, rest)) :
    rest.length < gs.length := by
  unfold readStop at h
  cases gs with
  | nil => cases h
  | cons opener gs =>
    have hdigits := (List.dropWhile_sublist (p := Glyph.isDigit) (l := gs)).length_le
    dsimp only at h
    split at h
    · cases h
    rename_i gs' hcolon
    have htext := (List.dropWhile_sublist (p := Glyph.goesOn) (l := gs')).length_le
    split at h
    · cases h
    rename_i hclose
    split at h
    · cases h
      rw [hcolon] at hdigits
      rw [hclose] at htext
      simp only [List.length_cons] at hdigits htext ⊢
      omega
    · cases h

def readGlyphs (gs : List Glyph) : List Shown :=
  match gs with
  | [] => []
  | g :: gs =>
    if g.char = '$' ∧ g.escaped = false then
      match _ : readStop gs with
      | some (x, rest) => x :: readGlyphs rest
      | none => .char g.char :: readGlyphs gs
    else .char g.char :: readGlyphs gs
termination_by gs.length
decreasing_by
  all_goals simp only [List.length_cons]
  · rename_i h
    have := length_readStop h
    omega
  · omega
  · omega

/-- What a snippet shows. -/
def read (s : String) : List Shown := readGlyphs (glyphs s.toList)

/-- The tab stops of a snippet in the order in which they come, each with its number. -/
def stops (s : String) : List (String × Nat) := (read s).filterMap Shown.stop?

/-- A snippet with the text of each tab stop in its place. -/
def expand (s : String) : String := String.ofList ((read s).flatMap Shown.chars)

/-! ## Pieces -/

/-- Whether a piece is written so that it can be read back: raw text has no backslash and no dollar
sign. -/
def Piece.isLiteral : Piece → Bool
  | .raw text => text.toList.all fun c => c ≠ '\\' && c ≠ '$'
  | .plain _ | .stop _ _ => true

def Piece.text : Piece → String
  | .raw text | .plain text | .stop _ text => text

/-- The text and the number of a piece that is a tab stop. -/
def Piece.stop? : Piece → Option (String × Nat)
  | .raw _ | .plain _ => none
  | .stop n text => some (text, n)

/-- What a piece shows. -/
def Piece.shown : Piece → List Shown
  | .raw text | .plain text => text.toList.map .char
  | .stop n text => [.stop n text.toList]

/-- The tab stops among pieces, with the numbers that they were given. -/
def stopsOf (ps : List Piece) : List (String × Nat) := ps.filterMap Piece.stop?

/-- The text of pieces to someone who looks at them. -/
def visible (ps : List Piece) : String := String.join (ps.map Piece.text)

/-! ## Lemmas -/

theorem glyphs_cons {c : Char} (h : c ≠ '\\') (cs : List Char) :
    glyphs (c :: cs) = ⟨c, false⟩ :: glyphs cs := by
  cases cs with
  | nil => rfl
  | cons d cs =>
    rw [glyphs, if_neg fun hc => h hc.1]

theorem glyphs_append {cs : List Char} (h : ∀ c ∈ cs, c ≠ '\\') (rest : List Char) :
    glyphs (cs ++ rest) = cs.map (⟨·, false⟩) ++ glyphs rest := by
  induction cs with
  | nil => rfl
  | cons c cs ih =>
    rw [List.cons_append, glyphs_cons (h c List.mem_cons_self),
      ih fun d hd => h d (List.mem_cons_of_mem _ hd)]
    rfl

/-- The glyph of a character that is escaped if need be. -/
def Glyph.ofChar (c : Char) : Glyph := ⟨c, isSpecial c⟩

theorem glyphs_escapeChars (cs rest : List Char) :
    glyphs (escapeChars cs ++ rest) = cs.map Glyph.ofChar ++ glyphs rest := by
  induction cs with
  | nil => rfl
  | cons c cs ih =>
    have hcons : escapeChars (c :: cs) =
        (if isSpecial c then ['\\', c] else [c]) ++ escapeChars cs := List.flatMap_cons
    rw [hcons, List.append_assoc, List.map_cons, List.cons_append, ← ih]
    cases hc : isSpecial c with
    | true =>
      rw [if_pos rfl]
      show glyphs ('\\' :: c :: (escapeChars cs ++ rest)) = _
      rw [glyphs, if_pos ⟨rfl, hc⟩, Glyph.ofChar, hc]
    | false =>
      have hne : c ≠ '\\' := by
        rintro rfl
        cases hc
      rw [if_neg Bool.false_ne_true, List.singleton_append, glyphs_cons hne, Glyph.ofChar, hc]

/-- A character that opens no tab stop is shown as it is. -/
theorem readGlyphs_cons {g : Glyph} (h : g.char = '$' → g.escaped = true) (gs : List Glyph) :
    readGlyphs (g :: gs) = .char g.char :: readGlyphs gs := by
  rw [readGlyphs, if_neg]
  rintro ⟨hc, he⟩
  rw [h hc] at he
  cases he

theorem readGlyphs_append {gs : List Glyph} (h : ∀ g ∈ gs, g.char = '$' → g.escaped = true)
    (rest : List Glyph) :
    readGlyphs (gs ++ rest) = gs.map (.char ·.char) ++ readGlyphs rest := by
  induction gs with
  | nil => rfl
  | cons g gs ih =>
    rw [List.cons_append, readGlyphs_cons (h g List.mem_cons_self),
      ih fun g' hg => h g' (List.mem_cons_of_mem _ hg)]
    rfl

theorem goesOn_ofChar (c : Char) : (Glyph.ofChar c).goesOn = true := by
  by_cases hc : c = '\x7d'
  · subst hc
    rfl
  · simp [Glyph.goesOn, Glyph.ofChar, hc]

/-- The glyphs of a tab stop behind its dollar sign. -/
def stopGlyphs (n : Nat) (text : List Char) : List Glyph :=
  ⟨'\x7b', false⟩ :: ((Nat.toDigits 10 n).map (⟨·, false⟩) ++
    ⟨':', false⟩ :: (text.map Glyph.ofChar ++ [⟨'\x7d', false⟩]))

theorem readStop_stopGlyphs (n : Nat) (text : List Char) (rest : List Glyph) :
    readStop (stopGlyphs n text ++ rest) = some (.stop n text, rest) := by
  have hform : stopGlyphs n text ++ rest =
      ⟨'\x7b', false⟩ :: ((Nat.toDigits 10 n).map (⟨·, false⟩) ++
        ⟨':', false⟩ :: (text.map Glyph.ofChar ++ ⟨'\x7d', false⟩ :: rest)) := by
    simp [stopGlyphs]
  have hdigit : ∀ g ∈ (Nat.toDigits 10 n).map (⟨·, false⟩ : Char → Glyph), g.isDigit = true := by
    intro g hg
    obtain ⟨c, hc, rfl⟩ := List.mem_map.1 hg
    exact Nat.isDigit_of_mem_toDigits (b := 10) (by decide) (by decide) hc
  have hcolon : ¬Glyph.isDigit ⟨':', false⟩ = true := by decide
  have htext : ∀ g ∈ text.map Glyph.ofChar, g.goesOn = true := by
    intro g hg
    obtain ⟨c, -, rfl⟩ := List.mem_map.1 hg
    exact goesOn_ofChar c
  have hclose : ¬Glyph.goesOn ⟨'\x7d', false⟩ = true := by decide
  have hchars : ∀ (f : Char → Glyph) (cs : List Char), (∀ c, (f c).char = c) →
      (cs.map f).map (·.char) = cs := by
    intro f cs hf
    simp [List.map_map, Function.comp_def, hf]
  rw [hform]
  unfold readStop
  dsimp only
  rw [List.takeWhile_append_of_pos hdigit, List.dropWhile_append_of_pos hdigit,
    List.takeWhile_cons_of_neg hcolon, List.dropWhile_cons_of_neg hcolon, List.append_nil]
  dsimp only
  rw [List.takeWhile_append_of_pos htext, List.dropWhile_append_of_pos htext,
    List.takeWhile_cons_of_neg hclose, List.dropWhile_cons_of_neg hclose, List.append_nil,
    hchars _ _ fun _ => rfl, hchars _ _ fun _ => rfl]
  dsimp only
  rw [if_pos ⟨rfl, rfl, Nat.toDigits_ne_nil⟩, Nat.ofDigitChars_ten_toDigits]

/-- A tab stop is read whatever comes after it. -/
theorem readGlyphs_tabStop (n : Nat) (text : String) (rest : List Char) :
    readGlyphs (glyphs ((tabStop n text).toList ++ rest)) =
      .stop n text.toList :: readGlyphs (glyphs rest) := by
  have hform : (tabStop n text).toList ++ rest =
      '$' :: '\x7b' ::
        (Nat.toDigits 10 n ++ ':' :: (escapeChars text.toList ++ '\x7d' :: rest)) := by
    simp [tabStop, escape]
  have hdigits : ∀ c ∈ Nat.toDigits 10 n, c ≠ '\\' := by
    intro c hc he
    have hisDigit := Nat.isDigit_of_mem_toDigits (b := 10) (by decide) (by decide) hc
    rw [he] at hisDigit
    exact absurd hisDigit (by decide)
  have hglyphs : glyphs ((tabStop n text).toList ++ rest) =
      ⟨'$', false⟩ :: (stopGlyphs n text.toList ++ glyphs rest) := by
    rw [hform, glyphs_cons (by decide), glyphs_cons (by decide), glyphs_append hdigits,
      glyphs_cons (by decide), glyphs_escapeChars, glyphs_cons (by decide)]
    simp [stopGlyphs]
  rw [hglyphs, readGlyphs, if_pos ⟨rfl, rfl⟩]
  split
  · rename_i x rest' h
    rw [readStop_stopGlyphs] at h
    cases h
    rfl
  · rename_i h
    rw [readStop_stopGlyphs] at h
    cases h

/-! ## Written pieces -/

theorem write_cons (p : Piece) (ps : List Piece) : write (p :: ps) = p.write ++ write ps := by
  unfold write
  rw [List.map_cons, String.join_cons]

/-- A written piece is read whatever comes after it. -/
theorem readGlyphs_piece {p : Piece} (h : p.isLiteral = true) (rest : List Char) :
    readGlyphs (glyphs (p.write.toList ++ rest)) = p.shown ++ readGlyphs (glyphs rest) := by
  cases p with
  | raw text =>
    have hall : ∀ c ∈ text.toList, c ≠ '\\' ∧ c ≠ '$' := by
      simpa [Piece.isLiteral] using h
    have hdollar : ∀ g ∈ text.toList.map (⟨·, false⟩ : Char → Glyph),
        g.char = '$' → g.escaped = true := by
      intro g hg he
      obtain ⟨c, hc, rfl⟩ := List.mem_map.1 hg
      exact absurd he (hall c hc).2
    rw [Piece.write, Piece.shown, glyphs_append fun c hc => (hall c hc).1,
      readGlyphs_append hdollar, List.map_map]
    rfl
  | plain text =>
    have hdollar : ∀ g ∈ text.toList.map Glyph.ofChar, g.char = '$' → g.escaped = true := by
      intro g hg he
      obtain ⟨c, -, rfl⟩ := List.mem_map.1 hg
      replace he : c = '$' := he
      rw [he]
      rfl
    have hescape : (escape text).toList = escapeChars text.toList := String.toList_ofList
    rw [Piece.write, Piece.shown, hescape, glyphs_escapeChars, readGlyphs_append hdollar,
      List.map_map]
    rfl
  | stop n text => exact readGlyphs_tabStop n text rest

/-- Reading what was written gives what the pieces show. -/
theorem read_write {ps : List Piece} (h : ∀ p ∈ ps, p.isLiteral = true) :
    read (write ps) = ps.flatMap Piece.shown := by
  unfold read
  induction ps with
  | nil => simp [write, glyphs, readGlyphs]
  | cons p ps ih =>
    obtain ⟨hp, hps⟩ := List.forall_mem_cons.1 h
    rw [write_cons, String.toList_append, readGlyphs_piece hp, ih hps, List.flatMap_cons]

theorem stop?_shown (p : Piece) : p.shown.filterMap Shown.stop? = p.stop?.toList := by
  have hchars : ∀ cs : List Char, (cs.map Shown.char).filterMap Shown.stop? = [] := by
    intro cs
    induction cs with
    | nil => rfl
    | cons c cs ih => exact ih
  cases p with
  | raw text => exact hchars text.toList
  | plain text => exact hchars text.toList
  | stop n text => simp [Piece.shown, Piece.stop?, Shown.stop?, String.ofList_toList]

theorem chars_shown (p : Piece) : p.shown.flatMap Shown.chars = p.text.toList := by
  have hchars : ∀ cs : List Char, (cs.map Shown.char).flatMap Shown.chars = cs := by
    intro cs
    induction cs with
    | nil => rfl
    | cons c cs ih => exact congrArg (c :: ·) ih
  cases p with
  | raw text => exact hchars text.toList
  | plain text => exact hchars text.toList
  | stop n text => simp [Piece.shown, Piece.text, Shown.chars]

/-- The tab stops of a written snippet are those of its pieces, with their numbers. -/
theorem stops_write {ps : List Piece} (h : ∀ p ∈ ps, p.isLiteral = true) :
    stops (write ps) = stopsOf ps := by
  unfold stops stopsOf
  rw [read_write h]
  clear h
  induction ps with
  | nil => rfl
  | cons p ps ih =>
    rw [List.flatMap_cons, List.filterMap_append, ih, stop?_shown]
    cases hp : p.stop? with
    | none => rw [List.filterMap_cons_none hp, Option.toList_none, List.nil_append]
    | some x => rw [List.filterMap_cons_some hp, Option.toList_some, List.singleton_append]

theorem visible_append (ps qs : List Piece) : visible (ps ++ qs) = visible ps ++ visible qs := by
  unfold visible
  rw [List.map_append, String.join_append]

theorem visible_cons (p : Piece) (ps : List Piece) : visible (p :: ps) = p.text ++ visible ps := by
  unfold visible
  rw [List.map_cons, String.join_cons]

/-- With the tab stops filled in, a snippet is what its pieces look like. -/
theorem expand_write {ps : List Piece} (h : ∀ p ∈ ps, p.isLiteral = true) :
    expand (write ps) = visible ps := by
  have hchars : (ps.flatMap Piece.shown).flatMap Shown.chars = (visible ps).toList := by
    clear h
    induction ps with
    | nil => rfl
    | cons p ps ih =>
      rw [List.flatMap_cons, List.flatMap_append, ih, chars_shown, visible_cons,
        String.toList_append]
  unfold expand
  rw [read_write h, hchars, String.ofList_toList]

/-! ## Numbers -/

section

variable {α β : Type} {view : α → List (String × Nat)} {view' : β → List (String × Nat)}
  {before : List (String × Nat)} {text : String} {xs ys : List String}

/-- What is made shows the tab stops `before`, which it was given, and then one for each of the
texts.  These are numbered on from those that were made so far. -/
def Numbers (view : α → List (String × Nat)) (before : List (String × Nat)) (m : Numbering α)
    (texts : List String) : Prop :=
  ∀ n, view (m.run n).1 = before ++ texts.zipIdx (n + 1) ∧ (m.run n).2 = n + texts.length

theorem Numbers.pure {a : α} (h : view a = before) : Numbers view before (pure a) [] := by
  intro n
  rw [List.zipIdx_nil, List.append_nil]
  exact ⟨h, rfl⟩

/-- One tab stop takes the next number. -/
theorem Numbers.makeStop {k : Piece → Numbering α}
    (h : ∀ n, Numbers view (before ++ [(text, n)]) (k (.stop n text)) xs) :
    Numbers view before (makeStop text >>= k) (text :: xs) := by
  intro n
  obtain ⟨hview, hcount⟩ := h (n + 1) (n + 1)
  rw [List.append_assoc, List.singleton_append, ← List.zipIdx_cons] at hview
  refine ⟨hview, hcount.trans ?_⟩
  rw [List.length_cons]
  omega

/-- What is made second is numbered on from what is made first. -/
theorem Numbers.bind {m : Numbering α} {k : α → Numbering β} (h : Numbers view [] m xs)
    (hk : ∀ a, Numbers view' (before ++ view a) (k a) ys) :
    Numbers view' before (m >>= k) (xs ++ ys) := by
  intro n
  have hrun : (m >>= k).run n = (k (m.run n).1).run (m.run n).2 := rfl
  obtain ⟨hm, hcount⟩ := h n
  obtain ⟨hview, hcount'⟩ := hk (m.run n).1 (m.run n).2
  rw [hrun, hview, hcount', hm, hcount, List.nil_append, List.zipIdx_append, List.length_append,
    List.append_assoc, Nat.add_right_comm n 1]
  exact ⟨rfl, Nat.add_assoc _ _ _⟩

theorem Numbers.map {m : Numbering α} {g : α → β} (h : Numbers view [] m xs)
    (hg : ∀ a, view' (g a) = before ++ view a) :
    Numbers view' before (m >>= fun a => Pure.pure (g a)) xs := by
  have hbind := h.bind fun a => Numbers.pure (hg a)
  rwa [List.append_nil] at hbind

theorem run_mapM_cons (f : α → Numbering β) (a : α) (as : List α) (n : Nat) :
    ((a :: as).mapM f).run n =
      (((f a).run n).1 :: ((as.mapM f).run ((f a).run n).2).1,
        ((as.mapM f).run ((f a).run n).2).2) := by
  rw [List.mapM_cons]
  rfl

/-- One item after the other is numbered on. -/
theorem Numbers.mapM {f : α → Numbering β} {texts : α → List String}
    (h : ∀ a, Numbers view' [] (f a) (texts a)) (as : List α) :
    Numbers (fun bs => bs.flatMap view') [] (as.mapM f) (as.flatMap texts) := by
  induction as with
  | nil =>
    rw [List.mapM_nil]
    exact .pure rfl
  | cons a as ih =>
    rw [List.mapM_cons, List.flatMap_cons]
    exact .bind (h a) fun b => ih.map fun bs => List.flatMap_cons

theorem mem_mapM {f : α → Numbering β} {as : List α} {b : β} {n : Nat}
    (h : b ∈ ((as.mapM f).run n).1) : ∃ a ∈ as, ∃ k, b = ((f a).run k).1 := by
  induction as generalizing n with
  | nil =>
    rw [List.mapM_nil] at h
    exact absurd h List.not_mem_nil
  | cons a as ih =>
    rw [run_mapM_cons] at h
    rcases List.mem_cons.1 h with hb | hb
    · exact ⟨a, List.mem_cons_self, n, hb⟩
    · obtain ⟨a', ha', k, hk⟩ := ih hb
      exact ⟨a', List.mem_cons_of_mem _ ha', k, hk⟩

/-- What does not depend on the numbers is the same for all of them. -/
theorem map_mapM {γ : Type} {f : α → Numbering β} {g : β → γ} {g' : α → γ}
    (h : ∀ a k, g ((f a).run k).1 = g' a) (as : List α) (n : Nat) :
    ((as.mapM f).run n).1.map g = as.map g' := by
  induction as generalizing n with
  | nil =>
    rw [List.mapM_nil]
    rfl
  | cons a as ih => rw [run_mapM_cons, List.map_cons, List.map_cons, h, ih]

end

end DocTemplate.Snippet
