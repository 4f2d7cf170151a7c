import DocTemplate.Language.Template
import DocTemplate.Proofs.Written
import Mathlib.Data.List.Forall2

/-!
# Nullable types of PHP

    ?T [ ] …    is recorded as    T[]…|null    or as    mixed

A setting decides between the two.  The records with and without it are the same but for these types,
and no type of a record has a question mark before it (`declaration_nullable`).

The final form drops one question mark, which is enough: every type in a scan is the text of one token
that is a type or begins like a word, with pairs of brackets behind it (`IsRead`), and such a text has
one question mark at most.
-/

namespace DocTemplate

namespace Language

open Written

variable {t : Token} {s : Scan} {x : String}

/-! ## Texts of types -/

theorem arrayText_append (x : String) (n : Nat) : arrayText x n ++ "[]" = arrayText x (n + 1) := by
  rw [arrayText, arrayText, String.append_assoc, List.replicate_succ', String.join_append]
  rfl

theorem isNullable_append {x : String} (hx : x ≠ "") (y : String) :
    isNullable (x ++ y) = isNullable x := by
  unfold isNullable
  rw [String.toList_append]
  cases h : x.toList with
  | nil => exact absurd (String.toList_eq_nil_iff.1 h) hx
  | cons c cs => rfl

theorem isNullable_arrayText {x : String} (hx : x ≠ "") (n : Nat) :
    isNullable (arrayText x n) = isNullable x :=
  isNullable_append hx _

theorem eq_of_isNullable (h : isNullable x = true) : x = "?" ++ dropNullable x := by
  unfold isNullable at h
  unfold dropNullable
  rw [decide_eq_true_eq] at h
  cases hx : x.toList with
  | nil => rw [hx] at h; cases h
  | cons c cs =>
    obtain rfl : c = '?' := by simpa [hx] using h
    rw [← String.toList_inj, hx]
    simp

theorem dropNullable_append (x y : String) : dropNullable ("?" ++ x ++ y) = x ++ y := by
  have h : ("?" ++ x ++ y).toList = '?' :: (x ++ y).toList := by simp
  unfold dropNullable
  rw [h]
  simp

/-- The text of a type as it is read: that of a token with pairs of brackets behind it. -/
def IsRead (x : String) : Prop :=
  ∃ b n, x = arrayText b n ∧ (Language.php.isType b = true ∨ Language.php.beginsWord b = true)

theorem isRead_of_word (h : Language.php.isType x = true ∨ Language.php.beginsWord x = true) :
    IsRead x :=
  ⟨x, 0, (arrayText_zero x).symm, h⟩

theorem IsRead.brackets (h : IsRead x) : IsRead (x ++ "[]") := by
  obtain ⟨b, n, rfl, hb⟩ := h
  exact ⟨b, n + 1, arrayText_append b n, hb⟩

theorem isNullable_of_beginsWord (h : Language.php.beginsWord x = true) :
    x ≠ "" ∧ isNullable x = false := by
  have hne : x ≠ "" := by
    rintro rfl
    rw [beginsWord_empty] at h
    cases h
  unfold beginsWord at h
  rw [Grammar.beginsWord_ofShape rfl] at h
  refine ⟨hne, decide_eq_false fun hc => ?_⟩
  rw [hc] at h
  exact absurd h (by decide)

/-- A type without its question mark is something, and has no other. -/
theorem isNullable_dropNullable (h : Language.php.isType x = true) :
    dropNullable x ≠ "" ∧ isNullable (dropNullable x) = false := by
  have h' : (!Language.php.isReserved (dropNullable x) &&
      (Language.php.grammar.has .typeWord (dropNullable x) || isClassName (dropNullable x))) =
        true := h
  generalize dropNullable x = y at h'
  simp only [Bool.and_eq_true, Bool.or_eq_true] at h'
  rcases h'.2 with hword | hclass
  · have hall : ∀ w ∈ Grammar.php.typeWords, w ≠ "" ∧ isNullable w = false := by decide
    exact hall y (Grammar.mem_words_of_has hword)
  · unfold isClassName at hclass
    unfold isNullable
    rw [decide_eq_false_iff_not]
    refine ⟨fun he => (by rw [he] at hclass; cases hclass), fun hy => ?_⟩
    cases hc : y.toList with
    | nil => rw [hc] at hy; cases hy
    | cons c cs =>
      obtain rfl : c = '?' := by simpa [hc] using hy
      rw [hc] at hclass
      exact absurd (Bool.and_eq_true_iff.1 hclass).1 (by decide)

/-- A type has one question mark at most. -/
theorem IsRead.cases (h : IsRead x) :
    isNullable x = false ∨ ∃ b n, x = arrayText ("?" ++ b) n ∧ b ≠ "" ∧ isNullable b = false := by
  obtain ⟨b, n, rfl, hb⟩ := h
  rcases hb with hb | hb
  · cases hnull : isNullable b with
    | true => exact .inr ⟨dropNullable b, n, by rw [← eq_of_isNullable hnull],
        isNullable_dropNullable hb⟩
    | false =>
      have hne : b ≠ "" := by
        rintro rfl
        exact absurd hb (by decide)
      exact .inl ((isNullable_arrayText hne n).trans hnull)
  · obtain ⟨hne, hnull⟩ := isNullable_of_beginsWord hb
    exact .inl ((isNullable_arrayText hne n).trans hnull)

end Language

/-! ## Types in a scan -/

/-- The type of a parameter is one that was read. -/
def Parameter.TypeRead (p : Parameter) : Prop := ∀ x, p.type = some x → Language.IsRead x

/-- All types in a record are ones that were read. -/
structure Declaration.TypesRead (d : Declaration) : Prop where
  parameters : ∀ p ∈ d.parameters, p.TypeRead
  returns : ∀ x, d.returns.type = some x → Language.IsRead x

namespace Declaration.TypesRead

variable {d : Declaration}

theorem modifyLast (h : d.TypesRead) {f : Parameter → Parameter}
    (hf : ∀ p : Parameter, p.TypeRead → (f p).TypeRead) : (d.modifyLastParameter f).TypesRead :=
  ⟨forall_mem_modifyLast h.parameters hf, h.returns⟩

theorem add (h : d.TypesRead) {p : Parameter} (hp : p.TypeRead) : (d.addParameter p).TypesRead :=
  ⟨List.forall_mem_append.2 ⟨h.parameters, List.forall_mem_singleton.2 hp⟩, h.returns⟩

theorem setReturnType (h : d.TypesRead) {x : String} (hx : Language.IsRead x) :
    (d.setReturnType (some x)).TypesRead :=
  ⟨h.parameters, fun _ hy => Option.some.inj hy ▸ hx⟩

theorem appendBrackets (h : d.TypesRead) (ht : d.returns.hasType = true) :
    (d.appendReturnType "[]").TypesRead := by
  cases hr : d.returns.type with
  | none => simp [Returns.hasType, hr] at ht
  | some x =>
    unfold appendReturnType
    rw [hr]
    exact h.setReturnType (h.returns x hr).brackets

theorem declare (h : d.TypesRead) (k : Kind) : (d.declare k).TypesRead := by
  cases hk : d.kind with
  | none =>
    refine ⟨by rw [parameters_declare]; exact h.parameters, ?_⟩
    rw [returns_declare_of_none hk]
    exact h.returns
  | some k' =>
    rw [declare_of_some hk]
    exact h

theorem setName (h : d.TypesRead) (name : String) : (d.setName name).TypesRead := by
  refine ⟨by rw [parameters_setName]; exact h.parameters, ?_⟩
  rw [returns_setName]
  exact h.returns

end Declaration.TypesRead

/-- All types in a scan are ones that were read. -/
structure Scan.TypesRead (s : Scan) : Prop where
  decl : s.decl.TypesRead
  typeText : s.typeText ≠ "" → Language.IsRead s.typeText

namespace Scan.TypesRead

open DocTemplate.Language

variable {s : Scan}

theorem init : TypesRead {} := ⟨⟨nofun, nofun⟩, fun h => absurd rfl h⟩

theorem readClass (h : s.TypesRead) (t : Token) : (Language.php.readClass t s).scan.TypesRead := by
  unfold Language.readClass
  split
  · exact ⟨h.decl.declare .classLike, h.typeText⟩
  split
  · exact ⟨h.decl.setName t.text, h.typeText⟩
  · exact h

theorem readSignature (h : s.TypesRead) (t : Token) :
    (Language.php.readSignature t s).scan.TypesRead := by
  unfold Language.readSignature
  split
  · exact h
  split
  · rename_i hread
    exact ⟨h.decl.appendBrackets hread.2.1, h.typeText⟩
  split
  · exact h
  split
  · exact ⟨h.decl.setName t.text, h.typeText⟩
  split
  · exact ⟨h.decl, h.typeText⟩
  split
  · rename_i hread
    exact ⟨h.decl.setReturnType (isRead_of_word hread.2), h.typeText⟩
  split
  · exact ⟨h.decl, h.typeText⟩
  · exact h

theorem readFunction (h : s.TypesRead) (t : Token) :
    (Language.php.readFunction t s).scan.TypesRead := by
  show (Language.php.readWordFunction t s).scan.TypesRead
  unfold Language.readWordFunction
  split
  · exact ⟨h.decl.declare .function, h.typeText⟩
  split
  · exact h.readSignature t
  · exact h

theorem readSlot (h : s.TypesRead) (t : Token) : (Language.php.readSlot t s).scan.TypesRead := by
  show (Language.php.readTypedSlot t s).scan.TypesRead
  unfold Language.readTypedSlot
  split
  · refine ⟨h.decl.modifyLast fun p hp x hx => ?_, h.typeText⟩
    obtain ⟨y, hy, rfl⟩ := Option.map_eq_some_iff.1 hx
    exact (hp y hy).brackets
  split
  · exact h
  split
  · exact ⟨h.decl.modifyLast fun _ hp => hp, h.typeText⟩
  split
  · exact ⟨h.decl.add nofun, h.typeText⟩
  split
  · rename_i hread
    refine ⟨h.decl.add fun x hx => ?_, h.typeText⟩
    exact Option.some.inj hx ▸ isRead_of_word (.inl hread.2)
  · exact h

/-- The names that a group binds have no types. -/
theorem readGroup (h : s.TypesRead) (t : Token) : (Language.php.readGroup t s).TypesRead := by
  unfold Language.readGroup
  split
  · exact ⟨h.decl, h.typeText⟩
  split
  · dsimp only
    split <;> exact ⟨h.decl, h.typeText⟩
  split
  · exact ⟨h.decl, h.typeText⟩
  split
  · exact ⟨h.decl, h.typeText⟩
  split
  · dsimp only
    split
    · exact ⟨h.decl.modifyLast fun _ hp => hp, h.typeText⟩
    · exact ⟨h.decl.add nofun, h.typeText⟩
  · exact ⟨h.decl, h.typeText⟩

theorem appendValue (h : s.TypesRead) (t : Token) : (s.appendValue t).TypesRead := by
  unfold Scan.appendValue
  split
  · exact ⟨h.decl.modifyLast fun _ hp => hp, h.typeText⟩
  · exact h

theorem readValue (h : s.TypesRead) (t : Token) : (readValue t s).TypesRead := by
  unfold Language.readValue
  split
  · exact ⟨h.decl, h.typeText⟩
  split
  · exact appendValue (s := { s with valueDepth := s.valueDepth + 1 }) ⟨h.decl, h.typeText⟩ t
  split
  · exact appendValue (s := { s with valueDepth := s.valueDepth - 1 }) ⟨h.decl, h.typeText⟩ t
  · exact h.appendValue t

theorem readInList (h : s.TypesRead) (t : Token) :
    (Language.php.readInList t s).scan.TypesRead := by
  unfold Language.readInList
  split
  · exact h
  split
  · exact h.readValue t
  split
  · exact h.readGroup t
  split
  · exact ⟨h.decl, h.typeText⟩
  split
  · exact ⟨h.decl, h.typeText⟩
  · have hslot := h.readSlot t
    dsimp only
    split
    · exact ⟨hslot.decl, hslot.typeText⟩
    · exact hslot

theorem readParameters (h : s.TypesRead) (t : Token) :
    (Language.php.readParameters t s).scan.TypesRead := by
  unfold Language.readParameters
  split
  · exact h
  split
  · dsimp only
    split
    · exact ⟨h.decl, h.typeText⟩
    · exact readInList (s := { s with parenDepth := s.parenDepth + 1 }) ⟨h.decl, h.typeText⟩ t
  split
  · dsimp only
    split
    · exact ⟨h.decl, h.typeText⟩
    · exact readInList (s := { s with parenDepth := s.parenDepth - 1 }) ⟨h.decl, h.typeText⟩ t
  · exact h.readInList t

theorem typeVariable (h : s.TypesRead) : (typeVariable s).TypesRead := by
  unfold Language.typeVariable
  split
  · exact h
  · rename_i hne
    exact ⟨h.decl.setReturnType (h.typeText hne), h.typeText⟩

theorem readVariable (h : s.TypesRead) (t : Token) :
    (Language.php.readVariable t s).scan.TypesRead := by
  show (Language.php.readWordVariable t s).scan.TypesRead
  unfold Language.readWordVariable
  split
  · split
    · exact h
    · exact ⟨h.decl.setName t.text, h.typeText⟩
  split
  · exact h
  split
  · exact ⟨h.decl.declare .var, h.typeText⟩
  split
  · have hnamed : TypesRead { s with decl := (s.decl.setName t.text).declare .var } :=
      ⟨(h.decl.setName t.text).declare .var, h.typeText⟩
    exact ⟨hnamed.typeVariable.decl, hnamed.typeVariable.typeText⟩
  split
  · rename_i hread
    exact ⟨h.decl, fun _ => isRead_of_word (.inl hread)⟩
  · exact h

theorem readStage (h : s.TypesRead) (g : Stage) (t : Token) :
    (Language.php.readStage g t s).scan.TypesRead := by
  cases g with
  | classHead => exact h.readClass t
  | function => exact h.readFunction t
  | parameters => exact h.readParameters t
  | var => exact h.readVariable t

theorem step (h : s.TypesRead) (t : Token) : (Language.php.step t s).TypesRead :=
  pass_preserves (fun _ h => h) (fun g _ h _ => h.readStage g t) (fun g _ h _ => h.readStage g t) _
    h

theorem run (h : s.TypesRead) (ts : List Token) : (Language.php.run ts s).TypesRead :=
  run_preserves (fun t _ h => h.step t) ts h

end Scan.TypesRead

/-! ## Final forms -/

/-- The types of a record, those of the parameters first. -/
def Declaration.types (d : Declaration) : List String :=
  d.parameters.filterMap (·.type) ++ d.returns.type.toList

namespace Language

open Written

/-- The record of a list of tokens before its types get their final form. -/
def asRead (l : Language) (ts : List Token) : Declaration :=
  let d := (l.settleKind (l.run ts {})).decl
  { name := d.name
    kind := d.kind
    parameters := l.settleParameters d
    returns := { present := l.settleReturns d, type := d.returns.type } }

/-- What the record says of a type without the setting (`off`) and with it (`on`): the same without a
question mark, or a union with null on one side and `mixed` on the other. -/
def SameButNull (off on : Option String) : Prop :=
  (off = on ∧ ∀ x, off = some x → isNullable x = false) ∨
    ∃ x, x ≠ "" ∧ isNullable x = false ∧ off = some (x ++ "|null") ∧ on = some "mixed"

/-- A nullable type has the brackets behind it before the `|null`. -/
def NullBehindBrackets (read off : Option String) : Prop :=
  ∀ b n, read = some (arrayText ("?" ++ b) n) → off = some (arrayText b n ++ "|null")

/-- The records without and with the setting, beside what was read. -/
structure SameButNullable (read off on : Declaration) : Prop where
  name : off.name = on.name
  kind : off.kind = on.kind
  present : off.returns.present = on.returns.present
  parameters : List.Forall₂
    (fun p q => p.name = q.name ∧ p.value = q.value ∧ SameButNull p.type q.type)
    off.parameters on.parameters
  type : SameButNull off.returns.type on.returns.type
  parameterBrackets : List.Forall₂ (fun r p => NullBehindBrackets r.type p.type)
    read.parameters off.parameters
  typeBrackets : NullBehindBrackets read.returns.type off.returns.type

theorem formatType_plain (mixed : Bool) {x : String} (h : isNullable x = false) :
    Language.php.formatType mixed (some x) = some x := by
  show (if isNullable x then _ else _) = _
  rw [if_neg (ne_true_of_eq_false h)]

theorem formatType_nullable (mixed : Bool) (b : String) (n : Nat) :
    Language.php.formatType mixed (some (arrayText ("?" ++ b) n)) =
      some (if mixed then "mixed" else arrayText b n ++ "|null") := by
  have hnull : isNullable (arrayText ("?" ++ b) n) = true := by
    rw [isNullable_arrayText (by simp), isNullable_append (by decide)]
    decide
  have hdrop : dropNullable (arrayText ("?" ++ b) n) = arrayText b n := dropNullable_append b _
  show (if isNullable (arrayText ("?" ++ b) n) then _ else _) = _
  rw [if_pos hnull, hdrop]

theorem sameButNull_formatType {type : Option String} (h : ∀ x, type = some x → IsRead x) :
    SameButNull (Language.php.formatType false type) (Language.php.formatType true type) := by
  cases type with
  | none => exact .inl ⟨rfl, nofun⟩
  | some x =>
    rcases (h x rfl).cases with hx | ⟨b, n, rfl, hb, hnull⟩
    · rw [formatType_plain false hx, formatType_plain true hx]
      exact .inl ⟨rfl, fun _ hy => Option.some.inj hy ▸ hx⟩
    · rw [formatType_nullable, formatType_nullable]
      refine .inr ⟨arrayText b n, ?_, (isNullable_arrayText hb n).trans hnull, rfl, rfl⟩
      exact fun he => hb (String.append_eq_empty_iff.1 he).1

theorem nullBehindBrackets_formatType (type : Option String) :
    NullBehindBrackets type (Language.php.formatType false type) := by
  rintro b n rfl
  exact formatType_nullable false b n

/-- Neither form of a nullable type has a question mark before it. -/
theorem SameButNull.unmarked {off on : Option String} (h : SameButNull off on) {x : String}
    (hx : off = some x ∨ on = some x) : isNullable x = false := by
  rcases h with ⟨rfl, h⟩ | ⟨y, hy, hnull, rfl, rfl⟩
  · exact h x (hx.elim id id)
  · rcases hx with hx | hx
    · rw [← Option.some.inj hx, isNullable_append hy, hnull]
    · rw [← Option.some.inj hx]
      decide

theorem typesRead_asRead (ts : List Token) : (Language.php.asRead ts).TypesRead := by
  have hrun : (Language.php.run ts {}).TypesRead := Scan.TypesRead.init.run ts
  have hkind : Language.php.settleKind (Language.php.run ts {}) = Language.php.run ts {} := by
    unfold settleKind
    split <;> rfl
  have hparameters : ∀ d : Declaration, ∀ p ∈ Language.php.settleParameters d,
      p ∈ d.parameters := by
    intro d p hp
    unfold settleParameters at hp
    split at hp
    · cases hp
    split at hp
    · rename_i q hq
      rw [if_neg (by simp [isCFamily])] at hp
      rw [hq]
      exact hp
    · exact hp
  unfold asRead
  rw [hkind]
  exact ⟨fun p hp => hrun.decl.parameters p (hparameters _ p hp), hrun.decl.returns⟩

/-- **The setting for nullable types changes nothing but these**, and no type of a record has a
question mark before it. -/
theorem declaration_nullable (settings : Settings) (ts : List Token) :
    SameButNullable (Language.php.asRead ts)
        (Language.php.declaration { settings with mixedNullable := false } ts)
        (Language.php.declaration { settings with mixedNullable := true } ts) ∧
      ∀ x ∈ (Language.php.declaration settings ts).types, isNullable x = false := by
  have hread := typesRead_asRead ts
  have hsame : SameButNullable (Language.php.asRead ts)
      (Language.php.declaration { settings with mixedNullable := false } ts)
      (Language.php.declaration { settings with mixedNullable := true } ts) := by
    refine ⟨rfl, rfl, rfl, ?_, sameButNull_formatType hread.returns, ?_,
      nullBehindBrackets_formatType _⟩
    · refine List.forall₂_map_left_iff.2 (List.forall₂_map_right_iff.2 (List.forall₂_same.2 ?_))
      exact fun p hp => ⟨rfl, rfl, sameButNull_formatType (hread.parameters p hp)⟩
    · refine List.forall₂_map_right_iff.2 (List.forall₂_same.2 ?_)
      exact fun p _ => nullBehindBrackets_formatType p.type
  refine ⟨hsame, fun x hx => ?_⟩
  -- a record is the one without the setting or the one with it
  have hform : ∀ type, Language.php.formatType settings.mixedNullable type = some x →
      Language.php.formatType false type = some x ∨ Language.php.formatType true type = some x := by
    intro type htype
    cases hm : settings.mixedNullable with
    | false => exact .inl (hm ▸ htype)
    | true => exact .inr (hm ▸ htype)
  rcases List.mem_append.1 hx with hx | hx
  · obtain ⟨p, hp, hx⟩ := List.mem_filterMap.1 hx
    obtain ⟨r, hr, rfl⟩ := List.mem_map.1 hp
    exact (sameButNull_formatType (hread.parameters r hr)).unmarked (hform r.type hx)
  · exact hsame.type.unmarked (hform _ (Option.mem_toList.1 hx))

end Language

end DocTemplate
