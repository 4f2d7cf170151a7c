import DocTemplate.Settings.OfTable

/-!
# Settings are checked value by value

`Settings.ofTable` makes settings of every table.  For a mapping (`isMapping`: each key stands
once, at every level) the result is told by one place of the table at a time (`Validated`):

* a setting is the value of its key if that is a valid one, and the default otherwise (`Chosen`);
* a delimiter is overridden by the text at its own place, `comments.<grammar>.<key>`, and by
  nothing else;
* the events are the values that are not valid, in the order in which they are checked (`judged`).

Settings that are written back as a table are read as they are, without an event:

    ofTable (toTable (ofTable t).1) = ((ofTable t).1, [])

-/

namespace DocTemplate

namespace Comment

/-- The delimiters that can be overridden. -/
inductive Delimiter where
  | opening
  | margin
  | closing
  deriving DecidableEq

namespace Delimiter

def all : List Delimiter := [.opening, .margin, .closing]

theorem mem_all (d : Delimiter) : d ∈ all := by
  cases d <;> decide

def key : Delimiter → String
  | .opening => "open"
  | .margin => "separator"
  | .closing => "close"

theorem key_injective {d d' : Delimiter} (h : d.key = d'.key) : d = d' := by
  cases d <;> cases d' <;> simp_all [key]

/-- The text of a delimiter in a style. -/
def text (s : Style) : Delimiter → String
  | .opening => s.opening
  | .margin => s.margin
  | .closing => s.closing

def get (o : Overrides) : Delimiter → Option String
  | .opening => o.opening
  | .margin => o.margin
  | .closing => o.closing

def set (o : Overrides) (x : String) : Delimiter → Overrides
  | .opening => { o with opening := some x }
  | .margin => { o with margin := some x }
  | .closing => { o with closing := some x }

theorem get_empty (d : Delimiter) : d.get {} = none := by
  cases d <;> rfl

theorem get_set (o : Overrides) (x : String) (d : Delimiter) : d.get (d.set o x) = some x := by
  cases d <;> rfl

theorem get_set_of_ne (o : Overrides) (x : String) {d d' : Delimiter} (h : d ≠ d') :
    d.get (d'.set o x) = d.get o := by
  cases d <;> cases d' <;> simp [get, set] at h ⊢

theorem text_override (s : Style) (o : Overrides) (d : Delimiter) :
    d.text (s.override o) = (d.get o).getD (d.text s) := by
  cases d <;> rfl

theorem isEmpty_iff (o : Overrides) : o.isEmpty = true ↔ ∀ d : Delimiter, d.get o = none := by
  obtain ⟨opening, margin, closing⟩ := o
  simp only [Overrides.isEmpty, Bool.and_eq_true, Option.isNone_iff_eq_none]
  constructor
  · rintro ⟨⟨h1, h2⟩, h3⟩ d
    cases d
    · exact h1
    · exact h2
    · exact h3
  · intro h
    exact ⟨⟨h .opening, h .margin⟩, h .closing⟩

end Delimiter

end Comment

namespace Settings

open Comment

/-! ## Mappings -/

mutual

/-- Whether every table in a value is a mapping. -/
def Value.isProper : Value → Bool
  | .list vs => allProper vs
  | .table entries => isMapping entries
  | _ => true

def allProper : List Value → Bool
  | [] => true
  | v :: vs => v.isProper && allProper vs

/-- Whether each key of a table stands in it once, and the same holds of the tables in it. -/
def isMapping : List (String × Value) → Bool
  | [] => true
  | (key, v) :: rest => (rest.lookup key).isNone && v.isProper && isMapping rest

end

variable {t entries rest : Table} {key language : String} {v : Value}

theorem isMapping_cons (h : isMapping ((key, v) :: rest) = true) :
    rest.lookup key = none ∧ v.isProper = true ∧ isMapping rest = true := by
  unfold isMapping at h
  simpa [and_assoc] using h

theorem isProper_of_lookup (h : isMapping t = true) (hv : t.lookup key = some v) :
    v.isProper = true := by
  induction t with
  | nil => cases hv
  | cons e rest ih =>
    obtain ⟨k, w⟩ := e
    obtain ⟨-, hw, hrest⟩ := isMapping_cons h
    rw [List.lookup_cons] at hv
    split at hv
    · exact Option.some.inj hv ▸ hw
    · exact ih hrest hv

theorem nodup_keys (h : isMapping t = true) : (t.map (·.1)).Nodup := by
  induction t with
  | nil => exact List.nodup_nil
  | cons e rest ih =>
    obtain ⟨k, w⟩ := e
    obtain ⟨hk, -, hrest⟩ := isMapping_cons h
    refine List.nodup_cons.2 ⟨fun hmem => ?_, ih hrest⟩
    obtain ⟨e, he, rfl⟩ := List.mem_map.1 hmem
    exact absurd (List.lookup_eq_none_iff.1 hk e he) (by simp)

/-- The value of a key in a table; none in all that is no table. -/
def Value.member? (key : String) : Value → Option Value
  | .table entries => entries.lookup key
  | _ => none

/-- The value at the place of a delimiter. -/
def delimiterValue? (t : Table) (language : String) (d : Delimiter) : Option Value :=
  ((t.lookup "comments").bind (·.member? language)).bind (·.member? d.key)

/-! ## Valid values -/

/-- What a setting is: the value of its key if it is the form of something, else the default. -/
def Chosen {α : Type} (t : Table) (key : String) (form : α → Value) (default a : α) : Prop :=
  t.lookup key = some (form a) ∨ (a = default ∧ ∀ b, t.lookup key ≠ some (form b))

def Value.isNat : Value → Bool
  | .int n => 0 ≤ n
  | _ => false

def Value.isBool : Value → Bool
  | .bool _ => true
  | _ => false

def Value.isText : Value → Bool
  | .text _ => true
  | _ => false

def Value.isLayout : Value → Bool
  | .text s => s = "default" || s = "drupal"
  | _ => false

/-- A value that is checked: the name by which it is refused, and whether it is valid. -/
structure Judgement where
  name : String
  value : Value
  valid : Bool

def judgedField (t : Table) (key : String) (valid : Value → Bool) : List Judgement :=
  (t.lookup key).toList.map fun v => ⟨key, v, valid v⟩

def judgedDelimiter (path : String) (entry : String × Value) : Judgement where
  name := path ++ "." ++ entry.1
  value := entry.2
  valid := Delimiter.all.any (·.key = entry.1) && entry.2.isText

def judgedLanguage : String × Value → List Judgement
  | (language, .table entries) => entries.map (judgedDelimiter ("comments." ++ language))
  | (language, v) => [⟨"comments." ++ language, v, false⟩]

def judgedComments (t : Table) : List Judgement :=
  match t.lookup "comments" with
  | none => []
  | some (.table entries) => entries.flatMap judgedLanguage
  | some v => [⟨"comments", v, false⟩]

/-- All values that are checked, in this order.  Keys that are absent or mean nothing are not. -/
def judged (t : Table) : List Judgement :=
  judgedField t "column_spacing" Value.isNat ++
    judgedField t "default_return_tag" Value.isBool ++
    judgedField t "php_mixed_union_types" Value.isBool ++
    judgedField t "comment_style" Value.isLayout ++ judgedComments t

/-- The events of the values that are not valid. -/
def refusals (js : List Judgement) : List Event :=
  (js.filter (!·.valid)).map fun j => .refused j.name j.value

theorem refusals_append (js ks : List Judgement) :
    refusals (js ++ ks) = refusals js ++ refusals ks := by
  simp [refusals]

theorem refusals_cons (j : Judgement) (js : List Judgement) :
    refusals (j :: js) = (if j.valid then [] else [.refused j.name j.value]) ++ refusals js := by
  unfold refusals
  cases h : j.valid <;> simp [h]

/-! ## Single settings -/

/-- How the values of a setting are read: `read` knows the form of each, and no other value. -/
structure ReadsForms {α : Type} (read : Value → Option α) (form : α → Value)
    (valid : Value → Bool) : Prop where
  read_eq : ∀ v a, read v = some a ↔ v = form a
  isSome_eq : ∀ v, (read v).isSome = valid v

theorem readsForms_nat : ReadsForms Value.nat? (fun n : Nat => .int n) Value.isNat where
  read_eq v n := by
    cases v with
    | int m =>
      simp only [Value.nat?, Value.int.injEq]
      split
      · rw [Option.some.injEq]
        omega
      · constructor
        · exact nofun
        · intro h
          omega
    | _ => simp [Value.nat?]
  isSome_eq v := by
    cases v with
    | int m =>
      unfold Value.nat? Value.isNat
      by_cases h : 0 ≤ m <;> simp [h]
    | _ => rfl

theorem readsForms_bool : ReadsForms Value.bool? Value.bool Value.isBool where
  read_eq v b := by cases v <;> simp [Value.bool?]
  isSome_eq v := by cases v <;> rfl

theorem ofLabel?_eq_some (x : String) (a : Layout) :
    Layout.ofLabel? x = some a ↔ x = a.label := by
  unfold Layout.ofLabel? Layout.all
  simp only [List.find?_cons, List.find?_nil]
  by_cases h1 : Layout.aligned.label = x
  · subst h1
    cases a <;> simp [Layout.label]
  · by_cases h2 : Layout.indented.label = x
    · subst h2
      cases a <;> simp [Layout.label]
    · simp only [h1, h2, decide_false]
      constructor
      · exact nofun
      · rintro rfl
        cases a
        · exact absurd rfl h1
        · exact absurd rfl h2

theorem readsForms_layout :
    ReadsForms Value.layout? (fun a : Layout => .text a.label) Value.isLayout where
  read_eq v a := by
    cases v with
    | text x => simpa [Value.layout?, Value.text?] using ofLabel?_eq_some x a
    | _ => simp [Value.layout?, Value.text?]
  isSome_eq v := by
    cases v with
    | text x =>
      rw [Bool.eq_iff_iff, Option.isSome_iff_exists]
      simp only [Value.layout?, Value.text?, Option.bind_some, ofLabel?_eq_some, Value.isLayout,
        Bool.or_eq_true, decide_eq_true_eq]
      constructor
      · rintro ⟨a, rfl⟩
        cases a
        · exact .inl rfl
        · exact .inr rfl
      · rintro (rfl | rfl)
        · exact ⟨.aligned, rfl⟩
        · exact ⟨.indented, rfl⟩
    | _ => rfl

section

variable {α : Type} {read : Value → Option α} {form : α → Value} {valid : Value → Bool}

theorem chosen_field (h : ReadsForms read form valid) (t : Table) (key : String) (default : α) :
    Chosen t key form default (field t key read default).1 := by
  unfold field Chosen
  cases hv : t.lookup key with
  | none => exact .inr ⟨rfl, nofun⟩
  | some v =>
    dsimp only
    cases hr : read v with
    | some a => exact .inl (by rw [(h.read_eq v a).1 hr])
    | none =>
      refine .inr ⟨rfl, fun b hb => ?_⟩
      rw [(h.read_eq v b).2 (Option.some.inj hb)] at hr
      cases hr

/-- A valid value is taken without an event. -/
theorem field_form (h : ReadsForms read form valid) {a : α} (hv : t.lookup key = some (form a))
    (default : α) : field t key read default = (a, []) := by
  unfold field
  rw [hv]
  dsimp only
  rw [(h.read_eq _ a).2 rfl]

theorem events_field (h : ReadsForms read form valid) (t : Table) (key : String) (default : α) :
    (field t key read default).2 = refusals (judgedField t key valid) := by
  unfold field judgedField
  cases hv : t.lookup key with
  | none => rfl
  | some v =>
    have hsome := h.isSome_eq v
    rw [Option.toList_some, List.map_singleton, refusals_cons]
    dsimp only
    rw [← hsome]
    cases hr : read v <;> rfl

end

/-! ## Delimiters -/

theorem setDelimiter?_key (o : Overrides) (d : Delimiter) (x : String) :
    setDelimiter? o d.key x = some (d.set o x) := by
  cases d <;> simp [setDelimiter?, Delimiter.key, Delimiter.set]

theorem exists_of_setDelimiter? {o o' : Overrides} {x : String}
    (h : setDelimiter? o key x = some o') : ∃ d : Delimiter, d.key = key ∧ o' = d.set o x := by
  unfold setDelimiter? at h
  split at h
  · rename_i hk
    exact ⟨.opening, hk.symm, (Option.some.inj h).symm⟩
  split at h
  · rename_i hk
    exact ⟨.margin, hk.symm, (Option.some.inj h).symm⟩
  split at h
  · rename_i hk
    exact ⟨.closing, hk.symm, (Option.some.inj h).symm⟩
  · cases h

/-- An entry sets a delimiter exactly if it is valid. -/
theorem bind_setDelimiter?_cases (o : Overrides) (path key : String) (v : Value) :
    (∃ (d : Delimiter) (x : String), d.key = key ∧ v = .text x ∧
      v.text?.bind (setDelimiter? o key) = some (d.set o x) ∧
      (judgedDelimiter path (key, v)).valid = true) ∨
    ((∀ (d : Delimiter) (x : String), d.key = key → v ≠ .text x) ∧
      v.text?.bind (setDelimiter? o key) = none ∧
      (judgedDelimiter path (key, v)).valid = false) := by
  cases v with
  | text x =>
    cases hset : setDelimiter? o key x with
    | some o' =>
      obtain ⟨d, rfl, rfl⟩ := exists_of_setDelimiter? hset
      refine .inl ⟨d, x, rfl, rfl, hset, ?_⟩
      simpa [judgedDelimiter, Value.isText] using ⟨d, d.mem_all, rfl⟩
    | none =>
      have hkey : ∀ d : Delimiter, d.key ≠ key := by
        rintro d rfl
        rw [setDelimiter?_key] at hset
        cases hset
      refine .inr ⟨fun d _ hd => absurd hd (hkey d), hset, ?_⟩
      simp [judgedDelimiter, hkey]
  | _ => exact .inr ⟨fun _ _ _ => nofun, rfl, Bool.and_false _⟩

/-- A delimiter is set by the text at its key, and by no other entry. -/
theorem get_delimiters (h : isMapping entries = true) (path : String) (o : Overrides)
    (d : Delimiter) :
    d.get (delimiters path o entries).1 =
      ((entries.lookup d.key).bind Value.text?).or (d.get o) := by
  induction entries generalizing o with
  | nil => rfl
  | cons e rest ih =>
    obtain ⟨key, v⟩ := e
    obtain ⟨hkey, -, hrest⟩ := isMapping_cons h
    unfold delimiters
    rw [List.lookup_cons]
    rcases bind_setDelimiter?_cases o path key v with ⟨d', x, rfl, rfl, hset, -⟩ | ⟨hv, hset, -⟩
    · rw [hset]
      dsimp only
      rw [ih hrest]
      by_cases hd : d = d'
      · subst hd
        simp [hkey, Delimiter.get_set, Value.text?]
      · have hne : (d.key == d'.key) = false := by
          simpa using fun he => hd (Delimiter.key_injective he)
        rw [hne, Delimiter.get_set_of_ne _ _ hd]
    · rw [hset]
      dsimp only
      rw [ih hrest]
      by_cases hd : d.key = key
      · have htext : v.text? = none := by
          cases v with
          | text x => exact absurd rfl (hv d x hd)
          | _ => rfl
        simp [hd, hkey, htext]
      · have hne : (d.key == key) = false := by simpa using hd
        rw [hne]

theorem events_delimiters (path : String) (o : Overrides) (entries : Table) :
    (delimiters path o entries).2 = refusals (entries.map (judgedDelimiter path)) := by
  induction entries generalizing o with
  | nil => rfl
  | cons e rest ih =>
    obtain ⟨key, v⟩ := e
    unfold delimiters
    rw [List.map_cons, refusals_cons]
    rcases bind_setDelimiter?_cases o path key v with ⟨d, x, -, -, hset, hvalid⟩ | ⟨-, hset, hvalid⟩
    · rw [hset, hvalid]
      exact ih _
    · rw [hset, hvalid]
      exact congrArg (_ :: ·) (ih o)

/-! ## Comments -/

/-- What is kept of the entry of a language. -/
def kept? (language : String) : Value → Option Overrides
  | .table entries =>
    let o := (delimiters ("comments." ++ language) {} entries).1
    if o.isEmpty then none else some o
  | _ => none

theorem isEmpty_of_kept? {o : Overrides} (h : kept? language v = some o) : o.isEmpty = false := by
  cases v with
  | table entries =>
    unfold kept? at h
    dsimp only at h
    split at h
    · cases h
    · rename_i hempty
      exact Option.some.inj h ▸ eq_false_of_ne_true hempty
  | _ => cases h

theorem get_kept? (hv : v.isProper = true) (language : String) (d : Delimiter) :
    (kept? language v).bind (d.get ·) = (v.member? d.key).bind Value.text? := by
  cases v with
  | table entries =>
    have hget := get_delimiters (by exact hv) ("comments." ++ language) {} d
    rw [Delimiter.get_empty, Option.or_none] at hget
    show _ = (entries.lookup d.key).bind Value.text?
    rw [← hget]
    unfold kept?
    dsimp only
    split
    · rename_i hempty
      exact ((Delimiter.isEmpty_iff _).1 hempty d).symm
    · rfl
  | _ => rfl

/-- One entry after the other is kept or dropped. -/
theorem overrides_cons (language : String) (v : Value) (rest : Table) :
    overrides ((language, v) :: rest) =
      (((kept? language v).map (language, ·)).toList ++ (overrides rest).1,
        refusals (judgedLanguage (language, v)) ++ (overrides rest).2) := by
  cases v with
  | table entries =>
    rw [overrides, judgedLanguage, ← events_delimiters _ {}]
    unfold kept?
    dsimp only
    split <;> rfl
  | _ => rfl

theorem events_overrides (entries : Table) :
    (overrides entries).2 = refusals (entries.flatMap judgedLanguage) := by
  induction entries with
  | nil => rfl
  | cons e rest ih => rw [overrides_cons, ih, List.flatMap_cons, refusals_append]

theorem nonempty_overrides (entries : Table) :
    ∀ e ∈ (overrides entries).1, e.2.isEmpty = false := by
  induction entries with
  | nil => exact fun e he => absurd he List.not_mem_nil
  | cons e rest ih =>
    obtain ⟨language, v⟩ := e
    rw [overrides_cons]
    refine List.forall_mem_append.2 ⟨fun e he => ?_, ih⟩
    obtain ⟨o, ho, rfl⟩ := Option.map_eq_some_iff.1 (Option.mem_toList.1 he)
    exact isEmpty_of_kept? ho

theorem keys_overrides_sublist (entries : Table) :
    ((overrides entries).1.map (·.1)).Sublist (entries.map (·.1)) := by
  induction entries with
  | nil => exact List.nil_sublist _
  | cons e rest ih =>
    obtain ⟨language, v⟩ := e
    rw [overrides_cons]
    cases kept? language v with
    | none => exact ih.cons _
    | some o => exact ih.cons_cons _

/-- The entry of a language decides alone on what is overridden for it. -/
theorem lookup_overrides (h : isMapping entries = true) (language : String) (d : Delimiter) :
    ((overrides entries).1.lookup language).bind (d.get ·) =
      ((entries.lookup language).bind (·.member? d.key)).bind Value.text? := by
  induction entries with
  | nil => rfl
  | cons e rest ih =>
    obtain ⟨key, v⟩ := e
    obtain ⟨hkey, hv, hrest⟩ := isMapping_cons h
    have hlater := ih hrest
    have hkept := get_kept? hv key d
    rw [overrides_cons, List.lookup_cons]
    by_cases hl : language = key
    · subst hl
      rw [hkey] at hlater
      cases ho : kept? language v with
      | none =>
        rw [ho] at hkept
        simpa [hkept.symm] using hlater
      | some o =>
        rw [ho] at hkept
        simpa using hkept
    · have hne : (language == key) = false := by simpa using hl
      cases kept? key v with
      | none => simpa [hne] using hlater
      | some o => simpa [List.lookup_cons, hne] using hlater

/-- What is overridden is the text at the place of the delimiter. -/
theorem get_overridesField (h : isMapping t = true) (language : String) (d : Delimiter) :
    ((overridesField t).1.lookup language).bind (d.get ·) =
      (delimiterValue? t language d).bind Value.text? := by
  unfold overridesField delimiterValue?
  cases hv : t.lookup "comments" with
  | none => rfl
  | some v =>
    cases v with
    | table entries => exact lookup_overrides (isProper_of_lookup h hv) language d
    | _ => rfl

theorem events_overridesField (t : Table) :
    (overridesField t).2 = refusals (judgedComments t) := by
  unfold overridesField judgedComments
  cases t.lookup "comments" with
  | none => rfl
  | some v =>
    cases v with
    | table entries => exact events_overrides entries
    | _ => rfl

theorem nonempty_overridesField (t : Table) :
    ∀ e ∈ (overridesField t).1, e.2.isEmpty = false := by
  unfold overridesField
  split
  · exact fun e he => absurd he List.not_mem_nil
  · exact nonempty_overrides _
  · exact fun e he => absurd he List.not_mem_nil

theorem nodup_overridesField (h : isMapping t = true) :
    ((overridesField t).1.map (·.1)).Nodup := by
  unfold overridesField
  split
  · exact List.nodup_nil
  · rename_i entries hv
    exact (nodup_keys (isProper_of_lookup h hv)).sublist (keys_overrides_sublist entries)
  · exact List.nodup_nil

/-! ## Writing settings back -/

theorem delimiters_delimiterTable (path : String) (o : Overrides) :
    delimiters path {} (delimiterTable o) = (o, []) := by
  obtain ⟨opening, margin, closing⟩ := o
  cases opening <;> cases margin <;> cases closing <;>
    simp [delimiterTable, delimiters, setDelimiter?, Value.text?]

theorem overrides_written (comments : List (String × Overrides))
    (h : ∀ e ∈ comments, e.2.isEmpty = false) :
    overrides (comments.map fun e => (e.1, .table (delimiterTable e.2))) = (comments, []) := by
  induction comments with
  | nil => rfl
  | cons e rest ih =>
    obtain ⟨he, hrest⟩ := List.forall_mem_cons.1 h
    rw [List.map_cons, overrides, delimiters_delimiterTable, ih hrest]
    simp [he]

/-- Settings that override nothing in vain are read as they are written. -/
theorem ofTable_toTable {s : Settings} (h : ∀ e ∈ s.comments, e.2.isEmpty = false) :
    ofTable (toTable s) = (s, []) := by
  have h1 : (toTable s).lookup "column_spacing" = some (.int s.columnSpacing) := by
    simp [toTable]
  have h2 : (toTable s).lookup "default_return_tag" = some (.bool s.returnTag) := by
    simp [toTable, List.lookup_cons]
  have h3 : (toTable s).lookup "php_mixed_union_types" = some (.bool s.mixedNullable) := by
    simp [toTable, List.lookup_cons]
  have h4 : (toTable s).lookup "comment_style" = some (.text s.layout.label) := by
    simp [toTable, List.lookup_cons]
  have h5 : overridesField (toTable s) = (s.comments, []) := by
    unfold overridesField
    simp [toTable, List.lookup_cons, overrides_written s.comments h]
  unfold ofTable
  rw [field_form readsForms_nat h1, field_form readsForms_bool h2, field_form readsForms_bool h3,
    field_form readsForms_layout h4, h5]
  rfl

/-! ## Top theorem -/

/-- What the settings `s` and the events that come with them owe to the table `t`. -/
structure Validated (t : Table) (s : Settings) (events : List Event) : Prop where
  columnSpacing : Chosen t "column_spacing" (fun n : Nat => .int n) 2 s.columnSpacing
  returnTag : Chosen t "default_return_tag" .bool true s.returnTag
  mixedNullable : Chosen t "php_mixed_union_types" .bool false s.mixedNullable
  layout : Chosen t "comment_style" (fun a : Layout => .text a.label) .aligned s.layout
  comments_distinct : (s.comments.map (·.1)).Nodup
  comments_nonempty : ∀ e ∈ s.comments, e.2.isEmpty = false
  overridden : ∀ (language : String) (d : Delimiter) (x : String),
    (s.comments.lookup language).bind (d.get ·) = some x ↔
      delimiterValue? t language d = some (.text x)
  events : events = refusals (judged t)
  stable : ofTable (toTable s) = (s, [])
  lineEnd : ∀ g : Grammar, (s.styleFor g).lineEnd = g.comment.lineEnd
  delimiters : ∀ (g : Grammar) (d : Delimiter),
    delimiterValue? t g.name d = some (.text (d.text (s.styleFor g))) ∨
      (d.text (s.styleFor g) = d.text g.comment ∧ ∀ x, delimiterValue? t g.name d ≠ some (.text x))

theorem events_ofTable (t : Table) : (ofTable t).2 = refusals (judged t) := by
  unfold judged
  rw [refusals_append, refusals_append, refusals_append, refusals_append,
    ← events_field readsForms_nat t "column_spacing" 2,
    ← events_field readsForms_bool t "default_return_tag" true,
    ← events_field readsForms_bool t "php_mixed_union_types" false,
    ← events_field readsForms_layout t "comment_style" .aligned, ← events_overridesField]
  rfl

theorem text?_eq_some {x : String} : v.text? = some x ↔ v = .text x := by
  cases v <;> simp [Value.text?]

theorem overridden_ofTable (h : isMapping t = true) (language : String) (d : Delimiter)
    (x : String) :
    ((ofTable t).1.comments.lookup language).bind (d.get ·) = some x ↔
      delimiterValue? t language d = some (.text x) := by
  show ((overridesField t).1.lookup language).bind (d.get ·) = some x ↔ _
  rw [get_overridesField h, Option.bind_eq_some_iff]
  constructor
  · rintro ⟨v, hv, hx⟩
    rw [hv, text?_eq_some.1 hx]
  · intro hx
    exact ⟨_, hx, rfl⟩

/-- A style differs from that of the grammar in what is overridden. -/
theorem text_styleFor (s : Settings) (g : Grammar) (d : Delimiter) :
    d.text (s.styleFor g) = ((s.comments.lookup g.name).bind (d.get ·)).getD (d.text g.comment) := by
  unfold styleFor
  cases s.comments.lookup g.name with
  | none => rfl
  | some o => exact d.text_override g.comment o

theorem lineEnd_styleFor (s : Settings) (g : Grammar) :
    (s.styleFor g).lineEnd = g.comment.lineEnd := by
  unfold styleFor
  cases s.comments.lookup g.name with
  | none => rfl
  | some o => exact g.comment.lineEnd_override o

/-- **Every value of a mapping is accepted or refused by itself.** -/
theorem ofTable_validated (h : isMapping t = true) :
    Validated t (ofTable t).1 (ofTable t).2 where
  columnSpacing := chosen_field readsForms_nat t _ _
  returnTag := chosen_field readsForms_bool t _ _
  mixedNullable := chosen_field readsForms_bool t _ _
  layout := chosen_field readsForms_layout t _ _
  comments_distinct := nodup_overridesField h
  comments_nonempty := nonempty_overridesField t
  overridden := overridden_ofTable h
  events := events_ofTable t
  stable := ofTable_toTable (nonempty_overridesField t)
  lineEnd := lineEnd_styleFor _
  delimiters g d := by
    have hgiven := overridden_ofTable h g.name d
    rw [text_styleFor]
    cases ho : ((ofTable t).1.comments.lookup g.name).bind (d.get ·) with
    | some x => exact .inl ((hgiven x).1 ho)
    | none =>
      refine .inr ⟨rfl, fun x hx => ?_⟩
      rw [(hgiven x).2 hx] at ho
      cases ho

/-- Values of all shapes: valid, refused, unknown and missing ones. -/
def mixedTable : Table :=
  [("column_spacing", .bool true), ("theme", .text "dark"), ("comment_style", .text "drupal"),
    ("php_mixed_union_types", .null),
    ("comments", .table
      [("php", .table [("open", .text "/*!"), ("close", .int 3), ("eos", .text "")]),
        ("c", .list []), ("java", .table [("open", .bool true)])])]

theorem ofTable_validated_mixedTable :
    isMapping mixedTable = true ∧
      Validated mixedTable
        { layout := .indented, comments := [("php", { opening := some "/*!" })] }
        [.refused "column_spacing" (.bool true), .refused "php_mixed_union_types" .null,
          .refused "comments.php.close" (.int 3), .refused "comments.php.eos" (.text ""),
          .refused "comments.c" (.list []), .refused "comments.java.open" (.bool true)] := by
  have hmapping : isMapping mixedTable = true := by decide
  exact ⟨hmapping, ofTable_validated hmapping⟩

end Settings

end DocTemplate
