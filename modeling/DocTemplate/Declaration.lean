/-!
# Declarations

The record that a line of code is read into: a name, what kind of thing is declared, the parameters
of a function, and what is returned.

Kind and name are written once: `declare` and `setName` leave a record alone that has one.
-/

namespace DocTemplate

inductive Kind where
  | classLike
  | function
  | var
  deriving DecidableEq, Repr

namespace Kind

def all : List Kind := [.classLike, .function, .var]

def label : Kind → String
  | .classLike => "class"
  | .function => "function"
  | .var => "variable"

def ofLabel? (s : String) : Option Kind := all.find? (·.label = s)

end Kind

structure Parameter where
  name : String := ""
  type : Option String := none
  /-- The text of the default value; empty if there is none. -/
  value : String := ""
  deriving DecidableEq, Repr

def Parameter.hasType (p : Parameter) : Bool := p.type.getD "" ≠ ""

structure Returns where
  present : Bool := false
  /-- The return type of a function, or the type of a variable. -/
  type : Option String := none
  deriving DecidableEq, Repr

def Returns.hasType (r : Returns) : Bool := r.type.getD "" ≠ ""

structure Declaration where
  name : String := ""
  kind : Option Kind := none
  parameters : List Parameter := []
  returns : Returns := {}
  deriving DecidableEq, Repr

/-- Changes the last element of a list, if it has one. -/
def modifyLast {α : Type} (f : α → α) : List α → List α
  | [] => []
  | [a] => [f a]
  | a :: b :: l => a :: modifyLast f (b :: l)

theorem modifyLast_concat {α : Type} (f : α → α) (l : List α) (a : α) :
    modifyLast f (l ++ [a]) = l ++ [f a] := by
  induction l with
  | nil => rfl
  | cons b l ih =>
    cases l with
    | nil => rfl
    | cons c l =>
      show b :: modifyLast f (c :: l ++ [a]) = b :: (c :: l ++ [f a])
      rw [ih]

@[simp] theorem length_modifyLast {α : Type} (f : α → α) (l : List α) :
    (modifyLast f l).length = l.length := by
  induction l with
  | nil => rfl
  | cons b l ih =>
    cases l with
    | nil => rfl
    | cons c l =>
      show (modifyLast f (c :: l)).length + 1 = (c :: l).length + 1
      rw [ih]

theorem modifyLast_eq_nil {α : Type} {f : α → α} {l : List α} : modifyLast f l = [] ↔ l = [] := by
  rw [← List.length_eq_zero_iff, length_modifyLast, List.length_eq_zero_iff]

theorem modifyLast_append {α : Type} (f : α → α) (xs : List α) {ys : List α} (h : ys ≠ []) :
    modifyLast f (xs ++ ys) = xs ++ modifyLast f ys := by
  rw [← List.dropLast_concat_getLast h, ← List.append_assoc, modifyLast_concat, modifyLast_concat,
    List.append_assoc]

/-- What holds of all elements and is kept by a change holds after the change of the last one. -/
theorem forall_mem_modifyLast {α : Type} {P : α → Prop} {f : α → α} {l : List α}
    (h : ∀ a ∈ l, P a) (hf : ∀ a, P a → P (f a)) : ∀ a ∈ modifyLast f l, P a := by
  by_cases hl : l = []
  · rw [hl]
    exact fun a ha => absurd ha List.not_mem_nil
  · rw [← List.dropLast_concat_getLast hl, List.forall_mem_append, List.forall_mem_singleton] at h
    rw [← List.dropLast_concat_getLast hl, modifyLast_concat, List.forall_mem_append,
      List.forall_mem_singleton]
    exact ⟨h.1, hf _ h.2⟩

namespace Declaration

/-- Classes and functions are taken to return something until shown otherwise. -/
def declare (d : Declaration) (k : Kind) : Declaration :=
  match d.kind with
  | some _ => d
  | none => { d with kind := some k, returns.present := decide (k ≠ .var) }

def canDeclare (d : Declaration) : Bool := d.kind.isNone

def setName (d : Declaration) (name : String) : Declaration :=
  if d.name = "" then { d with name } else d

def canSetName (d : Declaration) (name : String) : Bool := d.name = "" && name ≠ ""

def addParameter (d : Declaration) (p : Parameter) : Declaration :=
  { d with parameters := d.parameters ++ [p] }

def lastParameter? (d : Declaration) : Option Parameter := d.parameters.getLast?

def hasParameter (d : Declaration) : Bool := !d.parameters.isEmpty

/-- Whether the last parameter has a type. -/
def lastHasType (d : Declaration) : Bool := d.lastParameter?.any (·.hasType)

def modifyLastParameter (d : Declaration) (f : Parameter → Parameter) : Declaration :=
  { d with parameters := modifyLast f d.parameters }

/-- Adds `[]` to the type of the last parameter. -/
def arrayLastParameter (d : Declaration) : Declaration :=
  d.modifyLastParameter fun p => { p with type := p.type.map (· ++ "[]") }

def setReturnType (d : Declaration) (type : Option String) : Declaration :=
  { d with returns.type := type }

def appendReturnType (d : Declaration) (suffix : String) : Declaration :=
  d.setReturnType (some (d.returns.type.getD "" ++ suffix))

def setReturns (d : Declaration) (present : Bool) : Declaration :=
  { d with returns.present := present }

/-! ## Lemmas -/

@[simp] theorem kind_declare (d : Declaration) (k : Kind) :
    (d.declare k).kind = some (d.kind.getD k) := by
  unfold declare
  split
  · rename_i h
    rw [h]
    rfl
  · rename_i h
    rw [h]
    rfl

@[simp] theorem name_declare (d : Declaration) (k : Kind) : (d.declare k).name = d.name := by
  unfold declare
  split <;> rfl

@[simp] theorem parameters_declare (d : Declaration) (k : Kind) :
    (d.declare k).parameters = d.parameters := by
  unfold declare
  split <;> rfl

theorem declare_of_some {d : Declaration} {k' : Kind} (h : d.kind = some k') (k : Kind) :
    d.declare k = d := by
  unfold declare
  rw [h]

theorem returns_declare_of_none {d : Declaration} (h : d.kind = none) (k : Kind) :
    (d.declare k).returns = { d.returns with present := decide (k ≠ .var) } := by
  unfold declare
  rw [h]

@[simp] theorem name_setName (d : Declaration) (name : String) :
    (d.setName name).name = if d.name = "" then name else d.name := by
  unfold setName
  split <;> rfl

@[simp] theorem kind_setName (d : Declaration) (name : String) :
    (d.setName name).kind = d.kind := by
  unfold setName
  split <;> rfl

@[simp] theorem parameters_setName (d : Declaration) (name : String) :
    (d.setName name).parameters = d.parameters := by
  unfold setName
  split <;> rfl

@[simp] theorem returns_setName (d : Declaration) (name : String) :
    (d.setName name).returns = d.returns := by
  unfold setName
  split <;> rfl

theorem setName_of_ne {d : Declaration} (h : d.name ≠ "") (name : String) : d.setName name = d :=
  if_neg h

theorem declare_setName (d : Declaration) (name : String) (k : Kind) :
    (d.setName name).declare k = (d.declare k).setName name := by
  unfold setName
  rw [name_declare]
  split
  · unfold declare
    dsimp only
    split <;> rfl
  · rfl

theorem lastParameter?_of_concat {d : Declaration} {ps : List Parameter} {q : Parameter}
    (h : d.parameters = ps ++ [q]) : d.lastParameter? = some q := by
  simp [lastParameter?, h]

theorem parameters_addParameter {d : Declaration} {ps : List Parameter} (h : d.parameters = ps)
    (p : Parameter) : (d.addParameter p).parameters = ps ++ [p] := by
  rw [addParameter, h]

theorem parameters_modifyLastParameter {d : Declaration} {ps : List Parameter} {q : Parameter}
    (h : d.parameters = ps ++ [q]) (f : Parameter → Parameter) :
    (d.modifyLastParameter f).parameters = ps ++ [f q] := by
  show modifyLast f d.parameters = ps ++ [f q]
  rw [h, modifyLast_concat]

end Declaration

end DocTemplate
