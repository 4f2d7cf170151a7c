import DocTemplate.Token.Sigil
import Mathlib.Data.List.Chain
import Mathlib.Data.List.Forall2

/-!
# What joining sigils makes of a token list

Joining cuts a list into runs of touching tokens and makes one token of each run (`JoinsTo`).
Inside of a run all that comes before the last token is a sigil, and a sigil that is left alone
touches nothing behind it (`Apart`).  There is one way only to do so:

    Joining sigils ts us ↔ us = joinSigils sigils ts    (Joining.eq_joinSigils, joining_joinSigils)

A second time there is nothing to join, since single tokens are the runs then.
-/

namespace DocTemplate.Token

/-- The tokens of a run make the token `t`. -/
structure JoinsTo (sigils : List String) (run : List Token) (t : Token) : Prop where
  nonempty : run ≠ []
  kind : run.getLast?.map (·.kind) = some t.kind
  text : t.text = String.join (run.map (·.text))
  start : run.head?.map (·.start) = some t.start
  stop : run.getLast?.map (·.stop) = some t.stop
  touching : run.IsChain fun a b => b.start = a.stop
  sigil : ∀ part, part <+: run → part ≠ [] → part ≠ run →
    String.join (part.map (·.text)) ∈ sigils

/-- A sigil before a token that it does not touch, or any token that is no sigil. -/
def Apart (sigils : List String) (a b : Token) : Prop := a.text ∈ sigils → b.start ≠ a.stop

/-- The tokens `us` are made of consecutive runs of `ts`, and nothing is left to join. -/
structure Joining (sigils : List String) (ts us : List Token) : Prop where
  runs : ∃ runs : List (List Token), runs.flatten = ts ∧ List.Forall₂ (JoinsTo sigils) runs us
  apart : us.IsChain (Apart sigils)

variable {sigils : List String} {run ts us : List Token} {held t u : Token}

/-! ## Runs -/

namespace JoinsTo

theorem single (sigils : List String) (t : Token) : JoinsTo sigils [t] t where
  nonempty := List.cons_ne_nil t []
  kind := rfl
  text := by rw [List.map_singleton, String.join_cons, String.join_nil, String.append_empty]
  start := rfl
  stop := rfl
  touching := List.isChain_singleton t
  sigil part hpart hne hrun := by
    rcases List.prefix_cons_iff.1 hpart with rfl | ⟨rest, rfl, hrest⟩
    · exact absurd rfl hne
    · rw [List.prefix_nil.1 hrest] at hrun
      exact absurd rfl hrun

/-- A run whose token is a sigil goes on with the token that it touches. -/
theorem glue (h : JoinsTo sigils run held) (hs : held.text ∈ sigils) (ht : t.start = held.stop) :
    JoinsTo sigils (run ++ [t]) (held.glue t) where
  nonempty := by simp
  kind := by simp [Token.glue]
  text := by
    show held.text ++ t.text = _
    rw [h.text, List.map_append, String.join_append, List.map_singleton, String.join_cons,
      String.join_nil, String.append_empty]
  start := by
    rw [List.head?_append_of_ne_nil _ h.nonempty]
    exact h.start
  stop := by simp [Token.glue]
  touching := by
    refine List.isChain_append.2 ⟨h.touching, List.isChain_singleton t, fun a ha b hb => ?_⟩
    obtain rfl : t = b := by simpa using hb
    have hstop := h.stop
    rw [ha] at hstop
    rw [ht]
    exact (Option.some.inj hstop).symm
  sigil part hpart hne hrun := by
    have hpart' : part <+: run := by
      rcases List.prefix_concat_iff.1 hpart with heq | hpart'
      · exact absurd heq hrun
      · exact hpart'
    by_cases heq : part = run
    · rw [heq, ← h.text]
      exact hs
    · exact h.sigil part hpart' hne heq

/-- A run makes one token. -/
theorem unique (h : JoinsTo sigils run t) (h' : JoinsTo sigils run u) : t = u := by
  have hkind := Option.some.inj (h.kind.symm.trans h'.kind)
  have htext := h.text.trans h'.text.symm
  have hstart := Option.some.inj (h.start.symm.trans h'.start)
  have hstop := Option.some.inj (h.stop.symm.trans h'.stop)
  cases t
  cases u
  simp_all

end JoinsTo

/-! ## Joining gives runs -/

/-- The run whose token is held back, if there is one. -/
def HeldFrom (sigils : List String) (run : List Token) : Option Token → Prop
  | none => run = []
  | some held => JoinsTo sigils run held ∧ held.text ∈ sigils

theorem runs_joinFrom (held : Option Token) (h : HeldFrom sigils run held) :
    ∃ runs : List (List Token), runs.flatten = run ++ ts ∧
      List.Forall₂ (JoinsTo sigils) runs (joinFrom sigils held ts) := by
  fun_induction joinFrom sigils held ts generalizing run with
  | case1 => exact ⟨[], by rw [show run = [] from h]; rfl, .nil⟩
  | case2 held => exact ⟨[run], by simp, .cons h.1 .nil⟩
  | case3 t ts ht ih =>
    obtain ⟨runs, hflat, hruns⟩ := ih ⟨.single sigils t, ht⟩
    exact ⟨runs, by rw [hflat, show run = [] from h]; rfl, hruns⟩
  | case4 t ts ht ih =>
    obtain ⟨runs, hflat, hruns⟩ := ih rfl
    refine ⟨[t] :: runs, ?_, .cons (.single sigils t) hruns⟩
    rw [List.flatten_cons, hflat, show run = [] from h]
    rfl
  | case5 held t ts htouch joined hj =>
    rename_i ih
    obtain ⟨runs, hflat, hruns⟩ := ih ⟨h.1.glue h.2 htouch, hj⟩
    exact ⟨runs, by rw [hflat, List.append_assoc, List.singleton_append], hruns⟩
  | case6 held t ts htouch joined hj =>
    rename_i ih
    obtain ⟨runs, hflat, hruns⟩ := ih rfl
    refine ⟨(run ++ [t]) :: runs, ?_, .cons (h.1.glue h.2 htouch) hruns⟩
    rw [List.flatten_cons, hflat, List.append_assoc, List.singleton_append, List.nil_append]
  | case7 held t ts htouch ht ih =>
    obtain ⟨runs, hflat, hruns⟩ := ih ⟨.single sigils t, ht⟩
    exact ⟨run :: runs, by rw [List.flatten_cons, hflat, List.singleton_append], .cons h.1 hruns⟩
  | case8 held t ts htouch ht ih =>
    obtain ⟨runs, hflat, hruns⟩ := ih rfl
    refine ⟨run :: [t] :: runs, ?_, .cons h.1 (.cons (.single sigils t) hruns)⟩
    rw [List.flatten_cons, List.flatten_cons, hflat, List.singleton_append, List.nil_append]

/-- A token that is no sigil may stand before all others. -/
theorem isChain_cons_of_notMem (ht : t.text ∉ sigils) (h : us.IsChain (Apart sigils)) :
    (t :: us).IsChain (Apart sigils) :=
  List.isChain_cons.2 ⟨fun _ _ hs => absurd hs ht, h⟩

/-- What is held back comes first, with all that it is glued to. -/
theorem start_joinFrom (held : Token) (ts : List Token) :
    ∀ u ∈ (joinFrom sigils (some held) ts).head?, u.start = held.start := by
  induction ts generalizing held with
  | nil => simp [joinFrom]
  | cons t ts ih =>
    unfold joinFrom
    dsimp only
    split
    · split
      · exact ih (held.glue t)
      · simp [Token.glue]
    · split <;> simp

theorem apart_joinFrom (held : Option Token) :
    (joinFrom sigils held ts).IsChain (Apart sigils) := by
  fun_induction joinFrom sigils held ts with
  | case1 => exact .nil
  | case2 held => exact .singleton held
  | case3 t ts ht ih => exact ih
  | case4 t ts ht ih => exact isChain_cons_of_notMem ht ih
  | case5 held t ts htouch joined hj =>
    rename_i ih
    exact ih
  | case6 held t ts htouch joined hj =>
    rename_i ih
    exact isChain_cons_of_notMem hj ih
  | case7 held t ts htouch ht ih =>
    refine List.isChain_cons.2 ⟨fun u hu _ => ?_, ih⟩
    rw [start_joinFrom t ts u hu]
    exact htouch
  | case8 held t ts htouch ht ih =>
    exact List.isChain_cons_cons.2 ⟨fun _ => htouch, isChain_cons_of_notMem ht ih⟩

theorem joining_joinSigils (sigils : List String) (ts : List Token) :
    Joining sigils ts (joinSigils sigils ts) :=
  ⟨runs_joinFrom none rfl, apart_joinFrom none⟩

/-! ## There is no other way -/

theorem joinFrom_of_touching (h : t.start = held.stop) :
    joinFrom sigils (some held) (t :: ts) = joinFrom sigils none (held.glue t :: ts) := by
  conv_lhs => rw [joinFrom, if_pos h]
  rw [joinFrom]

theorem joinFrom_of_not_touching (h : t.start ≠ held.stop) :
    joinFrom sigils (some held) (t :: ts) = held :: joinFrom sigils none (t :: ts) := by
  conv_lhs => rw [joinFrom, if_neg h]
  rw [joinFrom]
  split <;> rfl

/-- A sigil and the token that it touches count as one token. -/
theorem joinSigils_cons_cons (hs : t.text ∈ sigils) (hu : u.start = t.stop) :
    joinSigils sigils (t :: u :: ts) = joinSigils sigils (t.glue u :: ts) := by
  unfold joinSigils
  conv_lhs => rw [joinFrom, if_pos hs, joinFrom_of_touching hu]

/-- A token that has nothing to join is left alone. -/
theorem joinSigils_cons (h : ∀ u ∈ ts.head?, Apart sigils t u) :
    joinSigils sigils (t :: ts) = t :: joinSigils sigils ts := by
  unfold joinSigils
  by_cases hs : t.text ∈ sigils
  · conv_lhs => rw [joinFrom, if_pos hs]
    cases ts with
    | nil => rfl
    | cons u ts => exact joinFrom_of_not_touching (h u rfl hs)
  · rw [joinFrom, if_neg hs]

/-- A run counts as its token.  The induction is on the tokens of the run that are still to come;
`held` is the token of those before them. -/
theorem joinSigils_append_of_joinsTo {more : List Token} (h : JoinsTo sigils run held)
    (hall : JoinsTo sigils (run ++ more) t) :
    joinSigils sigils (held :: (more ++ ts)) = joinSigils sigils (t :: ts) := by
  induction more generalizing run held with
  | nil =>
    rw [List.append_nil] at hall
    rw [h.unique hall, List.nil_append]
  | cons u more ih =>
    have hs : held.text ∈ sigils := by
      rw [h.text]
      exact hall.sigil run (List.prefix_append _ _) h.nonempty (by simp)
    have hu : u.start = held.stop := by
      obtain ⟨last, hlast, hstop⟩ := Option.map_eq_some_iff.1 h.stop
      rw [← hstop]
      exact (List.isChain_append.1 hall.touching).2.2 last hlast u rfl
    rw [List.cons_append, joinSigils_cons_cons hs hu]
    refine ih (h.glue hs hu) ?_
    rw [List.append_assoc, List.singleton_append]
    exact hall

theorem JoinsTo.joinSigils_append (h : JoinsTo sigils run t) :
    joinSigils sigils (run ++ ts) = joinSigils sigils (t :: ts) := by
  cases run with
  | nil => exact absurd rfl h.nonempty
  | cons first more => exact joinSigils_append_of_joinsTo (.single sigils first) h

/-- The first token of a list starts where the one does that its run makes. -/
theorem start_flatten {runs : List (List Token)} (h : List.Forall₂ (JoinsTo sigils) runs us) :
    runs.flatten.head?.map (·.start) = us.head?.map (·.start) := by
  cases h with
  | nil => rfl
  | cons hrun _ =>
    rw [List.flatten_cons, List.head?_append_of_ne_nil _ hrun.nonempty]
    exact hrun.start

theorem eq_joinSigils_of_runs {runs : List (List Token)}
    (hruns : List.Forall₂ (JoinsTo sigils) runs us) (hus : us.IsChain (Apart sigils)) :
    us = joinSigils sigils runs.flatten := by
  induction hruns with
  | nil => rfl
  | cons hrun hruns ih =>
    rename_i u runs us
    obtain ⟨hhead, hus⟩ := List.isChain_cons.1 hus
    rw [List.flatten_cons, hrun.joinSigils_append, joinSigils_cons, ← ih hus]
    intro a ha hs
    have hstart := start_flatten hruns
    rw [show runs.flatten.head? = some a from ha] at hstart
    obtain ⟨b, hb, hab⟩ := Option.map_eq_some_iff.1 hstart.symm
    replace hab : b.start = a.start := hab
    rw [← hab]
    exact hhead b hb hs

theorem Joining.eq_joinSigils (h : Joining sigils ts us) : us = joinSigils sigils ts := by
  obtain ⟨runs, rfl, hruns⟩ := h.runs
  exact eq_joinSigils_of_runs hruns h.apart

/-- Where nothing is left to join, single tokens are the runs. -/
theorem joining_self (h : us.IsChain (Apart sigils)) : Joining sigils us us := by
  refine ⟨⟨us.map fun u => [u], ?_, ?_⟩, h⟩
  · rw [← List.flatMap_def, List.flatMap_singleton']
  · rw [List.forall₂_map_left_iff]
    exact List.forall₂_same.2 fun u _ => .single sigils u

/-! ## Top theorem -/

/-- **Joining sigils is a lossless and maximal merge of runs**, the only one there is, and joining a
second time changes nothing. -/
theorem joinSigils_runs (sigils : List String) (ts : List Token) :
    Joining sigils ts (joinSigils sigils ts) ∧
      (∀ us, Joining sigils ts us → us = joinSigils sigils ts) ∧
      joinSigils sigils (joinSigils sigils ts) = joinSigils sigils ts := by
  have hjoin := joining_joinSigils sigils ts
  exact ⟨hjoin, fun _ h => h.eq_joinSigils, (joining_self hjoin.apart).eq_joinSigils.symm⟩

/-- A sigil held back is glued as often as its text is a sigil again: `?`, `$`, `a` come to `?$a`,
and the last `$` is left alone. -/
example :
    (joinSigils ["$", "?", "?$"]
      [⟨"?", "?", 0, 1⟩, ⟨"$", "$", 1, 2⟩, ⟨"name", "a", 2, 3⟩, ⟨"$", "$", 4, 5⟩]) =
      [⟨"name", "?$a", 0, 3⟩, ⟨"$", "$", 4, 5⟩] := by decide

end DocTemplate.Token
