import DocTemplate.Grammar.Builtin
import DocTemplate.Token.Tree
import DocTemplate.Proofs.Utf8

/-!
# Tokens as excerpts of the code

The tree builder promises that the nodes of a tree are well placed (`SyntaxTree.Placed`): a node
covers whole characters of its text and lies inside of its parent, and siblings do not overlap.
Then the tokens of the tree are excerpts of the code, one behind the other: a token's text is what
the code holds from `start` to `stop`.

* `Laid code p q ts` says this of tokens that lie between the places `p` and `q`.
* The tokens of a tree are laid (`laid_leaves`).  Places in the preamble count as the start of the
  code (`fromCode`), and no token starts there.
* Joining sigils keeps tokens laid (`Laid.joinFrom`), since two touching excerpts are one.
-/

namespace DocTemplate

namespace SyntaxTree

/-! ## Slices of bytes -/

variable {p q r : Int}

theorem slice_of_nonneg (source : List UInt8) (hp : 0 ≤ p) (hq : 0 ≤ q) :
    slice source p q = (source.drop p.toNat).take (q.toNat - p.toNat) := by
  unfold slice bytesBefore
  rw [if_neg (by omega), if_neg (by omega)]

theorem slice_append_slice (source : List UInt8) (hp : 0 ≤ p) (hpq : p ≤ q) (hqr : q ≤ r) :
    slice source p q ++ slice source q r = slice source p r := by
  rw [slice_of_nonneg source hp (by omega), slice_of_nonneg source (by omega) (by omega),
    slice_of_nonneg source hp (by omega)]
  have hdrop : source.drop q.toNat = (source.drop p.toNat).drop (q.toNat - p.toNat) := by
    rw [List.drop_drop, show p.toNat + (q.toNat - p.toNat) = q.toNat by omega]
  rw [hdrop, ← List.take_add,
    show q.toNat - p.toNat + (r.toNat - q.toNat) = r.toNat - p.toNat by omega]

theorem slice_self (source : List UInt8) (p : Int) : slice source p p = [] := by
  unfold slice
  dsimp only
  rw [Nat.sub_self, List.take_zero]

theorem slice_middle (before text after : List UInt8) :
    slice (before ++ text ++ after) before.length (before ++ text).length = text := by
  rw [slice_of_nonneg _ (by omega) (by omega), Int.toNat_natCast, Int.toNat_natCast,
    List.append_assoc, List.drop_left, List.length_append, Nat.add_sub_cancel_left, List.take_left]

/-- A slice behind the first bytes is a slice of the rest, counted from there. -/
theorem slice_append_left (before source : List UInt8) (hp : before.length ≤ p) (hq : p ≤ q) :
    slice (before ++ source) p q = slice source (p - before.length) (q - before.length) := by
  rw [slice_of_nonneg _ (by omega) (by omega), slice_of_nonneg _ (by omega) (by omega),
    show p.toNat = before.length + (p - before.length).toNat by omega, List.drop_length_add_append,
    show q.toNat - (before.length + (p - before.length).toNat) =
      (q - before.length).toNat - (p - before.length).toNat by omega]

/-! ## Well placed trees -/

def start : SyntaxTree → Int
  | .node _ start _ _ _ => start

def stop : SyntaxTree → Int
  | .node _ _ stop _ _ => stop

/-- A place between two characters of a text, or at one of its ends. -/
def IsBoundary (source : String) (p : Int) : Prop :=
  ∃ before after : String, source = before ++ after ∧ p = (Utf8.encode before).length

/-- What is assumed of the tree of a text.  A node may be empty or missing from the text. -/
inductive Placed (source : String) : SyntaxTree → Prop where
  | node {kind : String} {start stop : Int} {missing : Bool} {children : List SyntaxTree}
      (start_boundary : IsBoundary source start) (stop_boundary : IsBoundary source stop)
      (start_le_stop : start ≤ stop)
      (inside : ∀ c ∈ children, start ≤ c.start ∧ c.stop ≤ stop)
      (in_order : children.Pairwise fun a b => a.stop ≤ b.start)
      (children_placed : ∀ c ∈ children, Placed source c) :
      Placed source (.node kind start stop missing children)

variable {source : String}

theorem Placed.leaf {kind : String} {missing : Bool} (hp : IsBoundary source p)
    (hq : IsBoundary source q) (hpq : p ≤ q) : Placed source (.node kind p q missing []) :=
  .node hp hq hpq (fun _ => nofun) .nil (fun _ => nofun)

theorem IsBoundary.le_length (h : IsBoundary source p) : p ≤ (Utf8.encode source).length := by
  obtain ⟨before, after, rfl, rfl⟩ := h
  rw [Utf8.encode_append, List.length_append]
  omega

theorem exists_append_of_prefix {a b : String} (h : a.toList <+: b.toList) :
    ∃ c : String, b = a ++ c := by
  obtain ⟨cs, hcs⟩ := h
  refine ⟨String.ofList cs, ?_⟩
  rw [← String.toList_inj, String.toList_append, String.toList_ofList, hcs]

/-- What stands between two boundaries is text. -/
theorem IsBoundary.slice_eq (hp : IsBoundary source p) (hq : IsBoundary source q) (hpq : p ≤ q) :
    ∃ text : String, slice (Utf8.encode source) p q = Utf8.encode text := by
  obtain ⟨before, after, hsource, rfl⟩ := hp
  obtain ⟨before', after', hsource', rfl⟩ := hq
  have hprefix : before.toList <+: source.toList := ⟨after.toList, by
    rw [hsource, String.toList_append]⟩
  have hprefix' : before'.toList <+: source.toList := ⟨after'.toList, by
    rw [hsource', String.toList_append]⟩
  rcases List.prefix_or_prefix_of_prefix hprefix hprefix' with h | h
  · obtain ⟨text, hbefore⟩ := exists_append_of_prefix h
    refine ⟨text, ?_⟩
    rw [hsource', hbefore, Utf8.encode_append, Utf8.encode_append, slice_middle]
  · -- the second place is not before the first, so they are the same
    obtain ⟨text, hbefore⟩ := exists_append_of_prefix h
    have hlength : (Utf8.encode before').length ≤ (Utf8.encode before).length := by
      rw [hbefore, Utf8.encode_append, List.length_append]
      omega
    have hsame : (Utf8.encode before').length = (Utf8.encode before).length := by omega
    refine ⟨"", ?_⟩
    rw [hsame, slice_self]
    rfl

end SyntaxTree

/-! ## Excerpts -/

namespace Token

/-- A token is what the code holds at its place. -/
structure IsExcerpt (code : String) (t : Token) : Prop where
  start_nonneg : 0 ≤ t.start
  start_lt_stop : t.start < t.stop
  stop_le : t.stop ≤ (Utf8.encode code).length
  bytes : Utf8.encode t.text = SyntaxTree.slice (Utf8.encode code) t.start t.stop

/-- Excerpts of the code, one behind the other, from the place `p` on and up to `q`. -/
inductive Laid (code : String) : Int → Int → List Token → Prop where
  | nil {p q : Int} (h : p ≤ q) : Laid code p q []
  | cons {p q : Int} {t : Token} {ts : List Token} (h : p ≤ t.start) (ht : t.IsExcerpt code)
      (hts : Laid code t.stop q ts) : Laid code p q (t :: ts)

variable {code : String} {t u : Token} {ts us : List Token} {p q r : Int}

theorem IsExcerpt.glue (ht : t.IsExcerpt code) (hu : u.IsExcerpt code) (h : u.start = t.stop) :
    (t.glue u).IsExcerpt code := by
  have hlt := ht.start_lt_stop
  have hlt' := hu.start_lt_stop
  refine ⟨ht.start_nonneg, ?_, hu.stop_le, ?_⟩
  · show t.start < u.stop
    omega
  · show Utf8.encode (t.text ++ u.text) = SyntaxTree.slice (Utf8.encode code) t.start u.stop
    rw [Utf8.encode_append, ht.bytes, hu.bytes, h]
    exact SyntaxTree.slice_append_slice _ ht.start_nonneg (by omega) (by omega)

namespace Laid

theorem of_le (hp : p ≤ q) (h : Laid code q r ts) : Laid code p r ts := by
  cases h with
  | nil h => exact .nil (by omega)
  | cons h ht hts => exact .cons (by omega) ht hts

theorem append (h : Laid code p q ts) (h' : Laid code q r us) : Laid code p r (ts ++ us) := by
  induction h with
  | nil h => exact h'.of_le h
  | cons h ht _ ih => exact .cons h ht (ih h')

theorem isExcerpt (h : Laid code p q ts) : ∀ t ∈ ts, t.IsExcerpt code := by
  induction h with
  | nil h => exact fun _ => nofun
  | cons h ht _ ih => exact List.forall_mem_cons.mpr ⟨ht, ih⟩

theorem le_start (h : Laid code p q ts) : ∀ t ∈ ts, p ≤ t.start := by
  induction h with
  | nil h => exact fun _ => nofun
  | cons h ht _ ih =>
    have hlt := ht.start_lt_stop
    refine List.forall_mem_cons.mpr ⟨h, fun u hu => ?_⟩
    have hle := ih u hu
    omega

theorem in_order (h : Laid code p q ts) : ts.Pairwise fun t u => t.stop ≤ u.start := by
  induction h with
  | nil h => exact .nil
  | cons h ht hts ih => exact .cons hts.le_start ih

/-- Two touching excerpts are one, so joined sigils are excerpts. -/
theorem joinFrom (sigils : List String) (held : Option Token)
    (h : Laid code p q (held.toList ++ ts)) : Laid code p q (Token.joinFrom sigils held ts) := by
  fun_induction Token.joinFrom sigils held ts generalizing p with
  | case1 => exact h
  | case2 held => exact h
  | case3 t ts ht ih => exact ih h
  | case4 t ts ht ih =>
    cases h with
    | cons hp ht hts => exact .cons hp ht (ih hts)
  | case5 held t ts htouch joined hj =>
    rename_i ih
    cases h with
    | cons hp hheld hts =>
      cases hts with
      | cons _ ht hts => exact ih (.cons hp (hheld.glue ht htouch) hts)
  | case6 held t ts htouch joined hj =>
    rename_i ih
    cases h with
    | cons hp hheld hts =>
      cases hts with
      | cons _ ht hts => exact .cons hp (hheld.glue ht htouch) (ih hts)
  | case7 held t ts htouch ht ih =>
    cases h with
    | cons hp hheld hts => exact .cons hp hheld (ih hts)
  | case8 held t ts htouch ht ih =>
    cases h with
    | cons hp hheld hts =>
      cases hts with
      | cons hle ht hts => exact .cons hp hheld (.cons hle ht (ih hts))

end Laid

end Token

/-! ## The tokens of a tree -/

namespace SyntaxTree

open Token (Laid)

/-- A place in the text as a place in the code, which begins behind the preamble. -/
def fromCode (preamble : String) (p : Int) : Int := max (p - (Utf8.encode preamble).length) 0

theorem fromCode_le (preamble : String) {p q : Int} (h : p ≤ q) :
    fromCode preamble p ≤ fromCode preamble q := by
  unfold fromCode
  omega

theorem fromCode_of_le {preamble : String} {p : Int} (h : (Utf8.encode preamble).length ≤ p) :
    fromCode preamble p = p - (Utf8.encode preamble).length := by
  unfold fromCode
  omega

variable {g : Grammar} {preamble code : String}

theorem laid_leavesOfAll {source : List UInt8} {offset : Nat} {trees : List SyntaxTree} {p q : Int}
    (hpq : p ≤ q) (hin : ∀ c ∈ trees, p ≤ c.start ∧ c.stop ≤ q)
    (hord : trees.Pairwise fun a b => a.stop ≤ b.start)
    (h : ∀ c ∈ trees, Laid code (fromCode preamble c.start) (fromCode preamble c.stop)
      (c.leaves g source offset)) :
    Laid code (fromCode preamble p) (fromCode preamble q) (leavesOfAll g source offset trees) := by
  induction trees generalizing p with
  | nil => exact .nil (fromCode_le preamble hpq)
  | cons c cs ih =>
    rw [leavesOfAll]
    obtain ⟨hc, hcs⟩ := List.forall_mem_cons.mp h
    obtain ⟨hcin, hcsin⟩ := List.forall_mem_cons.mp hin
    obtain ⟨hbehind, hord⟩ := List.pairwise_cons.mp hord
    -- what is left lies behind the first tree
    have hrest : Laid code (fromCode preamble c.stop) (fromCode preamble q)
        (leavesOfAll g source offset cs) :=
      ih hcin.2 (fun d hd => ⟨hbehind d hd, (hcsin d hd).2⟩) hord hcs
    exact (hc.append hrest).of_le (fromCode_le preamble hcin.1)

/-- A node behind the preamble covers an excerpt of the code. -/
theorem isExcerpt_leaf {start stop : Int} (kind : String)
    (hstart : IsBoundary (preamble ++ code) start) (hstop : IsBoundary (preamble ++ code) stop)
    (hbehind : (Utf8.encode preamble).length ≤ start) (hlt : start < stop) :
    Token.IsExcerpt code
      { kind
        text := Utf8.decodeLossy (slice (Utf8.encode preamble ++ Utf8.encode code) start stop)
        start := start - (Utf8.encode preamble).length
        stop := stop - (Utf8.encode preamble).length } := by
  obtain ⟨text, htext⟩ := hstart.slice_eq hstop (by omega)
  have hlength := hstop.le_length
  rw [Utf8.encode_append] at htext
  rw [Utf8.encode_append, List.length_append] at hlength
  refine ⟨?_, ?_, ?_, ?_⟩ <;> dsimp only
  · omega
  · omega
  · omega
  · rw [htext, Utf8.decodeLossy_encode, ← htext, slice_append_left _ _ hbehind (by omega)]

/-- The tokens of a tree are laid between its ends.  Of a node without tokens only the order of its
ends is left, so that what comes behind it still lies behind what was before. -/
theorem laid_leaves (g : Grammar) {tree : SyntaxTree} (h : tree.Placed (preamble ++ code)) :
    Laid code (fromCode preamble tree.start) (fromCode preamble tree.stop)
      (tree.leaves g (Utf8.encode preamble ++ Utf8.encode code) (Utf8.encode preamble).length) := by
  induction h with
  | @node kind start stop missing children hstart hstop hle hin hord _ ih =>
    have hnone : Laid code (fromCode preamble start) (fromCode preamble stop) [] :=
      .nil (fromCode_le preamble hle)
    show Laid code (fromCode preamble start) (fromCode preamble stop) _
    rw [leaves]
    split
    · exact hnone
    split
    · exact hnone
    split
    · split
      · exact hnone
      · rename_i hempty _ hbehind
        refine .cons ?_ (isExcerpt_leaf kind hstart hstop (by omega) (by omega)) (.nil ?_)
        · exact Int.le_of_eq (fromCode_of_le (by omega))
        · exact Int.le_of_eq (fromCode_of_le (by omega)).symm
    · exact laid_leavesOfAll hle hin hord ih

end SyntaxTree

namespace Grammar

open SyntaxTree

/-- **Tokens are excerpts of the code, in order and apart.**  No token holds anything of the
preamble. -/
theorem tokens_isExcerpt (g : Grammar) (code : String) (tree : SyntaxTree)
    (h : tree.Placed (g.preamble ++ code)) :
    (∀ t ∈ g.tokens code tree, t.IsExcerpt code) ∧
    (g.tokens code tree).Pairwise fun t u => t.stop ≤ u.start := by
  have hlaid := Token.Laid.joinFrom g.sigils none (laid_leaves g h)
  exact ⟨hlaid.isExcerpt, hlaid.in_order⟩

/-- `<?php ?Ünit $é`, with a semicolon that is missing. -/
def splitSigils : SyntaxTree :=
  .node "program" 0 16 false
    [.node "php_tag" 0 6 false [],
      .node "ERROR" 6 16 false
        [.node "?" 6 7 false [], .node "name" 7 12 false [], .node "$" 13 14 false [],
          .node "name" 14 16 false [], .node ";" 16 16 true []]]

theorem tokens_isExcerpt_splitSigils :
    splitSigils.Placed (php.preamble ++ "?Ünit $é") ∧
    php.tokens "?Ünit $é" splitSigils =
      [{ kind := "name", text := "?Ünit", start := 0, stop := 6 },
        { kind := "name", text := "$é", start := 7, stop := 10 }] ∧
    (∀ t ∈ php.tokens "?Ünit $é" splitSigils, t.IsExcerpt "?Ünit $é") ∧
    (php.tokens "?Ünit $é" splitSigils).Pairwise fun t u => t.stop ≤ u.start := by
  have h0 : IsBoundary (php.preamble ++ "?Ünit $é") 0 := ⟨"", "<?php ?Ünit $é", rfl, rfl⟩
  have h6 : IsBoundary (php.preamble ++ "?Ünit $é") 6 := ⟨"<?php ", "?Ünit $é", rfl, rfl⟩
  have h7 : IsBoundary (php.preamble ++ "?Ünit $é") 7 := ⟨"<?php ?", "Ünit $é", rfl, rfl⟩
  have h12 : IsBoundary (php.preamble ++ "?Ünit $é") 12 := ⟨"<?php ?Ünit", " $é", rfl, rfl⟩
  have h13 : IsBoundary (php.preamble ++ "?Ünit $é") 13 := ⟨"<?php ?Ünit ", "$é", rfl, rfl⟩
  have h14 : IsBoundary (php.preamble ++ "?Ünit $é") 14 := ⟨"<?php ?Ünit $", "é", rfl, rfl⟩
  have h16 : IsBoundary (php.preamble ++ "?Ünit $é") 16 := ⟨"<?php ?Ünit $é", "", rfl, rfl⟩
  have hplaced : splitSigils.Placed (php.preamble ++ "?Ünit $é") := by
    refine .node h0 h16 (by decide) (by decide) (by decide) ?_
    refine List.forall_mem_cons.mpr ⟨.leaf h0 h6 (by decide), List.forall_mem_singleton.mpr ?_⟩
    refine .node h6 h16 (by decide) (by decide) (by decide) ?_
    simp only [List.forall_mem_cons]
    exact ⟨.leaf h6 h7 (by decide), .leaf h7 h12 (by decide), .leaf h13 h14 (by decide),
      .leaf h14 h16 (by decide), .leaf h16 h16 (by decide), fun _ => nofun⟩
  exact ⟨hplaced, by decide +kernel, tokens_isExcerpt php "?Ünit $é" splitSigils hplaced⟩

end Grammar

end DocTemplate
