import DocTemplate.Json.Reader
import Mathlib.Data.List.Basic
import Mathlib.Data.Option.Basic

/-!
# The text of a value is read back

`Json.write` puts a value into a text, and `Json.read?` takes it out again, whatever blanks begin
its lines:

    read? (write newline j) = some j          (read?_write)
    Ascii (write newline j)                   (ascii_write)

Strings go through their escapes one character at a time, a character above U+FFFF as two UTF-16
units.  Numbers go through their decimal digits.  The reader is given a number to spend; the length
of a text is enough, and the induction is on it.
-/

namespace DocTemplate.Json

/-! ## Strings -/

/-- A hexadecimal digit is read as what it was written for, and is ASCII. -/
theorem hexDigit_all : ∀ d, d < 16 →
    Decimal.isHexDigit (hexDigit d) = true ∧ Decimal.digitValue (hexDigit d) = d ∧
      (hexDigit d).toNat < 0x80 := by
  decide

/-- Four digits are read as the UTF-16 unit that they were written for. -/
theorem unit?_hexDigits {n : Nat} (h : n < 0x10000) :
    unit? (hexDigit (n / 4096 % 16)) (hexDigit (n / 256 % 16)) (hexDigit (n / 16 % 16))
      (hexDigit (n % 16)) = some n := by
  obtain ⟨h1, v1, -⟩ := hexDigit_all (n / 4096 % 16) (Nat.mod_lt _ (by decide))
  obtain ⟨h2, v2, -⟩ := hexDigit_all (n / 256 % 16) (Nat.mod_lt _ (by decide))
  obtain ⟨h3, v3, -⟩ := hexDigit_all (n / 16 % 16) (Nat.mod_lt _ (by decide))
  obtain ⟨h4, v4, -⟩ := hexDigit_all (n % 16) (Nat.mod_lt _ (by decide))
  have hvalue : (((n / 4096 % 16) * 16 + n / 256 % 16) * 16 + n / 16 % 16) * 16 + n % 16 = n := by
    omega
  unfold unit?
  rw [if_pos (by simp [h1, h2, h3, h4])]
  simp only [Decimal.ofDigits, List.foldl_cons, List.foldl_nil, v1, v2, v3, v4]
  rw [Nat.zero_mul, Nat.zero_add, hvalue]

/-- What is read with a character in front. -/
def after (c : Char) (p : List Char × List Char) : List Char × List Char := (c :: p.1, p.2)

theorem readString_quote (r : List Char) : readString ('"' :: r) = some ([], r) := by
  rw [readString]
  · rfl
  · exact nofun
  · exact nofun

/-- A character that is no escape stands for itself. -/
theorem readString_plain {c : Char} (hquote : c ≠ '"') (hslash : c ≠ '\\') (h : 0x20 ≤ c.toNat)
    (r : List Char) : readString (c :: r) = (readString r).map (after c) := by
  rw [readString]
  · rw [if_neg hquote, (Option.guard_eq_some' ()).2 ⟨hslash, h⟩]
    cases readString r <;> rfl
  · intro _ _ _ _ _ hc
    exact absurd hc hslash
  · intro _ _ hc
    exact absurd hc hslash

theorem readString_escaped {c c' : Char} (h : escaped? c = some c') (r : List Char) :
    readString ('\\' :: c :: r) = (readString r).map (after c') := by
  have hu : c ≠ 'u' := by
    rintro rfl
    cases h
  rw [readString]
  · rw [h]
    cases readString r <;> rfl
  · intro _ _ _ _ _ hc
    exact absurd hc hu

/-- A unit that is no surrogate is a character. -/
theorem readString_unit {n : Nat} (h : n < 0x10000) (hsurrogate : ¬ (0xD800 ≤ n ∧ n < 0xE000))
    (r : List Char) :
    readString (unitChars n ++ r) = (readString r).map (after (Char.ofNat n)) := by
  show readString ('\\' :: 'u' :: _ :: _ :: _ :: _ :: r) = _
  rw [readString, unit?_hexDigits h, Option.bind_eq_bind, Option.bind_some, if_neg (by omega),
    (Option.guard_eq_some' ()).2 (by omega)]
  cases readString r <;> rfl

/-- Two surrogates are one character above U+FFFF. -/
theorem readString_pair {n m : Nat} (hn : 0xD800 ≤ n ∧ n < 0xDC00) (hm : 0xDC00 ≤ m ∧ m < 0xE000)
    (r : List Char) :
    readString (unitChars n ++ (unitChars m ++ r)) =
      (readString r).map (after (Char.ofNat (0x10000 + (n - 0xD800) * 0x400 + (m - 0xDC00)))) := by
  show readString ('\\' :: 'u' :: _ :: _ :: _ :: _ :: '\\' :: 'u' :: _ :: _ :: _ :: _ :: r) = _
  rw [readString, unit?_hexDigits (by omega), Option.bind_eq_bind, Option.bind_some, if_pos hn]
  show (unit? _ _ _ _).bind _ = _
  rw [unit?_hexDigits (by omega), Option.bind_some, (Option.guard_eq_some' ()).2 hm]
  cases readString r <;> rfl

/-- The characters with a letter of their own behind a backslash. -/
def lettered : List Char := ['"', '\\', '\n', '\r', '\t', '\x0c', '\x08']

/-- Other characters are written as they are, or in one or two units. -/
theorem quotedChars_of_not_lettered {c : Char} (h : c ∉ lettered) :
    quotedChars c =
      if 0x20 ≤ c.toNat ∧ c.toNat < 0x7F then [c]
      else if c.toNat < 0x10000 then unitChars c.toNat
      else unitChars (0xD800 + (c.toNat - 0x10000) / 0x400) ++
        unitChars (0xDC00 + (c.toNat - 0x10000) % 0x400) := by
  simp only [lettered, List.mem_cons, List.not_mem_nil, or_false, not_or] at h
  obtain ⟨h1, h2, h3, h4, h5, h6, h7⟩ := h
  simp only [quotedChars, h1, h2, h3, h4, h5, h6, h7, if_false]

/-- A character is read back from its escape, whatever stands behind it. -/
theorem readString_quotedChars (c : Char) (r : List Char) :
    readString (quotedChars c ++ r) = (readString r).map (after c) := by
  by_cases hc : c ∈ lettered
  · simp only [lettered, List.mem_cons, List.not_mem_nil, or_false] at hc
    rcases hc with rfl | rfl | rfl | rfl | rfl | rfl | rfl <;> exact readString_escaped rfl r
  have hvalid : c.toNat < 0xD800 ∨ (0xDFFF < c.toNat ∧ c.toNat < 0x110000) := c.valid
  rw [quotedChars_of_not_lettered hc]
  split
  · next h =>
    have hquote : c ≠ '"' := by
      rintro rfl
      exact hc (by decide)
    have hslash : c ≠ '\\' := by
      rintro rfl
      exact hc (by decide)
    exact readString_plain hquote hslash h.1 r
  split
  · next h => rw [readString_unit h (by omega), Char.ofNat_toNat]
  · next h =>
    -- The two units make up the number of the character again.
    have hvalue : 0x10000 + (0xD800 + (c.toNat - 0x10000) / 0x400 - 0xD800) * 0x400 +
        (0xDC00 + (c.toNat - 0x10000) % 0x400 - 0xDC00) = c.toNat := by omega
    rw [List.append_assoc, readString_pair (by omega) (by omega), hvalue, Char.ofNat_toNat]

/-- A string is read up to the quote that ends it. -/
theorem readString_quoted (cs r : List Char) :
    readString (cs.flatMap quotedChars ++ '"' :: r) = some (cs, r) := by
  induction cs with
  | nil => exact readString_quote r
  | cons c cs ih =>
    rw [List.flatMap_cons, List.append_assoc, readString_quotedChars, ih]
    rfl

theorem quote_append (s : String) (r : List Char) :
    (quote s).toList ++ r = '"' :: (s.toList.flatMap quotedChars ++ '"' :: r) := by
  simp [quote]

/-! ## Digits -/

theorem isDigit_of_mem_toDigits {n : Nat} {c : Char} (h : c ∈ Nat.toDigits 10 n) :
    Decimal.isDigit c = true := by
  have hdigit := Nat.isDigit_of_mem_toDigits (by decide) (by decide) h
  simp only [Char.isDigit, Bool.and_eq_true, decide_eq_true_eq] at hdigit
  simp only [Decimal.isDigit, Bool.and_eq_true, decide_eq_true_eq]
  exact hdigit

theorem ofDigits_eq {ds : List Char} (h : ∀ c ∈ ds, Decimal.isDigit c = true) :
    Decimal.ofDigits 10 ds = Nat.ofDigitChars 10 ds 0 := by
  rw [Decimal.ofDigits, Nat.ofDigitChars_eq_foldl]
  refine List.foldl_ext _ _ _ fun n c hc => ?_
  rw [Decimal.digitValue, if_pos (h c hc), Nat.mul_comm]

/-- The digits of a number are read as this number. -/
theorem ofDigits_toDigits (n : Nat) : Decimal.ofDigits 10 (Nat.toDigits 10 n) = n := by
  rw [ofDigits_eq fun c hc => isDigit_of_mem_toDigits hc, Nat.ofDigitChars_ten_toDigits]

/-- No number but zero is written with a zero in front. -/
theorem exists_toDigits {n : Nat} (h : n ≠ 0) :
    ∃ c cs, Nat.toDigits 10 n = c :: cs ∧ c ≠ '0' := by
  induction n using Nat.strongRecOn with
  | _ n ih =>
    by_cases hn : n < 10
    · have hall : ∀ m, m < 10 → m ≠ 0 → Nat.digitChar m ≠ '0' := by decide
      exact ⟨n.digitChar, [], Nat.toDigits_of_lt_base hn, hall n hn h⟩
    · -- The last digit comes off the end, so the first is that of a tenth.
      obtain ⟨c, cs, hcs, hc⟩ := ih (n / 10) (by omega) (by omega)
      refine ⟨c, cs ++ [(n % 10).digitChar], ?_, hc⟩
      rw [Nat.toDigits_of_base_le (by decide) (by omega), hcs]
      rfl

/-- No digits of a number start with a zero that is not needed. -/
theorem isWhole_toDigits (n : Nat) : isWhole (Nat.toDigits 10 n) = true := by
  by_cases h : n = 0
  · subst h
    rfl
  · obtain ⟨c, cs, hcs, hc⟩ := exists_toDigits h
    rw [hcs, isWhole]
    intro d ds hd
    cases hd
    exact hc rfl

theorem head?_toDigits (n : Nat) :
    ∃ c, (Nat.toDigits 10 n).head? = some c ∧ Decimal.isDigit c = true := by
  obtain ⟨c, cs, hcs⟩ := List.exists_cons_of_ne_nil (Nat.toDigits_ne_nil (b := 10) (n := n))
  have hc : Decimal.isDigit c = true := isDigit_of_mem_toDigits (hcs ▸ List.mem_cons_self)
  exact ⟨c, by rw [hcs, List.head?_cons], hc⟩

theorem isDigit_of_toDigits_eq {n : Nat} {c : Char} {r cs : List Char}
    (h : Nat.toDigits 10 n ++ r = c :: cs) : Decimal.isDigit c = true := by
  obtain ⟨d, hhead, hd⟩ := head?_toDigits n
  obtain ⟨ds, hds⟩ := List.head?_eq_some_iff.1 hhead
  rw [hds] at h
  cases h
  exact hd

/-! ## Numbers -/

/-- The characters that a number may go on with. -/
def isNumeric (c : Char) : Bool := Decimal.isDigit c || c = '.' || c = 'e' || c = 'E'

/-- No digit stands at the front. -/
def NoDigit (r : List Char) : Prop := ∀ c ∈ r.head?, Decimal.isDigit c = false

/-- No number goes on at the front. -/
def EndsNumber (r : List Char) : Prop := ∀ c ∈ r.head?, isNumeric c = false

theorem isNumeric_eq_false {c : Char} (h : isNumeric c = false) :
    Decimal.isDigit c = false ∧ c ≠ '.' ∧ c ≠ 'e' ∧ c ≠ 'E' := by
  simpa [isNumeric, and_assoc] using h

theorem EndsNumber.noDigit {r : List Char} (h : EndsNumber r) : NoDigit r :=
  fun c hc => (isNumeric_eq_false (h c hc)).1

/-- All digits are read, and no more. -/
theorem readDigits_toDigits (n : Nat) {r : List Char} (hr : NoDigit r) :
    readDigits (Nat.toDigits 10 n ++ r) = some (Nat.toDigits 10 n, r) := by
  have hdigits : ∀ c ∈ Nat.toDigits 10 n, Decimal.isDigit c = true :=
    fun c hc => isDigit_of_mem_toDigits hc
  have htake : r.takeWhile Decimal.isDigit = [] := by
    cases r with
    | nil => rfl
    | cons c r => rw [List.takeWhile_cons_of_neg (by simp [hr c rfl])]
  have hdrop : r.dropWhile Decimal.isDigit = r := by
    cases r with
    | nil => rfl
    | cons c r => rw [List.dropWhile_cons_of_neg (by simp [hr c rfl])]
  unfold readDigits
  rw [List.takeWhile_append_of_pos hdigits, List.dropWhile_append_of_pos hdigits, htake, hdrop,
    List.append_nil]
  simp [Nat.toDigits_ne_nil]

theorem EndsNumber.readFraction {r : List Char} (h : EndsNumber r) :
    Json.readFraction r = some (none, r) := by
  rw [Json.readFraction]
  rintro r' rfl
  exact absurd (h '.' rfl) (by decide)

theorem EndsNumber.readExponent {r : List Char} (h : EndsNumber r) :
    Json.readExponent r = some (none, r) := by
  cases r with
  | nil => rfl
  | cons c r =>
    obtain ⟨-, -, he, hE⟩ := isNumeric_eq_false (h c rfl)
    unfold Json.readExponent
    exact if_neg (by simp [he, hE])

theorem readExponent_toDigits (n : Nat) {r : List Char} (hr : NoDigit r) :
    readExponent ('e' :: (Nat.toDigits 10 n ++ r)) = some (some (n : Int), r) := by
  rw [readExponent, if_pos (Or.inl rfl), readDigits_toDigits n hr]
  · show some (some ((Decimal.ofDigits 10 (Nat.toDigits 10 n) : Nat) : Int), r) = _
    rw [ofDigits_toDigits]
  · intro cs h
    cases isDigit_of_toDigits_eq h
  · intro cs h
    cases isDigit_of_toDigits_eq h

theorem readExponent_minus (n : Nat) {r : List Char} (hr : NoDigit r) :
    readExponent ('e' :: '-' :: (Nat.toDigits 10 n ++ r)) = some (some (-(n : Int)), r) := by
  rw [readExponent, if_pos (Or.inl rfl), readDigits_toDigits n hr]
  show some (some (-((Decimal.ofDigits 10 (Nat.toDigits 10 n) : Nat) : Int)), r) = _
  rw [ofDigits_toDigits]

/-- The text of an integer is its digits, behind a sign if it is negative. -/
theorem toList_toString (n : Int) :
    (toString n).toList =
      if 0 ≤ n then Nat.toDigits 10 n.toNat else '-' :: Nat.toDigits 10 (-n).toNat := by
  rw [Int.toString_eq_repr, Int.repr_eq_if]
  split
  · exact Nat.toList_repr
  · rw [String.toList_append, Nat.toList_repr]
    rfl

/-- An exponent is read with its sign. -/
theorem readExponent_toString (e : Int) {r : List Char} (hr : NoDigit r) :
    readExponent ('e' :: ((toString e).toList ++ r)) = some (some e, r) := by
  rw [toList_toString]
  split
  · next he => rw [readExponent_toDigits _ hr, Int.toNat_of_nonneg he]
  · next he =>
    rw [List.cons_append, readExponent_minus _ hr, Int.toNat_of_nonneg (by omega), Int.neg_neg]

/-- Digits alone are an integer. -/
theorem readUnsigned_int (negative : Bool) (n : Nat) {r : List Char} (hr : EndsNumber r) :
    readUnsigned negative (Nat.toDigits 10 n ++ r) =
      some (.int (if negative then -(n : Int) else n), r) := by
  unfold readUnsigned
  rw [readDigits_toDigits n hr.noDigit]
  dsimp only [Option.bind_eq_bind, Option.bind_some]
  rw [(Option.guard_eq_some' ()).2 (isWhole_toDigits n), hr.readFraction]
  simp only [Option.pure_def, Option.bind_some]
  rw [hr.readExponent]
  simp only [Option.bind_some, Option.isNone_none, and_self, if_true, ofDigits_toDigits]

/-- Digits with an exponent are a real number. -/
theorem readUnsigned_real (negative : Bool) (n : Nat) (e : Int) {r : List Char}
    (hr : NoDigit r) :
    readUnsigned negative (Nat.toDigits 10 n ++ 'e' :: ((toString e).toList ++ r)) =
      some (.real ⟨negative, n, e⟩, r) := by
  have hmark : NoDigit ('e' :: ((toString e).toList ++ r)) := by
    rintro c ⟨⟩
    rfl
  unfold readUnsigned
  rw [readDigits_toDigits n hmark]
  dsimp only [Option.bind_eq_bind, Option.bind_some]
  rw [(Option.guard_eq_some' ()).2 (isWhole_toDigits n),
    show readFraction ('e' :: ((toString e).toList ++ r)) = some (none, _) from rfl]
  simp only [Option.pure_def, Option.bind_some]
  rw [readExponent_toString e hr]
  simp [Decimal.ofParts, ofDigits_toDigits]

theorem readNumber_toDigits (n : Nat) (r : List Char) :
    readNumber (Nat.toDigits 10 n ++ r) = readUnsigned false (Nat.toDigits 10 n ++ r) := by
  rw [readNumber]
  intro cs h
  cases isDigit_of_toDigits_eq h

/-- An integer is read back. -/
theorem readNumber_toString (n : Int) {r : List Char} (hr : EndsNumber r) :
    readNumber ((toString n).toList ++ r) = some (.int n, r) := by
  rw [toList_toString]
  split
  · next hn =>
    rw [readNumber_toDigits, readUnsigned_int false _ hr, if_neg Bool.false_ne_true,
      Int.toNat_of_nonneg hn]
  · next hn =>
    rw [List.cons_append, readNumber, readUnsigned_int true _ hr, if_pos rfl,
      Int.toNat_of_nonneg (by omega), Int.neg_neg]

theorem text_append (d : Decimal) (r : List Char) :
    d.text.toList ++ r =
      (if d.negative then ['-'] else []) ++
        (Nat.toDigits 10 d.digits ++ 'e' :: ((toString d.exponent).toList ++ r)) := by
  cases h : d.negative <;> simp [Decimal.text, Nat.toList_repr, h]

/-- A decimal number is read back. -/
theorem readNumber_text (d : Decimal) {r : List Char} (hr : EndsNumber r) :
    readNumber (d.text.toList ++ r) = some (.real d, r) := by
  obtain ⟨negative, n, e⟩ := d
  rw [text_append]
  cases negative with
  | true => exact readUnsigned_real true n e hr.noDigit
  | false => exact (readNumber_toDigits n _).trans (readUnsigned_real false n e hr.noDigit)

/-! ## What a value begins with -/

/-- The characters that a number may begin with. -/
def beginsNumber (c : Char) : Bool := Decimal.isDigit c || c = '-'

theorem head?_toString (n : Int) :
    ∃ c, (toString n).toList.head? = some c ∧ beginsNumber c = true := by
  rw [toList_toString]
  split
  · obtain ⟨c, hhead, hc⟩ := head?_toDigits n.toNat
    exact ⟨c, hhead, by simp [beginsNumber, hc]⟩
  · exact ⟨'-', rfl, rfl⟩

theorem head?_text (d : Decimal) :
    ∃ c, d.text.toList.head? = some c ∧ beginsNumber c = true := by
  obtain ⟨negative, n, e⟩ := d
  rw [← List.append_nil (Decimal.text _).toList, text_append]
  cases negative with
  | true => exact ⟨'-', rfl, rfl⟩
  | false =>
    obtain ⟨c, hhead, hc⟩ := head?_toDigits n
    exact ⟨c, by simp [hhead], by simp [beginsNumber, hc]⟩

/-- What begins a number begins no other value. -/
theorem not_special_of_beginsNumber {c : Char} (h : beginsNumber c = true) :
    isBlank c = false ∧ c ∉ ['n', 't', 'f', '"', '[', '\x7b', ']'] := by
  constructor
  · by_contra hblank
    simp only [isBlank, Bool.or_eq_true, decide_eq_true_eq, Bool.not_eq_false] at hblank
    rcases hblank with ((rfl | rfl) | rfl) | rfl <;> cases h
  · intro hmem
    simp only [List.mem_cons, List.not_mem_nil, or_false] at hmem
    rcases hmem with rfl | rfl | rfl | rfl | rfl | rfl | rfl <;> cases h

/-- What stands at the front is no blank and not the given end. -/
def Begins (close : Char) (cs : List Char) : Prop :=
  ∃ c, cs.head? = some c ∧ isBlank c = false ∧ c ≠ close

theorem Begins.append {close : Char} {cs : List Char} (h : Begins close cs) (r : List Char) :
    Begins close (cs ++ r) := by
  obtain ⟨c, hhead, hc⟩ := h
  exact ⟨c, by rw [List.head?_append, hhead, Option.some_or], hc⟩

theorem begins_of_beginsNumber {c : Char} {cs : List Char} (hhead : cs.head? = some c)
    (h : beginsNumber c = true) : Begins ']' cs := by
  obtain ⟨hblank, hspecial⟩ := not_special_of_beginsNumber h
  refine ⟨c, hhead, hblank, ?_⟩
  rintro rfl
  exact hspecial (by decide)

/-- A written value begins neither with a blank nor with the end of an array. -/
theorem begins_write (newline : String) (j : Json) : Begins ']' (write newline j).toList := by
  match j with
  | .null => exact ⟨'n', by simp [write], rfl, by decide⟩
  | .bool true => exact ⟨'t', by simp [write], rfl, by decide⟩
  | .bool false => exact ⟨'f', by simp [write], rfl, by decide⟩
  | .int n =>
    obtain ⟨c, hhead, hc⟩ := head?_toString n
    exact begins_of_beginsNumber hhead hc
  | .real d =>
    obtain ⟨c, hhead, hc⟩ := head?_text d
    exact begins_of_beginsNumber hhead hc
  | .str s => exact ⟨'"', by simp [write, quote], rfl, by decide⟩
  | .arr [] => exact ⟨'[', by simp [write], rfl, by decide⟩
  | .arr (j :: js) => exact ⟨'[', by simp [write], rfl, by decide⟩
  | .obj [] => exact ⟨'\x7b', by simp [write], rfl, by decide⟩
  | .obj ((k, j) :: fs) => exact ⟨'\x7b', by simp [write], rfl, by decide⟩

theorem length_write_pos (newline : String) (j : Json) : 0 < (write newline j).toList.length := by
  obtain ⟨c, hhead, -⟩ := begins_write newline j
  obtain ⟨cs, hcs⟩ := List.head?_eq_some_iff.1 hhead
  rw [hcs, List.length_cons]
  omega

/-! ## One step of the reader -/

/-- Blanks and nothing else. -/
def Blank (cs : List Char) : Prop := ∀ c ∈ cs, isBlank c = true

theorem skip_append {lead : List Char} (h : Blank lead) (r : List Char) :
    skip (lead ++ r) = skip r :=
  List.dropWhile_append_of_pos h

theorem skip_cons {c : Char} (h : isBlank c = false) (r : List Char) : skip (c :: r) = c :: r :=
  List.dropWhile_cons_of_neg (by simp [h])

/-- Blanks before a value do not count. -/
theorem readValue_append {lead : List Char} (h : Blank lead) (n : Nat) (r : List Char) :
    readValue n (lead ++ r) = readValue n r := by
  cases n with
  | zero => rfl
  | succ n =>
    unfold readValue
    rw [skip_append h]

theorem readItems_append {lead : List Char} (h : Blank lead) (n : Nat) (r : List Char) :
    readItems n (lead ++ r) = readItems n r := by
  cases n with
  | zero => rfl
  | succ n =>
    unfold readItems
    rw [readValue_append h]

theorem readFields_append {lead : List Char} (h : Blank lead) (n : Nat) (r : List Char) :
    readFields n (lead ++ r) = readFields n r := by
  cases n with
  | zero => rfl
  | succ n =>
    unfold readFields
    rw [skip_append h]

/-- A value that begins like a number is read as one. -/
theorem readValue_number {c : Char} (h : beginsNumber c = true) (n : Nat) (r : List Char) :
    readValue (n + 1) (c :: r) = readNumber (c :: r) := by
  obtain ⟨hblank, hspecial⟩ := not_special_of_beginsNumber h
  unfold readValue
  rw [skip_cons hblank]
  dsimp only
  split
  case h_7 => rfl
  all_goals
    next heq =>
      cases heq
      exact absurd (by decide) hspecial

theorem readValue_toString (n : Nat) (i : Int) {r : List Char} (hr : EndsNumber r) :
    readValue (n + 1) ((toString i).toList ++ r) = some (.int i, r) := by
  obtain ⟨c, hhead, hc⟩ := head?_toString i
  obtain ⟨cs, hcs⟩ := List.head?_eq_some_iff.1 hhead
  rw [← readNumber_toString i hr, hcs, List.cons_append, readValue_number hc]

theorem readValue_text (n : Nat) (d : Decimal) {r : List Char} (hr : EndsNumber r) :
    readValue (n + 1) (d.text.toList ++ r) = some (.real d, r) := by
  obtain ⟨c, hhead, hc⟩ := head?_text d
  obtain ⟨cs, hcs⟩ := List.head?_eq_some_iff.1 hhead
  rw [← readNumber_text d hr, hcs, List.cons_append, readValue_number hc]

/-- A string is read back. -/
theorem readValue_quote (n : Nat) (s : String) (r : List Char) :
    readValue (n + 1) ((quote s).toList ++ r) = some (.str s, r) := by
  rw [quote_append]
  unfold readValue
  rw [skip_cons rfl]
  simp [readString_quoted]

/-- An array is read item by item. -/
theorem readValue_arr {lead cs r : List Char} {js : List Json} {n : Nat} (hlead : Blank lead)
    (hcs : Begins ']' cs) (h : readItems n cs = some (js, r)) :
    readValue (n + 1) ('[' :: (lead ++ cs)) = some (.arr js, r) := by
  obtain ⟨c, hhead, hblank, hclose⟩ := hcs
  obtain ⟨cs, rfl⟩ := List.head?_eq_some_iff.1 hhead
  unfold readValue
  rw [skip_cons rfl]
  simp only [↓Char.isValue]
  rw [skip_append hlead, skip_cons hblank]
  split
  · next heq =>
    cases heq
    exact absurd rfl hclose
  · rw [h]
    rfl

theorem readItems_last {lead cs r : List Char} {j : Json} {n : Nat} (hlead : Blank lead)
    (h : readValue n cs = some (j, lead ++ ']' :: r)) :
    readItems (n + 1) cs = some ([j], r) := by
  unfold readItems
  rw [h]
  simp only [Option.bind_eq_bind, Option.bind_some]
  rw [skip_append hlead, skip_cons rfl]
  rfl

/-- After a comma there is one more item. -/
theorem readItems_more {lead cs cs' r : List Char} {j : Json} {js : List Json} {n : Nat}
    (hlead : Blank lead) (h : readValue n cs = some (j, ',' :: (lead ++ cs')))
    (hmore : readItems n cs' = some (js, r)) : readItems (n + 1) cs = some (j :: js, r) := by
  unfold readItems
  rw [h]
  simp only [Option.bind_eq_bind, Option.bind_some]
  rw [skip_cons rfl]
  simp only [↓Char.isValue]
  rw [readItems_append hlead, hmore]
  rfl

/-- An object is read field by field. -/
theorem readValue_obj {lead cs r : List Char} {fs : List (String × Json)} {n : Nat}
    (hlead : Blank lead) (hcs : Begins '\x7d' cs) (h : readFields n cs = some (fs, r)) :
    readValue (n + 1) ('\x7b' :: (lead ++ cs)) = some (.obj fs, r) := by
  obtain ⟨c, hhead, hblank, hclose⟩ := hcs
  obtain ⟨cs, rfl⟩ := List.head?_eq_some_iff.1 hhead
  unfold readValue
  rw [skip_cons rfl]
  simp only [↓Char.isValue]
  rw [skip_append hlead, skip_cons hblank]
  split
  · next heq =>
    cases heq
    exact absurd rfl hclose
  · rw [h]
    rfl

/-- A field, up to what stands behind its value. -/
theorem readFields_field {n : Nat} {k : String} {j : Json} {cs r : List Char}
    (h : readValue n cs = some (j, r)) :
    readFields (n + 1) ((quote k).toList ++ ':' :: ' ' :: cs) =
      match skip r with
      | '\x7d' :: r => some ([(k, j)], r)
      | ',' :: r => (readFields n r).bind fun (fs, r) => some ((k, j) :: fs, r)
      | _ => none := by
  have hvalue : readValue n (' ' :: cs) = some (j, r) := by
    rw [← h]
    exact readValue_append (show Blank [' '] from List.forall_mem_singleton.2 rfl) n cs
  rw [quote_append]
  conv_lhs => unfold readFields
  rw [skip_cons rfl]
  simp only [↓Char.isValue]
  rw [readString_quoted]
  simp only [Option.bind_eq_bind, Option.bind_some]
  rw [skip_cons rfl]
  simp only [↓Char.isValue]
  rw [hvalue]
  simp only [Option.bind_some, String.ofList_toList]
  rfl

theorem readFields_last {lead cs r : List Char} {k : String} {j : Json} {n : Nat}
    (hlead : Blank lead) (h : readValue n cs = some (j, lead ++ '\x7d' :: r)) :
    readFields (n + 1) ((quote k).toList ++ ':' :: ' ' :: cs) = some ([(k, j)], r) := by
  rw [readFields_field h, skip_append hlead, skip_cons rfl]
  rfl

/-- After a comma there is one more field. -/
theorem readFields_more {lead cs cs' r : List Char} {k : String} {j : Json}
    {fs : List (String × Json)} {n : Nat} (hlead : Blank lead)
    (h : readValue n cs = some (j, ',' :: (lead ++ cs')))
    (hmore : readFields n cs' = some (fs, r)) :
    readFields (n + 1) ((quote k).toList ++ ':' :: ' ' :: cs) = some ((k, j) :: fs, r) := by
  rw [readFields_field h, skip_cons rfl]
  simp only [↓Char.isValue]
  rw [readFields_append hlead, hmore]
  rfl

/-! ## The text of a list, piece by piece -/

theorem write_arr (newline : String) (j : Json) (js : List Json) (r : List Char) :
    (write newline (.arr (j :: js))).toList ++ r =
      '[' :: ((newline ++ "  ").toList ++ ((write (newline ++ "  ") j).toList ++
        ((writeItems (newline ++ "  ") js).toList ++ (newline.toList ++ ']' :: r)))) := by
  simp [write]

theorem writeItems_cons (newline : String) (j : Json) (js : List Json) (r : List Char) :
    (writeItems newline (j :: js)).toList ++ r =
      ',' :: (newline.toList ++ ((write newline j).toList ++
        ((writeItems newline js).toList ++ r))) := by
  simp [writeItems]

theorem write_obj (newline k : String) (j : Json) (fs : List (String × Json)) (r : List Char) :
    (write newline (.obj ((k, j) :: fs))).toList ++ r =
      '\x7b' :: ((newline ++ "  ").toList ++ ((quote k).toList ++ ':' :: ' ' ::
        ((write (newline ++ "  ") j).toList ++
          ((writeFields (newline ++ "  ") fs).toList ++ (newline.toList ++ '\x7d' :: r))))) := by
  simp [write]

theorem writeFields_cons (newline k : String) (j : Json) (fs : List (String × Json))
    (r : List Char) :
    (writeFields newline ((k, j) :: fs)).toList ++ r =
      ',' :: (newline.toList ++ ((quote k).toList ++ ':' :: ' ' :: ((write newline j).toList ++
        ((writeFields newline fs).toList ++ r)))) := by
  simp [writeFields]

/-- The items of an array are shorter than the array, so the induction can go on with them. -/
theorem length_write_arr (newline : String) (j : Json) (js : List Json) :
    (write (newline ++ "  ") j).toList.length + (writeItems (newline ++ "  ") js).toList.length + 1 <
      (write newline (.arr (j :: js))).toList.length := by
  rw [← List.append_nil (write newline _).toList, write_arr]
  simp only [List.length_append, List.length_cons]
  omega

theorem length_write_obj (newline k : String) (j : Json) (fs : List (String × Json)) :
    (write (newline ++ "  ") j).toList.length + (writeFields (newline ++ "  ") fs).toList.length + 1 <
      (write newline (.obj ((k, j) :: fs))).toList.length := by
  rw [← List.append_nil (write newline _).toList, write_obj]
  simp only [List.length_append, List.length_cons]
  omega

theorem isNumeric_of_isBlank {c : Char} (h : isBlank c = true) : isNumeric c = false := by
  simp only [isBlank, Bool.or_eq_true, decide_eq_true_eq] at h
  rcases h with ((rfl | rfl) | rfl) | rfl <;> rfl

theorem endsNumber_cons {c : Char} (hc : isNumeric c = false) (r : List Char) :
    EndsNumber (c :: r) := by
  rintro d ⟨⟩
  exact hc

/-- A number ends before blanks that a sign follows. -/
theorem endsNumber_append {lead : List Char} (h : Blank lead) {c : Char}
    (hc : isNumeric c = false) (r : List Char) : EndsNumber (lead ++ c :: r) := by
  cases lead with
  | nil => exact endsNumber_cons hc r
  | cons b lead => exact endsNumber_cons (isNumeric_of_isBlank (h b List.mem_cons_self)) _

/-- No number goes on behind an item. -/
theorem endsNumber_writeItems (newline : String) (js : List Json) {lead : List Char}
    (h : Blank lead) (r : List Char) :
    EndsNumber ((writeItems newline js).toList ++ (lead ++ ']' :: r)) := by
  cases js with
  | nil =>
    rw [writeItems]
    exact endsNumber_append h rfl r
  | cons j js =>
    rw [writeItems_cons]
    exact endsNumber_cons rfl _

theorem endsNumber_writeFields (newline : String) (fs : List (String × Json)) {lead : List Char}
    (h : Blank lead) (r : List Char) :
    EndsNumber ((writeFields newline fs).toList ++ (lead ++ '\x7d' :: r)) := by
  cases fs with
  | nil =>
    rw [writeFields]
    exact endsNumber_append h rfl r
  | cons f fs =>
    obtain ⟨k, j⟩ := f
    rw [writeFields_cons]
    exact endsNumber_cons rfl _

theorem Blank.inner {newline : String} (h : Blank newline.toList) :
    Blank (newline ++ "  ").toList := by
  have hspaces : Blank "  ".toList := by
    simp [Blank, isBlank]
  intro c hc
  rw [String.toList_append, List.mem_append] at hc
  exact hc.elim (h c) (hspaces c)

/-! ## Values -/

/-- With `n` to spend, each text of at most that length is read back. -/
structure ReadsBack (n : Nat) : Prop where
  value : ∀ (j : Json) {newline : String} {r : List Char}, Blank newline.toList →
    (write newline j).toList.length ≤ n → EndsNumber r →
    readValue n ((write newline j).toList ++ r) = some (j, r)
  items : ∀ (j : Json) (js : List Json) {newline : String} {lead r : List Char},
    Blank newline.toList → Blank lead →
    (write newline j).toList.length + (writeItems newline js).toList.length < n →
    readItems n ((write newline j).toList ++ ((writeItems newline js).toList ++
      (lead ++ ']' :: r))) = some (j :: js, r)
  fields : ∀ (k : String) (j : Json) (fs : List (String × Json)) {newline : String}
    {lead r : List Char}, Blank newline.toList → Blank lead →
    (write newline j).toList.length + (writeFields newline fs).toList.length < n →
    readFields n ((quote k).toList ++ ':' :: ' ' :: ((write newline j).toList ++
      ((writeFields newline fs).toList ++ (lead ++ '\x7d' :: r)))) = some ((k, j) :: fs, r)

namespace ReadsBack

variable {n : Nat} {newline : String} {lead r : List Char}

/-- Values are read back if their items and fields are. -/
theorem value_succ (h : ReadsBack n) (j : Json) (hnewline : Blank newline.toList)
    (hn : (write newline j).toList.length ≤ n + 1) (hr : EndsNumber r) :
    readValue (n + 1) ((write newline j).toList ++ r) = some (j, r) := by
  cases j with
  | null =>
    rw [write]
    rfl
  | bool b =>
    rw [write]
    cases b <;> rfl
  | int i =>
    rw [write]
    exact readValue_toString n i hr
  | real d =>
    rw [write]
    exact readValue_text n d hr
  | str s =>
    rw [write]
    exact readValue_quote n s r
  | arr js =>
    cases js with
    | nil =>
      rw [write]
      rfl
    | cons j js =>
      -- The brackets are two characters, and one step of the reader is spent on them.
      have hlength := Nat.lt_of_lt_of_le (length_write_arr newline j js) hn
      rw [write_arr]
      exact readValue_arr hnewline.inner ((begins_write _ j).append _)
        (h.items j js hnewline.inner hnewline (Nat.lt_of_succ_lt_succ hlength))
  | obj fs =>
    cases fs with
    | nil =>
      rw [write]
      rfl
    | cons f fs =>
      obtain ⟨k, j⟩ := f
      have hlength := Nat.lt_of_lt_of_le (length_write_obj newline k j fs) hn
      rw [write_obj]
      refine readValue_obj hnewline.inner ?_
        (h.fields k j fs hnewline.inner hnewline (Nat.lt_of_succ_lt_succ hlength))
      rw [quote_append]
      exact ⟨'"', rfl, rfl, by decide⟩

/-- Items are read back if the first one and the rest are. -/
theorem items_succ (h : ReadsBack n) (j : Json) (js : List Json) (hnewline : Blank newline.toList)
    (hlead : Blank lead)
    (hn : (write newline j).toList.length + (writeItems newline js).toList.length < n + 1) :
    readItems (n + 1) ((write newline j).toList ++ ((writeItems newline js).toList ++
      (lead ++ ']' :: r))) = some (j :: js, r) := by
  have hvalue := h.value j hnewline (by omega) (endsNumber_writeItems newline js hlead r)
  cases js with
  | nil =>
    rw [writeItems] at hvalue ⊢
    exact readItems_last hlead hvalue
  | cons j' js =>
    have hlength := congrArg List.length (writeItems_cons newline j' js [])
    simp only [List.length_append, List.length_cons, List.length_nil] at hlength
    have hpos := length_write_pos newline j
    rw [writeItems_cons] at hvalue ⊢
    exact readItems_more hnewline hvalue (h.items j' js hnewline hlead (by omega))

/-- Fields are read back if the first one and the rest are. -/
theorem fields_succ (h : ReadsBack n) (k : String) (j : Json) (fs : List (String × Json))
    (hnewline : Blank newline.toList) (hlead : Blank lead)
    (hn : (write newline j).toList.length + (writeFields newline fs).toList.length < n + 1) :
    readFields (n + 1) ((quote k).toList ++ ':' :: ' ' :: ((write newline j).toList ++
      ((writeFields newline fs).toList ++ (lead ++ '\x7d' :: r)))) = some ((k, j) :: fs, r) := by
  have hvalue := h.value j hnewline (by omega) (endsNumber_writeFields newline fs hlead r)
  cases fs with
  | nil =>
    rw [writeFields] at hvalue ⊢
    exact readFields_last hlead hvalue
  | cons f fs =>
    obtain ⟨k', j'⟩ := f
    have hlength := congrArg List.length (writeFields_cons newline k' j' fs [])
    simp only [List.length_append, List.length_cons, List.length_nil] at hlength
    have hpos := length_write_pos newline j
    rw [writeFields_cons] at hvalue ⊢
    exact readFields_more hnewline hvalue (h.fields k' j' fs hnewline hlead (by omega))

end ReadsBack

/-- Texts of any length are read back. -/
theorem readsBack (n : Nat) : ReadsBack n := by
  induction n with
  | zero =>
    refine ⟨fun j newline r _ hn => ?_, fun j js newline lead r _ _ hn => ?_,
      fun k j fs newline lead r _ _ hn => ?_⟩
    · -- No text is empty.
      have hpos := length_write_pos newline j
      omega
    · omega
    · omega
  | succ n ih =>
    exact ⟨fun j _ _ => ih.value_succ j, fun j js _ _ _ => ih.items_succ j js,
      fun k j fs _ _ _ => ih.fields_succ k j fs⟩

/-- **Reading takes back what writing made**, for every value and all blanks between the lines. -/
theorem read?_write {newline : String} (h : Blank newline.toList) (j : Json) :
    read? (write newline j) = some j := by
  have hread := (readsBack (2 * (write newline j).toList.length + 2)).value j (r := []) h
    (by omega) nofun
  rw [List.append_nil] at hread
  show (readValue _ (write newline j).toList).bind _ = _
  rw [hread]
  rfl

example : write "" (.str "\"é\x01😀") = "\"\\\"\\u00e9\\u0001\\ud83d\\ude00\"" := by decide

/-- The text that is sent is read back. -/
theorem read?_pretty (j : Json) : read? j.pretty = some j := by
  have hnewline : Blank "\n".toList := by
    simp [Blank, isBlank]
  exact read?_write hnewline j

/-! ## Nothing but ASCII -/

def Ascii (s : String) : Prop := ∀ c ∈ s.toList, c.toNat < 0x80

instance (s : String) : Decidable (Ascii s) :=
  List.decidableBAll (fun c : Char => c.toNat < 0x80) s.toList

theorem ascii_append {s t : String} : Ascii (s ++ t) ↔ Ascii s ∧ Ascii t := by
  simp only [Ascii, String.toList_append, List.mem_append, or_imp, forall_and]

theorem lt_of_mem_unitChars {n : Nat} {c : Char} (h : c ∈ unitChars n) : c.toNat < 0x80 := by
  simp only [unitChars, List.mem_cons, List.not_mem_nil, or_false] at h
  rcases h with rfl | rfl | rfl | rfl | rfl | rfl
  · decide
  · decide
  all_goals exact (hexDigit_all _ (Nat.mod_lt _ (by decide))).2.2

/-- Every character of a string is written in ASCII. -/
theorem lt_of_mem_quotedChars {c d : Char} (h : d ∈ quotedChars c) : d.toNat < 0x80 := by
  by_cases hc : c ∈ lettered
  · have hall : lettered.all (fun c => (quotedChars c).all fun d => d.toNat < 0x80) = true := by
      decide
    simp only [List.all_eq_true, decide_eq_true_eq] at hall
    exact hall c hc d h
  rw [quotedChars_of_not_lettered hc] at h
  split at h
  · next hplain =>
    rw [List.mem_singleton.1 h]
    omega
  split at h
  · exact lt_of_mem_unitChars h
  · exact (List.mem_append.1 h).elim lt_of_mem_unitChars lt_of_mem_unitChars

theorem ascii_quote (s : String) : Ascii (quote s) := by
  intro d hd
  rw [← List.append_nil (quote s).toList, quote_append, List.mem_cons, List.mem_append,
    List.mem_singleton, List.mem_flatMap] at hd
  rcases hd with rfl | ⟨c, -, hd⟩ | rfl
  · decide
  · exact lt_of_mem_quotedChars hd
  · decide

theorem lt_of_isDigit {c : Char} (h : Decimal.isDigit c = true) : c.toNat < 0x80 := by
  simp only [Decimal.isDigit, Bool.and_eq_true, decide_eq_true_eq] at h
  have hle : c.toNat ≤ '9'.toNat := h.2
  exact Nat.lt_of_le_of_lt hle (by decide)

theorem ascii_toString (n : Int) : Ascii (toString n) := by
  intro c hc
  rw [toList_toString] at hc
  split at hc
  · exact lt_of_isDigit (isDigit_of_mem_toDigits hc)
  · rcases List.mem_cons.1 hc with rfl | hc
    · decide
    · exact lt_of_isDigit (isDigit_of_mem_toDigits hc)

theorem ascii_text (d : Decimal) : Ascii d.text := by
  have hsign : Ascii (if d.negative then "-" else "") := by
    split <;> decide
  have hdigits : Ascii (toString d.digits) := ascii_toString d.digits
  simp only [Decimal.text, ascii_append]
  exact ⟨⟨⟨hsign, hdigits⟩, by decide⟩, ascii_toString d.exponent⟩

mutual

/-- The text of a value is ASCII.  The proof follows the value, with one lemma for its items and one
for its fields. -/
theorem ascii_write {newline : String} (h : Ascii newline) : (j : Json) → Ascii (write newline j)
  | .null => by
    rw [write]
    decide
  | .bool b => by
    rw [write]
    cases b <;> decide
  | .int n => by
    rw [write]
    exact ascii_toString n
  | .real d => by
    rw [write]
    exact ascii_text d
  | .str s => by
    rw [write]
    exact ascii_quote s
  | .arr [] => by
    rw [write]
    decide
  | .arr (j :: js) => by
    have hinner : Ascii (newline ++ "  ") := ascii_append.2 ⟨h, by decide⟩
    rw [write]
    simp only [ascii_append]
    exact ⟨⟨⟨⟨⟨by decide, h, by decide⟩, ascii_write hinner j⟩, ascii_writeItems hinner js⟩, h⟩,
      by decide⟩
  | .obj [] => by
    rw [write]
    decide
  | .obj ((k, j) :: fs) => by
    have hinner : Ascii (newline ++ "  ") := ascii_append.2 ⟨h, by decide⟩
    rw [write]
    simp only [ascii_append]
    exact ⟨⟨⟨⟨⟨⟨⟨by decide, h, by decide⟩, ascii_quote k⟩, by decide⟩, ascii_write hinner j⟩,
      ascii_writeFields hinner fs⟩, h⟩, by decide⟩

theorem ascii_writeItems {newline : String} (h : Ascii newline) :
    (js : List Json) → Ascii (writeItems newline js)
  | [] => by
    rw [writeItems]
    decide
  | j :: js => by
    simp only [writeItems, ascii_append]
    exact ⟨⟨⟨by decide, h⟩, ascii_write h j⟩, ascii_writeItems h js⟩

theorem ascii_writeFields {newline : String} (h : Ascii newline) :
    (fs : List (String × Json)) → Ascii (writeFields newline fs)
  | [] => by
    rw [writeFields]
    decide
  | (k, j) :: fs => by
    simp only [writeFields, ascii_append]
    exact ⟨⟨⟨⟨⟨by decide, h⟩, ascii_quote k⟩, by decide⟩, ascii_write h j⟩,
      ascii_writeFields h fs⟩

end

/-- The text that is sent is ASCII. -/
theorem ascii_pretty (j : Json) : Ascii j.pretty := ascii_write (by decide) j

end DocTemplate.Json
