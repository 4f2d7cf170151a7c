import DocTemplate.Text.Utf8

/-!
# Reading what was written

Text written as UTF-8 is read back without a fault:

    decode (encode s) = s.toList.map .char

A character takes one to four bytes, and for each length there is one lemma that says when the
bytes are read as one piece.  The byte values are then a matter of arithmetic.
-/

namespace DocTemplate.Utf8

/-! ## Pieces of one to four bytes -/

section Pieces

variable {a b c d : UInt8} (rest : List UInt8)

/-- A byte that no other follows is a character by itself. -/
theorem decode_one (ha : followers a = some 0) :
    decode (a :: rest) = .char (Char.ofNat (codePoint a [])) :: decode rest := by
  rw [decode]
  split <;> simp_all

theorem decode_two (ha : followers a = some 1) (hb : isSecond a b = true) :
    decode (a :: b :: rest) = .char (Char.ofNat (codePoint a [b])) :: decode rest := by
  rw [decode]
  simp [ha, hb]

/-- The second byte has bounds of its own; all others are continuation bytes. -/
theorem decode_three (ha : followers a = some 2) (hb : isSecond a b = true)
    (hc : isContinuation c = true) :
    decode (a :: b :: c :: rest) = .char (Char.ofNat (codePoint a [b, c])) :: decode rest := by
  rw [decode]
  simp [ha, hb, hc]

theorem decode_four (ha : followers a = some 3) (hb : isSecond a b = true)
    (hc : isContinuation c = true) (hd : isContinuation d = true) :
    decode (a :: b :: c :: d :: rest) =
      .char (Char.ofNat (codePoint a [b, c, d])) :: decode rest := by
  rw [decode]
  simp [ha, hb, hc, hd]

end Pieces

/-! ## Bytes as numbers -/

theorem isContinuation_iff (b : UInt8) :
    isContinuation b = true ↔ 0x80 ≤ b.toNat ∧ b.toNat < 0xC0 := by
  simp [isContinuation, UInt8.le_iff_toNat_le, UInt8.lt_iff_toNat_lt]

/-- The bounds of a second byte keep out long forms, surrogates and what is above U+10FFFF. -/
theorem isSecond_iff (a b : UInt8) :
    isSecond a b = true ↔
      (0x80 ≤ b.toNat ∧ b.toNat < 0xC0) ∧
      (a.toNat = 0xE0 → 0xA0 ≤ b.toNat) ∧ (a.toNat = 0xED → b.toNat < 0xA0) ∧
      (a.toNat = 0xF0 → 0x90 ≤ b.toNat) ∧ (a.toNat = 0xF4 → b.toNat < 0x90) := by
  simp [isSecond, isContinuation_iff, UInt8.le_iff_toNat_le, UInt8.lt_iff_toNat_lt,
    ← UInt8.toNat_inj, and_assoc]
  omega

/-- How many bytes follow a first byte, by its value. -/
theorem followers_eq (b : UInt8) :
    followers b =
      if b.toNat < 0x80 then some 0
      else if b.toNat < 0xC2 then none
      else if b.toNat < 0xE0 then some 1
      else if b.toNat < 0xF0 then some 2
      else if b.toNat < 0xF5 then some 3
      else none := by
  simp [followers, UInt8.lt_iff_toNat_lt]

/-! ## Characters

One lemma for each number of bytes that a code point takes.  The bounds on the code point leave out
what the second byte must not be. -/

section Characters

variable {v : Nat} (rest : List UInt8)

theorem decode_ofNat_one (h : v < 0x80) :
    decode (UInt8.ofNat v :: rest) = .char (Char.ofNat v) :: decode rest := by
  have ha := UInt8.toNat_ofNat' (n := v)
  generalize UInt8.ofNat v = a at ha ⊢
  have hfirst : followers a = some 0 := by rw [followers_eq, if_pos (by omega)]
  have hpoint : codePoint a [] = v := by
    show a.toNat = v
    omega
  rw [decode_one rest hfirst, hpoint]

/-- The bytes of a character hold its bits, six in each but the first. -/
theorem decode_ofNat_two (h : 0x80 ≤ v) (h' : v < 0x800) :
    decode (UInt8.ofNat (v / 64 % 32 + 192) :: UInt8.ofNat (v % 64 + 128) :: rest) =
      .char (Char.ofNat v) :: decode rest := by
  have ha := UInt8.toNat_ofNat' (n := v / 64 % 32 + 192)
  have hb := UInt8.toNat_ofNat' (n := v % 64 + 128)
  generalize UInt8.ofNat (v / 64 % 32 + 192) = a at ha ⊢
  generalize UInt8.ofNat (v % 64 + 128) = b at hb ⊢
  have hfirst : followers a = some 1 := by
    rw [followers_eq, if_neg (by omega), if_neg (by omega), if_pos (by omega)]
  have hpoint : codePoint a [b] = v := by
    show (a.toNat - 0xC0) * 64 + (b.toNat - 0x80) = v
    omega
  rw [decode_two rest hfirst ((isSecond_iff a b).mpr (by omega)), hpoint]

theorem decode_ofNat_three (h : 0x800 ≤ v) (h' : v < 0x10000)
    (hs : v < 0xD800 ∨ 0xDFFF < v) :
    decode (UInt8.ofNat (v / 4096 % 16 + 224) :: UInt8.ofNat (v / 64 % 64 + 128) ::
        UInt8.ofNat (v % 64 + 128) :: rest) = .char (Char.ofNat v) :: decode rest := by
  have ha := UInt8.toNat_ofNat' (n := v / 4096 % 16 + 224)
  have hb := UInt8.toNat_ofNat' (n := v / 64 % 64 + 128)
  have hc := UInt8.toNat_ofNat' (n := v % 64 + 128)
  generalize UInt8.ofNat (v / 4096 % 16 + 224) = a at ha ⊢
  generalize UInt8.ofNat (v / 64 % 64 + 128) = b at hb ⊢
  generalize UInt8.ofNat (v % 64 + 128) = c at hc ⊢
  have hfirst : followers a = some 2 := by
    rw [followers_eq, if_neg (by omega), if_neg (by omega), if_neg (by omega), if_pos (by omega)]
  have hpoint : codePoint a [b, c] = v := by
    show ((a.toNat - 0xE0) * 64 + (b.toNat - 0x80)) * 64 + (c.toNat - 0x80) = v
    omega
  rw [decode_three rest hfirst ((isSecond_iff a b).mpr (by omega))
    ((isContinuation_iff c).mpr (by omega)), hpoint]

theorem decode_ofNat_four (h : 0x10000 ≤ v) (h' : v < 0x110000) :
    decode (UInt8.ofNat (v / 262144 % 8 + 240) :: UInt8.ofNat (v / 4096 % 64 + 128) ::
        UInt8.ofNat (v / 64 % 64 + 128) :: UInt8.ofNat (v % 64 + 128) :: rest) =
      .char (Char.ofNat v) :: decode rest := by
  have ha := UInt8.toNat_ofNat' (n := v / 262144 % 8 + 240)
  have hb := UInt8.toNat_ofNat' (n := v / 4096 % 64 + 128)
  have hc := UInt8.toNat_ofNat' (n := v / 64 % 64 + 128)
  have hd := UInt8.toNat_ofNat' (n := v % 64 + 128)
  generalize UInt8.ofNat (v / 262144 % 8 + 240) = a at ha ⊢
  generalize UInt8.ofNat (v / 4096 % 64 + 128) = b at hb ⊢
  generalize UInt8.ofNat (v / 64 % 64 + 128) = c at hc ⊢
  generalize UInt8.ofNat (v % 64 + 128) = d at hd ⊢
  have hfirst : followers a = some 3 := by
    rw [followers_eq, if_neg (by omega), if_neg (by omega), if_neg (by omega),
      if_neg (by omega), if_pos (by omega)]
  have hpoint : codePoint a [b, c, d] = v := by
    show (((a.toNat - 0xF0) * 64 + (b.toNat - 0x80)) * 64 + (c.toNat - 0x80)) * 64 +
      (d.toNat - 0x80) = v
    omega
  rw [decode_four rest hfirst ((isSecond_iff a b).mpr (by omega))
    ((isContinuation_iff c).mpr (by omega)) ((isContinuation_iff d).mpr (by omega)), hpoint]

/-- The bytes of a character are read as this character, whatever comes after them. -/
theorem decode_char (c : Char) :
    decode (String.utf8EncodeChar c ++ rest) = .char c :: decode rest := by
  have hvalid : c.val.toNat < 0xD800 ∨ (0xDFFF < c.val.toNat ∧ c.val.toNat < 0x110000) := c.valid
  have hchar : Char.ofNat c.val.toNat = c := Char.ofNat_toNat c
  rw [String.utf8EncodeChar.eq_1]
  split
  · have h := decode_ofNat_one rest (v := c.val.toNat) (by omega)
    rw [hchar] at h
    exact h
  split
  · have h := decode_ofNat_two rest (v := c.val.toNat) (by omega) (by omega)
    rw [hchar] at h
    exact h
  split
  · have h := decode_ofNat_three rest (v := c.val.toNat) (by omega) (by omega) (by omega)
    rw [hchar] at h
    exact h
  · have h := decode_ofNat_four rest (v := c.val.toNat) (by omega) (by omega)
    rw [hchar] at h
    exact h

end Characters

/-- Text that was written as UTF-8 is read without a fault. -/
theorem decode_encode (s : String) : decode (encode s) = s.toList.map .char := by
  unfold encode
  induction s.toList with
  | nil => rfl
  | cons c cs ih => rw [List.flatMap_cons, decode_char, ih, List.map_cons]

/-- Reading that puts a sign in place of faults gives the text back. -/
theorem decodeLossy_encode (s : String) : decodeLossy (encode s) = s := by
  have hchar : Piece.charLossy ∘ Piece.char = id := rfl
  rw [decodeLossy, decode_encode, List.map_map, hchar, List.map_id, String.ofList_toList]

theorem encode_append (s t : String) : encode (s ++ t) = encode s ++ encode t := by
  rw [encode, String.toList_append, List.flatMap_append, encode, encode]

end DocTemplate.Utf8
