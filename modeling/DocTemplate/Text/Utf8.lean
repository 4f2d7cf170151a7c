/-!
# UTF-8

`encode` writes a text as bytes.  `decode` cuts bytes into pieces: a character, or a stretch that no
character can start with.  Such a stretch is as long as the part of it that could still have become
a character, so that every fault is one piece (`Piece.bad`).

Two readings come from the pieces:

    decodeLossy bs     every bad piece is read as U+FFFD
    decode? bs         the text, or the first fault with its place

-/

namespace DocTemplate.Utf8

def encode (s : String) : List UInt8 := s.toList.flatMap String.utf8EncodeChar

/-- Why bytes cannot be read as a character. -/
inductive Reason where
  | start
  | continuation
  | ending
  deriving DecidableEq, Repr

def Reason.message : Reason → String
  | .start => "invalid start byte"
  | .continuation => "invalid continuation byte"
  | .ending => "unexpected end of data"

/-- A stretch of bytes: a character, or bytes that cannot be read. -/
inductive Piece where
  | char (c : Char)
  | bad (why : Reason) (bytes : List UInt8)
  deriving DecidableEq, Repr

/-! ## Decoding -/

/-- How many bytes follow the first byte of a character; none for a byte that starts none. -/
def followers (b : UInt8) : Option Nat :=
  if b < 0x80 then some 0
  else if b < 0xC2 then none
  else if b < 0xE0 then some 1
  else if b < 0xF0 then some 2
  else if b < 0xF5 then some 3
  else none

def isContinuation (b : UInt8) : Bool := 0x80 ≤ b && b < 0xC0

/-- The second byte of a character is narrowed by its first byte: no long forms, no surrogates and
nothing above U+10FFFF. -/
def isSecond (first b : UInt8) : Bool :=
  isContinuation b &&
    !((first == 0xE0 && b < 0xA0) || (first == 0xED && 0xA0 ≤ b) ||
      (first == 0xF0 && b < 0x90) || (first == 0xF4 && 0x90 ≤ b))

/-- The code point of a first byte, given how many bytes follow it, and of its followers. -/
def codePoint (first : UInt8) (rest : List UInt8) : Nat :=
  let head := match rest.length with
    | 0 => first.toNat
    | 1 => first.toNat - 0xC0
    | 2 => first.toNat - 0xE0
    | _ => first.toNat - 0xF0
  rest.foldl (fun n b => n * 64 + (b.toNat - 0x80)) head

/-- The pieces of a byte sequence.  A character that breaks off gives one bad piece, and reading
goes on with the byte that broke it. -/
def decode : List UInt8 → List Piece
  | [] => []
  | a :: r1 =>
    match followers a with
    | none => .bad .start [a] :: decode r1
    | some 0 => .char (Char.ofNat (codePoint a [])) :: decode r1
    | some n =>
      match r1 with
      | [] => [.bad .ending [a]]
      | b :: r2 =>
        if isSecond a b then
          if n = 1 then .char (Char.ofNat (codePoint a [b])) :: decode r2
          else
            match r2 with
            | [] => [.bad .ending [a, b]]
            | c :: r3 =>
              if isContinuation c then
                if n = 2 then .char (Char.ofNat (codePoint a [b, c])) :: decode r3
                else
                  match r3 with
                  | [] => [.bad .ending [a, b, c]]
                  | d :: r4 =>
                    if isContinuation d then
                      .char (Char.ofNat (codePoint a [b, c, d])) :: decode r4
                    else .bad .continuation [a, b, c] :: decode (d :: r4)
              else .bad .continuation [a, b] :: decode (c :: r3)
        else .bad .continuation [a] :: decode (b :: r2)

def Piece.charLossy : Piece → Char
  | .char c => c
  | .bad _ _ => '�'

/-- The text of some bytes, with U+FFFD for each bad piece. -/
def decodeLossy (bs : List UInt8) : String := String.ofList ((decode bs).map Piece.charLossy)

/-- A bad piece of a byte sequence and where it starts. -/
structure Fault where
  why : Reason
  position : Nat
  bytes : List UInt8
  deriving DecidableEq, Repr

def hexDigit (n : Nat) : Char := "0123456789abcdef".toList.getD n '0'

def hexByte (b : UInt8) : String := String.ofList [hexDigit (b.toNat / 16), hexDigit (b.toNat % 16)]

def Fault.message (f : Fault) : String :=
  let place := match f.bytes with
    | [b] => "byte 0x" ++ hexByte b ++ " in position " ++ toString f.position
    | bs => "bytes in position " ++ toString f.position ++ "-" ++
        toString (f.position + bs.length - 1)
  "'utf-8' codec can't decode " ++ place ++ ": " ++ f.why.message

/-- The characters of a list of pieces that starts at byte `position`, or its first fault. -/
def collect (position : Nat) : List Piece → Except Fault (List Char)
  | [] => .ok []
  | .char c :: ps => do
    let cs ← collect (position + c.utf8Size) ps
    return c :: cs
  | .bad why bytes :: _ => .error ⟨why, position, bytes⟩

def decode? (bs : List UInt8) : Except Fault String := do
  let cs ← collect 0 (decode bs)
  return String.ofList cs

end DocTemplate.Utf8
