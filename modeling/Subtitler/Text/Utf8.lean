/-!
# UTF-8

Bytes are read piece by piece: a piece is a character, or a maximal run of bytes that starts a
character and breaks off (one byte that starts none is such a run too). Strict reading accepts
characters only; lenient reading puts U+FFFD in place of every other piece.
-/

namespace Subtitler.Text.Utf8

/-- A piece of a byte sequence: a character, bytes that start none or break one off, or bytes of a
character that the sequence ends in. -/
inductive Piece
  | char (c : Char)
  | broken (length : Nat)
  | cut (length : Nat)
deriving DecidableEq, Repr

/-- A character begun: the bits read so far, the bounds of the next byte, how many bytes are still
to come, and how many were read. -/
structure Pending where
  bits : Nat
  low : Nat
  high : Nat
  missing : Nat
  length : Nat

/-- What a byte means at the start of a character. -/
inductive Start
  | complete (c : Char)
  | pending (p : Pending)
  | broken

/-- Reads the first byte of a character. The bounds of the second byte keep out overlong forms,
surrogates and numbers above U+10FFFF. -/
def start (b : Nat) : Start :=
  if b < 0x80 then .complete (Char.ofNat b)
  else if b < 0xC2 then .broken
  else if b < 0xE0 then .pending ⟨b - 0xC0, 0x80, 0xBF, 1, 1⟩
  else if b = 0xE0 then .pending ⟨0, 0xA0, 0xBF, 2, 1⟩
  else if b = 0xED then .pending ⟨0xD, 0x80, 0x9F, 2, 1⟩
  else if b < 0xF0 then .pending ⟨b - 0xE0, 0x80, 0xBF, 2, 1⟩
  else if b = 0xF0 then .pending ⟨0, 0x90, 0xBF, 3, 1⟩
  else if b < 0xF4 then .pending ⟨b - 0xF0, 0x80, 0xBF, 3, 1⟩
  else if b = 0xF4 then .pending ⟨4, 0x80, 0x8F, 3, 1⟩
  else .broken

/-- The pieces of a byte sequence. -/
def pieces : Option Pending → List UInt8 → List Piece
  | none, [] => []
  | some p, [] => [.cut p.length]
  | none, b :: rest =>
    match start b.toNat with
    | .complete c => .char c :: pieces none rest
    | .pending p => pieces (some p) rest
    | .broken => .broken 1 :: pieces none rest
  | some p, b :: rest =>
    if p.low ≤ b.toNat && b.toNat ≤ p.high then
      let bits := p.bits * 64 + (b.toNat - 0x80)
      if p.missing ≤ 1 then .char (Char.ofNat bits) :: pieces none rest
      else pieces (some ⟨bits, 0x80, 0xBF, p.missing - 1, p.length + 1⟩) rest
    else
      .broken p.length :: match start b.toNat with
        | .complete c => .char c :: pieces none rest
        | .pending p => pieces (some p) rest
        | .broken => .broken 1 :: pieces none rest

/-- The character that a piece is. -/
def Piece.char? : Piece → Option Char
  | .char c => some c
  | _ => none

/-- The text that the bytes encode, if they encode one. -/
def decode? (bytes : List UInt8) : Option (List Char) := (pieces none bytes).mapM Piece.char?

/-- The text that the bytes encode, with U+FFFD for each piece that is no character. -/
def decodeLossy (bytes : List UInt8) : List Char :=
  (pieces none bytes).map fun piece => piece.char?.getD (Char.ofNat 0xFFFD)

/-- Describes the first piece that is no character; `index` is where the pieces start. -/
def fault? (index : Nat) : List Piece → Option String
  | [] => none
  | .char c :: rest => fault? (index + c.utf8Size) rest
  | .broken length :: _ => some s!"invalid utf-8 sequence of {length} bytes from index {index}"
  | .cut _ :: _ => some s!"incomplete utf-8 byte sequence from index {index}"

/-- Strict reading, with a description of what is wrong. -/
def decode (bytes : List UInt8) : Except String (List Char) :=
  match decode? bytes with
  | some cs => .ok cs
  | none => .error ((fault? 0 (pieces none bytes)).getD "")

/-- The bytes of a text. -/
def encode (cs : List Char) : List UInt8 := cs.flatMap String.utf8EncodeChar

/-- The bytes of a `String`. -/
def bytesOf (s : String) : List UInt8 := encode s.toList

/-- Strict reading into a `String`. -/
def text? (bytes : List UInt8) : Option String := (decode? bytes).map String.ofList

/-- Lenient reading into a `String`. -/
def textLossy (bytes : List UInt8) : String := String.ofList (decodeLossy bytes)

/-- The order of texts by their bytes, which is the order by code points. -/
def byteLt (s t : String) : Bool := decide (s < t)

end Subtitler.Text.Utf8
