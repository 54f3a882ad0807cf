import Mathlib.Tactic.SplitIfs
import Subtitler.Proofs.Text.Utf8
import Subtitler.Text.Percent

/-!
# Percent escapes read back

What is escaped is read back byte by byte (`decode_encode`). An escaped text has unreserved
characters and percent signs only, each of them one byte (`encode_escape`), so that a text is read
back from its escaped form, however it is cut out of a longer one.
-/

namespace Subtitler.Text.Percent

/-! ## Bytes -/

/-- What holds of the first 256 numbers as bytes holds of every byte. -/
theorem forall_byte {P : UInt8 → Prop} (h : ∀ n < 256, P (UInt8.ofNat n)) (b : UInt8) : P b := by
  have hbyte := h b.toNat b.toNat_lt
  rwa [UInt8.ofNat_toNat] at hbyte

/-- A byte that is no percent sign stands for itself, whatever follows. -/
theorem decode_cons_of_ne {b : UInt8} (h : b ≠ 0x25) (rest : List UInt8) :
    decode (b :: rest) = b :: decode rest := by
  match rest with
  | [] => rfl
  | [_] => rfl
  | _ :: _ :: _ => rw [decode, if_neg h]

theorem ne_percent_of_isUnreserved {b : UInt8} (h : isUnreserved b = true) : b ≠ 0x25 := by
  rintro rfl
  revert h
  decide

theorem hexPair?_hexDigit (b : UInt8) : hexPair? (hexDigit (b / 16)) (hexDigit (b % 16)) = some b :=
  forall_byte (P := fun b => hexPair? (hexDigit (b / 16)) (hexDigit (b % 16)) = some b)
    (by decide +kernel) b

theorem isUnreserved_hexDigit (b : UInt8) :
    isUnreserved (hexDigit (b / 16)) = true ∧ isUnreserved (hexDigit (b % 16)) = true :=
  forall_byte (P := fun b => isUnreserved (hexDigit (b / 16)) = true ∧
    isUnreserved (hexDigit (b % 16)) = true) (by decide +kernel) b

/-- Escaped bytes are read back. -/
theorem decode_encode (bytes : List UInt8) : decode (encode bytes) = bytes := by
  induction bytes with
  | nil => rfl
  | cons b rest ih =>
    rw [encode]
    split_ifs with hplain
    · rw [decode_cons_of_ne (ne_percent_of_isUnreserved hplain), ih]
    · rw [decode, if_pos rfl, hexPair?_hexDigit]
      exact congrArg (b :: ·) ih

theorem mem_encode {b : UInt8} {bytes : List UInt8} (h : b ∈ encode bytes) :
    isUnreserved b = true ∨ b = 0x25 := by
  induction bytes with
  | nil => cases h
  | cons c rest ih =>
    rw [encode] at h
    split_ifs at h with hplain
    · rcases List.mem_cons.1 h with rfl | h
      · exact Or.inl hplain
      · exact ih h
    · simp only [List.mem_cons] at h
      rcases h with rfl | rfl | rfl | h
      · exact Or.inr rfl
      · exact Or.inl (isUnreserved_hexDigit c).1
      · exact Or.inl (isUnreserved_hexDigit c).2
      · exact ih h

/-! ## Texts -/

/-- The ASCII character of a byte. -/
def asciiChar (b : UInt8) : Char := Char.ofNat b.toNat

/-- A text with its bytes escaped, but for the unreserved ones. -/
def escape (cs : List Char) : List Char := (encode (Utf8.encode cs)).map asciiChar

/-- An escaped text as a `String`. -/
def escaped (s : String) : String := String.ofList (escape s.toList)

/-- A byte of an escaped text is a character of its own, and none that takes an address apart. -/
theorem asciiChar_of_isPlain {b : UInt8} (h : isUnreserved b = true ∨ b = 0x25) :
    String.utf8EncodeChar (asciiChar b) = [b] ∧ asciiChar b ∉ ['/', '\\', '?', '#'] :=
  forall_byte (P := fun b => isUnreserved b = true ∨ b = 0x25 →
    String.utf8EncodeChar (asciiChar b) = [b] ∧ asciiChar b ∉ ['/', '\\', '?', '#'])
    (by decide +kernel) b h

/-- The bytes of an escaped text are the escaped bytes. -/
theorem encode_escape (cs : List Char) : Utf8.encode (escape cs) = encode (Utf8.encode cs) := by
  have hbytes : ∀ bytes : List UInt8, (∀ b ∈ bytes, isUnreserved b = true ∨ b = 0x25) →
      Utf8.encode (bytes.map asciiChar) = bytes := by
    intro bytes h
    induction bytes with
    | nil => rfl
    | cons b rest ih =>
      obtain ⟨hb, hrest⟩ := List.forall_mem_cons.1 h
      rw [Utf8.encode, List.map_cons, List.flatMap_cons, (asciiChar_of_isPlain hb).1,
        ← Utf8.encode, ih hrest]
      rfl
  exact hbytes _ fun b hb => mem_encode hb

theorem escape_plain {cs : List Char} : ∀ c ∈ escape cs, c ∉ ['/', '\\', '?', '#'] := by
  intro c hc
  obtain ⟨b, hb, rfl⟩ := List.mem_map.1 hc
  exact (asciiChar_of_isPlain (mem_encode hb)).2

end Subtitler.Text.Percent
