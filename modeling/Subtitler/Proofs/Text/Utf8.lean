import Mathlib.Tactic.SplitIfs
import Subtitler.Text.Utf8

/-!
# UTF-8 read back

Every text is read back from its bytes (`decode?_encode`), since the bytes of a character are read
as one piece, the character (`pieces_encodeChar`).
-/

namespace Subtitler.Text.Utf8

variable {p : Pending} {rest : List UInt8}

/-! ## One byte -/

theorem toNat_ofNat {n : Nat} (h : n < 256) : (UInt8.ofNat n).toNat = n := by
  simp [Nat.mod_eq_of_lt h]

theorem pieces_start {n : Nat} (h : n < 256) (hstart : start n = .pending p) :
    pieces none (UInt8.ofNat n :: rest) = pieces (some p) rest := by
  rw [pieces, toNat_ofNat h, hstart]

/-- The last byte of a character completes it. -/
theorem pieces_last {x : Nat} (hlow : p.low ≤ x % 0x40 + 0x80) (hhigh : x % 0x40 + 0x80 ≤ p.high)
    (hmissing : p.missing = 1) : pieces (some p) (UInt8.ofNat (x % 0x40 + 0x80) :: rest) =
      .char (Char.ofNat (p.bits * 64 + x % 0x40)) :: pieces none rest := by
  have hbyte := toNat_ofNat (show x % 0x40 + 0x80 < 256 by omega)
  simp only [pieces, hbyte, hlow, hhigh, hmissing, decide_true, Bool.and_self, if_true,
    Nat.add_sub_cancel, Nat.le_refl]

theorem pieces_next {x : Nat} (hlow : p.low ≤ x % 0x40 + 0x80) (hhigh : x % 0x40 + 0x80 ≤ p.high)
    (hmissing : 1 < p.missing) : pieces (some p) (UInt8.ofNat (x % 0x40 + 0x80) :: rest) =
      pieces (some ⟨p.bits * 64 + x % 0x40, 0x80, 0xBF, p.missing - 1, p.length + 1⟩) rest := by
  have hbyte := toNat_ofNat (show x % 0x40 + 0x80 < 256 by omega)
  simp only [pieces, hbyte, hlow, hhigh, decide_true, Bool.and_self, if_true, Nat.add_sub_cancel,
    Nat.not_le.2 hmissing, if_false]

/-- The first of two bytes. -/
theorem start_two {n : Nat} (hlow : 0xC2 ≤ n) (hhigh : n < 0xE0) :
    start n = .pending ⟨n - 0xC0, 0x80, 0xBF, 1, 1⟩ := by
  unfold start
  split_ifs <;> first | omega | rfl

/-- The first of three bytes; the bounds of the second one leave out short and surrogate numbers. -/
theorem start_three {n : Nat} (hlow : 0xE0 ≤ n) (hhigh : n < 0xF0) :
    start n = .pending ⟨n - 0xE0, if n = 0xE0 then 0xA0 else 0x80,
      if n = 0xED then 0x9F else 0xBF, 2, 1⟩ := by
  unfold start
  split_ifs <;> first | omega | (subst_vars; rfl)

/-- The first of four bytes; the bounds of the second one leave out short and too large numbers. -/
theorem start_four {n : Nat} (hlow : 0xF0 ≤ n) (hhigh : n ≤ 0xF4) :
    start n = .pending ⟨n - 0xF0, if n = 0xF0 then 0x90 else 0x80,
      if n = 0xF4 then 0x8F else 0xBF, 3, 1⟩ := by
  unfold start
  split_ifs <;> first | omega | (subst_vars; rfl)

/-! ## One character -/

/-- The bytes of a character are one piece. -/
theorem pieces_encodeChar (c : Char) (rest : List UInt8) :
    pieces none (String.utf8EncodeChar c ++ rest) = .char c :: pieces none rest := by
  have hvalid : c.val.toNat < 0xD800 ∨ 0xDFFF < c.val.toNat ∧ c.val.toNat < 0x110000 := c.valid
  have hchar (n : Nat) (h : n = c.val.toNat) : Char.ofNat n = c := by
    rw [h]
    exact Char.ofNat_toNat c
  simp only [String.utf8EncodeChar]
  generalize c.val.toNat = v at hvalid hchar
  split_ifs with hone htwo hthree
  · have hstart : start v = .complete (Char.ofNat v) := by
      rw [start, if_pos (by omega)]
    rw [List.singleton_append, pieces, toNat_ofNat (by omega), hstart, hchar v rfl]
  · have hstart := @start_two (v / 64 % 0x20 + 0xc0) (by omega) (by omega)
    rw [List.cons_append, pieces_start (by omega) hstart, List.singleton_append,
      pieces_last (by dsimp only; omega) (by dsimp only; omega) rfl, hchar]
    dsimp only
    omega
  · have hstart := @start_three (v / 4096 % 0x10 + 0xe0) (by omega) (by omega)
    rw [List.cons_append, pieces_start (by omega) hstart, List.cons_append,
      pieces_next (by dsimp only; split_ifs <;> omega) (by dsimp only; split_ifs <;> omega)
        (by dsimp only; omega),
      List.singleton_append,
      pieces_last (by dsimp only; omega) (by dsimp only; omega) rfl, hchar]
    dsimp only
    omega
  · have hstart := @start_four (v / 262144 % 0x08 + 0xf0) (by omega) (by omega)
    rw [List.cons_append, pieces_start (by omega) hstart, List.cons_append,
      pieces_next (by dsimp only; split_ifs <;> omega) (by dsimp only; split_ifs <;> omega)
        (by dsimp only; omega),
      List.cons_append,
      pieces_next (by dsimp only; omega) (by dsimp only; omega) (by dsimp only; omega),
      List.singleton_append,
      pieces_last (by dsimp only; omega) (by dsimp only; omega) rfl, hchar]
    dsimp only
    omega

/-- The byte of an ASCII character is in no other character. -/
theorem eq_of_mem_encodeChar {c d : Char} {b : UInt8} (hd : d.toNat = b.toNat) (hb : b.toNat < 0x80)
    (h : b ∈ String.utf8EncodeChar c) : c = d := by
  have hnat : b.toNat ∈ (String.utf8EncodeChar c).map UInt8.toNat := List.mem_map_of_mem h
  apply Char.toNat_inj.1
  rw [hd]
  change c.val.toNat = b.toNat
  simp only [String.utf8EncodeChar] at hnat
  generalize c.val.toNat = v at hnat
  split_ifs at hnat <;>
    simp only [List.map_cons, List.map_nil, List.mem_cons, List.not_mem_nil, or_false,
      UInt8.toNat_ofNat'] at hnat <;>
    omega

/-! ## Texts -/

/-- Where an ASCII character is not, its byte is not either. -/
theorem not_mem_encode {cs : List Char} {d : Char} {b : UInt8} (hd : d.toNat = b.toNat)
    (hb : b.toNat < 0x80) (h : d ∉ cs) : b ∉ encode cs := by
  intro hbyte
  obtain ⟨c, hc, hbyte⟩ := List.mem_flatMap.1 hbyte
  exact h (eq_of_mem_encodeChar hd hb hbyte ▸ hc)

theorem pieces_encode (cs : List Char) : pieces none (encode cs) = cs.map .char := by
  induction cs with
  | nil => rfl
  | cons c cs ih => rw [encode, List.flatMap_cons, pieces_encodeChar, ← encode, ih, List.map_cons]

/-- A text is read back from its bytes. -/
theorem decode?_encode (cs : List Char) : decode? (encode cs) = some cs := by
  rw [decode?, pieces_encode]
  induction cs with
  | nil => rfl
  | cons c cs ih => simp_all [Piece.char?]

end Subtitler.Text.Utf8
