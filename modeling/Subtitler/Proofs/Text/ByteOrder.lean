import Mathlib.Data.Char
import Mathlib.Data.List.Lex
import Subtitler.Proofs.Text.Utf8

/-!
# The order of bytes

Texts are compared by their code points. Comparing their bytes gives the same order
(`encode_lt_encode_iff`): of two characters, the lesser one has the lesser byte at the first place
where their bytes differ, so that nothing that follows them matters (`encodeChar_append_lt`).
-/

namespace Subtitler.Text.Utf8

/-- The bytes of a lesser character come first, whatever follows. -/
theorem encodeChar_append_lt {c d : Char} (h : c < d) (s t : List UInt8) :
    String.utf8EncodeChar c ++ s < String.utf8EncodeChar d ++ t := by
  have hvalid : d.val.toNat < 0xD800 ∨ 0xDFFF < d.val.toNat ∧ d.val.toNat < 0x110000 := d.valid
  have hlt : c.val.toNat < d.val.toNat := h
  have hdigits (x : Nat) (hx : x < 0x110000) :
      x / 64 / 64 = x / 4096 ∧ x / 4096 / 64 = x / 262144 ∧ x / 262144 / 8 = 0 :=
    ⟨Nat.div_div_eq_div_mul x 64 64, Nat.div_div_eq_div_mul x 4096 64, by omega⟩
  simp only [String.utf8EncodeChar]
  generalize c.val.toNat = m at hlt
  generalize d.val.toNat = n at hlt hvalid
  have hm := hdigits m (by omega)
  have hn := hdigits n (by omega)
  -- One case for every two lengths; the first byte tells the length.
  split_ifs <;>
    simp (disch := omega) only [List.cons_append, List.nil_append, List.cons_lt_cons_iff,
      UInt8.lt_iff_toNat_lt, ← UInt8.toNat_inj, toNat_ofNat] <;>
    omega

theorem encode_lt_encode {s t : List Char} (h : s < t) : encode s < encode t := by
  induction t generalizing s with
  | nil => exact absurd h (List.not_lt_nil s)
  | cons d t ih =>
    cases s with
    | nil =>
      obtain ⟨b, bs, hbytes⟩ := List.exists_cons_of_ne_nil (@String.utf8EncodeChar_ne_nil d)
      rw [encode, encode, List.flatMap_nil, List.flatMap_cons, hbytes, List.cons_append]
      exact List.nil_lt_cons b _
    | cons c s =>
      rw [encode, List.flatMap_cons, encode, List.flatMap_cons]
      rcases List.cons_lt_cons_iff.1 h with hlt | ⟨rfl, hst⟩
      · exact encodeChar_append_lt hlt _ _
      · exact List.append_left_lt (ih hst)

/-- **The order of texts is that of their bytes.** -/
theorem encode_lt_encode_iff {s t : List Char} : encode s < encode t ↔ s < t := by
  refine ⟨fun h => ?_, encode_lt_encode⟩
  rcases lt_trichotomy s t with hst | rfl | hts
  · exact hst
  · exact absurd h (List.lt_irrefl _)
  · exact absurd h (List.lt_asymm (encode_lt_encode hts))

theorem byteLt_iff {s t : String} : byteLt s t = true ↔ bytesOf s < bytesOf t := by
  rw [byteLt, decide_eq_true_iff, bytesOf, bytesOf, encode_lt_encode_iff]
  exact Iff.rfl

end Subtitler.Text.Utf8
