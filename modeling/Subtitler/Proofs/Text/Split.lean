import Mathlib.Data.List.Infix
import Subtitler.Proofs.Text.Runs
import Subtitler.Text.Split

/-!
# Where texts are cut

A text is cut at the last character of a kind if what follows has none of that kind.
-/

namespace Subtitler.Text

variable {last : List Char}

theorem afterLast_append {p : Char → Bool} {sep : Char} (hsep : p sep = true) (before : List Char)
    (hlast : ∀ c ∈ last, p c = false) : afterLast p (before ++ sep :: last) = last := by
  have hreverse : (before ++ sep :: last).reverse = last.reverse ++ sep :: before.reverse := by
    simp
  have hrun : ∀ c ∈ last.reverse, (!p c) = true := by
    intro c hc
    simp [hlast c (List.mem_reverse.1 hc)]
  rw [afterLast, hreverse, takeWhile_run hrun (by simp [hsep]), List.reverse_reverse]

theorem splitLast?_append (sep : Char) (stem : List Char) (h : sep ∉ last) :
    splitLast? sep (stem ++ sep :: last) = some (stem, last) := by
  have hreverse : (stem ++ sep :: last).reverse = last.reverse ++ sep :: stem.reverse := by simp
  have hne : ∀ c ∈ last, c ≠ sep := by
    rintro c hc rfl
    exact h hc
  have hrest : (stem ++ sep :: last).reverse.dropWhile (· != sep) = sep :: stem.reverse := by
    rw [hreverse]
    exact dropWhile_run (fun c hc => by simpa using hne c (List.mem_reverse.1 hc)) (by simp)
  have hlast : afterLast (· == sep) (stem ++ sep :: last) = last :=
    afterLast_append (by simp) stem fun c hc => by simpa using hne c hc
  rw [splitLast?, hrest, hlast]
  simp

/-- A text is cut at a character if and only if this is the last one of its kind. -/
theorem splitLast?_eq_some_iff {sep : Char} {cs stem : List Char} :
    splitLast? sep cs = some (stem, last) ↔ cs = stem ++ sep :: last ∧ sep ∉ last := by
  refine ⟨fun h => ?_, fun ⟨hcs, hlast⟩ => hcs ▸ splitLast?_append sep stem hlast⟩
  have hmem : sep ∈ cs := by
    by_contra hnot
    have hrest : cs.reverse.dropWhile (· != sep) = [] :=
      List.dropWhile_eq_nil_iff.2 fun c hc => bne_iff_ne.2 fun hsep =>
        hnot (hsep ▸ List.mem_reverse.1 hc)
    simp [splitLast?, hrest] at h
  obtain ⟨back, front, hreverse, hback⟩ := List.eq_append_cons_of_mem (List.mem_reverse.2 hmem)
  obtain rfl : cs = front.reverse ++ sep :: back.reverse := by
    rw [← cs.reverse_reverse, hreverse]
    simp
  rw [splitLast?_append sep _ (by simpa using hback), Option.some.injEq, Prod.mk.injEq] at h
  obtain ⟨rfl, rfl⟩ := h
  exact ⟨rfl, by simpa using hback⟩

theorem occursIn_iff {needle cs : List Char} : occursIn needle cs = true ↔ needle <:+: cs := by
  induction cs with
  | nil => simp [occursIn]
  | cons c cs ih => simp [occursIn, ih, List.infix_cons_iff]

end Subtitler.Text
