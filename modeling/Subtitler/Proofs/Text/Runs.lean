import Mathlib.Data.List.TakeWhile

/-!
# Runs of one kind

A text starts with a run of characters of one kind, which may be empty, and goes on with another
kind.
-/

namespace Subtitler.Text

variable {p : Char → Bool} {run rest : List Char}

theorem ne_of_kind {c d : Char} (hc : p c = true) (hd : p d = false) : c ≠ d := by
  rintro rfl
  rw [hc] at hd
  cases hd

theorem takeWhile_run (hrun : ∀ c ∈ run, p c = true) (hrest : ∀ c ∈ rest.head?, p c = false) :
    (run ++ rest).takeWhile p = run := by
  rw [List.takeWhile_append_of_pos hrun]
  cases rest with
  | nil => simp
  | cons c rest => simp [hrest c rfl]

theorem dropWhile_run (hrun : ∀ c ∈ run, p c = true) (hrest : ∀ c ∈ rest.head?, p c = false) :
    (run ++ rest).dropWhile p = rest := by
  rw [List.dropWhile_append_of_pos hrun]
  cases rest with
  | nil => rfl
  | cons c rest => simp [hrest c rfl]

/-- Every text starts with a run of one kind, which may be empty, and goes on with another kind. -/
theorem exists_run (p : Char → Bool) (cs : List Char) : ∃ run rest, cs = run ++ rest ∧
    (∀ c ∈ run, p c = true) ∧ ∀ c ∈ rest.head?, p c = false := by
  refine ⟨cs.takeWhile p, cs.dropWhile p, List.takeWhile_append_dropWhile.symm,
    fun c hc => List.mem_takeWhile_imp hc, fun c hc => ?_⟩
  have hend := List.head?_dropWhile_not p cs
  rwa [Option.mem_def.1 hc] at hend

/-- Where the first run of a text ends is known. -/
theorem run_inj {c c' : Char} {run' rest' : List Char} (hrun : ∀ c ∈ run, p c = true)
    (hc : p c = false) (hrun' : ∀ c ∈ run', p c = true) (hc' : p c' = false)
    (h : run ++ c :: rest = run' ++ c' :: rest') : run = run' ∧ c = c' ∧ rest = rest' := by
  have hend : ∀ d ∈ (c :: rest).head?, p d = false := by simpa using hc
  have hend' : ∀ d ∈ (c' :: rest').head?, p d = false := by simpa using hc'
  have hsame : run = run' := by
    rw [← takeWhile_run hrun hend, h, takeWhile_run hrun' hend']
  have hbehind := List.append_cancel_left (hsame ▸ h)
  exact ⟨hsame, List.cons.inj hbehind⟩

end Subtitler.Text
