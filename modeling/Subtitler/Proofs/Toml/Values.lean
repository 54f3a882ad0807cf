import Subtitler.Proofs.Number.Decimal
import Subtitler.Proofs.Text.Runs
import Subtitler.Proofs.Toml.Quoting
import Subtitler.Toml.Reader

/-!
# Values read back

A text reads as a value when the value is taken from it wherever a line ends after it (`Reads`).
Texts are read back from their quoted form, truth values from their names and integers from their
digits (`reads_quote`, `reads_bool`, `reads_digits`).
-/

namespace Subtitler

namespace Toml

open Decimal

variable {ds rest : List Char}

theorem isSpace_of_kind {p : Char → Bool} {c : Char} (hc : p c = true) (hspace : p ' ' = false)
    (htab : p '\t' = false) : isSpace c = false := by
  simp [isSpace, Text.ne_of_kind hc hspace, Text.ne_of_kind hc htab]

/-- After some digits at the end of a line comes another digit, or the end of the line. -/
theorem getElem?_digits (hds : ∀ c ∈ ds, c.isDigit = true) {i : Nat} {c : Char}
    (hi : i ≤ ds.length) (h : (ds ++ '\n' :: rest)[i]? = some c) : c.isDigit = true ∨ c = '\n' := by
  rcases Nat.lt_or_eq_of_le hi with hlt | rfl
  · rw [List.getElem?_append_left hlt] at h
    exact .inl (hds c (List.mem_of_getElem? h))
  · right
    simpa [eq_comm] using h

/-! ## Integers -/

/-- Digits at the end of a line are not followed by the mark of a moment. -/
theorem mark?_of_fixed? (hds : ∀ c ∈ ds, c.isDigit = true) (mark : Char)
    (hmark : mark.isDigit = false) (hend : mark ≠ '\n') {count least most n : Nat}
    {after : List Char} (h : fixed? count least most (ds ++ '\n' :: rest) = some (n, after)) :
    mark? mark after = none := by
  rw [fixed?] at h
  split_ifs at h with hfixed
  obtain ⟨hlength, hall, -⟩ := hfixed
  obtain ⟨-, rfl⟩ : value ((ds ++ '\n' :: rest).take count) = n ∧
      (ds ++ '\n' :: rest).drop count = after := by
    simpa using h
  have hcount : count ≤ ds.length := by
    by_contra hmore
    have hbreak : (ds ++ '\n' :: rest)[ds.length]? = some '\n' := by simp
    have hmem : '\n' ∈ (ds ++ '\n' :: rest).take count :=
      List.mem_of_getElem? (i := ds.length) (by rw [List.getElem?_take_of_lt (by omega), hbreak])
    exact absurd (List.all_eq_true.1 hall _ hmem) (by decide)
  cases hafter : (ds ++ '\n' :: rest).drop count with
  | nil => rfl
  | cons c more =>
    have hhead : (ds ++ '\n' :: rest)[count]? = some c := by
      rw [← List.head?_drop, hafter]
      rfl
    have hne : mark ≠ c := by
      rintro rfl
      rcases getElem?_digits hds hcount hhead with hdigit | hnewline
      · rw [hmark] at hdigit
        cases hdigit
      · exact hend hnewline
    rw [mark?, if_neg hne]

theorem momentRest?_digits (hds : ∀ c ∈ ds, c.isDigit = true) :
    momentRest? (ds ++ '\n' :: rest) = none := by
  have hdate : date? (ds ++ '\n' :: rest) = none := by
    rw [date?]
    cases hyear : fixed? 4 0 9999 (ds ++ '\n' :: rest) with
    | none => rfl
    | some found =>
      have hmark := mark?_of_fixed? hds '-' (by decide) (by decide) hyear
      simp [hmark]
  rw [momentRest?, hdate, timeOfDay?]
  cases hhour : fixed? 2 0 23 (ds ++ '\n' :: rest) with
  | none => rfl
  | some found =>
    have hmark := mark?_of_fixed? hds ':' (by decide) (by decide) hhour
    simp [hmark]

theorem digitRun?_digits (hds : ∀ c ∈ ds, c.isDigit = true) (hne : ds ≠ []) :
    digitRun? Char.isDigit (ds ++ '\n' :: rest) = some (ds, '\n' :: rest) := by
  induction ds with
  | nil => exact absurd rfl hne
  | cons c ds ih =>
    obtain ⟨hhead, htail⟩ := List.forall_mem_cons.1 hds
    cases ds with
    | nil => simp [digitRun?, hhead]
    | cons d ds =>
      have hmore := ih htail (by simp)
      have hd := htail d List.mem_cons_self
      have hne : d ≠ '_' := Text.ne_of_kind hd (by decide)
      simp only [List.cons_append] at hmore ⊢
      rw [digitRun?, if_pos hhead, if_pos hd, hmore]
      · rfl
      · exact hne

theorem sign_of_isDigit {d : Char} (hd : d.isDigit = true) (more : List Char) :
    sign (d :: more) = (false, false, d :: more) := by
  rw [sign]
  · rintro _ ⟨⟩
    cases hd
  · rintro _ ⟨⟩
    cases hd

theorem part?_newline {isMark : Char → Bool} (h : isMark '\n' = false) (signed : Bool) :
    part? isMark signed ('\n' :: rest) = some (none, '\n' :: rest) := by
  rw [part?, h]
  rfl

theorem decimal?_digits {n : Nat} (hn : n < Nat.pow 2 63) :
    decimal? (digits n ++ '\n' :: rest) = some (.integer n, '\n' :: rest) := by
  have hpoint := @part?_newline rest (· == '.') (by decide) false
  have hexponent := @part?_newline rest (fun c => c == 'e' || c == 'E') (by decide) true
  obtain ⟨d, ds, hds, hd⟩ := exists_digits n
  have hrun := @digitRun?_digits (digits n) rest (fun c hc => isDigit_of_mem_digits hc)
    (by rw [hds]; exact List.cons_ne_nil d ds)
  have hvalue := value_digits n
  -- A zero in front would end the number, so zero is a case of its own.
  rcases Nat.eq_zero_or_pos n with rfl | hpos
  · simp [digits, decimal?, sign, hpoint, hexponent, value, digitValue]
  · have hzero : d ≠ '0' := by
      have hhead := head?_digits hpos
      rw [hds] at hhead
      exact fun heq => hhead (by rw [heq]; rfl)
    rw [hds] at hrun hvalue ⊢
    rw [List.cons_append] at hrun ⊢
    rw [decimal?, sign_of_isDigit hd]
    simpa [hrun, hzero, hpoint, hexponent, hvalue] using hn

theorem number?_digits {n : Nat} (hn : n < Nat.pow 2 63) :
    number? (digits n ++ '\n' :: rest) = some (.integer n, '\n' :: rest) := by
  have hall : ∀ c ∈ digits n, c.isDigit = true := fun c hc => isDigit_of_mem_digits hc
  have hmoment := @momentRest?_digits (digits n) rest hall
  have hdecimal := @decimal?_digits rest n hn
  obtain ⟨d, ds, hds, hd⟩ := exists_digits n
  rw [hds] at hall hmoment hdecimal ⊢
  have hsecond {mark : Char} (hmark : mark.isDigit = false) (hend : mark ≠ '\n') :
      ∀ more, d :: ds ++ '\n' :: rest = '0' :: mark :: more → False := by
    intro more heq
    have hone : (d :: ds ++ '\n' :: rest)[1]? = some mark := by
      rw [heq]
      rfl
    rcases getElem?_digits hall (by simp) hone with hdigit | hnewline
    · exact Text.ne_of_kind hdigit hmark rfl
    · exact hend hnewline
  have hword {c : Char} (hc : c.isDigit = false) (more : List Char) :
      Text.stripStart? (c :: more) (d :: ds ++ '\n' :: rest) = none := by
    have hne : c ≠ d := (Text.ne_of_kind hd hc).symm
    simp [Text.stripStart?, hne]
  -- Neither a moment, nor a number in another base, nor one of the words that are floats.
  rw [number?, hmoment]
  · simp only [List.cons_append] at hdecimal hword ⊢
    simp only [sign_of_isDigit hd, hword (show 'i'.isDigit = false by decide),
      hword (show 'n'.isDigit = false by decide), hdecimal]
  · exact hsecond (by decide) (by decide)
  · exact hsecond (by decide) (by decide)
  · exact hsecond (by decide) (by decide)

/-! ## Values -/

/-- A text from which a value is taken wherever a line ends after it. -/
structure Reads (text : List Char) (v : Toml) : Prop where
  start : ∀ rest, skipSpace (text ++ rest) = text ++ rest
  taken : ∀ fuel room rest,
    value? (fuel + 1) room (text ++ '\n' :: rest) = some (v, '\n' :: rest)

theorem reads_digits {n : Nat} (hn : n < Nat.pow 2 63) : Reads (digits n) (.integer n) := by
  obtain ⟨d, ds, hds, hd⟩ := exists_digits n
  constructor
  · intro rest
    have hspace : isSpace d = false := isSpace_of_kind hd (by decide) (by decide)
    simp [hds, skipSpace, hspace]
  · intro fuel room rest
    have hnumber := @number?_digits rest n hn
    rw [hds, List.cons_append] at hnumber ⊢
    -- A digit starts no other kind of value.
    rw [value?, hnumber]
    · exact List.cons_ne_nil d _
    all_goals
      intro tail heq
      obtain ⟨rfl, -⟩ := List.cons_eq_cons.1 heq
      cases hd

theorem reads_bool (b : Bool) :
    Reads (if b then "true".toList else "false".toList) (.bool b) := by
  cases b <;> exact ⟨fun rest => rfl, fun fuel room rest => rfl⟩

theorem quote_eq_cons (cs : List Char) :
    ∃ c more, quote cs = c :: more ∧ (c = '"' ∨ c = '\'') := by
  have hbasic : ∃ c more, basic cs = c :: more ∧ (c = '"' ∨ c = '\'') := ⟨_, _, rfl, .inl rfl⟩
  have hlongBasic : ∃ c more, longBasic cs = c :: more ∧ (c = '"' ∨ c = '\'') :=
    ⟨_, _, rfl, .inl rfl⟩
  rw [quote]
  split_ifs
  · exact hbasic
  · exact ⟨_, _, rfl, .inr rfl⟩
  · exact hlongBasic
  · exact ⟨_, _, rfl, .inr rfl⟩
  · exact hlongBasic
  · exact hbasic

theorem reads_quote (cs : List Char) : Reads (quote cs) (.text (String.ofList cs)) := by
  obtain ⟨c, more, hquote, hc⟩ := quote_eq_cons cs
  constructor
  · intro rest
    have hspace : isSpace c = false := by
      rcases hc with rfl | rfl <;> rfl
    simp [hquote, skipSpace, hspace]
  · intro fuel room rest
    have hread := @quoted?_quote ('\n' :: rest) cs (by simp) (by simp)
    rw [hquote, List.cons_append] at hread ⊢
    rcases hc with rfl | rfl
    · rw [value?, hread]
      rfl
    · rw [value?, hread]
      rfl

end Toml

end Subtitler
