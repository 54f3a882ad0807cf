import Mathlib.Data.List.Induction
import Subtitler.Proofs.Number.Decimal
import Subtitler.Proofs.Text.Runs
import Subtitler.Subtitle.Srt

/-!
# Timing lines

A time is written with one or two digits for the hours, two for the minutes, two for the seconds
and three for the thousandths (`TimeText`). A timing line, once it is trimmed, starts with two times
that have an arrow and perhaps blanks between them; anything may follow (`TimingText`). The reader
takes exactly these lines, and reads the times that they write (`timing?_eq_some_iff`).
-/

namespace Subtitler

namespace Text

/-! ## Blanks -/

theorem isBlank_of_isDigit {c : Char} (h : c.isDigit = true) : isBlank c = false := by
  have hcode := Decimal.isDigit_iff.1 h
  simp only [isBlank]
  grind

theorem trimStart_append {gap rest : List Char} (hgap : isBlankText gap = true)
    (hrest : ∀ c ∈ rest.head?, isBlank c = false) : trimStart (gap ++ rest) = rest :=
  dropWhile_run (List.all_eq_true.1 hgap) hrest

/-- Trimming takes off a gap. -/
theorem exists_gap (cs : List Char) : ∃ gap, isBlankText gap = true ∧ cs = gap ++ trimStart cs :=
  ⟨cs.takeWhile isBlank, List.all_eq_true.2 fun _ hc => List.mem_takeWhile_imp hc,
    List.takeWhile_append_dropWhile.symm⟩

theorem trim_eq_self {cs : List Char} (hhead : ∀ c ∈ cs.head?, isBlank c = false)
    (hlast : ∀ c ∈ cs.getLast?, isBlank c = false) : trim cs = cs := by
  have hend : trimStart cs.reverse = cs.reverse :=
    @trimStart_append [] _ rfl (by simpa using hlast)
  have hstart : trimStart cs = cs := @trimStart_append [] _ rfl hhead
  rw [trimStart] at hend
  rw [trim, hstart, trimEnd, hend, List.reverse_reverse]

theorem trim_eq_nil {cs : List Char} (h : isBlankText cs = true) : trim cs = [] := by
  have hstart := @trimStart_append cs [] h (by simp)
  rw [List.append_nil] at hstart
  rw [trim, hstart]
  rfl

theorem stripStart?_eq_some_iff {start cs rest : List Char} :
    stripStart? start cs = some rest ↔ cs = start ++ rest := by
  unfold stripStart?
  constructor
  · intro h
    split at h
    · next hprefix =>
      obtain ⟨tail, rfl⟩ := List.isPrefixOf_iff_prefix.1 hprefix
      simpa using h
    · cases h
  · rintro rfl
    simp

end Text

namespace Srt

open Text

/-! ## Times -/

/-- A run of digits whose length has two bounds. -/
structure IsRun (least most : Nat) (ds : List Char) : Prop where
  digits : ∀ c ∈ ds, c.isDigit = true
  least_le : least ≤ ds.length
  le_most : ds.length ≤ most

theorem IsRun.length_eq {length : Nat} {ds : List Char} (h : IsRun length length ds) :
    ds.length = length :=
  Nat.le_antisymm h.le_most h.least_le

/-- A text that writes a time. -/
inductive TimeText : List Char → Nat → Prop
  | mk {hours minutes seconds thousandths : List Char} {point : Char} :
    IsRun 1 2 hours → IsRun 2 2 minutes → IsRun 2 2 seconds → IsRun 3 3 thousandths →
    (point = ',' ∨ point = '.') →
    TimeText (hours ++ ':' :: (minutes ++ ':' :: (seconds ++ point :: thousandths)))
      (Decimal.value hours * 3600000 + Decimal.value minutes * 60000 +
        Decimal.value seconds * 1000 + Decimal.value thousandths)

/-- A line that writes the times of a cue. -/
def TimingText (line : List Char) (start finish : Nat) : Prop :=
  ∃ first before behind second rest, TimeText first start ∧ TimeText second finish ∧
    isBlankText before = true ∧ isBlankText behind = true ∧
    trim line = first ++ (before ++ (arrow ++ (behind ++ (second ++ rest))))

section Times

variable {cs rest : List Char} {n least most : Nat}

/-- As many digits are taken as there are, up to the bound. -/
theorem digits?_eq_some_iff : digits? least most cs = some (n, rest) ↔
    ∃ ds, IsRun least most ds ∧ cs = ds ++ rest ∧ n = Decimal.value ds ∧
      (ds.length = most ∨ ∀ c ∈ rest.head?, c.isDigit = false) := by
  constructor
  · intro h
    obtain ⟨run, tail, rfl, hrun, htail⟩ := exists_run Char.isDigit cs
    rw [digits?, takeWhile_run hrun htail] at h
    split at h
    · next hleast =>
      obtain ⟨rfl, rfl⟩ := Prod.mk.inj (Option.some.inj h)
      refine ⟨run.take most, ⟨fun c hc => hrun c (List.mem_of_mem_take hc), hleast,
        List.length_take_le most run⟩, ?_, rfl, ?_⟩
      · exact (List.prefix_iff_eq_append.1
          ((run.take_prefix most).trans (run.prefix_append tail))).symm
      · rcases Nat.lt_or_ge most run.length with hlong | hshort
        · left
          rw [List.length_take]
          omega
        · right
          simpa [List.take_of_length_le hshort] using htail
    · cases h
  · rintro ⟨ds, ⟨hdigits, hleast, hmost⟩, rfl, rfl, hend⟩
    have htake : ((ds ++ rest).takeWhile Char.isDigit).take most = ds := by
      rcases hend with rfl | hend
      · rw [List.takeWhile_append_of_pos hdigits, List.take_left]
      · rw [takeWhile_run hdigits hend, List.take_of_length_le hmost]
    simp [digits?, htake, hleast]

theorem take?_eq_some_iff {p : Char → Bool} :
    take? p cs = some rest ↔ ∃ c, p c = true ∧ cs = c :: rest := by
  cases cs with
  | nil => simp [take?]
  | cons c cs =>
    rw [take?]
    constructor
    · intro h
      split at h
      · next hc => exact ⟨c, hc, by rw [Option.some.inj h]⟩
      · cases h
    · rintro ⟨d, hd, heq⟩
      obtain ⟨rfl, rfl⟩ := List.cons.inj heq
      rw [if_pos hd]

theorem time?_eq_some_iff :
    time? cs = some (n, rest) ↔ ∃ text, TimeText text n ∧ cs = text ++ rest := by
  have hpoint : ∀ c : Char, (c == ',' || c == '.') = true ↔ c = ',' ∨ c = '.' := by simp
  simp only [time?, Option.bind_eq_bind, Option.bind_eq_some_iff, Prod.exists, digits?_eq_some_iff,
    take?_eq_some_iff, Option.some.injEq, Prod.mk.injEq, beq_iff_eq, hpoint]
  constructor
  · rintro ⟨_, _, ⟨hours, hhours, rfl, rfl, -⟩, _, ⟨_, rfl, rfl⟩, _, _,
      ⟨minutes, hminutes, rfl, rfl, -⟩, _, ⟨_, rfl, rfl⟩, _, _,
      ⟨seconds, hseconds, rfl, rfl, -⟩, _, ⟨point, hpoint, rfl⟩, _, _,
      ⟨thousandths, hthousandths, rfl, rfl, -⟩, rfl, rfl⟩
    exact ⟨_, .mk hhours hminutes hseconds hthousandths hpoint, by simp⟩
  · rintro ⟨_, @⟨hours, minutes, seconds, thousandths, point, hhours, hminutes, hseconds,
      hthousandths, hpoint⟩, rfl⟩
    simp only [List.append_assoc, List.cons_append]
    exact ⟨_, _, ⟨hours, hhours, rfl, rfl, .inr (by simp)⟩, _, ⟨_, rfl, rfl⟩, _, _,
      ⟨minutes, hminutes, rfl, rfl, .inr (by simp)⟩, _, ⟨_, rfl, rfl⟩, _, _,
      ⟨seconds, hseconds, rfl, rfl, .inl hseconds.length_eq⟩, _, ⟨point, hpoint, rfl⟩, _, _,
      ⟨thousandths, hthousandths, rfl, rfl, .inl hthousandths.length_eq⟩, rfl, rfl⟩

/-- A time starts with a digit. -/
theorem TimeText.isBlank_head {text : List Char} (h : TimeText text n) (rest : List Char) :
    ∀ c ∈ (text ++ rest).head?, isBlank c = false := by
  obtain @⟨hours, _, _, _, _, ⟨hdigits, hleast, -⟩, -⟩ := h
  cases hours with
  | nil => simp at hleast
  | cons c hours => simpa using isBlank_of_isDigit (hdigits c List.mem_cons_self)

/-- A time ends in a digit. -/
theorem TimeText.isBlank_last {text : List Char} (h : TimeText text n) (before : List Char) :
    ∀ c ∈ (before ++ text).getLast?, isBlank c = false := by
  obtain @⟨hours, minutes, seconds, thousandths, point, -, -, -, ⟨hdigits, hleast, -⟩, -⟩ := h
  cases thousandths using List.reverseRecOn with
  | nil => simp at hleast
  | append_singleton ds c =>
    have hconcat : before ++ (hours ++ ':' :: (minutes ++ ':' :: (seconds ++ point :: (ds ++ [c]))))
        = before ++ (hours ++ ':' :: (minutes ++ ':' :: (seconds ++ point :: ds))) ++ [c] := by simp
    rw [hconcat, List.getLast?_concat]
    rintro _ ⟨⟩
    exact isBlank_of_isDigit (hdigits c (by simp))

/-- Two times with an arrow and blanks between them need not be trimmed. -/
theorem TimeText.timingText {first before behind second : List Char} {start finish : Nat}
    (hfirst : TimeText first start) (hsecond : TimeText second finish)
    (hbefore : isBlankText before = true) (hbehind : isBlankText behind = true) :
    TimingText (first ++ (before ++ (arrow ++ (behind ++ second)))) start finish := by
  refine ⟨first, before, behind, second, [], hfirst, hsecond, hbefore, hbehind, ?_⟩
  rw [List.append_nil, trim_eq_self (hfirst.isBlank_head _)]
  simpa only [List.append_assoc] using
    hsecond.isBlank_last (first ++ (before ++ (arrow ++ behind)))

theorem timing?_eq_some_iff {line : List Char} {start finish : Nat} :
    timing? line = some (start, finish) ↔ TimingText line start finish := by
  simp only [timing?, Option.bind_eq_bind, Option.bind_eq_some_iff, Prod.exists, time?_eq_some_iff,
    stripStart?_eq_some_iff, Option.some.injEq, Prod.mk.injEq]
  constructor
  · rintro ⟨_, rest, ⟨first, hfirst, htrim⟩, tail, harrow, _, more, ⟨second, hsecond, hmore⟩,
      rfl, rfl⟩
    obtain ⟨before, hbefore, hrest⟩ := exists_gap rest
    obtain ⟨behind, hbehind, htail⟩ := exists_gap tail
    refine ⟨first, before, behind, second, more, hfirst, hsecond, hbefore, hbehind, ?_⟩
    rw [htrim, hrest, harrow, htail, hmore]
  · rintro ⟨first, before, behind, second, rest, hfirst, hsecond, hbefore, hbehind, htrim⟩
    have harrow := @trimStart_append before (arrow ++ (behind ++ (second ++ rest))) hbefore
      (by rintro _ ⟨⟩; decide)
    have hnext := trimStart_append hbehind (hsecond.isBlank_head rest)
    exact ⟨start, _, ⟨first, hfirst, htrim⟩, _, harrow, finish, rest, ⟨second, hsecond, hnext⟩,
      rfl, rfl⟩

end Times

end Srt

end Subtitler
