import Mathlib.Data.List.DropRight
import Subtitler.Media.Context
import Subtitler.Proofs.Number.Decimal
import Subtitler.Proofs.Text.Runs

/-!
# The resolution that a label names

A label is searched from left to right for three or four digits with a `p` after them
(`atStart?_eq_some_iff`). Such a place may lie within a longer run of digits. The runs themselves
say what is found: a *mark* is a run of at least three digits that is as long as it can be, with a
`p` after it (`Mark`). The search passes over a run of digits at once, up to its last four if it is
that of a mark and otherwise as a whole (`find?_run`), so it meets one mark after the other.

**Theorem (`reads_first_mark`).** A label without a mark names no resolution. Any other label names
the number that the last four digits of its first mark write, or its three digits if it has no more.
-/

namespace Subtitler.Quality

variable {cs ds rest : List Char} {c : Char} {n : Nat}

/-! ## Reading at one place -/

theorem isDigit_p : 'p'.isDigit = false := by decide

/-- At one place, three or four digits with a `p` after them are read. -/
theorem atStart?_eq_some_iff : atStart? cs = some n ↔ ∃ ds rest, (∀ c ∈ ds, c.isDigit = true) ∧
    (ds.length = 3 ∨ ds.length = 4) ∧ cs = ds ++ 'p' :: rest ∧ n = Decimal.value ds := by
  constructor
  · intro h
    obtain ⟨run, tail, rfl, hrun, htail⟩ := Text.exists_run Char.isDigit cs
    simp only [atStart?, Decimal.spanDigits, Text.takeWhile_run hrun htail,
      Text.dropWhile_run hrun htail] at h
    split_ifs at h with hread
    obtain ⟨rest, rfl⟩ := List.head?_eq_some_iff.1 hread.2
    exact ⟨run, rest, hrun, hread.1, rfl, (Option.some.inj h).symm⟩
  · rintro ⟨ds, rest, hds, hlength, rfl, rfl⟩
    have hp : ∀ c ∈ ('p' :: rest).head?, c.isDigit = false := by simp
    simp only [atStart?, Decimal.spanDigits, Text.takeWhile_run hds hp, Text.dropWhile_run hds hp]
    exact if_pos ⟨hlength, rfl⟩

theorem atStart?_eq_none (hc : c.isDigit = false) : atStart? (c :: rest) = none := by
  refine Option.eq_none_iff_forall_not_mem.2 fun n hn => ?_
  obtain ⟨ds, more, hds, hlength, htext, -⟩ := atStart?_eq_some_iff.1 hn
  cases ds with
  | nil => simp at hlength
  | cons d ds =>
    obtain ⟨rfl, -⟩ := List.cons.inj htext
    rw [hds c List.mem_cons_self] at hc
    cases hc

/-- A run before a `p` that is not read is too short or too long. -/
theorem length_of_none (hds : ∀ c ∈ ds, c.isDigit = true)
    (h : atStart? (ds ++ 'p' :: rest) = none) : ds.length < 3 ∨ 4 < ds.length := by
  by_contra hlength
  have hsome := atStart?_eq_some_iff.2 ⟨ds, rest, hds, by omega, rfl, rfl⟩
  rw [h] at hsome
  cases hsome

theorem atStart?_digits (hds : ∀ c ∈ ds, c.isDigit = true) : atStart? ds = none := by
  refine Option.eq_none_iff_forall_not_mem.2 fun n hn => ?_
  obtain ⟨run, more, -, -, htext, -⟩ := atStart?_eq_some_iff.1 hn
  have hp := hds 'p' (by simp [htext])
  cases hp

/-! ## Searching a run of digits -/

theorem find?_of_some (h : atStart? (c :: rest) = some n) : find? (c :: rest) = some n := by
  rw [find?, h]

theorem find?_of_none (h : atStart? (c :: rest) = none) : find? (c :: rest) = find? rest := by
  rw [find?, h]

theorem rtake_cons (h : n ≤ ds.length) (c : Char) : (c :: ds).rtake n = ds.rtake n := by
  rw [List.rtake, List.rtake, List.length_cons, Nat.succ_sub h, List.drop_succ_cons]

/-- Of a long enough run of digits with a `p` after it, the last four are read. Any other run is
passed over. -/
theorem find?_run (hds : ∀ c ∈ ds, c.isDigit = true) (hc : c.isDigit = false) :
    find? (ds ++ c :: rest) = if 3 ≤ ds.length ∧ c = 'p' then some (Decimal.value (ds.rtake 4))
      else find? rest := by
  -- By induction on the run: before four more digits, a digit has no part in what is read.
  induction ds with
  | nil => simpa using find?_of_none (atStart?_eq_none hc)
  | cons d ds ih =>
    have ih := ih fun c hc => hds c (List.mem_cons_of_mem d hc)
    cases hread : atStart? (d :: (ds ++ c :: rest)) with
    | some n =>
      obtain ⟨run, more, hrun, hlength, htext, rfl⟩ := atStart?_eq_some_iff.1 hread
      obtain ⟨rfl, rfl, -⟩ := Text.run_inj hds hc hrun isDigit_p htext
      have hall : (d :: ds).rtake 4 = d :: ds := by
        rw [List.rtake, Nat.sub_eq_zero_of_le (by omega), List.drop_zero]
      rw [if_pos ⟨by omega, rfl⟩, hall]
      exact find?_of_some hread
    | none =>
      rw [List.cons_append, find?_of_none hread, ih]
      by_cases hmark : 3 ≤ (d :: ds).length ∧ c = 'p'
      · obtain ⟨hlength, rfl⟩ := hmark
        have hlong : 4 ≤ ds.length := by
          have hends := length_of_none hds hread
          rw [List.length_cons] at hlength hends
          omega
        rw [if_pos ⟨by omega, rfl⟩, if_pos ⟨hlength, rfl⟩, rtake_cons hlong]
      · rw [if_neg hmark, if_neg]
        rintro ⟨hlength, hp⟩
        exact hmark ⟨Nat.le_succ_of_le hlength, hp⟩

theorem find?_digits (hds : ∀ c ∈ ds, c.isDigit = true) : find? ds = none := by
  induction ds with
  | nil => rfl
  | cons d ds ih =>
    rw [find?_of_none (atStart?_digits hds), ih fun c hc => hds c (List.mem_cons_of_mem d hc)]

/-! ## Marks -/

/-- A resolution as it stands in a label: a run of at least three digits, with no digit before it
and a `p` after it. -/
structure Mark where
  before : List Char
  run : List Char
  after : List Char
  not_isDigit_before : ∀ c ∈ before.getLast?, c.isDigit = false
  isDigit_run : ∀ c ∈ run, c.isDigit = true
  three_le_length : 3 ≤ run.length

namespace Mark

/-- The label in which a mark stands. -/
def text (m : Mark) : List Char := m.before ++ (m.run ++ 'p' :: m.after)

/-- The number that a mark names: that of its last four digits, or of all three. -/
def resolution (m : Mark) : Nat := Decimal.value (m.run.rtake 4)

/-- No mark in the same label starts before this one. -/
def IsFirst (m : Mark) : Prop :=
  ∀ other : Mark, other.text = m.text → m.before.length ≤ other.before.length

/-- Where a mark starts in a label, no other one does. -/
theorem eq_of_text_eq {m m' : Mark} (htext : m.text = m'.text)
    (hlength : m.before.length = m'.before.length) : m = m' := by
  obtain ⟨hbefore, hbehind⟩ := List.append_inj htext hlength
  obtain ⟨hrun, -, hafter⟩ := Text.run_inj m.isDigit_run isDigit_p m'.isDigit_run isDigit_p hbehind
  cases m
  cases m'
  cases hbefore
  cases hrun
  cases hafter
  rfl

theorem IsFirst.unique {m m' : Mark} (h : m.IsFirst) (h' : m'.IsFirst) (htext : m.text = m'.text) :
    m = m' :=
  eq_of_text_eq htext (Nat.le_antisymm (h m' htext.symm) (h' m htext))

theorem resolution_lt (m : Mark) : m.resolution < UInt32.size := by
  have hdigits : ∀ c ∈ m.run.rtake 4, c.isDigit = true :=
    fun c hc => m.isDigit_run c (List.mem_of_mem_drop hc)
  have hlength : (m.run.rtake 4).length ≤ 4 := by
    rw [List.rtake, List.length_drop]
    omega
  calc m.resolution < Nat.pow 10 (m.run.rtake 4).length := Decimal.value_lt hdigits
    _ ≤ Nat.pow 10 4 := Nat.pow_le_pow_right (by decide) hlength
    _ < UInt32.size := by decide

/-! ## Marks behind a run of digits -/

/-- A mark with more text before it, up to a character that is no digit. -/
def behind (m : Mark) (ds : List Char) (hc : c.isDigit = false) : Mark where
  before := ds ++ c :: m.before
  run := m.run
  after := m.after
  not_isDigit_before := by
    intro d hd
    rw [List.getLast?_append, List.getLast?_cons] at hd
    cases hlast : m.before.getLast? with
    | none =>
      rw [hlast] at hd
      cases hd
      exact hc
    | some last =>
      rw [hlast] at hd
      cases hd
      exact m.not_isDigit_before _ hlast
  isDigit_run := m.isDigit_run
  three_le_length := m.three_le_length

@[simp] theorem text_behind (m : Mark) (ds : List Char) (hc : c.isDigit = false) :
    (m.behind ds hc).text = ds ++ c :: m.text := by
  simp [behind, text]

@[simp] theorem length_before_behind (m : Mark) (ds : List Char) (hc : c.isDigit = false) :
    (m.behind ds hc).before.length = ds.length + (m.before.length + 1) := by
  simp [behind]

/-- The run of digits that a label starts with is a mark, or all marks stand behind it. -/
theorem starts_or_behind {m : Mark} (hds : ∀ c ∈ ds, c.isDigit = true) (hc : c.isDigit = false)
    (h : m.text = ds ++ c :: rest) :
    m.before = [] ∧ m.run = ds ∧ c = 'p' ∨ ∃ m' : Mark, m'.text = rest ∧ m = m'.behind ds hc := by
  obtain ⟨before, run, after, hbefore, hrun, hlength⟩ := m
  obtain ⟨digits, more, rfl, hdigits, hmore⟩ := Text.exists_run Char.isDigit before
  cases more with
  | nil =>
    left
    obtain rfl : digits = [] := by
      rw [← List.getLast?_eq_none_iff, Option.eq_none_iff_forall_not_mem]
      intro d hd
      have hdigit := hdigits d (List.mem_of_getLast? hd)
      rw [hbefore d (by rwa [List.append_nil])] at hdigit
      cases hdigit
    obtain ⟨rfl, rfl, -⟩ := Text.run_inj hrun isDigit_p hds hc h
    exact ⟨rfl, rfl, rfl⟩
  | cons d more =>
    right
    have htext : digits ++ d :: (more ++ (run ++ 'p' :: after)) = ds ++ c :: rest := by
      rw [← h, text, List.append_assoc, List.cons_append]
    obtain ⟨rfl, rfl, rfl⟩ := Text.run_inj hdigits (hmore d rfl) hds hc htext
    have hlast : ∀ e ∈ more.getLast?, e.isDigit = false := by
      intro e he
      refine hbefore e ?_
      rw [List.getLast?_append, List.getLast?_cons, Option.mem_def.1 he]
      rfl
    exact ⟨⟨more, run, after, hlast, hrun, hlength⟩, rfl, rfl⟩

end Mark

/-! ## The first mark of a label -/

/-- What is found in a text is what its first mark names. -/
theorem find?_cases (cs : List Char) : (find? cs = none ∧ ∀ m : Mark, m.text ≠ cs) ∨
    ∃ m : Mark, m.text = cs ∧ m.IsFirst ∧ find? cs = some m.resolution := by
  -- By induction on the length, from what follows the first run of digits to the whole text.
  induction hlength : cs.length using Nat.strong_induction_on generalizing cs with
  | h n ih =>
    subst hlength
    obtain ⟨ds, tail, rfl, hds, htail⟩ := Text.exists_run Char.isDigit cs
    cases tail with
    | nil =>
      refine .inl ⟨by rw [List.append_nil, find?_digits hds], fun m hm => ?_⟩
      have hp := hds 'p' (by rw [← List.append_nil ds, ← hm]; simp [Mark.text])
      cases hp
    | cons c rest =>
      have hc : c.isDigit = false := htail c rfl
      have hfind : find? (ds ++ c :: rest) = _ := find?_run hds hc
      by_cases hmark : 3 ≤ ds.length ∧ c = 'p'
      · obtain ⟨hlength, rfl⟩ := hmark
        rw [if_pos ⟨hlength, rfl⟩] at hfind
        exact .inr ⟨⟨[], ds, rest, by simp, hds, hlength⟩, rfl, fun _ _ => Nat.zero_le _, hfind⟩
      · rw [if_neg hmark] at hfind
        have hbehind {m : Mark} (hm : m.text = ds ++ c :: rest) :
            ∃ m' : Mark, m'.text = rest ∧ m = m'.behind ds hc := by
          refine (Mark.starts_or_behind hds hc hm).resolve_left ?_
          rintro ⟨-, rfl, hp⟩
          exact hmark ⟨m.three_le_length, hp⟩
        have hlt : rest.length < (ds ++ c :: rest).length := by
          rw [List.length_append, List.length_cons]
          omega
        rcases ih _ hlt rest rfl with ⟨hnone, hall⟩ | ⟨m, hm, hfirst, hsome⟩
        · refine .inl ⟨hfind.trans hnone, fun m hm => ?_⟩
          obtain ⟨m', hm', -⟩ := hbehind hm
          exact hall m' hm'
        · refine .inr ⟨m.behind ds hc, by rw [Mark.text_behind, hm], ?_, hfind.trans hsome⟩
          intro other hother
          rw [Mark.text_behind, hm] at hother
          obtain ⟨other, hother', rfl⟩ := hbehind hother
          have hle := hfirst other (hother'.trans hm.symm)
          simp only [Mark.length_before_behind]
          omega

/-- **The resolution of a label** is what its first mark names, and a label without a mark has
none. -/
theorem reads_first_mark (label : String) :
    (parse? label = none ↔ ¬∃ m : Mark, m.text = label.toList) ∧
      ∀ q, parse? label = some q ↔
        ∃ m : Mark, m.text = label.toList ∧ m.IsFirst ∧ m.resolution = q.toNat := by
  have hvalue (m : Mark) : (UInt32.ofNat m.resolution).toNat = m.resolution :=
    UInt32.toNat_ofNat_of_lt' m.resolution_lt
  rcases find?_cases label.toList with ⟨hnone, hall⟩ | ⟨m, hm, hfirst, hsome⟩
  · have hread : parse? label = none := by rw [parse?, hnone, Option.map_none]
    refine ⟨iff_of_true hread fun ⟨m, hm⟩ => hall m hm, fun q => iff_of_false ?_ ?_⟩
    · rw [hread]
      exact (Option.some_ne_none q).symm
    · rintro ⟨m, hm, -⟩
      exact hall m hm
  · have hread : parse? label = some (UInt32.ofNat m.resolution) := by
      rw [parse?, hsome, Option.map_some]
    refine ⟨iff_of_false (by simp [hread]) fun h => h ⟨m, hm⟩, fun q => ?_⟩
    rw [hread, Option.some_inj]
    constructor
    · rintro rfl
      exact ⟨m, hm, hfirst, (hvalue m).symm⟩
    · rintro ⟨other, hother, hfirst', hq⟩
      obtain rfl := hfirst.unique hfirst' (hm.trans hother.symm)
      exact UInt32.toNat_inj.1 ((hvalue m).trans hq)

/-- A short run before a `p`, a run of more than four digits, and a later mark. -/
example : parse? "10p.12345p.720p" = some 2345 := by decide

end Subtitler.Quality
