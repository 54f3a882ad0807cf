import Subtitler.Proofs.Number.Decimal
import Subtitler.Proofs.Subtitle.Grammar
import Subtitler.Proofs.Subtitle.Styling

/-!
# Writing SubRip

A cue is written as its identifier, its two times and its lines (`CueRows`). A text *writes* cues
when its lines are those of the cues, with blank lines between them; it may lack the last line end
(`WritesCues`).

**Theorem (`parse_writesCues`).** Cues that can be written (`IsWritable`) are written by some text,
and every text that writes them is read as exactly these cues.
-/

namespace Subtitler

namespace Decimal

/-- The last digits of a number, as many as there are places. -/
def padded : Nat → Nat → List Char
  | 0, _ => []
  | places + 1, n => padded places (n / 10) ++ [Nat.digitChar (n % 10)]

theorem isDigit_padded (places n : Nat) : ∀ c ∈ padded places n, c.isDigit = true := by
  induction places generalizing n with
  | zero => simp [padded]
  | succ places ih =>
    intro c hc
    rcases List.mem_append.1 hc with hc | hc
    · exact ih _ c hc
    · obtain rfl := List.mem_singleton.1 hc
      exact (digitChar_lt (Nat.mod_lt n (by decide))).1

theorem length_padded (places n : Nat) : (padded places n).length = places := by
  induction places generalizing n with
  | zero => rfl
  | succ places ih => simp [padded, ih]

theorem value_padded_two {n : Nat} (h : n < 100) : value (padded 2 n) = n := by
  have hdigit := fun n : Nat => (digitChar_lt (Nat.mod_lt n (by decide : 10 > 0))).2
  simp only [padded, value_concat, hdigit]
  simp only [value, List.foldl_nil]
  omega

theorem value_padded_three {n : Nat} (h : n < 1000) : value (padded 3 n) = n := by
  rw [padded, value_concat, value_padded_two (by omega),
    (digitChar_lt (Nat.mod_lt n (by decide : 10 > 0))).2]
  omega

end Decimal

namespace Srt

open Text

/-! ## What is written -/

/-- A time below a hundred hours, with the character before its thousandths. -/
def timeText (point : Char) (time : Nat) : List Char :=
  Decimal.padded 2 (time / 3600000) ++ ':' :: (Decimal.padded 2 (time / 60000 % 60) ++
    ':' :: (Decimal.padded 2 (time / 1000 % 60) ++ point :: Decimal.padded 3 (time % 1000)))

/-- The character before the thousandths. -/
def IsPoint (c : Char) : Prop := c = ',' ∨ c = '.'

/-- A line of a cue. -/
def LineText (line : CueLine) (text : List Char) : Prop :=
  ∃ parts, List.Forall₂ Style.RunText line parts ∧ text = parts.flatten

/-- The lines that write a cue. -/
def CueRows (c : Cue) (rows : List (List Char)) : Prop :=
  ∃ point point' texts, IsPoint point ∧ IsPoint point' ∧ List.Forall₂ LineText c.lines texts ∧
    rows = c.id.toList ::
      (timeText point c.start ++ ([' '] ++ (arrow ++ ([' '] ++ timeText point' c.finish)))) :: texts

/-- The lines that write cues. Blank lines stand between two cues, and may stand after the last. -/
inductive Rows : List Cue → List (List Char) → Prop
  | none : Rows [] []
  | last {c : Cue} {rows : List (List Char)} : CueRows c rows → Rows [c] rows
  | next {c : Cue} {cs : List Cue} {rows gap more : List (List Char)} :
    CueRows c rows → gap ≠ [] → (∀ line ∈ gap, isBlankText line = true) → Rows cs more →
      Rows (c :: cs) (rows ++ (gap ++ more))

/-- A text writes cues. -/
def WritesCues (text : List Char) (cs : List Cue) : Prop :=
  ∃ rows, Rows cs rows ∧ ConsistsOf text rows

/-! ## What can be written -/

/-- Text that stays in its line, and is no byte order mark. -/
def IsPlain (text : List Char) : Prop := '\r' ∉ text ∧ '\n' ∉ text ∧ mark ∉ text

/-- A line can be written. -/
structure IsWritableLine (line : CueLine) : Prop where
  nonempty : line ≠ []
  runs : ∀ run ∈ line, Style.Writable run ∧ IsPlain run.text.toList
  apart : Style.Apart line
  shown : ∀ run ∈ line, line = [run] → run.style = {} → isBlankText run.text.toList = false

/-- A cue can be written. -/
structure IsWritable (c : Cue) : Prop where
  id_nonempty : c.id ≠ ""
  id_trimmed : trimmed c.id = c.id
  id_noArrow : ¬arrow <:+: c.id.toList
  id_plain : IsPlain c.id.toList
  start_lt : c.start < 360000000
  finish_lt : c.finish < 360000000
  lines : ∀ line ∈ c.lines, IsWritableLine line

instance (text : List Char) : Decidable (IsPlain text) := by
  unfold IsPlain
  infer_instance

instance (run : StyledRun) : Decidable (Style.Writable run) :=
  decidable_of_iff (run.text ≠ "" ∧ '<' ∉ run.text.toList) ⟨fun ⟨h, h'⟩ => ⟨h, h'⟩,
    fun ⟨h, h'⟩ => ⟨h, h'⟩⟩

instance (line : CueLine) : Decidable (Style.Apart line) := by
  unfold Style.Apart
  infer_instance

instance (line : CueLine) : Decidable (IsWritableLine line) :=
  decidable_of_iff (line ≠ [] ∧ (∀ run ∈ line, Style.Writable run ∧ IsPlain run.text.toList) ∧
    Style.Apart line ∧
      ∀ run ∈ line, line = [run] → run.style = {} → isBlankText run.text.toList = false)
    ⟨fun ⟨h₁, h₂, h₃, h₄⟩ => ⟨h₁, h₂, h₃, h₄⟩, fun ⟨h₁, h₂, h₃, h₄⟩ => ⟨h₁, h₂, h₃, h₄⟩⟩

instance (c : Cue) : Decidable (IsWritable c) :=
  decidable_of_iff (c.id ≠ "" ∧ trimmed c.id = c.id ∧ ¬arrow <:+: c.id.toList ∧
    IsPlain c.id.toList ∧ c.start < 360000000 ∧ c.finish < 360000000 ∧
      ∀ line ∈ c.lines, IsWritableLine line)
    ⟨fun ⟨h₁, h₂, h₃, h₄, h₅, h₆, h₇⟩ => ⟨h₁, h₂, h₃, h₄, h₅, h₆, h₇⟩,
      fun ⟨h₁, h₂, h₃, h₄, h₅, h₆, h₇⟩ => ⟨h₁, h₂, h₃, h₄, h₅, h₆, h₇⟩⟩

/-! ## Times -/

theorem isRun_padded (places n : Nat) : IsRun places places (Decimal.padded places n) where
  digits := Decimal.isDigit_padded places n
  least_le := Nat.le_of_eq (Decimal.length_padded places n).symm
  le_most := Nat.le_of_eq (Decimal.length_padded places n)

theorem timeText_timeText {point : Char} {time : Nat} (hpoint : IsPoint point)
    (htime : time < 360000000) : TimeText (timeText point time) time := by
  have hhours : IsRun 1 2 (Decimal.padded 2 (time / 3600000)) :=
    ⟨Decimal.isDigit_padded 2 _, by simp [Decimal.length_padded], by simp [Decimal.length_padded]⟩
  have h := TimeText.mk hhours (isRun_padded 2 (time / 60000 % 60))
    (isRun_padded 2 (time / 1000 % 60)) (isRun_padded 3 (time % 1000)) hpoint
  rw [Decimal.value_padded_two (by omega), Decimal.value_padded_two (by omega),
    Decimal.value_padded_two (by omega), Decimal.value_padded_three (by omega)] at h
  have hsum : time / 3600000 * 3600000 + time / 60000 % 60 * 60000 + time / 1000 % 60 * 1000 +
      time % 1000 = time := by omega
  rwa [hsum] at h

/-! ## Lines that are not blank -/

theorem forall_mem_right {α β : Type} {R : α → β → Prop} {q : β → Prop} {l : List α} {u : List β}
    (h : List.Forall₂ R l u) (hq : ∀ a ∈ l, ∀ b, R a b → q b) : ∀ b ∈ u, q b := by
  induction h with
  | nil => simp
  | cons hab _ ih =>
    obtain ⟨hfirst, hrest⟩ := List.forall_mem_cons.1 hq
    exact List.forall_mem_cons.2 ⟨hfirst _ hab, ih hrest⟩

section NotBlank

variable {c : Cue} {line : CueLine} {text : List Char} {rows : List (List Char)}

theorem isBlankText_eq_false {ch : Char} (h : ch ∈ text) (hch : isBlank ch = false) :
    isBlankText text = false := by
  rw [isBlankText, List.all_eq_false]
  exact ⟨ch, h, by simp [hch]⟩

theorem lt_mem_of_runText {run : StyledRun} (h : Style.RunText run text) (hstyle : run.style ≠ {}) :
    '<' ∈ text := by
  obtain ⟨tags, hperm, rfl⟩ := h
  cases tags with
  | nil => exact absurd (Style.letters_eq_nil.1 hperm.symm.eq_nil) hstyle
  | cons letter tags => simp [Style.tagText]

theorem eq_of_runText {run : StyledRun} (h : Style.RunText run text) (hstyle : run.style = {}) :
    text = run.text.toList := by
  obtain ⟨tags, hperm, rfl⟩ := h
  rw [Style.letters_eq_nil.2 hstyle] at hperm
  rw [hperm.eq_nil]
  simp

/-- A line has tags, or its only run is not blank. -/
theorem IsWritableLine.not_blank (hline : IsWritableLine line) (h : LineText line text) :
    isBlankText text = false := by
  obtain ⟨parts, hparts, rfl⟩ := h
  cases hparts with
  | nil => exact absurd rfl hline.nonempty
  | @cons first part others parts hfirst hothers =>
    by_cases hplain : first.style = {}
    · cases hothers with
      | nil =>
        rw [eq_of_runText hfirst hplain]
        simpa using hline.shown first (List.mem_singleton_self first) rfl hplain
      | @cons second part' _ _ hsecond _ =>
        have hstyle := (List.isChain_cons_cons.1 hline.apart).1 hplain
        have hmem := lt_mem_of_runText hsecond hstyle
        exact @isBlankText_eq_false _ '<' (by simp [hmem]) (by decide)
    · have hmem := lt_mem_of_runText hfirst hplain
      exact @isBlankText_eq_false _ '<' (by simp [hmem]) (by decide)

theorem IsWritable.not_blank (hc : IsWritable c) (h : CueRows c rows) :
    ∀ row ∈ rows, isBlankText row = false := by
  obtain ⟨point, point', texts, hpoint, hpoint', htexts, rfl⟩ := h
  rw [List.forall_mem_cons, List.forall_mem_cons]
  refine ⟨?_, ?_, ?_⟩
  · rw [← Bool.not_eq_true]
    intro hblank
    have htrimmed := hc.id_trimmed
    rw [trimmed, trim_eq_nil hblank] at htrimmed
    exact hc.id_nonempty htrimmed.symm
  · exact @isBlankText_eq_false _ '-' (by simp [arrow]) (by decide)
  · exact forall_mem_right htexts fun line hline _ htext => (hc.lines line hline).not_blank htext

end NotBlank

/-! ## Blocks -/

/-- A block whose lines write a cue. -/
def IsBlockOf (c : Cue) (b : Block) : Prop := CueRows c (b.lines.map (·.text))

theorem CueRows.exists_block {c : Cue} {rows : List (List Char)} (h : CueRows c rows) (n : Nat) :
    ∃ b : Block, b.lines = numbered n rows ∧ IsBlockOf c b := by
  cases rows with
  | nil =>
    obtain ⟨_, _, _, _, _, _, hrows⟩ := h
    cases hrows
  | cons first others =>
    have hlines : (Block.mk ⟨n, first⟩ (numbered (n + 1) others)).lines =
        numbered n (first :: others) := rfl
    refine ⟨_, hlines, ?_⟩
    rwa [IsBlockOf, hlines, map_text_numbered]

/-- The lines that write cues fall into one block for each of them. -/
theorem Rows.exists_blocks {cs : List Cue} {rows : List (List Char)} (h : Rows cs rows)
    (hcs : ∀ c ∈ cs, IsWritable c) (n : Nat) :
    ∃ bs, FallInto (numbered n rows) bs ∧ List.Forall₂ IsBlockOf cs bs := by
  induction h generalizing n with
  | none => exact ⟨[], .none, .nil⟩
  | @last c rows hrows =>
    have hc := hcs c (List.mem_singleton_self c)
    obtain ⟨b, hb, hblock⟩ := hrows.exists_block n
    refine ⟨[b], ?_, .cons hblock .nil⟩
    rw [← List.append_nil (numbered n rows), ← hb]
    refine .block ?_ pauses_nil .none
    rw [hb]
    exact forall_mem_numbered (hc.not_blank hrows) n
  | @next c cs rows gap more hrows hne hgap hmore ih =>
    obtain ⟨hc, hcs⟩ := List.forall_mem_cons.1 hcs
    obtain ⟨b, hb, hblock⟩ := hrows.exists_block n
    obtain ⟨bs, hbs, hblocks⟩ := ih hcs (n + rows.length + gap.length)
    have hblank := forall_mem_numbered hgap (n + rows.length)
    refine ⟨b :: bs, ?_, .cons hblock hblocks⟩
    rw [numbered_append, numbered_append, ← hb]
    refine .block ?_ ?_ (hbs.append_blank hblank)
    · rw [hb]
      exact forall_mem_numbered (hc.not_blank hrows) n
    · cases gap with
      | nil => exact absurd rfl hne
      | cons line gap => exact pauses_cons.2 (hgap line List.mem_cons_self)

/-! ## Cues -/

theorem map_readLine {lines : List CueLine} {texts : List (List Char)}
    (hlines : ∀ line ∈ lines, IsWritableLine line) (h : List.Forall₂ LineText lines texts) :
    texts.map Style.readLine = lines := by
  induction h with
  | nil => rfl
  | @cons line text lines texts htext _ ih =>
    obtain ⟨hline, hlines⟩ := List.forall_mem_cons.1 hlines
    obtain ⟨parts, hparts, rfl⟩ := htext
    rw [List.map_cons, ih hlines,
      Style.readLine_flatten hparts (fun run hrun => (hline.runs run hrun).1) hline.apart]

theorem IsBlockOf.writes {c : Cue} {b : Block} (hc : IsWritable c) (h : IsBlockOf c b)
    (position : Nat) : b.Writes position c := by
  obtain ⟨first, rest⟩ := b
  obtain ⟨point, point', texts, hpoint, hpoint', htexts, hrows⟩ := h
  obtain ⟨hfirst, hrest⟩ := List.cons.inj hrows
  obtain ⟨timing, shown, rfl, htiming, rfl⟩ := List.map_eq_cons_iff.1 hrest
  change first.text = c.id.toList at hfirst
  have harrow : ¬arrow <:+: first.text := by
    rw [hfirst]
    exact hc.id_noArrow
  refine ⟨⟨timing, by simp [Block.timing?, harrow], ?_⟩, ?_, ?_⟩
  · rw [htiming]
    exact (timeText_timeText hpoint hc.start_lt).timingText
      (timeText_timeText hpoint' hc.finish_lt) (by decide) (by decide)
  · rw [Block.name, if_neg harrow]
    show c.id = String.ofList (trim first.text)
    rw [hfirst]
    exact hc.id_trimmed.symm
  · rw [Block.shown, if_neg harrow]
    exact (map_readLine hc.lines htexts).symm.trans List.map_map

theorem cues_eq_ok {cs : List Cue} {bs : List Block} (hcs : ∀ c ∈ cs, IsWritable c)
    (h : List.Forall₂ IsBlockOf cs bs) (position : Nat) : cues position bs = .ok cs := by
  rw [cues_eq_ok_iff]
  induction h generalizing position with
  | nil => exact .nil
  | cons hblock _ ih =>
    obtain ⟨hc, hcs⟩ := List.forall_mem_cons.1 hcs
    exact .cons (hblock.writes hc position) (ih hcs (position + 1))

/-! ## Texts -/

theorem Rows.head {cs : List Cue} {rows : List (List Char)} (h : Rows cs rows) :
    ∀ row ∈ rows.head?, ∃ c ∈ cs, row = c.id.toList := by
  cases h with
  | none => simp
  | last hrows | next hrows =>
    obtain ⟨point, point', texts, -, -, -, rfl⟩ := hrows
    rintro _ ⟨⟩
    exact ⟨_, List.mem_cons_self, rfl⟩

/-- A text that writes cues has no byte order mark. -/
theorem isBody_self {cs : List Cue} {rows : List (List Char)} {text : List Char}
    (h : Rows cs rows) (hcs : ∀ c ∈ cs, IsWritable c) (htext : ConsistsOf text rows) :
    IsBody text text := by
  refine .inr ⟨rfl, ?_⟩
  cases rows with
  | nil =>
    cases htext
    simp
  | cons row rows =>
    obtain ⟨c, hc, rfl⟩ := h.head row rfl
    have hne : c.id.toList ≠ [] := fun hnil =>
      (hcs c hc).id_nonempty (String.toList_eq_nil_iff.1 hnil)
    rw [htext.head? hne]
    exact fun hmark => (hcs c hc).id_plain.2.2 (List.mem_of_mem_head? hmark)

theorem parse_of_writesCues {cs : List Cue} {text : List Char} (hcs : ∀ c ∈ cs, IsWritable c)
    (h : WritesCues text cs) : parse text = .ok cs := by
  obtain ⟨rows, hrows, htext⟩ := h
  obtain ⟨bs, hbs, hblocks⟩ := hrows.exists_blocks hcs 1
  rw [parse_eq ⟨text, rows, isBody_self hrows hcs htext, htext, hbs⟩]
  exact cues_eq_ok hcs hblocks 1

/-! ## Some text -/

theorem exists_forall₂ {α β : Type} {R : α → β → Prop} {q : β → Prop} {l : List α}
    (h : ∀ a ∈ l, ∃ b, R a b ∧ q b) : ∃ u, List.Forall₂ R l u ∧ ∀ b ∈ u, q b := by
  induction l with
  | nil => exact ⟨[], .nil, by simp⟩
  | cons a l ih =>
    obtain ⟨⟨b, hab, hb⟩, hl⟩ := List.forall_mem_cons.1 h
    obtain ⟨u, hu, hall⟩ := ih hl
    exact ⟨b :: u, .cons hab hu, List.forall_mem_cons.2 ⟨hb, hall⟩⟩

/-- Text without any part of a line end. -/
def Unbroken (text : List Char) : Prop := ∀ ch ∈ text, ch ≠ '\r' ∧ ch ≠ '\n'

theorem unbroken_append {before after : List Char} :
    Unbroken (before ++ after) ↔ Unbroken before ∧ Unbroken after := List.forall_mem_append

theorem unbroken_cons {ch : Char} {text : List Char} :
    Unbroken (ch :: text) ↔ (ch ≠ '\r' ∧ ch ≠ '\n') ∧ Unbroken text := List.forall_mem_cons

theorem IsPlain.unbroken {text : List Char} (h : IsPlain text) : Unbroken text :=
  fun _ hch => ⟨fun heq => h.1 (heq ▸ hch), fun heq => h.2.1 (heq ▸ hch)⟩

theorem unbroken_padded (places n : Nat) : Unbroken (Decimal.padded places n) := by
  intro ch hch
  have hblank := isBlank_of_isDigit (Decimal.isDigit_padded places n ch hch)
  constructor <;> rintro rfl <;> exact absurd hblank (by decide)

theorem unbroken_timeText (time : Nat) : Unbroken (timeText ',' time) := by
  simp only [timeText, unbroken_append, unbroken_cons, unbroken_padded]
  decide

theorem unbroken_tags (closing : Bool) {tags : List Char} {style : TextStyle}
    (h : ∀ letter ∈ tags, letter ∈ style.letters) :
    Unbroken (tags.flatMap (Style.tagText closing)) := by
  intro ch hch
  obtain ⟨letter, hletter, hch⟩ := List.mem_flatMap.1 hch
  have htag : Unbroken (Style.tagText closing letter) := by
    rcases Style.mem_letters.1 (h letter hletter) with ⟨rfl, -⟩ | ⟨rfl, -⟩ | ⟨rfl, -⟩ <;>
      cases closing <;> simp [Style.tagText, Unbroken]
  exact htag ch hch

theorem exists_runText {run : StyledRun} (h : IsPlain run.text.toList) :
    ∃ text, Style.RunText run text ∧ Unbroken text := by
  refine ⟨_, ⟨run.style.letters, .refl _, rfl⟩, ?_⟩
  exact unbroken_append.2 ⟨unbroken_tags false fun _ h => h, unbroken_append.2
    ⟨h.unbroken, unbroken_tags true fun _ h => List.mem_reverse.1 h⟩⟩

theorem exists_lineText {line : CueLine} (h : IsWritableLine line) :
    ∃ text, LineText line text ∧ Unbroken text := by
  obtain ⟨parts, hparts, hunbroken⟩ :=
    exists_forall₂ fun run hrun => exists_runText (h.runs run hrun).2
  refine ⟨_, ⟨parts, hparts, rfl⟩, fun ch hch => ?_⟩
  obtain ⟨part, hpart, hch⟩ := List.mem_flatten.1 hch
  exact hunbroken part hpart ch hch

theorem exists_cueRows {c : Cue} (hc : IsWritable c) :
    ∃ rows, CueRows c rows ∧ ∀ row ∈ rows, Unbroken row := by
  obtain ⟨texts, htexts, hunbroken⟩ :=
    exists_forall₂ fun line hline => exists_lineText (hc.lines line hline)
  refine ⟨_, ⟨',', ',', texts, .inl rfl, .inl rfl, htexts, rfl⟩, ?_⟩
  refine List.forall_mem_cons.2 ⟨hc.id_plain.unbroken, List.forall_mem_cons.2 ⟨?_, hunbroken⟩⟩
  have harrow : Unbroken arrow := by simp [Unbroken, arrow]
  have hspace : Unbroken [' '] := by simp [Unbroken]
  simp only [unbroken_append, unbroken_timeText, true_and, and_true]
  exact ⟨hspace, harrow, hspace⟩

theorem consistsOf_flatMap {rows : List (List Char)} (h : ∀ row ∈ rows, Unbroken row) :
    ConsistsOf (rows.flatMap (· ++ ['\n'])) rows := by
  induction rows with
  | nil => exact .none
  | cons row rows ih =>
    obtain ⟨hrow, hrows⟩ := List.forall_mem_cons.1 h
    have hfeed : '\n' ∉ row := fun hmem => (hrow _ hmem).2 rfl
    have hreturn : row.getLast? ≠ some '\r' := fun hlast =>
      (hrow _ (List.mem_of_getLast? hlast)).1 rfl
    simpa using ConsistsOf.feed hfeed hreturn (ih hrows)

theorem exists_writesCues {cs : List Cue} (hcs : ∀ c ∈ cs, IsWritable c) :
    ∃ text, WritesCues text cs := by
  have hrows : ∃ rows, Rows cs rows ∧ ∀ row ∈ rows, Unbroken row := by
    induction cs with
    | nil => exact ⟨[], .none, by simp⟩
    | cons c cs ih =>
      obtain ⟨hc, hcs⟩ := List.forall_mem_cons.1 hcs
      obtain ⟨rows, hrows, hunbroken⟩ := exists_cueRows hc
      obtain ⟨more, hmore, hothers⟩ := ih hcs
      refine ⟨rows ++ ([[]] ++ more), .next hrows (by simp) (by simp [isBlankText]) hmore, ?_⟩
      exact List.forall_mem_append.2
        ⟨hunbroken, List.forall_mem_cons.2 ⟨by simp [Unbroken], hothers⟩⟩
  obtain ⟨rows, hrows, hunbroken⟩ := hrows
  exact ⟨_, rows, hrows, consistsOf_flatMap hunbroken⟩

/-- **Cues that are written are read back.** Some text writes them, and what writes them is read as
exactly these cues. -/
theorem parse_writesCues {cs : List Cue} (hcs : ∀ c ∈ cs, IsWritable c) :
    (∃ text, WritesCues text cs) ∧ ∀ text, WritesCues text cs → parse text = .ok cs :=
  ⟨exists_writesCues hcs, fun _ => parse_of_writesCues hcs⟩

/-- Two cues: one with text in three styles, and a late one that shows nothing. -/
def dialogue : List Cue :=
  [⟨"1", 1000, 4000, [[⟨{}, "Hello "⟩, ⟨{ italic := true, bold := true }, "there"⟩],
      [⟨{ underline := true }, " "⟩, ⟨{ underline := true }, "--> x > y"⟩]]⟩,
    ⟨"the end", 359999999, 5, []⟩]

/-- The two cues, with line ends of both kinds, and none at the end. -/
def dialogueText : List Char :=
  ("1\n00:00:01,000 --> 00:00:04.000\r\n" ++
    "Hello <b><i>there</i></b>\n<u> </u><u>--> x > y</u>\n \n\r\n" ++
    "the end\n99:59:59.999 --> 00:00:00,005").toList

theorem parse_writesCues_dialogue : (∀ c ∈ dialogue, IsWritable c) ∧
    WritesCues dialogueText dialogue ∧ parse dialogueText = .ok dialogue := by
  have hcs : ∀ c ∈ dialogue, IsWritable c := by decide +kernel
  have hfirst : List.Forall₂ LineText dialogue[0].lines
      ["Hello <b><i>there</i></b>".toList, "<u> </u><u>--> x > y</u>".toList] :=
    .cons ⟨["Hello ".toList, "<b><i>there</i></b>".toList],
        .cons ⟨[], by decide, by decide⟩ (.cons ⟨['b', 'i'], by decide, by decide⟩ .nil), by decide⟩
      (.cons ⟨["<u> </u>".toList, "<u>--> x > y</u>".toList],
        .cons ⟨['u'], by decide, by decide⟩ (.cons ⟨['u'], by decide, by decide⟩ .nil), by decide⟩
        .nil)
  have hlast : CueRows dialogue[1] ["the end".toList, "99:59:59.999 --> 00:00:00,005".toList] :=
    ⟨'.', ',', [], .inr rfl, .inl rfl, .nil, by decide +kernel⟩
  have hrows : Rows dialogue _ := .next ⟨',', '.', _, .inl rfl, .inr rfl, hfirst, rfl⟩
    (List.cons_ne_nil [' '] [[]]) (by decide) (.last hlast)
  have htext : WritesCues dialogueText dialogue :=
    ⟨_, hrows, lines_eq_iff.1 (by decide +kernel)⟩
  exact ⟨hcs, htext, (parse_writesCues hcs).2 _ htext⟩

end Srt

end Subtitler
