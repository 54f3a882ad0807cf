import Mathlib.Data.List.Forall2
import Mathlib.Data.List.Infix
import Subtitler.Proofs.Subtitle.Layout
import Subtitler.Proofs.Subtitle.Timing
import Subtitler.Proofs.Text.Split

/-!
# What is read as SubRip

The timing line of a block is its first line if that has an arrow, and otherwise its second one. A
block with times in its timing line writes a cue (`Block.Writes`); any other block has a fault
(`Block.fault`).

**Theorem (`parse_grammar`).** Every text has one list of blocks. It is read if and only if every
block has its times, and gives the cues that the blocks write, in their order. Otherwise the first
block without its times is reported.
-/

namespace Subtitler.Srt

open Text

/-! ## Blocks of a text -/

/-- The byte order mark. -/
def mark : Char := '\uFEFF'

/-- The body of a text is what follows the byte order mark, if there is one. -/
def IsBody (text body : List Char) : Prop :=
  text = mark :: body ∨ text = body ∧ text.head? ≠ some mark

/-- The blocks of a text, whose lines are numbered from 1 on. -/
def HasBlocks (text : List Char) (bs : List Block) : Prop :=
  ∃ body ls, IsBody text body ∧ ConsistsOf body ls ∧ FallInto (numbered 1 ls) bs

theorem withoutMark_eq_iff {text body : List Char} :
    withoutMark text = body ↔ IsBody text body := by
  have hmark : ∀ c : Char, c.toNat = 0xFEFF ↔ c = mark := fun c => Char.toNat_inj (d := mark)
  cases text with
  | nil => simp [withoutMark, IsBody]
  | cons c rest =>
    by_cases hc : c = mark
    · simp [withoutMark, IsBody, hmark, hc]
    · simp [withoutMark, IsBody, hmark, hc]

theorem hasBlocks_iff {text : List Char} {bs : List Block} :
    HasBlocks text bs ↔ blocks (numbered 1 (lines (withoutMark text))) = bs := by
  simp only [HasBlocks, ← withoutMark_eq_iff, ← lines_eq_iff, ← blocks_eq_iff]
  exact ⟨fun ⟨_, _, hbody, hlines, hblocks⟩ => by rw [hbody, hlines, hblocks],
    fun h => ⟨_, _, rfl, rfl, h⟩⟩

theorem parse_eq {text : List Char} {bs : List Block} (h : HasBlocks text bs) :
    parse text = cues 1 bs := by
  rw [parse, hasBlocks_iff.1 h]

/-! ## Cues of blocks -/

namespace Block

/-- The line that has to hold the times of a block. -/
def timing? (b : Block) : Option NumberedLine :=
  if arrow <:+: b.first.text then some b.first else b.rest.head?

/-- What a block at a position is known by. -/
def name (position : Nat) (b : Block) : String :=
  if arrow <:+: b.first.text then toString position else String.ofList (trim b.first.text)

/-- The lines of a block after its timing line. -/
def shown (b : Block) : List NumberedLine :=
  if arrow <:+: b.first.text then b.rest else b.rest.tail

/-- A block has its times. -/
def IsTimed (b : Block) : Prop :=
  ∃ timing ∈ b.timing?, ∃ start finish, TimingText timing.text start finish

/-- A block at a position writes a cue. -/
def Writes (position : Nat) (b : Block) (c : Cue) : Prop :=
  (∃ timing ∈ b.timing?, TimingText timing.text c.start c.finish) ∧ c.id = b.name position ∧
    c.lines = b.shown.map fun line => Style.readLine line.text

/-- What is wrong with a block that does not have its times. -/
def fault (b : Block) : SubtitleError :=
  match b.timing? with
  | some timing => .malformed timing.number
      ("invalid cue timing \"" ++ String.ofList (trim timing.text) ++ "\"")
  | none => .malformed b.first.number "missing cue timing"

end Block

section Cues

variable {position : Nat} {b : Block} {c : Cue} {e : SubtitleError}

theorem timedCue_eq_ok_iff {id : String} {timing : NumberedLine} {text : List NumberedLine} :
    timedCue id timing text = .ok c ↔ TimingText timing.text c.start c.finish ∧ c.id = id ∧
      c.lines = text.map fun line => Style.readLine line.text := by
  rw [timedCue, ← timing?_eq_some_iff]
  cases htiming : timing? timing.text with
  | none => simp
  | some times =>
    obtain ⟨start, finish⟩ := times
    obtain ⟨_, _, _, _⟩ := c
    simp only [Except.ok.injEq, Cue.mk.injEq, Option.some.injEq, Prod.mk.injEq]
    grind

theorem timedCue_eq_error_iff {id : String} {timing : NumberedLine} {text : List NumberedLine} :
    timedCue id timing text = .error e ↔ (∀ start finish, ¬TimingText timing.text start finish) ∧
      e = .malformed timing.number
        ("invalid cue timing \"" ++ String.ofList (trim timing.text) ++ "\"") := by
  simp only [timedCue, ← timing?_eq_some_iff]
  cases htiming : timing? timing.text with
  | none => simp [eq_comm]
  | some times => exact iff_of_false (by simp) fun h => h.1 times.1 times.2 rfl

theorem cue_eq (position : Nat) (b : Block) : cue position b = match b.timing? with
    | some timing => timedCue (b.name position) timing b.shown
    | none => .error b.fault := by
  obtain ⟨first, rest⟩ := b
  by_cases harrow : arrow <:+: first.text
  · simp [cue, occursIn_iff, Block.timing?, Block.name, Block.shown, harrow]
  · cases rest with
    | nil => simp [cue, occursIn_iff, Block.timing?, Block.fault, harrow]
    | cons timing text => simp [cue, occursIn_iff, Block.timing?, Block.name, Block.shown, harrow]

theorem cue_eq_ok_iff : cue position b = .ok c ↔ b.Writes position c := by
  rw [cue_eq, Block.Writes]
  cases b.timing? with
  | none => simp
  | some timing => simpa using timedCue_eq_ok_iff

theorem cue_eq_error_iff : cue position b = .error e ↔ ¬b.IsTimed ∧ e = b.fault := by
  rw [cue_eq, Block.IsTimed, Block.fault]
  cases b.timing? with
  | none => simp [eq_comm]
  | some timing => simpa using timedCue_eq_error_iff

theorem Block.Writes.isTimed (h : b.Writes position c) : b.IsTimed := by
  obtain ⟨⟨timing, htiming, htext⟩, -⟩ := h
  exact ⟨timing, htiming, _, _, htext⟩

/-! ## Cues of texts -/

theorem cues_eq_ok_iff {bs : List Block} {cs : List Cue} : cues position bs = .ok cs ↔
    List.Forall₂ (fun b c => b.1.Writes b.2 c) (bs.zipIdx position) cs := by
  induction bs generalizing position cs with
  | nil => simp [cues, eq_comm, List.forall₂_nil_left_iff]
  | cons b bs ih =>
    rw [cues, List.zipIdx_cons, List.forall₂_cons_left_iff]
    simp only [← ih]
    simp only [← cue_eq_ok_iff]
    cases cue position b with
    | error e => simp [bind, Except.bind]
    | ok first =>
      cases cues (position + 1) bs with
      | error e => simp [bind, Except.bind]
      | ok others => simp [bind, Except.bind, eq_comm]

/-- The first block without its times is the one that is reported. -/
theorem cues_eq_error_iff {bs : List Block} : cues position bs = .error e ↔
    ∃ before bad after, bs = before ++ bad :: after ∧ (∀ b ∈ before, b.IsTimed) ∧ ¬bad.IsTimed ∧
      e = bad.fault := by
  induction bs generalizing position with
  | nil => simp [cues]
  | cons b bs ih =>
    rw [cues]
    cases hcue : cue position b with
    | error e' =>
      obtain ⟨hb, rfl⟩ := cue_eq_error_iff.1 hcue
      constructor
      · intro h
        exact ⟨[], b, bs, rfl, by simp, hb, (Except.error.inj h).symm⟩
      · rintro ⟨_ | ⟨_, before⟩, bad, after, hbs, hbefore, -, rfl⟩
        · rw [(List.cons.inj hbs).1]
          rfl
        · exact absurd ((List.cons.inj hbs).1 ▸ hbefore _ List.mem_cons_self) hb
    | ok first =>
      have hb := (cue_eq_ok_iff.1 hcue).isTimed
      have hrest : (cues (position + 1) bs).bind (fun others => .ok (first :: others)) = .error e ↔
          cues (position + 1) bs = .error e := by
        cases cues (position + 1) bs <;> simp [Except.bind]
      show (cues (position + 1) bs).bind (fun others => .ok (first :: others)) = .error e ↔ _
      rw [hrest, ih]
      constructor
      · rintro ⟨before, bad, after, rfl, hbefore, hbad⟩
        exact ⟨b :: before, bad, after, rfl, List.forall_mem_cons.2 ⟨hb, hbefore⟩, hbad⟩
      · rintro ⟨_ | ⟨_, before⟩, bad, after, hbs, hbefore, hbad⟩
        · exact absurd ((List.cons.inj hbs).1 ▸ hb) hbad.1
        · exact ⟨before, bad, after, (List.cons.inj hbs).2, (List.forall_mem_cons.1 hbefore).2,
            hbad⟩

theorem exists_cue_iff : (∃ c, cue position b = .ok c) ↔ b.IsTimed := by
  cases hcue : cue position b with
  | ok c => simpa using (cue_eq_ok_iff.1 hcue).isTimed
  | error e => simpa using (cue_eq_error_iff.1 hcue).1

theorem exists_cues_iff {bs : List Block} :
    (∃ cs, cues position bs = .ok cs) ↔ ∀ b ∈ bs, b.IsTimed := by
  induction bs generalizing position with
  | nil => simp [cues]
  | cons b bs ih =>
    rw [cues, List.forall_mem_cons, ← @exists_cue_iff position, ← @ih (position + 1)]
    cases cue position b with
    | error e => simp [bind, Except.bind]
    | ok first => cases cues (position + 1) bs <;> simp [bind, Except.bind]

/-- **What is read, and what is reported.** The cues of a text are those that its blocks write; a
text is read if all of its blocks have their times, and otherwise the first one that does not is
reported, with the number of its timing line, or of its only line. -/
theorem parse_grammar (text : List Char) : ∃ bs, HasBlocks text bs ∧
    (∀ others, HasBlocks text others → others = bs) ∧
    ((∃ cs, parse text = .ok cs) ↔ ∀ b ∈ bs, b.IsTimed) ∧
    (∀ cs, parse text = .ok cs ↔
      List.Forall₂ (fun b c => b.1.Writes b.2 c) (bs.zipIdx 1) cs) ∧
    ∀ e, parse text = .error e ↔ ∃ before bad after, bs = before ++ bad :: after ∧
      (∀ b ∈ before, b.IsTimed) ∧ ¬bad.IsTimed ∧ e = bad.fault :=
  ⟨_, hasBlocks_iff.2 rfl, fun _ h => (hasBlocks_iff.1 h).symm, exists_cues_iff,
    fun _ => cues_eq_ok_iff, fun _ => cues_eq_error_iff⟩

end Cues

end Subtitler.Srt
