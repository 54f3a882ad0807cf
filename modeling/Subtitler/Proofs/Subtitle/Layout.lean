import Subtitler.Proofs.Text.Lines
import Subtitler.Subtitle.Srt

/-!
# Blocks of lines

Numbered lines *fall into* blocks when each block is a run of lines none of which is blank, as long
as such a run can be, and only blank lines stand outside of the blocks. All numbered lines fall into
exactly one list of blocks (`blocks_eq_iff`).
-/

namespace Subtitler.Srt

/-- All lines of a block. -/
def Block.lines (block : Block) : List NumberedLine := block.first :: block.rest

/-- No block can go on with the given lines: there are none, or the first one is blank. -/
def Pauses (rest : List NumberedLine) : Prop :=
  ∀ line ∈ rest.head?, Text.isBlankText line.text = true

/-- Lines fall into blocks. -/
inductive FallInto : List NumberedLine → List Block → Prop
  | none : FallInto [] []
  | blank {line : NumberedLine} {rest : List NumberedLine} {blocks : List Block} :
    Text.isBlankText line.text = true → FallInto rest blocks → FallInto (line :: rest) blocks
  | block {block : Block} {rest : List NumberedLine} {blocks : List Block} :
    (∀ line ∈ block.lines, Text.isBlankText line.text = false) → Pauses rest →
      FallInto rest blocks → FallInto (block.lines ++ rest) (block :: blocks)

section Blocks

variable {line : NumberedLine} {rest : List NumberedLine}

theorem pauses_nil : Pauses [] := by simp [Pauses]

theorem pauses_cons : Pauses (line :: rest) ↔ Text.isBlankText line.text = true := by
  simp [Pauses]

theorem blocks_cons_of_blank (h : Text.isBlankText line.text = true) :
    blocks (line :: rest) = blocks rest := by
  simp [blocks.eq_def (line :: rest), h]

theorem blocks_cons_of_pauses (h : Text.isBlankText line.text = false) (hrest : Pauses rest) :
    blocks (line :: rest) = ⟨line, []⟩ :: blocks rest := by
  rw [blocks.eq_def (line :: rest)]
  simp only [h]
  split
  · contradiction
  · split
    · next next tail block more hblocks => simp [pauses_cons.1 hrest, hblocks]
    · rfl

theorem blocks_cons_of_block {block : Block} {more : List Block}
    (h : Text.isBlankText line.text = false) (hrest : ¬Pauses rest)
    (hblocks : blocks rest = block :: more) :
    blocks (line :: rest) = ⟨line, block.lines⟩ :: more := by
  cases rest with
  | nil => exact absurd pauses_nil hrest
  | cons next tail =>
    rw [blocks.eq_2 _ _ _ _ _ hblocks]
    simp [h, mt pauses_cons.2 hrest, Block.lines]

theorem blocks_append {block : Block}
    (h : ∀ line ∈ block.lines, Text.isBlankText line.text = false) (hrest : Pauses rest) :
    blocks (block.lines ++ rest) = block :: blocks rest := by
  obtain ⟨first, others⟩ := block
  induction others generalizing first with
  | nil => exact blocks_cons_of_pauses (h first (by simp [Block.lines])) hrest
  | cons second others ih =>
    have hsecond := h second (by simp [Block.lines])
    have hmore := ih second fun line hline => h line (List.mem_cons_of_mem first hline)
    exact blocks_cons_of_block (h first (by simp [Block.lines]))
      (fun hp => by simp [pauses_cons.1 hp] at hsecond) hmore

/-- Lines fall into the blocks that are found in them. -/
theorem fallInto_blocks (ls : List NumberedLine) : FallInto ls (blocks ls) := by
  induction ls with
  | nil => exact .none
  | cons line rest ih =>
    by_cases hline : Text.isBlankText line.text = true
    · rw [blocks_cons_of_blank hline]
      exact .blank hline ih
    rw [Bool.not_eq_true] at hline
    by_cases hrest : Pauses rest
    · rw [blocks_cons_of_pauses hline hrest]
      exact @FallInto.block ⟨line, []⟩ rest _ (by simpa [Block.lines]) hrest ih
    · -- The first block of the rest is a run that starts at once, and the line goes before it.
      generalize hblocks : blocks rest = found at ih
      cases ih with
      | none => exact absurd pauses_nil hrest
      | blank hnext => exact absurd (pauses_cons.2 hnext) hrest
      | @block block rest more hshown hpauses hmore =>
        rw [blocks_cons_of_block hline hrest hblocks]
        refine @FallInto.block ⟨line, block.lines⟩ rest more ?_ hpauses hmore
        intro l hl
        rcases List.mem_cons.1 hl with rfl | hl
        · exact hline
        · exact hshown l hl

/-- **All numbered lines fall into exactly one list of blocks.** -/
theorem blocks_eq_iff {ls : List NumberedLine} {bs : List Block} :
    blocks ls = bs ↔ FallInto ls bs := by
  constructor
  · rintro rfl
    exact fallInto_blocks ls
  · intro h
    induction h with
    | none => rfl
    | blank hline _ ih => rw [blocks_cons_of_blank hline, ih]
    | block hlines hrest _ ih => rw [blocks_append hlines hrest, ih]

end Blocks

/-! ## Numbered lines -/

theorem numbered_append (n : Nat) (before after : List (List Char)) :
    numbered n (before ++ after) = numbered n before ++ numbered (n + before.length) after := by
  induction before generalizing n with
  | nil => rfl
  | cons line before ih =>
    simp only [List.cons_append, numbered, ih, List.length_cons]
    rw [Nat.add_right_comm, Nat.add_assoc]

@[simp] theorem map_text_numbered (n : Nat) (rows : List (List Char)) :
    (numbered n rows).map (·.text) = rows := by
  induction rows generalizing n with
  | nil => rfl
  | cons row rows ih => simp [numbered, ih]

theorem forall_mem_numbered {q : List Char → Prop} {rows : List (List Char)}
    (h : ∀ row ∈ rows, q row) (n : Nat) : ∀ line ∈ numbered n rows, q line.text := by
  intro line hline
  have hmem := List.mem_map_of_mem (f := (·.text)) hline
  rw [map_text_numbered] at hmem
  exact h _ hmem

/-- Blank lines in front belong to no block. -/
theorem FallInto.append_blank {gap rest : List NumberedLine} {bs : List Block}
    (hgap : ∀ line ∈ gap, Text.isBlankText line.text = true) (h : FallInto rest bs) :
    FallInto (gap ++ rest) bs := by
  induction gap with
  | nil => exact h
  | cons line gap ih =>
    obtain ⟨hline, hgap⟩ := List.forall_mem_cons.1 hgap
    exact .blank hline (ih hgap)

end Subtitler.Srt
