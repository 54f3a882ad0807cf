import Subtitler.Proofs.Subtitle.Styling
import Subtitler.Proofs.Text.Runs

/-!
# What the tags of a line do

A line is cut into its tags and the characters between them (`IsCut`): the tags do not overlap,
and no tag starts at one of the characters, so they are the leftmost ones. Every line is cut in
exactly one way.

**Theorem (`readLine_styles`).** The runs of a line are not empty and together hold the characters
between the tags. A character is italic, bold or underlined exactly when the last tag before it with
the letter of that face is there and is an opening one.
-/

namespace Subtitler

/-! ## Faces -/

/-- What a style can have. -/
inductive Face
  | italic
  | bold
  | underline
deriving DecidableEq, Repr

/-- The letter of the tags for a face. -/
def Face.letter : Face → Char
  | italic => 'i'
  | bold => 'b'
  | underline => 'u'

/-- Whether a style has a face. -/
def TextStyle.has (style : TextStyle) : Face → Bool
  | .italic => style.italic
  | .bold => style.bold
  | .underline => style.underline

namespace Style

/-! ## Tags in a line -/

/-- A tag as it stands in a line: its name is as long as it can be, and no `>` comes before its
end. -/
structure WrittenTag where
  closing : Bool
  name : List Char
  more : List Char
  name_ne_nil : name ≠ []
  isLetter_name : ∀ c ∈ name, isLetter c = true
  isLetter_more : ∀ c ∈ more.head?, isLetter c = false
  not_mem_more : '>' ∉ more

namespace WrittenTag

/-- The text of a tag. -/
def text (t : WrittenTag) : List Char :=
  '<' :: ((if t.closing then ['/'] else []) ++ (t.name ++ (t.more ++ ['>'])))

/-- The tag that is read. -/
def tag (t : WrittenTag) : Tag := ⟨t.closing, t.name.map Char.toLower⟩

/-- A tag is named after a face, in either case. -/
def Names (t : WrittenTag) (face : Face) : Prop :=
  t.name = [face.letter] ∨ t.name = [face.letter.toUpper]

end WrittenTag

section Tags

variable (t : WrittenTag) (rest : List Char)

theorem WrittenTag.takeWhile_name :
    (t.name ++ (t.more ++ '>' :: rest)).takeWhile isLetter = t.name ∧
      (t.name ++ (t.more ++ '>' :: rest)).dropWhile isLetter = t.more ++ '>' :: rest := by
  have hend : ∀ c ∈ (t.more ++ '>' :: rest).head?, isLetter c = false := by
    intro c hc
    cases hmore : t.more with
    | nil =>
      rw [hmore] at hc
      cases hc
      decide
    | cons d more =>
      rw [hmore] at hc
      exact t.isLetter_more c (by rwa [hmore])
  exact ⟨Text.takeWhile_run t.isLetter_name hend, Text.dropWhile_run t.isLetter_name hend⟩

theorem WrittenTag.takeWhile_more :
    (t.more ++ '>' :: rest).takeWhile (· != '>') = t.more ∧
      (t.more ++ '>' :: rest).dropWhile (· != '>') = '>' :: rest := by
  have hmore : ∀ c ∈ t.more, (c != '>') = true :=
    fun c hc => bne_iff_ne.2 fun heq => t.not_mem_more (heq ▸ hc)
  exact ⟨Text.takeWhile_run hmore (by simp), Text.dropWhile_run hmore (by simp)⟩

theorem named?_append (closing : Bool) : named? closing (t.name ++ (t.more ++ '>' :: rest)) =
    some (⟨closing, t.name.map Char.toLower⟩, rest) := by
  simp only [named?, t.takeWhile_name, t.takeWhile_more]
  simp [t.name_ne_nil]

theorem exists_of_named? {closing : Bool} {body rest : List Char} {tag : Tag}
    (h : named? closing body = some (tag, rest)) :
    ∃ t : WrittenTag, t.closing = closing ∧ body = t.name ++ (t.more ++ '>' :: rest) ∧
      t.tag = tag := by
  obtain ⟨name, after, rfl, hname, hafter⟩ := Text.exists_run isLetter body
  obtain ⟨more, final, rfl, hmore, hfinal⟩ := Text.exists_run (· != '>') after
  unfold named? at h
  rw [Text.takeWhile_run hname hafter, Text.dropWhile_run hname hafter,
    Text.dropWhile_run hmore hfinal] at h
  split_ifs at h with hempty
  cases final with
  | nil => cases h
  | cons c final =>
    obtain rfl : c = '>' := by simpa using hfinal c rfl
    obtain ⟨rfl, rfl⟩ := Prod.mk.inj (Option.some.inj h)
    have hhead : ∀ c ∈ more.head?, isLetter c = false := fun c hc => by
      refine hafter c ?_
      rw [List.head?_append, Option.mem_def.1 hc]
      rfl
    exact ⟨⟨closing, name, more, by simpa using hempty, hname, hhead,
      fun hmem => by simpa using hmore _ hmem⟩, rfl, rfl, rfl⟩

theorem text_append : t.text ++ rest =
    '<' :: ((if t.closing then ['/'] else []) ++ (t.name ++ (t.more ++ '>' :: rest))) := by
  simp [WrittenTag.text]

/-- A tag is read at the start of a text. -/
theorem tag?_text : tag? (t.text ++ rest) = some (t.tag, rest) := by
  have hbody := named?_append t rest t.closing
  rw [text_append]
  cases hclosing : t.closing with
  | true =>
    rw [hclosing] at hbody
    rw [WrittenTag.tag, hclosing]
    exact (tag?_slash _).trans hbody
  | false =>
    rw [hclosing] at hbody
    rw [WrittenTag.tag, hclosing]
    refine (tag?_plain ?_).trans hbody
    obtain ⟨c, name, hname⟩ := List.exists_cons_of_ne_nil t.name_ne_nil
    intro more heq
    have hc := t.isLetter_name c (by simp [hname])
    rw [hname] at heq
    obtain rfl : c = '/' := (List.cons.inj heq).1
    exact absurd hc (by decide)

/-- What is read as a tag stands at the start of the text. -/
theorem exists_of_tag? {cs rest : List Char} {tag : Tag} (h : tag? cs = some (tag, rest)) :
    ∃ t : WrittenTag, cs = t.text ++ rest ∧ t.tag = tag := by
  cases cs with
  | nil => cases h
  | cons c body =>
    by_cases hc : c = '<'
    · subst hc
      by_cases hslash : ∃ more, body = '/' :: more
      · obtain ⟨more, rfl⟩ := hslash
        rw [tag?_slash] at h
        obtain ⟨t, hclosing, rfl, htag⟩ := exists_of_named? h
        exact ⟨t, by rw [text_append, hclosing]; rfl, htag⟩
      · rw [tag?_plain (not_exists.1 hslash)] at h
        obtain ⟨t, hclosing, rfl, htag⟩ := exists_of_named? h
        exact ⟨t, by rw [text_append, hclosing]; rfl, htag⟩
    · rw [tag?_eq_none hc] at h
      cases h

theorem tag?_eq_none_iff {cs : List Char} : tag? cs = none ↔ ∀ t : WrittenTag, ¬t.text <+: cs := by
  constructor
  · rintro h t ⟨rest, rfl⟩
    rw [tag?_text] at h
    cases h
  · intro h
    cases hread : tag? cs with
    | none => rfl
    | some found =>
      obtain ⟨t, rfl, -⟩ := exists_of_tag? hread
      exact absurd (List.prefix_append _ _) (h t)

/-- Where a tag ends in a text is known. -/
theorem text_append_inj {t t' : WrittenTag} {rest rest' : List Char}
    (h : t.text ++ rest = t'.text ++ rest') : t = t' ∧ rest = rest' := by
  have hread := (tag?_text t rest).symm.trans (h ▸ tag?_text t' rest')
  obtain ⟨htag, rfl⟩ := Prod.mk.inj (Option.some.inj hread)
  have hclosing : t.closing = t'.closing := congrArg Tag.closing htag
  rw [text_append, text_append, hclosing] at h
  have hbody := List.append_cancel_left (List.cons.inj h).2
  have hname : t.name = t'.name := by
    rw [← (t.takeWhile_name rest).1, hbody, (t'.takeWhile_name rest).1]
  rw [hname] at hbody
  have hmore : t.more = t'.more := by
    rw [← (t.takeWhile_more rest).1, List.append_cancel_left hbody, (t'.takeWhile_more rest).1]
  refine ⟨?_, rfl⟩
  cases t
  cases t'
  cases hclosing
  cases hname
  cases hmore
  rfl

end Tags

/-! ## Cutting a line at its tags -/

/-- A part of a line. -/
inductive Part
  | char (c : Char)
  | tag (t : WrittenTag)

namespace Part

/-- The text of a part. -/
def text : Part → List Char
  | char c => [c]
  | tag t => t.text

/-- The character that a part is. -/
def char? : Part → Option Char
  | char c => some c
  | tag _ => none

/-- What is read for a part. -/
def piece : Part → Piece
  | char c => .char c
  | tag t => .tag t.tag

end Part

/-- A line is cut at its tags: the parts make up the line, and no tag starts at a character that is
a part by itself. -/
structure IsCut (line : List Char) (parts : List Part) : Prop where
  text : parts.flatMap Part.text = line
  leftmost : ∀ before c after, parts = before ++ .char c :: after →
    ∀ t : WrittenTag, ¬t.text <+: c :: after.flatMap Part.text

section Cuts

variable {line : List Char} {parts : List Part}

theorem isCut_nil_iff : IsCut line [] ↔ line = [] :=
  ⟨fun h => h.text.symm, fun h => ⟨h.symm, by simp⟩⟩

theorem isCut_char_iff {c : Char} : IsCut line (.char c :: parts) ↔
    ∃ rest, line = c :: rest ∧ tag? line = none ∧ IsCut rest parts := by
  constructor
  · rintro ⟨rfl, hleftmost⟩
    refine ⟨_, rfl, tag?_eq_none_iff.2 (hleftmost [] c parts rfl), rfl, ?_⟩
    intro before d after hparts
    exact hleftmost (.char c :: before) d after (by rw [hparts, List.cons_append])
  · rintro ⟨rest, rfl, hnone, rfl, hleftmost⟩
    refine ⟨rfl, fun before d after hparts => ?_⟩
    cases before with
    | nil =>
      obtain ⟨hc, rfl⟩ := List.cons.inj hparts
      cases hc
      exact tag?_eq_none_iff.1 hnone
    | cons first before => exact hleftmost before d after (List.cons.inj hparts).2

theorem isCut_tag_iff {t : WrittenTag} : IsCut line (.tag t :: parts) ↔
    ∃ rest, line = t.text ++ rest ∧ IsCut rest parts := by
  constructor
  · rintro ⟨rfl, hleftmost⟩
    refine ⟨_, rfl, rfl, fun before c after hparts => ?_⟩
    exact hleftmost (.tag t :: before) c after (by rw [hparts, List.cons_append])
  · rintro ⟨rest, rfl, rfl, hleftmost⟩
    refine ⟨rfl, fun before c after hparts => ?_⟩
    cases before with
    | nil => cases (List.cons.inj hparts).1
    | cons first before => exact hleftmost before c after (List.cons.inj hparts).2

/-- What is read of a line are the parts that it is cut into. -/
theorem pieces_of_isCut (h : IsCut line parts) :
    pieces line.length line = parts.map Part.piece := by
  induction parts generalizing line with
  | nil =>
    obtain rfl := isCut_nil_iff.1 h
    rfl
  | cons part parts ih =>
    cases part with
    | char c =>
      obtain ⟨rest, rfl, hnone, hrest⟩ := isCut_char_iff.1 h
      rw [List.length_cons, pieces, hnone]
      dsimp only
      rw [ih hrest, List.map_cons, Part.piece]
    | tag t =>
      obtain ⟨rest, rfl, hrest⟩ := isCut_tag_iff.1 h
      have hread := tag?_text t rest
      have hlt := length_lt_of_tag? hread
      rw [text_append] at hread hlt ⊢
      rw [List.length_cons, pieces, hread]
      dsimp only
      rw [pieces_eq (Nat.lt_succ_iff.1 hlt) (Nat.le_refl _), ih hrest, List.map_cons, Part.piece]

theorem exists_isCut (line : List Char) : ∃ parts, IsCut line parts := by
  induction hlength : line.length using Nat.strong_induction_on generalizing line with
  | h n ih =>
    subst hlength
    cases hread : tag? line with
    | some found =>
      obtain ⟨t, rfl, -⟩ := exists_of_tag? hread
      obtain ⟨parts, hparts⟩ := ih _ (length_lt_of_tag? hread) found.2 rfl
      exact ⟨.tag t :: parts, isCut_tag_iff.2 ⟨_, rfl, hparts⟩⟩
    | none =>
      cases line with
      | nil => exact ⟨[], isCut_nil_iff.2 rfl⟩
      | cons c rest =>
        obtain ⟨parts, hparts⟩ := ih _ (Nat.lt_succ_self rest.length) rest rfl
        exact ⟨.char c :: parts, isCut_char_iff.2 ⟨rest, rfl, hread, hparts⟩⟩

/-- Parts are known by what is read of them and by their text. -/
theorem parts_ext {others : List Part} (hpieces : others.map Part.piece = parts.map Part.piece)
    (htext : others.flatMap Part.text = parts.flatMap Part.text) : others = parts := by
  induction parts generalizing others with
  | nil => exact List.map_eq_nil_iff.1 hpieces
  | cons part parts ih =>
    obtain ⟨part', others, rfl, hpart, hrest⟩ := List.map_eq_cons_iff.1 hpieces
    rw [List.flatMap_cons, List.flatMap_cons] at htext
    match part, part', hpart with
    | .char c, .char _, rfl => rw [ih hrest (List.append_cancel_left htext)]
    | .tag t, .tag t', _ =>
      obtain ⟨rfl, hmore⟩ := text_append_inj htext
      rw [ih hrest hmore]

/-- A line is cut in one way only. -/
theorem IsCut.unique {others : List Part} (h : IsCut line parts) (hothers : IsCut line others) :
    others = parts :=
  parts_ext ((pieces_of_isCut hothers).symm.trans (pieces_of_isCut h))
    (hothers.text.trans h.text.symm)

end Cuts

/-! ## The style of a character -/

/-- No tag is named after a face. -/
def NoneNames (face : Face) (parts : List Part) : Prop := ∀ t, .tag t ∈ parts → ¬t.Names face

/-- The last tag named after a face is there and is an opening one. -/
def LastOpens (face : Face) (parts : List Part) : Prop :=
  ∃ before t after, parts = before ++ .tag t :: after ∧ t.Names face ∧ t.closing = false ∧
    NoneNames face after

theorem lower_eq_letter_iff {c : Char} {face : Face} :
    c.toLower = face.letter ↔ c = face.letter ∨ c = face.letter.toUpper := by
  unfold Char.toLower
  split <;> rename_i h <;> cases face <;>
    simp only [Char.ext_iff, ← UInt32.toNat_inj, ge_iff_le, UInt32.le_iff_toNat_le,
      Face.letter] at h ⊢ <;>
    simp at h ⊢ <;> omega

theorem names_iff {t : WrittenTag} {face : Face} : t.Names face ↔ t.tag.name = [face.letter] := by
  unfold WrittenTag.Names WrittenTag.tag
  match t.name with
  | [] => simp
  | [c] => simp [lower_eq_letter_iff]
  | _ :: _ :: _ => simp

/-- A tag switches the face that it is named after, and no other one. -/
theorem has_apply (tag : Tag) (style : TextStyle) (face : Face) : (tag.apply style).has face =
    if tag.name = [face.letter] then !tag.closing else style.has face := by
  unfold Tag.apply
  split <;> cases face <;> simp_all [TextStyle.has, Face.letter]

/-- The style after parts of a line. -/
def styleAfter (style : TextStyle) : List Part → TextStyle
  | [] => style
  | .char _ :: rest => styleAfter style rest
  | .tag t :: rest => styleAfter (t.tag.apply style) rest

section LastOpens

variable {face : Face} {parts : List Part}

theorem noneNames_cons {part : Part} : NoneNames face (part :: parts) ↔
    (∀ t, part = .tag t → ¬t.Names face) ∧ NoneNames face parts := by
  simp only [NoneNames, List.mem_cons, or_imp, forall_and, eq_comm]

theorem lastOpens_cons {part : Part} : LastOpens face (part :: parts) ↔
    LastOpens face parts ∨
      (∃ t, part = .tag t ∧ t.Names face ∧ t.closing = false) ∧ NoneNames face parts := by
  constructor
  · rintro ⟨before, t, after, heq, hnames, hopens, hafter⟩
    cases before with
    | nil =>
      obtain ⟨rfl, rfl⟩ := List.cons.inj heq
      exact .inr ⟨⟨t, rfl, hnames, hopens⟩, hafter⟩
    | cons first before =>
      exact .inl ⟨before, t, after, (List.cons.inj heq).2, hnames, hopens, hafter⟩
  · rintro (⟨before, t, after, rfl, h⟩ | ⟨⟨t, rfl, hnames, hopens⟩, hafter⟩)
    · exact ⟨part :: before, t, after, rfl, h⟩
    · exact ⟨[], t, parts, rfl, hnames, hopens, hafter⟩

theorem has_styleAfter_iff (style : TextStyle) : (styleAfter style parts).has face = true ↔
    LastOpens face parts ∨ style.has face = true ∧ NoneNames face parts := by
  induction parts generalizing style with
  | nil =>
    have hnone : ¬LastOpens face [] := by simp [LastOpens]
    simp [styleAfter, hnone, NoneNames]
  | cons part parts ih =>
    cases part with
    | char c => simp [styleAfter, ih, lastOpens_cons, noneNames_cons]
    | tag t =>
      rw [styleAfter, ih, has_apply]
      by_cases hnames : t.Names face
      · rw [if_pos (names_iff.1 hnames)]
        simp [lastOpens_cons, noneNames_cons, hnames, WrittenTag.tag]
      · rw [if_neg (mt names_iff.2 hnames)]
        simp [lastOpens_cons, noneNames_cons, hnames]

/-- A face is on after parts of a line if the last tag named after it is an opening one. -/
theorem has_styleAfter (face : Face) (parts : List Part) :
    (styleAfter {} parts).has face = true ↔ LastOpens face parts := by
  have hplain : TextStyle.has {} face = false := by cases face <;> rfl
  simp [has_styleAfter_iff, hplain]

end LastOpens

/-! ## Runs -/

/-- The characters of a line with their styles. -/
def styled (line : CueLine) : List (Char × TextStyle) :=
  line.flatMap fun run => run.text.toList.map (·, run.style)

/-- The characters of parts, with the styles that they have after a style. -/
def stylesFrom (style : TextStyle) : List Part → List (Char × TextStyle)
  | [] => []
  | .char c :: rest => (c, style) :: stylesFrom style rest
  | .tag t :: rest => stylesFrom (t.tag.apply style) rest

theorem styled_run (style : TextStyle) (collected : List Char) :
    styled (run style collected) = collected.reverse.map (·, style) := by
  cases collected <;> simp [run, styled]

theorem styled_runs (style : TextStyle) (collected : List Char) (parts : List Part) :
    styled (runs style collected (parts.map Part.piece)) =
      collected.reverse.map (·, style) ++ stylesFrom style parts := by
  induction parts generalizing style collected with
  | nil => simp [runs, styled_run, stylesFrom]
  | cons part parts ih =>
    cases part with
    | char c => simp [Part.piece, runs, ih, stylesFrom]
    | tag t =>
      have happend (a b : CueLine) : styled (a ++ b) = styled a ++ styled b := List.flatMap_append
      rw [List.map_cons, Part.piece, runs, happend, styled_run, ih, stylesFrom]
      simp

theorem stylesFrom_append (style : TextStyle) (parts rest : List Part) :
    stylesFrom style (parts ++ rest) =
      stylesFrom style parts ++ stylesFrom (styleAfter style parts) rest := by
  induction parts generalizing style with
  | nil => rfl
  | cons part parts ih => cases part <;> simp [stylesFrom, styleAfter, ih]

theorem map_fst_stylesFrom (style : TextStyle) (parts : List Part) :
    (stylesFrom style parts).map Prod.fst = parts.filterMap Part.char? := by
  induction parts generalizing style with
  | nil => rfl
  | cons part parts ih => cases part <;> simp [stylesFrom, Part.char?, ih, List.filterMap_cons]

theorem ne_empty_of_mem_runs {style : TextStyle} {collected : List Char} {ps : List Piece}
    {r : StyledRun} (h : r ∈ runs style collected ps) : r.text ≠ "" := by
  have hrun {style : TextStyle} {collected : List Char} (h : r ∈ run style collected) :
      r.text ≠ "" := by
    cases collected with
    | nil => simp [run] at h
    | cons c collected =>
      obtain rfl : r = ⟨style, String.ofList (c :: collected).reverse⟩ := by simpa [run] using h
      simp
  induction ps generalizing style collected with
  | nil => exact hrun h
  | cons piece ps ih =>
    cases piece with
    | char c => exact ih h
    | tag t =>
      rcases List.mem_append.1 h with h | h
      · exact hrun h
      · exact ih h

theorem toList_text (line : CueLine) : line.text.toList = (styled line).map Prod.fst := by
  simp [CueLine.text, styled, Function.comp_def, List.flatMap]

/-- **What the tags of a line do.** -/
theorem readLine_styles (line : List Char) : ∃ parts, IsCut line parts ∧
    (∀ others, IsCut line others → others = parts) ∧
    (readLine line).text.toList = parts.filterMap Part.char? ∧
    (∀ run ∈ readLine line, run.text ≠ "") ∧
    ∀ before c after, parts = before ++ .char c :: after →
      ∃ style, (styled (readLine line))[(before.filterMap Part.char?).length]? = some (c, style) ∧
        ∀ face, style.has face = true ↔ LastOpens face before := by
  obtain ⟨parts, hparts⟩ := exists_isCut line
  have hread : readLine line = runs {} [] (parts.map Part.piece) := by
    rw [readLine, pieces_of_isCut hparts]
  have hstyled : styled (readLine line) = stylesFrom {} parts := by
    rw [hread, styled_runs]
    rfl
  refine ⟨parts, hparts, fun _ => hparts.unique, ?_, ?_, ?_⟩
  · rw [toList_text, hstyled, map_fst_stylesFrom]
  · intro run hrun
    rw [hread] at hrun
    exact ne_empty_of_mem_runs hrun
  · rintro before c after rfl
    refine ⟨styleAfter {} before, ?_, fun face => has_styleAfter face before⟩
    rw [hstyled, stylesFrom_append, ← map_fst_stylesFrom {} before, List.length_map]
    simp [stylesFrom]

example : readLine "<I>a<b x>b</i>c<1>".toList =
    [⟨⟨true, false, false⟩, "a"⟩, ⟨⟨true, true, false⟩, "b"⟩, ⟨⟨false, true, false⟩, "c<1>"⟩] := by
  decide

end Style

end Subtitler
