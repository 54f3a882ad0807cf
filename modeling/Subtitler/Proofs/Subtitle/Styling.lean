import Mathlib.Data.List.Chain
import Mathlib.Data.List.Forall2
import Subtitler.Subtitle.Style

/-!
# Writing styled lines

A run of text is written between the tags of its style, nested in any order (`RunText`). A line of
such runs is read back as it was (`readLine_flatten`), if its runs are not empty, have no `<`, and
no two of them that have no tags stand side by side: these would become one run.
-/

namespace Subtitler

/-- The letters of the tags of a style. -/
def TextStyle.letters (style : TextStyle) : List Char :=
  (if style.italic then ['i'] else []) ++ (if style.bold then ['b'] else []) ++
    if style.underline then ['u'] else []

namespace Style

/-! ## What is written -/

/-- A tag with one letter. -/
def tagText (closing : Bool) (letter : Char) : List Char :=
  '<' :: ((if closing then ['/'] else []) ++ [letter, '>'])

/-- A run between the tags of its style. -/
def RunText (run : StyledRun) (text : List Char) : Prop :=
  ∃ tags : List Char, tags.Perm run.style.letters ∧
    text = tags.flatMap (tagText false) ++ (run.text.toList ++ tags.reverse.flatMap (tagText true))

/-! ## Tags -/

/-- The tag with a given name and what follows it, if it has one, after `<` and perhaps a slash. -/
def named? (closing : Bool) (body : List Char) : Option (Tag × List Char) :=
  if (body.takeWhile isLetter).isEmpty then none
  else
    match (body.dropWhile isLetter).dropWhile (· != '>') with
    | [] => none
    | _ :: rest => some (⟨closing, (body.takeWhile isLetter).map Char.toLower⟩, rest)

theorem tag?_slash (body : List Char) : tag? ('<' :: '/' :: body) = named? true body := by
  rw [tag?.eq_1]
  rfl

theorem tag?_plain {body : List Char} (h : ∀ more, body ≠ '/' :: more) :
    tag? ('<' :: body) = named? false body := by
  rw [tag?.eq_2 body h]
  rfl

theorem tag?_eq_none {c : Char} (h : c ≠ '<') (rest : List Char) : tag? (c :: rest) = none := by
  simp [tag?, h]

theorem suffix_of_named? {closing : Bool} {body rest : List Char} {tag : Tag}
    (h : named? closing body = some (tag, rest)) : '>' :: rest <:+ body := by
  unfold named? at h
  split at h
  · cases h
  · split at h
    · cases h
    · next c tail htail =>
      obtain ⟨-, rfl⟩ := Prod.mk.inj (Option.some.inj h)
      have hc := List.head?_dropWhile_not (· != '>') (body.dropWhile isLetter)
      obtain rfl : c = '>' := by simpa [htail] using hc
      rw [← htail]
      exact (List.dropWhile_suffix _).trans (List.dropWhile_suffix _)

/-- What stands after a tag is shorter than the text that starts with it. -/
theorem length_lt_of_tag? {cs rest : List Char} {tag : Tag} (h : tag? cs = some (tag, rest)) :
    rest.length < cs.length := by
  cases cs with
  | nil => simp [tag?] at h
  | cons c body =>
    by_cases hc : c = '<'
    · subst hc
      by_cases hslash : ∃ more, body = '/' :: more
      · obtain ⟨more, rfl⟩ := hslash
        rw [tag?_slash] at h
        have hle := (suffix_of_named? h).length_le
        simp only [List.length_cons] at hle ⊢
        omega
      · rw [tag?_plain (not_exists.1 hslash)] at h
        have hle := (suffix_of_named? h).length_le
        simp only [List.length_cons] at hle ⊢
        omega
    · rw [tag?_eq_none hc] at h
      cases h

theorem tag?_tagText {letter : Char} (h : letter = 'i' ∨ letter = 'b' ∨ letter = 'u')
    (closing : Bool) (rest : List Char) :
    tag? (tagText closing letter ++ rest) = some (⟨closing, [letter]⟩, rest) := by
  rcases h with rfl | rfl | rfl <;> cases closing <;> simp [tagText, tag?, isLetter]

/-! ## Reading from the middle of a line -/

/-- Fuel for all characters is enough. -/
theorem pieces_eq {fuel fuel' : Nat} {cs : List Char} (h : cs.length ≤ fuel)
    (h' : cs.length ≤ fuel') : pieces fuel cs = pieces fuel' cs := by
  induction fuel generalizing fuel' cs with
  | zero =>
    obtain rfl := List.eq_nil_of_length_eq_zero (Nat.le_zero.1 h)
    cases fuel' <;> rfl
  | succ fuel ih =>
    cases cs with
    | nil => cases fuel' <;> rfl
    | cons c cs =>
      cases fuel' with
      | zero => simp at h'
      | succ fuel' =>
        rw [pieces, pieces]
        simp only [List.length_cons] at h h'
        cases htag : tag? (c :: cs) with
        | none =>
          dsimp only
          rw [@ih fuel' _ (by omega) (by omega)]
        | some found =>
          have hlt := length_lt_of_tag? htag
          simp only [List.length_cons] at hlt
          dsimp only
          rw [@ih fuel' _ (by omega) (by omega)]

/-- Reads the rest of a line, with the style and the text that its start leaves. -/
def readFrom (style : TextStyle) (collected cs : List Char) : CueLine :=
  runs style collected (pieces cs.length cs)

theorem readFrom_nil (style : TextStyle) (collected : List Char) :
    readFrom style collected [] = run style collected := rfl

theorem readFrom_tag (style : TextStyle) (collected : List Char) {cs rest : List Char} {tag : Tag}
    (h : tag? cs = some (tag, rest)) :
    readFrom style collected cs = run style collected ++ readFrom (tag.apply style) [] rest := by
  have hlt := length_lt_of_tag? h
  cases cs with
  | nil => simp at hlt
  | cons c cs =>
    rw [readFrom, List.length_cons, pieces, h]
    dsimp only
    rw [runs, pieces_eq (Nat.lt_succ_iff.1 hlt) (Nat.le_refl _), readFrom]

theorem readFrom_char (style : TextStyle) (collected rest : List Char) {c : Char} (h : c ≠ '<') :
    readFrom style collected (c :: rest) = readFrom style (c :: collected) rest := by
  rw [readFrom, List.length_cons, pieces, tag?_eq_none h, readFrom]
  rfl

theorem readFrom_text (style : TextStyle) (collected rest : List Char) {text : List Char}
    (h : '<' ∉ text) :
    readFrom style collected (text ++ rest) = readFrom style (text.reverse ++ collected) rest := by
  induction text generalizing collected with
  | nil => rfl
  | cons c text ih =>
    obtain ⟨hc, htext⟩ := not_or.1 (mt List.mem_cons.2 h)
    rw [List.cons_append, readFrom_char style collected _ (Ne.symm hc), ih _ htext]
    simp

/-! ## Tags of a style -/

/-- Applies tags with one letter each. -/
def applyAll (closing : Bool) (tags : List Char) (style : TextStyle) : TextStyle :=
  tags.foldl (fun style letter => Tag.apply ⟨closing, [letter]⟩ style) style

theorem mem_letters {style : TextStyle} {letter : Char} : letter ∈ style.letters ↔
    letter = 'i' ∧ style.italic = true ∨ letter = 'b' ∧ style.bold = true ∨
      letter = 'u' ∧ style.underline = true := by
  obtain ⟨i, b, u⟩ := style
  cases i <;> cases b <;> cases u <;> simp [TextStyle.letters]

/-- Each tag sets what it stands for, whatever comes before and after it. -/
theorem applyAll_eq (closing : Bool) (tags : List Char) (style : TextStyle) :
    applyAll closing tags style =
      { italic := if 'i' ∈ tags then !closing else style.italic
        bold := if 'b' ∈ tags then !closing else style.bold
        underline := if 'u' ∈ tags then !closing else style.underline } := by
  induction tags generalizing style with
  | nil => rfl
  | cons letter tags ih =>
    have hstep : applyAll closing (letter :: tags) style =
        applyAll closing tags (Tag.apply ⟨closing, [letter]⟩ style) := rfl
    rw [hstep, ih]
    by_cases hi : letter = 'i'
    · subst hi
      simp [Tag.apply]
    by_cases hb : letter = 'b'
    · subst hb
      simp [Tag.apply]
    by_cases hu : letter = 'u'
    · subst hu
      simp [Tag.apply]
    simp [Tag.apply, hi, hb, hu, Ne.symm hi, Ne.symm hb, Ne.symm hu]

section Runs

variable {style : TextStyle} {tags : List Char}

theorem applyAll_opening (h : tags.Perm style.letters) : applyAll false tags {} = style := by
  rw [applyAll_eq]
  simp only [h.mem_iff, mem_letters]
  obtain ⟨i, b, u⟩ := style
  cases i <;> cases b <;> cases u <;> simp

theorem applyAll_closing (h : tags.Perm style.letters) :
    applyAll true tags.reverse style = {} := by
  rw [applyAll_eq]
  simp only [List.mem_reverse, h.mem_iff, mem_letters]
  obtain ⟨i, b, u⟩ := style
  cases i <;> cases b <;> cases u <;> simp

theorem letters_eq_nil : style.letters = [] ↔ style = {} := by
  obtain ⟨i, b, u⟩ := style
  cases i <;> cases b <;> cases u <;> simp [TextStyle.letters]

/-! ## Reading what is written -/

/-- Tags end the run before them, and set the style of the next one. -/
theorem readFrom_tags (closing : Bool) (style : TextStyle) (collected rest : List Char)
    (h : ∀ letter ∈ tags, letter = 'i' ∨ letter = 'b' ∨ letter = 'u')
    (hcollected : tags = [] → collected = []) :
    readFrom style collected (tags.flatMap (tagText closing) ++ rest) =
      run style collected ++ readFrom (applyAll closing tags style) [] rest := by
  induction tags generalizing style collected with
  | nil =>
    rw [hcollected rfl]
    rfl
  | cons letter tags ih =>
    obtain ⟨hletter, htags⟩ := List.forall_mem_cons.1 h
    rw [List.flatMap_cons, List.append_assoc,
      readFrom_tag style collected (tag?_tagText hletter closing _), ih _ _ htags fun _ => rfl]
    rfl

theorem run_reverse (style : TextStyle) {text : String} (h : text ≠ "") :
    run style (text.toList.reverse ++ []) = [⟨style, text⟩] := by
  have hne : text.toList ≠ [] := fun hnil => h (String.toList_eq_nil_iff.1 hnil)
  simp [run, hne]

/-- A run can be written. -/
structure Writable (run : StyledRun) : Prop where
  nonempty : run.text ≠ ""
  noTag : '<' ∉ run.text.toList

/-- No two runs without tags stand side by side. -/
def Apart (line : CueLine) : Prop := line.IsChain fun a b => a.style = {} → b.style ≠ {}

/-- **Reading a line from some run on.** Text that was collected before is a run of its own if the
next run starts with a tag. -/
theorem readFrom_flatten {line : CueLine} {texts : List (List Char)}
    (h : List.Forall₂ RunText line texts) (hruns : ∀ run ∈ line, Writable run)
    (hapart : Apart line) {collected : List Char}
    (hcollected : collected ≠ [] → ∀ run ∈ line.head?, run.style ≠ {}) :
    readFrom {} collected texts.flatten = run {} collected ++ line := by
  induction h generalizing collected with
  | nil => simp [readFrom_nil]
  | @cons first text line texts htext _ ih =>
    obtain ⟨tags, hperm, rfl⟩ := htext
    obtain ⟨⟨hnonempty, hnoTag⟩, hline⟩ := List.forall_mem_cons.1 hruns
    have hletters : ∀ letter ∈ tags, letter = 'i' ∨ letter = 'b' ∨ letter = 'u' := by
      intro letter hletter
      have hmem := mem_letters.1 (hperm.mem_iff.1 hletter)
      tauto
    obtain ⟨hnext, hapart⟩ := List.isChain_cons.1 hapart
    rw [List.flatten_cons, List.append_assoc, List.append_assoc]
    by_cases hplain : first.style = {}
    · -- A run without tags is collected, and the next run, which has tags, ends it.
      have htags : tags = [] := by
        rw [letters_eq_nil.2 hplain] at hperm
        exact hperm.eq_nil
      have hnone : collected = [] := by
        by_contra hne
        exact hcollected hne first rfl hplain
      subst htags hnone
      simp only [List.flatMap_nil, List.nil_append, List.reverse_nil]
      rw [readFrom_text {} [] _ hnoTag, ih hline hapart fun _ run hrun => hnext run hrun hplain,
        run_reverse {} hnonempty, ← hplain]
      rfl
    · -- The tags before a run end what was collected, and those after it end the run.
      have htags : tags ≠ [] := by
        rintro rfl
        exact hplain (letters_eq_nil.1 hperm.symm.eq_nil)
      rw [readFrom_tags false {} collected _ hletters fun h => absurd h htags,
        applyAll_opening hperm, readFrom_text first.style [] _ hnoTag,
        readFrom_tags true first.style _ _ (by simpa using hletters) (by simp [htags]),
        applyAll_closing hperm, ih hline hapart (by simp), run_reverse first.style hnonempty]
      rfl

/-- **A line is read back as it was written.** -/
theorem readLine_flatten {line : CueLine} {texts : List (List Char)}
    (h : List.Forall₂ RunText line texts) (hruns : ∀ run ∈ line, Writable run)
    (hapart : Apart line) : readLine texts.flatten = line :=
  @readFrom_flatten line texts h hruns hapart [] (by simp)

end Runs

end Style

end Subtitler
