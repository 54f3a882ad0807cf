import Mathlib.Data.List.Induction
import Subtitler.Proofs.Subtitle.Grammar

/-!
# Byte order marks, line ends and blank ends

Editors save one text in several ways: with a byte order mark or without, with carriage returns
before the line feeds or without, and with more or fewer line feeds at the end (`Variant`).

**Theorem (`parse_of_variant`).** All of them give the same cues, or the same error.

A text and its variants have the same blocks: the marks are left out, the carriage returns belong to
the line ends (`consistsOf_withReturns`), and line feeds at the end, the first of which may end the
last line, make lines without text (`consistsOf_append_feeds`), which belong to no block
(`fallInto_append`).
-/

namespace Subtitler

namespace Text

/-- A text with a carriage return before every line feed. -/
def withReturns (text : List Char) : List Char :=
  text.flatMap fun c => if c = '\n' then ['\r', '\n'] else [c]

theorem withReturns_append (s t : List Char) :
    withReturns (s ++ t) = withReturns s ++ withReturns t := List.flatMap_append

theorem withReturns_of_not_mem {line : List Char} (h : '\n' ∉ line) : withReturns line = line := by
  induction line with
  | nil => rfl
  | cons c line ih =>
    obtain ⟨hc, hline⟩ := not_or.1 (mt List.mem_cons.2 h)
    rw [withReturns, List.flatMap_cons, if_neg (Ne.symm hc), ← withReturns, ih hline]
    rfl

theorem withReturns_feed (rest : List Char) :
    withReturns ('\n' :: rest) = '\r' :: '\n' :: withReturns rest := rfl

theorem getLast?_withReturns (text : List Char) :
    (withReturns text).getLast? = text.getLast? := by
  induction text using List.reverseRecOn with
  | nil => rfl
  | append_singleton text c _ =>
    rw [withReturns_append]
    by_cases hc : c = '\n' <;> simp [withReturns, hc]

/-! ## Lines -/

section Lines

variable {text rest : List Char} {ls : List (List Char)}

theorem getLast?_ne_of_suffix (h : rest <:+ text) (hlast : text.getLast? ≠ some '\r') :
    rest.getLast? ≠ some '\r' := by
  obtain ⟨before, rfl⟩ := h
  intro hrest
  rw [List.getLast?_append, hrest] at hlast
  exact hlast rfl

theorem consistsOf_withReturns (h : ConsistsOf text ls) (hreturn : '\r' ∉ text) :
    ConsistsOf (withReturns text) ls := by
  induction h with
  | none => exact .none
  | unended hne hfeed =>
    rw [withReturns_of_not_mem hfeed]
    exact .unended hne hfeed
  | feed hfeed _ _ ih =>
    rw [withReturns_append, withReturns_of_not_mem hfeed, withReturns_feed]
    exact .returnFeed hfeed (ih fun hmem => hreturn (by simp [hmem]))
  | returnFeed => simp at hreturn

theorem consistsOf_feeds (n : Nat) :
    ConsistsOf (List.replicate n '\n') (List.replicate n []) := by
  induction n with
  | zero => exact .none
  | succ n ih => exact @ConsistsOf.feed [] _ _ (by simp) (by simp) ih

/-- Line feeds at the end make lines without text, except that the first one ends the last line if
that has no end yet. -/
theorem consistsOf_append_feeds (h : ConsistsOf text ls) (hlast : text.getLast? ≠ some '\r')
    (n : Nat) : ∃ k, ConsistsOf (text ++ List.replicate n '\n') (ls ++ List.replicate k []) := by
  induction h with
  | none => exact ⟨n, consistsOf_feeds n⟩
  | @unended line hne hfeed =>
    cases n with
    | zero => exact ⟨0, by simpa using .unended hne hfeed⟩
    | succ n => exact ⟨n, .feed hfeed hlast (consistsOf_feeds n)⟩
  | @feed line rest ls hfeed hline _ ih =>
    obtain ⟨k, hk⟩ := ih (getLast?_ne_of_suffix ⟨line ++ ['\n'], by simp⟩ hlast)
    refine ⟨k, ?_⟩
    rw [List.append_assoc, List.cons_append]
    exact .feed hfeed hline hk
  | @returnFeed line rest ls hfeed _ ih =>
    obtain ⟨k, hk⟩ := ih (getLast?_ne_of_suffix ⟨line ++ ['\r', '\n'], by simp⟩ hlast)
    refine ⟨k, ?_⟩
    rw [List.append_assoc, List.cons_append, List.cons_append]
    exact .returnFeed hfeed hk

end Lines

end Text

namespace Srt

open Text

/-! ## Blocks -/

/-- Blank lines at the end belong to no block. -/
theorem fallInto_append {ls blanks : List NumberedLine} {bs : List Block} (h : FallInto ls bs)
    (hblanks : ∀ line ∈ blanks, isBlankText line.text = true) : FallInto (ls ++ blanks) bs := by
  induction h with
  | none => simpa using FallInto.append_blank hblanks .none
  | blank hline _ ih => exact .blank hline ih
  | @block block rest bs hlines hpauses _ ih =>
    rw [List.append_assoc]
    refine .block hlines ?_ ih
    cases rest with
    | nil => exact fun line hline => hblanks line (List.mem_of_head? hline)
    | cons line rest => exact hpauses

/-! ## Variants -/

/-- The ways to save a text: with a byte order mark in front, with a carriage return before every
line feed, with line feeds at the end, and with any of these together. -/
inductive Variant (text : List Char) : List Char → Prop
  | same : Variant text text
  | mark {t : List Char} (h : Variant text t) (hmark : t.head? ≠ some mark) :
      Variant text (mark :: t)
  | returns {t : List Char} (h : Variant text t) (hreturn : '\r' ∉ t) :
      Variant text (withReturns t)
  | feeds {t : List Char} (h : Variant text t) (n : Nat) :
      Variant text (t ++ List.replicate n '\n')

section Variants

variable {text t : List Char} {bs : List Block}

theorem hasBlocks_mark (h : HasBlocks t bs) (hmark : t.head? ≠ some mark) :
    HasBlocks (mark :: t) bs := by
  obtain ⟨body, ls, hbody, hlines, hblocks⟩ := h
  rcases hbody with rfl | ⟨rfl, -⟩
  · exact absurd rfl hmark
  · exact ⟨t, ls, .inl rfl, hlines, hblocks⟩

theorem hasBlocks_withReturns (h : HasBlocks t bs) (hreturn : '\r' ∉ t) :
    HasBlocks (withReturns t) bs := by
  obtain ⟨body, ls, hbody, hlines, hblocks⟩ := h
  rcases hbody with rfl | ⟨rfl, hmark⟩
  · refine ⟨withReturns body, ls, .inl rfl, ?_, hblocks⟩
    exact consistsOf_withReturns hlines fun hmem => hreturn (List.mem_cons_of_mem _ hmem)
  · refine ⟨withReturns t, ls, .inr ⟨rfl, ?_⟩, consistsOf_withReturns hlines hreturn, hblocks⟩
    cases t with
    | nil => simp [withReturns]
    | cons c t =>
      by_cases hc : c = '\n'
      · simp [withReturns, hc, mark]
      · simpa [withReturns, hc] using hmark

theorem hasBlocks_append_feeds (h : HasBlocks t bs) (hlast : t.getLast? ≠ some '\r') (n : Nat) :
    HasBlocks (t ++ List.replicate n '\n') bs := by
  obtain ⟨body, ls, hbody, hlines, hblocks⟩ := h
  have hlastBody : body.getLast? ≠ some '\r' := by
    rcases hbody with rfl | ⟨rfl, -⟩
    · exact getLast?_ne_of_suffix (List.suffix_cons _ _) hlast
    · exact hlast
  have hbody' : IsBody (t ++ List.replicate n '\n') (body ++ List.replicate n '\n') := by
    rcases hbody with rfl | ⟨rfl, hmark⟩
    · exact .inl rfl
    · refine .inr ⟨rfl, ?_⟩
      cases t with
      | nil => cases n <;> simp [List.replicate_succ, mark]
      | cons c t => exact hmark
  obtain ⟨k, hk⟩ := consistsOf_append_feeds hlines hlastBody n
  refine ⟨_, _, hbody', hk, ?_⟩
  rw [numbered_append]
  have hblank : ∀ row ∈ List.replicate k [], isBlankText row = true := fun row hrow => by
    rw [List.eq_of_mem_replicate hrow]
    rfl
  exact fallInto_append hblocks (forall_mem_numbered hblank _)

/-- No variant ends in a carriage return. -/
theorem Variant.getLast?_ne (h : Variant text t) (hreturn : '\r' ∉ text) :
    t.getLast? ≠ some '\r' := by
  induction h with
  | same => exact fun hlast => hreturn (List.mem_of_getLast? hlast)
  | @mark t _ _ ih =>
    cases t with
    | nil => simp [Srt.mark]
    | cons c t => rwa [List.getLast?_cons_cons]
  | @returns t _ hreturn _ =>
    rw [getLast?_withReturns]
    exact fun hlast => hreturn (List.mem_of_getLast? hlast)
  | @feeds t _ n ih =>
    cases n with
    | zero => simpa using ih
    | succ n => simp [List.replicate_succ']

theorem Variant.hasBlocks (h : Variant text t) (hreturn : '\r' ∉ text)
    (hblocks : HasBlocks text bs) : HasBlocks t bs := by
  induction h with
  | same => exact hblocks
  | mark _ hmark ih => exact hasBlocks_mark ih hmark
  | returns _ hreturn ih => exact hasBlocks_withReturns ih hreturn
  | feeds h n ih => exact hasBlocks_append_feeds ih (h.getLast?_ne hreturn) n

/-- **All variants of a text are read in the same way.** -/
theorem parse_of_variant (hreturn : '\r' ∉ text) (h : Variant text t) : parse t = parse text := by
  have hblocks : HasBlocks text _ := hasBlocks_iff.2 rfl
  rw [parse_eq hblocks, parse_eq (h.hasBlocks hreturn hblocks)]

/-- A text whose last line has no end gets a line feed, carriage returns, two more line feeds and a
byte order mark. -/
theorem parse_of_variant_allWays :
    let text := "1\n00:00:01,000 --> 00:00:02,000\nHi".toList
    '\r' ∉ text ∧
      parse (mark :: (withReturns (text ++ List.replicate 1 '\n') ++ List.replicate 2 '\n')) =
        parse text := by
  intro text
  have hreturn : '\r' ∉ text := by decide
  exact ⟨hreturn, parse_of_variant hreturn
    (.mark (.feeds (.returns (.feeds .same 1) (by decide)) 2) (by decide))⟩

end Variants

end Srt

end Subtitler
