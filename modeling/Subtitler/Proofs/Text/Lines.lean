import Subtitler.Text.Split

/-!
# The lines that a text consists of

A text *consists of* lines when it is these lines, one after the other, each with a line end: a line
feed, or a carriage return and a line feed. The last line may lack its end if it is not empty. Every
text consists of exactly one list of lines (`lines_eq_iff`).
-/

namespace Subtitler.Text

/-- A text consists of lines. A carriage return before a line feed belongs to the line end. -/
inductive ConsistsOf : List Char → List (List Char) → Prop
  | none : ConsistsOf [] []
  | unended {line : List Char} : line ≠ [] → '\n' ∉ line → ConsistsOf line [line]
  | feed {line rest : List Char} {lines : List (List Char)} :
    '\n' ∉ line → line.getLast? ≠ some '\r' → ConsistsOf rest lines →
      ConsistsOf (line ++ '\n' :: rest) (line :: lines)
  | returnFeed {line rest : List Char} {lines : List (List Char)} :
    '\n' ∉ line → ConsistsOf rest lines → ConsistsOf (line ++ '\r' :: '\n' :: rest) (line :: lines)

/-- The lines of a text with a character before it that does not start a line end. -/
def extend (c : Char) : List (List Char) → List (List Char)
  | [] => [[c]]
  | line :: more => (c :: line) :: more

variable {c : Char} {line rest : List Char}

theorem lines_returnFeed (rest : List Char) : lines ('\r' :: '\n' :: rest) = [] :: lines rest := by
  simp [lines]

theorem lines_cons (hfeed : c ≠ '\n') (hreturn : ∀ more, c = '\r' → rest ≠ '\n' :: more) :
    lines (c :: rest) = extend c (lines rest) := by
  rw [lines.eq_4 c rest hfeed hreturn]
  cases lines rest <;> rfl

theorem lines_unended (hne : line ≠ []) (h : '\n' ∉ line) : lines line = [line] := by
  induction line with
  | nil => exact absurd rfl hne
  | cons c line ih =>
    obtain ⟨hc, hline⟩ := not_or.1 (mt List.mem_cons.2 h)
    cases line with
    | nil => rw [lines_cons (Ne.symm hc) (by simp), lines_nil, extend]
    | cons d line =>
      have hd : d ≠ '\n' := fun hd => hline (hd ▸ List.mem_cons_self)
      rw [lines_cons (Ne.symm hc) fun _ _ heq => hd (List.cons.inj heq).1,
        ih (List.cons_ne_nil d line) hline, extend]

theorem lines_append_feed (rest : List Char) (h : '\n' ∉ line) (hlast : line.getLast? ≠ some '\r') :
    lines (line ++ '\n' :: rest) = line :: lines rest := by
  induction line with
  | nil => exact lines_newline rest
  | cons c line ih =>
    obtain ⟨hc, hline⟩ := not_or.1 (mt List.mem_cons.2 h)
    cases line with
    | nil =>
      have hreturn : c ≠ '\r' := fun hc => hlast (by rw [hc]; rfl)
      rw [List.singleton_append, lines_cons (Ne.symm hc) fun _ hc => absurd hc hreturn,
        lines_newline, extend]
    | cons d line =>
      have hd : d ≠ '\n' := fun hd => hline (hd ▸ List.mem_cons_self)
      have hmore := ih hline (by simpa using hlast)
      rw [List.cons_append, List.cons_append, lines_cons (Ne.symm hc) fun _ _ heq =>
        hd (List.cons.inj heq).1, ← List.cons_append, hmore, extend]

theorem lines_append_returnFeed (rest : List Char) (h : '\n' ∉ line) :
    lines (line ++ '\r' :: '\n' :: rest) = line :: lines rest := by
  induction line with
  | nil => exact lines_returnFeed rest
  | cons c line ih =>
    obtain ⟨hc, hline⟩ := not_or.1 (mt List.mem_cons.2 h)
    have hhead : ∀ more, line ++ '\r' :: '\n' :: rest ≠ '\n' :: more := by
      intro more heq
      cases line with
      | nil => simp at heq
      | cons d line => exact hline ((List.cons.inj heq).1 ▸ List.mem_cons_self)
    rw [List.cons_append, lines_cons (Ne.symm hc) fun more _ => hhead more, ih hline, extend]

theorem ConsistsOf.cons {ls : List (List Char)} (h : ConsistsOf rest ls) (hfeed : c ≠ '\n')
    (hreturn : ∀ more, c = '\r' → rest ≠ '\n' :: more) : ConsistsOf (c :: rest) (extend c ls) := by
  cases h with
  | none => exact .unended (List.cons_ne_nil c []) (by simpa using Ne.symm hfeed)
  | unended hne hline => exact .unended (List.cons_ne_nil c rest) (by simp [Ne.symm hfeed, hline])
  | @feed line rest more hline hlast hrest =>
    refine @ConsistsOf.feed (c :: line) rest more (by simp [Ne.symm hfeed, hline]) ?_ hrest
    cases line with
    | nil => exact fun hc => hreturn rest (Option.some.inj hc) rfl
    | cons d line => simpa using hlast
  | @returnFeed line rest more hline hrest =>
    exact @ConsistsOf.returnFeed (c :: line) rest more (by simp [Ne.symm hfeed, hline]) hrest

/-- A text consists of the lines that are found in it. -/
theorem consistsOf_lines (text : List Char) : ConsistsOf text (lines text) := by
  induction text using lines.induct with
  | case1 => exact .none
  | case2 rest ih =>
    rw [lines_newline]
    exact @ConsistsOf.feed [] rest _ (by simp) (by simp) ih
  | case3 rest ih =>
    rw [lines_returnFeed]
    exact @ConsistsOf.returnFeed [] rest _ (by simp) ih
  | case4 c rest hfeed hreturn _ ih | case5 c rest hfeed hreturn _ _ _ ih =>
    rw [lines_cons hfeed hreturn]
    exact ih.cons hfeed hreturn

/-- **Every text consists of exactly one list of lines.** -/
theorem lines_eq_iff {text : List Char} {ls : List (List Char)} :
    lines text = ls ↔ ConsistsOf text ls := by
  constructor
  · rintro rfl
    exact consistsOf_lines text
  · intro h
    induction h with
    | none => rfl
    | unended hne hfeed => exact lines_unended hne hfeed
    | feed hfeed hlast _ ih => rw [lines_append_feed _ hfeed hlast, ih]
    | returnFeed hfeed _ ih => rw [lines_append_returnFeed _ hfeed, ih]

theorem ConsistsOf.head? {text : List Char} {more : List (List Char)}
    (h : ConsistsOf text (line :: more)) (hne : line ≠ []) : text.head? = line.head? := by
  obtain ⟨c, line, rfl⟩ := List.exists_cons_of_ne_nil hne
  cases h <;> rfl

end Subtitler.Text
