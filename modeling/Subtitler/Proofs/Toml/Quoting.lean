import Mathlib.Data.List.TakeWhile
import Mathlib.Tactic.SplitIfs
import Subtitler.Toml.Quoted
import Subtitler.Toml.Scalar

/-!
# Quoted texts read back

Every text is read back from its quoted form, whichever of the forms that is (`quoted?_quote`).
Between single quotes the characters stand for themselves, between double quotes every character
stands for itself or is escaped (`escape_cases`). In a text between tripled quotes, no more than two
quotes of its own follow each other; so a longer run of quotes is the one that closes it
(`quotes_cases`).
-/

namespace Subtitler.Toml

variable {c : Char} {cs rest : List Char}

/-- A character that is no control character stands for itself in every form, or ends a line. -/
theorem isPrintable_or_newline (h : isControl c = false) : isPrintable c = true ∨ c = '\n' := by
  by_cases hnewline : c = '\n'
  · exact .inr hnewline
  · by_cases htab : c = '\t'
    · exact .inl (by simp [isPrintable, htab])
    · simp [isControl, htab, hnewline] at h
      exact .inl (by simp [isPrintable, htab, h])

/-! ## Escapes -/

/-- What follows a backslash stands for a character, and does not join two lines. -/
def IsEscape (code : List Char) (c : Char) : Prop :=
  ∀ rest, escape? (code ++ rest) = some (c, rest) ∧ newline? (skipSpace (code ++ rest)) = none

theorem isEscape_unicode {n : Nat} (h : n < 0x80) :
    IsEscape ['u', '0', '0', hexDigit (n / 16), hexDigit (n % 16)] (Char.ofNat n) := by
  have hvalue : ∀ n < 0x80,
      hexValue? ['0', '0', hexDigit (n / 16), hexDigit (n % 16)] = some n := by
    decide +kernel
  have hvalid : n.isValidChar := .inl (by omega)
  intro rest
  constructor
  · simp [escape?, codePoint?, hvalue n h, hvalid]
  · rfl

/-- Between double quotes a character is escaped, or is a quote that may stand there, or stands for
itself. -/
theorem escape_cases (long : Bool) (run : Nat) (c : Char) (cs : List Char) :
    (∃ code, IsEscape code c ∧
        escape long run (c :: cs) = '\\' :: code ++ escape long 0 cs) ∨
      (c = '"' ∧ (long = true ∧ run < 2) ∧
        escape long run (c :: cs) = '"' :: escape long (run + 1) cs) ∨
      ((c ≠ '"' ∧ c ≠ '\\') ∧ (isPrintable c = true ∨ long = true ∧ c = '\n') ∧
        escape long run (c :: cs) = c :: escape long 0 cs) := by
  have hchar {n : Nat} (h : c.toNat = n) : Char.ofNat n = c := h ▸ Char.ofNat_toNat c
  rw [escape]
  split_ifs with hquote hrun hback htab hnewline hlong hreturn height htwelve hcontrol
  · exact .inr (.inl ⟨hquote, by simpa using hrun, rfl⟩)
  · exact .inl ⟨['"'], fun rest => ⟨by rw [hquote]; rfl, rfl⟩, rfl⟩
  · exact .inl ⟨['\\'], fun rest => ⟨by rw [hback]; rfl, rfl⟩, rfl⟩
  · exact .inl ⟨['t'], fun rest => ⟨by rw [htab]; rfl, rfl⟩, rfl⟩
  · exact .inr (.inr ⟨⟨hquote, hback⟩, .inr ⟨hlong, hnewline⟩, by rw [hnewline]⟩)
  · exact .inl ⟨['n'], fun rest => ⟨by rw [hnewline]; rfl, rfl⟩, rfl⟩
  · exact .inl ⟨['r'], fun rest => ⟨by rw [hreturn]; rfl, rfl⟩, rfl⟩
  · exact .inl ⟨['b'], fun rest => ⟨by rw [← hchar height]; rfl, rfl⟩, rfl⟩
  · exact .inl ⟨['f'], fun rest => ⟨by rw [← hchar htwelve]; rfl, rfl⟩, rfl⟩
  · refine .inl ⟨['u', '0', '0', hexDigit (c.toNat / 16), hexDigit (c.toNat % 16)], ?_, rfl⟩
    have hsmall : c.toNat < 0x80 := by
      simp [isControl] at hcontrol
      omega
    simpa using isEscape_unicode hsmall
  · have hprint := isPrintable_or_newline (by simpa using hcontrol)
    exact .inr (.inr ⟨⟨hquote, hback⟩, .inl (hprint.resolve_right hnewline), rfl⟩)

/-! ## One line -/

theorem basicRest?_escape (run : Nat) (cs rest : List Char) {fuel : Nat}
    (hfuel : (escape false run cs).length < fuel) :
    basicRest? fuel (escape false run cs ++ '"' :: rest) = some (cs, rest) := by
  induction cs generalizing run fuel with
  | nil =>
    obtain ⟨fuel, rfl⟩ := Nat.exists_eq_add_of_lt hfuel
    simp [escape, basicRest?]
  | cons c cs ih =>
    obtain ⟨fuel, rfl⟩ : ∃ n, fuel = n + 1 := Nat.exists_eq_succ_of_ne_zero (by omega)
    rcases escape_cases false run c cs with ⟨code, hcode, heq⟩ | ⟨-, ⟨hlong, -⟩, -⟩ |
      ⟨⟨hquote, hback⟩, hplain, heq⟩
    · rw [heq] at hfuel ⊢
      have hmore := @ih 0 fuel (by simp at hfuel ⊢; omega)
      simp [basicRest?, (hcode _).1, hmore]
    · cases hlong
    · rw [heq] at hfuel ⊢
      have hmore := @ih 0 fuel (by simpa using hfuel)
      have hprint : isPrintable c = true := hplain.resolve_right (by simp)
      simp [basicRest?, hquote, hback, hprint, hmore]

theorem literalRest?_append (hplain : ∀ c ∈ cs, c ≠ '\'' ∧ isPrintable c = true) :
    literalRest? (cs ++ '\'' :: rest) = some (cs, rest) := by
  induction cs with
  | nil => simp [literalRest?]
  | cons c cs ih =>
    obtain ⟨hquote, hprint⟩ := hplain c List.mem_cons_self
    have hmore := ih fun d hd => hplain d (List.mem_cons_of_mem c hd)
    simp [literalRest?, hquote, hprint, hmore]

/-! ## Runs of quotes -/

/-- How many quotes a text starts with. -/
def leading (quote : Char) (cs : List Char) : Nat := (cs.takeWhile (· == quote)).length

theorem leading_cons_self (quote : Char) (cs : List Char) :
    leading quote (quote :: cs) = leading quote cs + 1 := by
  simp [leading]

theorem leading_cons_of_ne {quote : Char} (h : c ≠ quote) (cs : List Char) :
    leading quote (c :: cs) = 0 := by
  simp [leading, h]

theorem leading_of_head? {quote : Char} (h : rest.head? ≠ some quote) : leading quote rest = 0 := by
  cases rest with
  | nil => rfl
  | cons c rest => exact leading_cons_of_ne (fun hc => h (by rw [hc]; rfl)) rest

/-- The quotes that a text starts with run into those that close it only if it has nothing else. -/
theorem quotes_cases (quote : Char) (cs : List Char) (hrest : rest.head? ≠ some quote) :
    (cs = List.replicate (leading quote cs) quote ∧
        leading quote (cs ++ [quote, quote, quote] ++ rest) = leading quote cs + 3) ∨
      leading quote (cs ++ [quote, quote, quote] ++ rest) = leading quote cs := by
  induction cs with
  | nil =>
    refine .inl ⟨rfl, ?_⟩
    have hnone : leading quote ([] : List Char) = 0 := rfl
    simp only [List.nil_append, List.cons_append, leading_cons_self, leading_of_head? hrest, hnone]
  | cons c cs ih =>
    by_cases hc : c = quote
    · subst hc
      rw [List.cons_append, List.cons_append, leading_cons_self, leading_cons_self]
      rcases ih with ⟨hall, hcount⟩ | hcount
      · refine .inl ⟨?_, by omega⟩
        rw [List.replicate_succ, ← hall]
      · exact .inr (by omega)
    · right
      rw [List.cons_append, List.cons_append, leading_cons_of_ne hc, leading_cons_of_ne hc]

theorem leading_le_longestRun (quote : Char) (run : Nat) (cs : List Char) :
    leading quote cs + run ≤ longestRun quote run cs := by
  induction cs generalizing run with
  | nil => simp [leading, longestRun]
  | cons c cs ih =>
    rw [longestRun]
    split_ifs with hc
    · subst hc
      have hmore := ih (run + 1)
      rw [leading_cons_self]
      omega
    · rw [leading_cons_of_ne hc]
      omega

theorem leading_escape {run : Nat} (hrun : run ≤ 2) (cs : List Char) :
    leading '"' (escape true run cs) + run ≤ 2 := by
  induction cs generalizing run with
  | nil => simpa [escape, leading] using hrun
  | cons c cs ih =>
    rcases escape_cases true run c cs with ⟨code, -, heq⟩ | ⟨-, ⟨-, hfew⟩, heq⟩ |
      ⟨⟨hquote, -⟩, -, heq⟩
    · rw [heq, List.cons_append, leading_cons_of_ne (by decide)]
      omega
    · have hmore := ih (show run + 1 ≤ 2 by omega)
      rw [heq, leading_cons_self]
      omega
    · rw [heq, leading_cons_of_ne hquote]
      omega

theorem eq_replicate_of_escape {run n : Nat} (h : escape true run cs = List.replicate n '"') :
    cs = List.replicate n '"' := by
  induction cs generalizing run n with
  | nil => exact h
  | cons c cs ih =>
    cases n with
    | zero =>
      rcases escape_cases true run c cs with ⟨code, -, heq⟩ | ⟨-, -, heq⟩ | ⟨-, -, heq⟩ <;>
        · rw [heq] at h
          cases h
    | succ n =>
      rw [List.replicate_succ] at h ⊢
      rcases escape_cases true run c cs with ⟨code, -, heq⟩ | ⟨hc, -, heq⟩ | ⟨⟨hc, -⟩, -, heq⟩
      · rw [heq] at h
        cases h
      · rw [heq, List.cons_eq_cons] at h
        rw [hc, ih h.2]
      · rw [heq, List.cons_eq_cons] at h
        exact absurd h.1 hc

/-- Up to two quotes before the three that close a text belong to it. -/
theorem closing_replicate (quote : Char) {n : Nat} (hn : n ≤ 2) (hrest : rest.head? ≠ some quote) :
    leading quote (List.replicate n quote ++ [quote, quote, quote] ++ rest) = n + 3 ∧
      closing (n + 3) = (n, n + 3) ∧
      (List.replicate n quote ++ [quote, quote, quote] ++ rest).drop (n + 3) = rest := by
  refine ⟨?_, ?_, ?_⟩
  · induction n with
    | zero => simp only [List.replicate_zero, List.nil_append, List.cons_append, leading_cons_self,
        leading_of_head? hrest]
    | succ n ih =>
      rw [List.replicate_succ, List.cons_append, List.cons_append, leading_cons_self,
        ih (by omega)]
  · rw [closing, Nat.min_eq_left (by omega), Nat.add_sub_cancel]
  · exact List.drop_left' (by simp)

/-! ## Several lines -/

theorem longBasicRest?_closing {n fuel : Nat} (hn : n ≤ 2) (hrest : rest.head? ≠ some '"') :
    longBasicRest? (fuel + 1) (List.replicate n '"' ++ ['"', '"', '"'] ++ rest) =
      some (List.replicate n '"', rest) := by
  obtain ⟨hcount, hclosing, hdrop⟩ := closing_replicate '"' hn hrest
  obtain ⟨more, hmore⟩ : ∃ more,
      List.replicate n '"' ++ ['"', '"', '"'] ++ rest = '"' :: more := by
    cases n <;> exact ⟨_, rfl⟩
  rw [hmore] at hcount hdrop ⊢
  rw [leading] at hcount
  simp only [longBasicRest?, if_true, hcount, hclosing, hdrop]
  rw [if_pos (by omega)]

theorem longBasicRest?_escape {run : Nat} (hrun : run ≤ 2) (hrest : rest.head? ≠ some '"')
    (cs : List Char) {fuel : Nat} (hfuel : (escape true run cs).length < fuel) :
    longBasicRest? fuel (escape true run cs ++ ['"', '"', '"'] ++ rest) = some (cs, rest) := by
  induction cs generalizing run fuel with
  | nil =>
    obtain ⟨fuel, rfl⟩ := Nat.exists_eq_add_of_lt hfuel
    exact longBasicRest?_closing (Nat.zero_le 2) hrest
  | cons c cs ih =>
    obtain ⟨fuel, rfl⟩ : ∃ n, fuel = n + 1 := Nat.exists_eq_succ_of_ne_zero (by omega)
    rcases escape_cases true run c cs with ⟨code, hcode, heq⟩ | ⟨hc, ⟨-, hfew⟩, heq⟩ |
      ⟨⟨hquote, hback⟩, hplain, heq⟩
    · rw [heq] at hfuel ⊢
      have hmore := @ih 0 (by omega) fuel (by simp at hfuel ⊢; omega)
      obtain ⟨hread, hjoin⟩ := hcode (escape true 0 cs ++ ['"', '"', '"'] ++ rest)
      rw [List.cons_append, List.cons_append, List.cons_append, List.append_assoc,
        List.append_assoc, ← List.append_assoc (escape true 0 cs)]
      rw [longBasicRest?, if_neg (by decide), if_pos rfl, hjoin]
      simp only [hread, hmore, bind, Option.bind]
    · -- The reader counts the quotes from here on, those that close the text included: it is
      -- either at the end of the text or sees no more than two.
      have hlead := leading_escape hrun (c :: cs)
      rcases quotes_cases '"' (escape true run (c :: cs)) hrest with ⟨hall, -⟩ | hcount
      · have hsame := eq_replicate_of_escape hall
        have hfew : leading '"' (escape true run (c :: cs)) ≤ 2 := by omega
        have hclosed := @longBasicRest?_closing rest _ fuel hfew hrest
        rw [← hsame] at hclosed
        rwa [hall.trans hsame.symm]
      · rw [heq] at hfuel hcount hlead ⊢
        have hmore := @ih (run + 1) (by omega) fuel (by simpa using hfuel)
        rw [leading] at hcount
        simp only [List.cons_append] at hcount hmore ⊢
        simp only [longBasicRest?, if_true, hcount, hmore, hc]
        rw [if_neg (by omega)]
        rfl
    · rw [heq] at hfuel ⊢
      have hmore := @ih 0 (by omega) fuel (by simpa using hfuel)
      rw [List.cons_append, List.cons_append, longBasicRest?, if_neg hquote, if_neg hback]
      rcases hplain with hprint | ⟨-, hnewline⟩
      · simp only [hprint, if_true, hmore, bind, Option.bind]
      · have hbreak : isPrintable '\n' = false := by decide
        subst hnewline
        simp only [hbreak, newline?, hmore, bind, Option.bind, Bool.false_eq_true, if_false]

theorem longLiteralRest?_closing {n fuel : Nat} (hn : n ≤ 2) (hrest : rest.head? ≠ some '\'') :
    longLiteralRest? (fuel + 1) (List.replicate n '\'' ++ ['\'', '\'', '\''] ++ rest) =
      some (List.replicate n '\'', rest) := by
  obtain ⟨hcount, hclosing, hdrop⟩ := closing_replicate '\'' hn hrest
  obtain ⟨more, hmore⟩ : ∃ more,
      List.replicate n '\'' ++ ['\'', '\'', '\''] ++ rest = '\'' :: more := by
    cases n <;> exact ⟨_, rfl⟩
  rw [hmore] at hcount hdrop ⊢
  rw [leading] at hcount
  simp only [longLiteralRest?, if_true, hcount, hclosing, hdrop]
  rw [if_pos (by omega)]

theorem longLiteralRest?_append {run fuel : Nat} (hplain : ∀ c ∈ cs, isControl c = false)
    (hruns : longestRun '\'' run cs ≤ 2) (hrest : rest.head? ≠ some '\'')
    (hfuel : cs.length < fuel) :
    longLiteralRest? fuel (cs ++ ['\'', '\'', '\''] ++ rest) = some (cs, rest) := by
  induction cs generalizing run fuel with
  | nil =>
    obtain ⟨fuel, rfl⟩ := Nat.exists_eq_add_of_lt hfuel
    exact longLiteralRest?_closing (Nat.zero_le 2) hrest
  | cons c cs ih =>
    obtain ⟨fuel, rfl⟩ : ∃ n, fuel = n + 1 := Nat.exists_eq_succ_of_ne_zero (by omega)
    have hlead := leading_le_longestRun '\'' run (c :: cs)
    have hless : cs.length < fuel := by simpa using hfuel
    obtain ⟨hhead, htail⟩ := List.forall_mem_cons.1 hplain
    rw [longestRun] at hruns
    split_ifs at hruns with hquote
    · subst hquote
      rcases quotes_cases '\'' ('\'' :: cs) hrest with ⟨hall, -⟩ | hcount
      · have hfew : leading '\'' ('\'' :: cs) ≤ 2 := by
          rw [longestRun, if_pos rfl] at hlead
          omega
        have hclosed := @longLiteralRest?_closing rest _ fuel hfew hrest
        rwa [← hall] at hclosed
      · have hmore := ih htail hruns hless
        rw [longestRun, if_pos rfl] at hlead
        rw [leading] at hcount
        simp only [List.cons_append] at hcount hmore ⊢
        simp only [longLiteralRest?, if_true, hcount, hmore]
        rw [if_neg (by omega)]
        rfl
    · have hmore := ih htail (le_trans (le_max_right run _) hruns) hless
      rw [List.cons_append, List.cons_append, longLiteralRest?, if_neg hquote]
      rcases isPrintable_or_newline hhead with hprint | hnewline
      · simp only [hprint, if_true, hmore, bind, Option.bind]
      · have hbreak : isPrintable '\n' = false := by decide
        subst hnewline
        simp only [hbreak, newline?, hmore, bind, Option.bind, Bool.false_eq_true, if_false]

/-! ## All forms -/

theorem newline?_of_isPrintable (h : isPrintable c = true) (cs : List Char) :
    newline? (c :: cs) = none := by
  have hnewline : c ≠ '\n' := fun hc => absurd (hc ▸ h) (by decide)
  have hreturn : c ≠ '\r' := fun hc => absurd (hc ▸ h) (by decide)
  cases cs <;> simp [newline?, hnewline, hreturn]

/-- The line end before a text is there if the text has one itself, and is not read as a part. -/
theorem skipNewline_ownLine {text : List Char} (h : '\n' ∉ cs → newline? text = none) :
    skipNewline (ownLine cs ++ text) = text := by
  by_cases hnewline : '\n' ∈ cs
  · simp [ownLine, hnewline, skipNewline, newline?]
  · simp [ownLine, hnewline, skipNewline, h hnewline]

theorem not_mem_of_longestRun {quote : Char} (h : longestRun quote 0 cs = 0) : quote ∉ cs := by
  induction cs with
  | nil => exact List.not_mem_nil
  | cons c cs ih =>
    rw [longestRun] at h
    split_ifs at h with hc
    · have hlead := leading_le_longestRun quote (0 + 1) cs
      omega
    · rw [List.mem_cons, not_or]
      exact ⟨fun heq => hc heq.symm, ih (by omega)⟩

theorem quoted?_basic (cs : List Char) (hrest : rest.head? ≠ some '"') :
    quoted? (basic cs ++ rest) = some (cs, rest) := by
  have hread := @basicRest?_escape 0 cs rest ((escape false 0 cs ++ '"' :: rest).length + 1)
    (by rw [List.length_append]; omega)
  simp only [basic, List.cons_append, List.append_assoc, List.nil_append]
  rw [quoted?, hread]
  · intro more heq
    cases cs with
    | nil =>
      rw [escape, List.nil_append, List.cons_eq_cons] at heq
      exact hrest (by rw [heq.2]; rfl)
    | cons c cs =>
      rcases escape_cases false 0 c cs with ⟨code, -, hcase⟩ | ⟨-, ⟨hlong, -⟩, -⟩ |
        ⟨⟨hquote, -⟩, -, hcase⟩
      · rw [hcase] at heq
        cases heq
      · cases hlong
      · rw [hcase, List.cons_append, List.cons_eq_cons] at heq
        exact hquote heq.1

theorem quoted?_literal (hplain : ∀ c ∈ cs, c ≠ '\'' ∧ isPrintable c = true)
    (hrest : rest.head? ≠ some '\'') : quoted? (literal cs ++ rest) = some (cs, rest) := by
  have hread := @literalRest?_append cs rest hplain
  simp only [literal, List.cons_append, List.append_assoc, List.nil_append]
  rw [quoted?, hread]
  · intro more heq
    cases cs with
    | nil =>
      rw [List.nil_append, List.cons_eq_cons] at heq
      exact hrest (by rw [heq.2]; rfl)
    | cons c cs =>
      rw [List.cons_append, List.cons_eq_cons] at heq
      exact (hplain c List.mem_cons_self).1 heq.1

theorem quoted?_longBasic (cs : List Char) (hrest : rest.head? ≠ some '"') :
    quoted? (longBasic cs ++ rest) = some (cs, rest) := by
  have hstart : '\n' ∉ cs → newline? (escape true 0 cs ++ ['"', '"', '"'] ++ rest) = none := by
    intro hnewline
    cases cs with
    | nil => rfl
    | cons c cs =>
      rcases escape_cases true 0 c cs with ⟨code, -, hcase⟩ | ⟨-, -, hcase⟩ | ⟨-, hplain, hcase⟩
      · rw [hcase]
        rfl
      · rw [hcase]
        rfl
      · rw [hcase]
        refine newline?_of_isPrintable (hplain.resolve_right ?_) _
        rintro ⟨-, rfl⟩
        exact hnewline List.mem_cons_self
  have hskip := skipNewline_ownLine hstart
  have hread := @longBasicRest?_escape rest 0 (Nat.zero_le 2) hrest cs
    ((escape true 0 cs ++ ['"', '"', '"'] ++ rest).length + 1)
    (by simp only [List.length_append]; omega)
  simp only [longBasic, List.cons_append, List.append_assoc, List.nil_append] at hskip hread ⊢
  rw [quoted?, hskip, hread]

theorem quoted?_longLiteral (hplain : ∀ c ∈ cs, isControl c = false)
    (hruns : longestRun '\'' 0 cs ≤ 2) (hrest : rest.head? ≠ some '\'') :
    quoted? (longLiteral cs ++ rest) = some (cs, rest) := by
  have hstart : '\n' ∉ cs → newline? (cs ++ ['\'', '\'', '\''] ++ rest) = none := by
    intro hnewline
    cases cs with
    | nil => rfl
    | cons c cs =>
      have hprint := isPrintable_or_newline (hplain c List.mem_cons_self)
      refine newline?_of_isPrintable (hprint.resolve_right ?_) _
      rintro rfl
      exact hnewline List.mem_cons_self
  have hskip := skipNewline_ownLine hstart
  have hread := @longLiteralRest?_append cs rest 0
    ((cs ++ ['\'', '\'', '\''] ++ rest).length + 1) hplain hruns hrest
    (by simp only [List.length_append]; omega)
  simp only [longLiteral, List.cons_append, List.append_assoc, List.nil_append] at hskip hread ⊢
  rw [quoted?, hskip, hread]

/-- A text is read back from its quoted form, unless more quotes follow. -/
theorem quoted?_quote (cs : List Char) (hdouble : rest.head? ≠ some '"')
    (hsingle : rest.head? ≠ some '\'') : quoted? (quote cs ++ rest) = some (cs, rest) := by
  rw [quote]
  split_ifs with hbasic hliteral hlongBasic hlongLiteral hnewline
  · exact quoted?_basic cs hdouble
  · obtain ⟨⟨hcontrols, hsingles⟩, hnewline⟩ : ((∀ c ∈ cs, isControl c = false) ∧
        longestRun '\'' 0 cs = 0) ∧ '\n' ∉ cs := by
      simpa [shape] using hliteral
    refine quoted?_literal (fun c hc => ⟨?_, ?_⟩) hsingle
    · rintro rfl
      exact not_mem_of_longestRun hsingles hc
    · refine (isPrintable_or_newline (hcontrols c hc)).resolve_right ?_
      rintro rfl
      exact hnewline hc
  · exact quoted?_longBasic cs hdouble
  · obtain ⟨hcontrols, hruns⟩ : (∀ c ∈ cs, isControl c = false) ∧ longestRun '\'' 0 cs ≤ 2 := by
      simpa [shape] using hlongLiteral
    exact quoted?_longLiteral hcontrols hruns hsingle
  · exact quoted?_longBasic cs hdouble
  · exact quoted?_basic cs hdouble

end Subtitler.Toml
