import Mathlib.Tactic.SplitIfs
import Subtitler.CommandLine.Command

/-!
# What a line gives to its commands

A line is read level by level, one level for each command that it goes down to.

**Theorem (`readLine_eq_ok`).** Every level of a line that is read belongs to a command of the
grammar, and nothing was given to it together with what that command excludes.

A word changes what was given to a level, never the command of the level (`Level.read_cases`); what
was given is checked at the end (`Level.check_eq_ok`). So a line to play something makes at most one
choice of subtitles (`oneChoice_of_parse`).
-/

namespace Subtitler.CommandLine

/-! ## Steps that may fail -/

theorem bind_eq_ok {α β ε : Type} {x : Except ε α} {f : α → Except ε β} {b : β} :
    x >>= f = .ok b ↔ ∃ a, x = .ok a ∧ f a = .ok b := by
  cases x <;> simp [bind, Except.bind]

theorem map_eq_ok {α β ε : Type} {x : Except ε α} {f : α → β} {b : β} :
    x.map f = .ok b ↔ ∃ a, x = .ok a ∧ f a = b := by
  cases x <;> simp [Except.map]

theorem ite_throw_eq_ok {α β ε : Type} {p : Prop} [Decidable p] {e : ε} {f : α → Except ε β}
    {x : Except ε β} {b : β} : (if p then throw e >>= f else x) = .ok b ↔ ¬p ∧ x = .ok b := by
  by_cases hp : p
  · simp [hp, throw, throwThe, MonadExceptOf.throw, bind, Except.bind]
  · simp [hp]

/-! ## One level -/

namespace Level

variable {level level' : Level}

theorem command_give {name : Name} {value : Value} (h : level.give name value = .ok level') :
    level'.command = level.command := by
  unfold give at h
  split_ifs at h
  cases h
  rfl

theorem command_giveWord {name : Name} {kind : ValueKind} {s : String}
    (h : level.giveWord name kind s = .ok level') : level'.command = level.command := by
  unfold giveWord at h
  split_ifs at h
  obtain ⟨value, -, h⟩ := bind_eq_ok.1 h
  exact command_give h

theorem command_settle (h : level.settle = .ok level') : level'.command = level.command := by
  unfold settle at h
  cases hp : level.pending with
  | none =>
    rw [hp] at h
    cases h
    rfl
  | some p =>
    cases hw : p.word with
    | none => simp [hp, hw] at h
    | some s =>
      simp only [hp, hw] at h
      have hgive := command_giveWord h
      exact hgive

theorem command_option {action : Action} {attached : Option String}
    (h : level.option action attached = .ok level') : level'.command = level.command := by
  unfold option at h
  split at h <;> obtain ⟨settled, hsettle, h⟩ := bind_eq_ok.1 h
  · exact (command_giveWord h).trans (command_settle hsettle)
  · have hsettled := command_settle hsettle
    cases h
    exact hsettled
  · exact (command_give h).trans (command_settle hsettle)
  · cases h
  · cases h

theorem command_long {s : List Char} (h : level.long s = .ok level') :
    level'.command = level.command := by
  unfold long at h
  dsimp only at h
  split at h
  · cases h
  · split_ifs at h
    exact command_option h

theorem command_letters {s : List Char} (h : level.letters s = .ok level') :
    level'.command = level.command := by
  induction s generalizing level with
  | nil =>
    cases h
    rfl
  | cons c rest ih =>
    unfold letters at h
    split at h
    · cases h
    · split_ifs at h
      · split at h <;> exact command_option h
      · obtain ⟨next, hnext, h⟩ := bind_eq_ok.1 h
        exact (ih h).trans (command_option hnext)

theorem command_word {s : String} (h : level.word s = .ok level') :
    level'.command = level.command := by
  unfold word at h
  split at h
  · cases h
    rfl
  · split at h
    · obtain ⟨settled, hsettle, h⟩ := bind_eq_ok.1 h
      have hsettled := command_settle hsettle
      cases h
      exact hsettled
    · split_ifs at h

/-- Reading a word stays at a command or goes to one below it. -/
theorem read_cases {s : String} {step : Step} (h : level.read s = .ok step) :
    (∃ next, step = .stay next ∧ next.command = level.command) ∨
      (∃ c ∈ level.command.commands, step = .enter c) ∨ step = .help := by
  have hstay : ∀ {x : Except UsageError Level}, x.map Step.stay = .ok step →
      (∀ {next}, x = .ok next → next.command = level.command) →
      ∃ next, step = .stay next ∧ next.command = level.command := by
    intro x h hx
    obtain ⟨next, hnext, rfl⟩ := map_eq_ok.1 h
    exact ⟨next, rfl, hx hnext⟩
  unfold read at h
  dsimp only at h
  split at h
  · exact .inl (hstay h command_word)
  · split at h
    · rename_i c hc
      cases h
      split_ifs at hc
      exact .inr (.inl ⟨c, List.mem_of_find?_eq_some hc, rfl⟩)
    · split_ifs at h
      · cases h
        exact .inr (.inr rfl)
      · exact .inl (hstay h command_word)
      · split at h
        · cases h
          exact .inl ⟨_, rfl, rfl⟩
        · exact .inl (hstay h command_long)
        · exact .inl (hstay h command_letters)
        · exact .inl (hstay h command_word)

/-- Nothing was given to a command together with what it excludes. -/
def Exclusive (level : Level) : Prop :=
  ∀ a b, (a, b) ∈ level.command.excludes → ¬(level.has a = true ∧ level.has b = true)

theorem has_eq (level : Level) (name : Name) : level.has name = level.given.any (·.1 == name) := by
  rw [Bool.eq_iff_iff, has, value?, Option.isSome_map, List.find?_isSome, List.any_eq_true]

theorem check_eq_ok {entered : Bool} (h : level.check entered = .ok level') :
    level'.command = level.command ∧ level'.Exclusive := by
  obtain ⟨settled, hsettle, h⟩ := bind_eq_ok.1 h
  simp only [ite_throw_eq_ok, ← has_eq] at h
  obtain ⟨-, hexcludes, -, -, h⟩ := h
  cases h
  refine ⟨command_settle hsettle, fun a b hmem hboth => hexcludes ?_⟩
  exact List.any_eq_true.2 ⟨(a, b), hmem, by simpa using hboth⟩

end Level

/-! ## Whole lines -/

/-- A command of a grammar: the whole one, or one below another. -/
inductive Command.Within (root : Command) : Command → Prop
  | whole : Within root root
  | inner {c d : Command} (hc : Within root c) (hd : d ∈ c.commands) : Within root d

variable {root : Command}

theorem checkAll_eq_ok {entered : Bool} {levels checked : List Level}
    (h : checkAll entered levels = .ok checked)
    (hlevels : ∀ level ∈ levels, root.Within level.command) :
    ∀ level ∈ checked, root.Within level.command ∧ level.Exclusive := by
  induction levels generalizing entered checked with
  | nil =>
    cases h
    simp
  | cons level outer ih =>
    obtain ⟨level', hlevel, h⟩ := bind_eq_ok.1 h
    obtain ⟨outer', houter, h⟩ := bind_eq_ok.1 h
    cases h
    obtain ⟨hin, hrest⟩ := List.forall_mem_cons.1 hlevels
    obtain ⟨hcommand, hexclusive⟩ := Level.check_eq_ok hlevel
    exact List.forall_mem_cons.2 ⟨⟨hcommand ▸ hin, hexclusive⟩, ih houter hrest⟩

theorem readWords_eq_ok {words : List String} {outer : List Level} {level : Level}
    {levels : List Level} (h : readWords outer level words = .ok levels)
    (hlevel : root.Within level.command) (houter : ∀ level ∈ outer, root.Within level.command) :
    ∀ level ∈ levels, root.Within level.command ∧ level.Exclusive := by
  induction words generalizing outer level with
  | nil => exact checkAll_eq_ok h (List.forall_mem_cons.2 ⟨hlevel, houter⟩)
  | cons s rest ih =>
    obtain ⟨step, hstep, h⟩ := bind_eq_ok.1 h
    obtain ⟨next, rfl, hnext⟩ | ⟨c, hc, rfl⟩ | rfl := Level.read_cases hstep
    · exact ih h (hnext ▸ hlevel) houter
    · exact ih h (hlevel.inner hc) (List.forall_mem_cons.2 ⟨hlevel, houter⟩)
    · cases h

/-- **What a line gives.** Every level belongs to a command of the grammar, and nothing was given to
it together with what it excludes. -/
theorem readLine_eq_ok {words : List String} {levels : List Level}
    (h : readLine root words = .ok levels) :
    ∀ level ∈ levels, root.Within level.command ∧ level.Exclusive :=
  readWords_eq_ok h .whole (by simp)

/-! ## Playing -/

theorem within_grammar {c : Command} (h : grammar.Within c) :
    c = grammar ∨ c ∈ grammar.commands ∨ c ∈ configGrammar.commands := by
  induction h with
  | whole => exact .inl rfl
  | @inner c d _ hd ih =>
    have hconfig : ∀ c ∈ configGrammar.commands, c.commands = [] := by
      simp [configGrammar, Command.commands]
    obtain rfl | hc | hc := ih
    · exact .inr (.inl hd)
    · simp only [grammar, Command.commands, List.mem_cons, List.not_mem_nil, or_false] at hc
      obtain rfl | rfl | rfl := hc
      · cases hd
      · cases hd
      · exact .inr (.inr hd)
    · rw [hconfig c hc] at hd
      cases hd

theorem eq_playGrammar {c : Command} (h : grammar.Within c) (hname : c.names.head? = some "play") :
    c = playGrammar := by
  have hgrammar : ∀ c ∈ grammar.commands, c.names.head? = some "play" → c = playGrammar := by
    simp [grammar, Command.commands, playGrammar, subtitlesGrammar, configGrammar, Command.names]
  have hconfig : ∀ c ∈ configGrammar.commands, c.names.head? ≠ some "play" := by
    simp [configGrammar, Command.commands, Command.names]
  obtain rfl | hc | hc := within_grammar h
  · simp [grammar, Command.names] at hname
  · exact hgrammar c hc hname
  · exact absurd hname (hconfig c hc)

namespace Level

variable {level : Level} {command : PlayCommand}

theorem has_of_text? {name : Name} (h : (level.text? name).isSome = true) :
    level.has name = true := by
  unfold text? at h
  unfold has
  split at h
  · simp [*]
  · cases h

theorem command?_eq_play (h : level.command? = some (.play command)) :
    level.command.names.head? = some "play" ∧ command.lang = level.text? .lang ∧
      command.noSubtitles = level.has .noSubtitles ∧ command.custom = level.has .custom := by
  unfold command? at h
  split at h
  · rename_i hname
    obtain ⟨url, -, h⟩ := Option.bind_eq_some_iff.1 h
    cases h
    exact ⟨hname, rfl, rfl, rfl⟩
  all_goals simp [Option.bind_eq_some_iff] at h

end Level

/-- A command to play that was given at most one choice of subtitles. -/
structure PlayCommand.OneChoice (command : PlayCommand) : Prop where
  lang : command.lang.isSome = true → command.noSubtitles = false ∧ command.custom = false
  noSubtitles : command.noSubtitles = true → command.custom = false

/-- **One choice at most.** A line that names a language does not turn subtitles off or ask for a
file, and a line does not do both of these. -/
theorem oneChoice_of_parse {words : List String} {invocation : Invocation} {command : PlayCommand}
    (h : parse words = .ok invocation) (hplay : invocation.command = .play command) :
    command.OneChoice := by
  obtain ⟨levels, hlevels, h⟩ := bind_eq_ok.1 h
  split at h
  · cases h
  · rename_i read hread
    cases h
    obtain rfl : read = .play command := hplay
    obtain ⟨level, hhead, hcommand⟩ := Option.bind_eq_some_iff.1 hread
    obtain ⟨hin, hexclusive⟩ := readLine_eq_ok hlevels level (List.mem_of_head? hhead)
    obtain ⟨hname, hlang, hnone, hcustom⟩ := Level.command?_eq_play hcommand
    rw [Level.Exclusive, eq_playGrammar hin hname] at hexclusive
    have hlangNone := hexclusive .lang .noSubtitles (by simp [playGrammar, Command.excludes])
    have hlangCustom := hexclusive .lang .custom (by simp [playGrammar, Command.excludes])
    have hnoneCustom := hexclusive .noSubtitles .custom (by simp [playGrammar, Command.excludes])
    rw [← hnone, ← hcustom] at hnoneCustom
    rw [← hnone] at hlangNone
    rw [← hcustom] at hlangCustom
    refine ⟨fun h => ?_, fun h => by simpa [h] using hnoneCustom⟩
    have hgiven := Level.has_of_text? (hlang ▸ h)
    exact ⟨by simpa [hgiven] using hlangNone, by simpa [hgiven] using hlangCustom⟩

end Subtitler.CommandLine
