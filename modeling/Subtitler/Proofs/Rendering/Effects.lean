import Subtitler.Rendering

/-!
# The effects of rendering

What each operation of the rendering makes of the state, and what it adds to the effects. Every
operation is described by an equation for the whole run, so that nobody has to look into it again:

- a call leaves itself behind, and a line of the log if it was refused (`CallTrace`);
- showing a subtitle ends in the overlay or on the player (`activate_cases`);
- hiding it, taking it from a player and changing the offset make at most one call.
-/

namespace Subtitler

/-! ## Calls -/

/-- What a call leaves behind: itself, and what is logged about a refusal. -/
def CallTrace (player : AttachedPlayer) (call : PlayerCall) (trace : List Effect) : Prop :=
  ∃ refusal log, trace = .called player call refusal :: log ∧
    ∀ effect ∈ log, ∃ entry, effect = .logged entry

/-- Effects that nobody is told of: calls of players, and lines of the log. -/
def Effect.isQuiet : Effect → Bool
  | .called _ _ _ | .logged _ => true
  | _ => false

/-- Nothing but a call of the player and lines of the log is in the trace of a call. -/
theorem CallTrace.mem {player : AttachedPlayer} {call : PlayerCall} {trace : List Effect}
    (h : CallTrace player call trace) {effect : Effect} (he : effect ∈ trace) :
    (∃ refusal, effect = .called player call refusal) ∨ ∃ entry, effect = .logged entry := by
  obtain ⟨refusal, log, rfl, hlog⟩ := h
  rcases List.mem_cons.1 he with rfl | he
  · exact Or.inl ⟨refusal, rfl⟩
  · exact Or.inr (hlog effect he)

theorem CallTrace.quiet {player : AttachedPlayer} {call : PlayerCall} {trace : List Effect}
    (h : CallTrace player call trace) : ∀ effect ∈ trace, effect.isQuiet = true := by
  intro effect he
  rcases h.mem he with ⟨_, rfl⟩ | ⟨_, rfl⟩ <;> rfl

namespace Run

variable {σ : Type}

theorem callOrWarn_eq (answers : Answers) (run : Run σ) (player : AttachedPlayer)
    (call : PlayerCall) (source : LogSource) (complaint : String → String) :
    ∃ trace, CallTrace player call trace ∧
      run.callOrWarn answers player call source complaint =
        ⟨run.state, run.effects ++ trace⟩ := by
  unfold Run.callOrWarn Run.call
  cases answers run.calls player call with
  | ok _ =>
    refine ⟨[.called player call none], ⟨none, [], rfl, by simp⟩, rfl⟩
  | error cause =>
    refine ⟨_, ⟨some cause, [.logged ⟨.warn, source, complaint cause.message⟩], rfl, by simp⟩, ?_⟩
    simp [Run.log, Run.emit]

end Run

namespace Rendering

variable (answers : Answers)

/-! ## Showing -/

/-- What is done to keep a player at an offset when it takes a file. Only an offset other than zero
is told. -/
def Delays (player : AttachedPlayer) (offset : Int) (trace : List Effect) : Prop :=
  if offset = 0 then trace = [] else CallTrace player (.subtitleDelay offset) trace

/-- What is left of giving a file to a player that does not render files, or does not take it. -/
def Refused (player : Option AttachedPlayer) (file : String) (trace : List Effect) : Prop :=
  (player.filter (·.rendersFiles) = none ∧ trace = []) ∨
    ∃ p cause entry, player = some p ∧ p.rendersFiles = true ∧
      trace = [.called p (.subtitleFile file) (some cause), .logged entry]

theorem Delays.quiet {player : AttachedPlayer} {offset : Int} {trace : List Effect}
    (h : Delays player offset trace) : ∀ effect ∈ trace, effect.isQuiet = true := by
  unfold Delays at h
  split at h
  · simp [h]
  · exact h.quiet

theorem Refused.quiet {player : Option AttachedPlayer} {file : String} {trace : List Effect}
    (h : Refused player file trace) : ∀ effect ∈ trace, effect.isQuiet = true := by
  rcases h with ⟨-, rfl⟩ | ⟨_, _, _, -, -, rfl⟩ <;> simp [Effect.isQuiet]

theorem offer_cases (player : AttachedPlayer) (subtitle : Subtitle) (run : Run Rendering) :
    (∃ cause entry, offer answers player subtitle run =
      ⟨run.state, run.effects ++
        [.called player (.subtitleFile subtitle.file) (some cause), .logged entry]⟩) ∨
    ∃ trace, Delays player run.state.offset trace ∧ offer answers player subtitle run =
      ⟨{ run.state with native := true },
        run.effects ++ .called player (.subtitleFile subtitle.file) none :: trace⟩ := by
  unfold offer Run.call
  cases answers run.calls player (.subtitleFile subtitle.file) with
  | error cause =>
    exact Or.inl ⟨cause, _, by simp only [Run.log, Run.emit, List.append_assoc]; rfl⟩
  | ok _ =>
    by_cases h : run.state.offset = 0
    · refine Or.inr ⟨[], by rw [Delays, if_pos h], ?_⟩
      simp [Run.modify, Run.emit, h]
    · obtain ⟨trace, htrace, heq⟩ := Run.callOrWarn_eq answers
        ((run.emit (.called player (.subtitleFile subtitle.file) none)).modify
          ({ · with native := true })) player (.subtitleDelay run.state.offset) .rendering
        fun cause => s!"{player.name} failed to apply subtitle delay, {cause}"
      refine Or.inr ⟨trace, by rwa [Delays, if_neg h], ?_⟩
      simp only [Run.state_modify, Run.state_emit, h, if_false]
      simpa [forwardOffset] using heq

/-- **Showing a subtitle** ends in the overlay, unless the player renders files and takes this
one. -/
theorem activate_cases (player : Option AttachedPlayer) (subtitle : Subtitle)
    (run : Run Rendering) :
    (∃ trace, Refused player subtitle.file trace ∧ activate answers player subtitle run =
      ⟨{ run.state with active := some subtitle, native := false },
        run.effects ++ trace ++ [.notified (.activated subtitle)]⟩) ∨
    ∃ p trace, player = some p ∧ p.rendersFiles = true ∧ Delays p run.state.offset trace ∧
      activate answers player subtitle run =
        ⟨{ run.state with active := some subtitle, native := true },
          run.effects ++ .called p (.subtitleFile subtitle.file) none :: trace ++
            [.notified (.nativeActivated subtitle.file)]⟩ := by
  unfold activate
  cases hp : player.filter (·.rendersFiles) with
  | none =>
    exact Or.inl ⟨[], Or.inl ⟨hp, rfl⟩, by simp [Run.modify, Run.notify, Run.emit]⟩
  | some p =>
    obtain ⟨rfl, hr⟩ := Option.filter_eq_some_iff.1 hp
    rcases offer_cases answers p subtitle (run.modify ({ · with native := false })) with
      ⟨cause, entry, heq⟩ | ⟨trace, htrace, heq⟩
    · refine Or.inl ⟨_, Or.inr ⟨p, cause, entry, rfl, hr, rfl⟩, ?_⟩
      simp only [heq]
      simp [Run.modify, Run.notify, Run.emit]
    · refine Or.inr ⟨p, trace, rfl, hr, htrace, ?_⟩
      simp only [heq]
      simp [Run.modify, Run.notify, Run.emit]

/-! ## Hiding, withdrawing, moving in time -/

/-- What is left of a call that is made only if the subtitle is on the player. -/
def NativeCall (player : Option AttachedPlayer) (native : Bool) (call : PlayerCall)
    (trace : List Effect) : Prop :=
  (player.filter (fun _ => native) = none ∧ trace = []) ∨
    ∃ p, player = some p ∧ native = true ∧ CallTrace p call trace

theorem NativeCall.quiet {player : Option AttachedPlayer} {native : Bool} {call : PlayerCall}
    {trace : List Effect} (h : NativeCall player native call trace) :
    ∀ effect ∈ trace, effect.isQuiet = true := by
  rcases h with ⟨-, rfl⟩ | ⟨_, -, -, h⟩
  · simp
  · exact h.quiet

theorem deactivate_eq (player : Option AttachedPlayer) (run : Run Rendering) :
    ∃ trace, NativeCall player run.state.native .clearSubtitleFile trace ∧
      deactivate answers player run =
        ⟨{ run.state with active := none, native := false },
          run.effects ++ trace ++ [.notified .disabled]⟩ := by
  unfold deactivate
  cases hp : player.filter (fun _ => run.state.native) with
  | none => exact ⟨[], Or.inl ⟨hp, rfl⟩, by simp [Run.modify, Run.notify, Run.emit, hp]⟩
  | some p =>
    obtain ⟨rfl, hn⟩ := Option.filter_eq_some_iff.1 hp
    obtain ⟨trace, htrace, heq⟩ := Run.callOrWarn_eq answers
      (run.modify ({ · with native := false, active := none })) p .clearSubtitleFile .rendering
      fun cause => s!"{p.name} failed to clear its subtitle file, {cause}"
    refine ⟨trace, Or.inr ⟨p, rfl, hn, htrace⟩, ?_⟩
    have hclear : clearFile answers p (run.modify ({ · with native := false, active := none })) =
        ⟨{ run.state with active := none, native := false }, run.effects ++ trace⟩ := heq
    simp only [hp, hclear]
    simp [Run.notify, Run.emit]

theorem detach_eq (player : AttachedPlayer) (run : Run Rendering) :
    ∃ trace, NativeCall (some player) run.state.native .clearSubtitleFile trace ∧
      detach answers player run = ⟨{ run.state with native := false }, run.effects ++ trace⟩ := by
  unfold detach
  cases hn : run.state.native with
  | false =>
    refine ⟨[], Or.inl ⟨rfl, rfl⟩, ?_⟩
    cases run with
    | mk state effects => cases state; simp_all
  | true =>
    obtain ⟨trace, htrace, heq⟩ := Run.callOrWarn_eq answers
      (run.modify ({ · with native := false })) player .clearSubtitleFile .rendering
      fun cause => s!"{player.name} failed to clear its subtitle file, {cause}"
    exact ⟨trace, Or.inr ⟨player, rfl, rfl, htrace⟩, heq⟩

theorem setOffset_self (player : Option AttachedPlayer) {offset : Int} (run : Run Rendering)
    (h : run.state.offset = offset) : setOffset answers player offset run = run := if_pos h

theorem setOffset_eq (player : Option AttachedPlayer) {offset : Int} (run : Run Rendering)
    (h : run.state.offset ≠ offset) :
    ∃ trace, NativeCall player run.state.native (.subtitleDelay offset) trace ∧
      setOffset answers player offset run =
        ⟨{ run.state with offset },
          run.effects ++ trace ++ [.notified (.offsetChanged offset)]⟩ := by
  unfold setOffset
  rw [if_neg h]
  cases hp : player.filter (fun _ => run.state.native) with
  | none => exact ⟨[], Or.inl ⟨hp, rfl⟩, by simp [Run.modify, Run.notify, Run.emit, hp]⟩
  | some p =>
    obtain ⟨rfl, hn⟩ := Option.filter_eq_some_iff.1 hp
    obtain ⟨trace, htrace, heq⟩ := Run.callOrWarn_eq answers (run.modify ({ · with offset })) p
      (.subtitleDelay offset) .rendering
      fun cause => s!"{p.name} failed to apply subtitle delay, {cause}"
    refine ⟨trace, Or.inr ⟨p, rfl, hn, htrace⟩, ?_⟩
    have hforward : forwardOffset answers p (run.modify ({ · with offset })) =
        ⟨{ run.state with offset }, run.effects ++ trace⟩ := heq
    simp only [Run.state_modify, hp, hforward]
    simp [Run.notify, Run.emit]

/-! ## Beside the rendering -/

/-- A part of a run that does nothing but tell of events, call players and write to the log. -/
def Outward (step : Run Rendering → Run Rendering) : Prop :=
  ∀ run, ∃ trace, (step run).effects = run.effects ++ trace ∧
    ∀ effect ∈ trace, effect.isQuiet = true ∨ ∃ event, effect = .notified event

/-- A quiet trace that ends with an event. -/
theorem outward_trace {trace : List Effect} (h : ∀ effect ∈ trace, effect.isQuiet = true)
    (event : SubtitleEvent) :
    ∀ effect ∈ trace ++ [.notified event],
      effect.isQuiet = true ∨ ∃ event, effect = .notified event := by
  intro effect he
  rcases List.mem_append.1 he with he | he
  · exact Or.inl (h effect he)
  · exact Or.inr ⟨event, List.mem_singleton.1 he⟩

theorem outward_activate (player : Option AttachedPlayer) (subtitle : Subtitle) :
    Outward (activate answers player subtitle) := by
  intro run
  rcases activate_cases answers player subtitle run with
    ⟨trace, htrace, heq⟩ | ⟨p, trace, -, -, htrace, heq⟩
  · exact ⟨_, by rw [heq, List.append_assoc], outward_trace htrace.quiet _⟩
  · have hquiet : ∀ effect ∈ .called p (.subtitleFile subtitle.file) none :: trace,
        effect.isQuiet = true := List.forall_mem_cons.2 ⟨rfl, htrace.quiet⟩
    exact ⟨_, by rw [heq, List.append_assoc], outward_trace hquiet _⟩

theorem outward_redispatch (player : Option AttachedPlayer) :
    Outward (redispatch answers player) := by
  intro run
  unfold redispatch
  cases run.state.active with
  | none => exact ⟨[], by simp, by simp⟩
  | some subtitle => exact outward_activate answers player subtitle run

theorem outward_deactivate (player : Option AttachedPlayer) :
    Outward (deactivate answers player) := by
  intro run
  obtain ⟨trace, htrace, heq⟩ := deactivate_eq answers player run
  exact ⟨_, by rw [heq, List.append_assoc], outward_trace htrace.quiet _⟩

theorem outward_detach (player : AttachedPlayer) : Outward (detach answers player) := by
  intro run
  obtain ⟨trace, htrace, heq⟩ := detach_eq answers player run
  exact ⟨trace, by rw [heq], fun effect he => Or.inl (htrace.quiet effect he)⟩

theorem outward_setOffset (player : Option AttachedPlayer) (offset : Int) :
    Outward (setOffset answers player offset) := by
  intro run
  by_cases h : run.state.offset = offset
  · exact ⟨[], by simp [setOffset_self answers player run h], by simp⟩
  · obtain ⟨trace, htrace, heq⟩ := setOffset_eq answers player run h
    exact ⟨_, by rw [heq, List.append_assoc], outward_trace htrace.quiet _⟩

end Rendering

end Subtitler
