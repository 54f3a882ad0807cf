import Subtitler.Proofs.Manager.Scene

/-!
# The delay of a player

The delay of a player is the last one that it was given, and zero before that. A player that
renders the active subtitle is meant to be kept at the offset of the manager: it is given the offset
when it takes a file, and again whenever the offset changes. But an offset of zero is not given
along with a file. A player that was given a delay before, and that takes its next file after the
offset went back to zero, keeps the old delay.

**Theorem (`delay_eq_offset_iff`).** While a subtitle is rendered natively, the delay of the
attached player is the offset if and only if, since it last took a file, the player was given a
delay, or had none at that moment.

`delay_ne_offset` is a run in which the delay is out of step with the offset.
-/

namespace Subtitler

open Rendering (Delays NativeCall)

/-! ## Delays and files -/

/-- The delay that a player is given. -/
def Effect.delay? (player : AttachedPlayer) : Effect → Option Int
  | .called p (.subtitleDelay delay) _ => if p = player then some delay else none
  | _ => none

/-- Whether a player takes a file. -/
def Effect.takesFile (player : AttachedPlayer) : Effect → Bool
  | .called p (.subtitleFile _) none => p = player
  | _ => false

/-- All delays that a player was given. -/
def delaysOf (player : AttachedPlayer) (effects : List Effect) : List Int :=
  effects.filterMap (Effect.delay? player)

/-- The delay of a player. -/
def delayOf (player : AttachedPlayer) (effects : List Effect) : Int :=
  (delaysOf player effects).getLast?.getD 0

@[simp] theorem delaysOf_append (player : AttachedPlayer) (first rest : List Effect) :
    delaysOf player (first ++ rest) = delaysOf player first ++ delaysOf player rest :=
  List.filterMap_append

/-- A player that is given no more delays keeps the one that it has. -/
theorem delayOf_append_of_nil {player : AttachedPlayer} {rest : List Effect}
    (h : delaysOf player rest = []) (first : List Effect) :
    delayOf player (first ++ rest) = delayOf player first := by
  rw [delayOf, delaysOf_append, h, List.append_nil, delayOf]

theorem delayOf_append_of_getLast {player : AttachedPlayer} {rest : List Effect} {delay : Int}
    (h : (delaysOf player rest).getLast? = some delay) (first : List Effect) :
    delayOf player (first ++ rest) = delay := by
  rw [delayOf, delaysOf_append, List.getLast?_append, h]
  rfl

/-- Effects that neither give a player a delay nor let it take a file. -/
def Idle (player : AttachedPlayer) (effects : List Effect) : Prop :=
  ∀ effect ∈ effects, effect.delay? player = none ∧ effect.takesFile player = false

theorem Idle.delaysOf_eq {player : AttachedPlayer} {effects : List Effect}
    (h : Idle player effects) : delaysOf player effects = [] :=
  List.filterMap_eq_nil_iff.2 fun effect he => (h effect he).1

theorem idle_notified (player : AttachedPlayer) (event : SubtitleEvent) :
    Idle player [.notified event] := by
  intro effect he
  rw [List.mem_singleton.1 he]
  exact ⟨rfl, rfl⟩

theorem idle_aside {effects : List Effect} (h : ∀ effect ∈ effects, effect.isAside = true)
    (player : AttachedPlayer) : Idle player effects := by
  intro effect he
  have haside := h effect he
  cases effect with
  | called p call refusal => cases call <;> first | exact ⟨rfl, rfl⟩ | cases haside
  | _ => exact ⟨rfl, rfl⟩

/-- The trace of giving a player a delay. -/
theorem delaysOf_callTrace {player : AttachedPlayer} {delay : Int} {trace : List Effect}
    (h : CallTrace player (.subtitleDelay delay) trace) : delaysOf player trace = [delay] := by
  obtain ⟨refusal, log, rfl, hlog⟩ := h
  have hidle : delaysOf player log = [] := List.filterMap_eq_nil_iff.2 fun effect he => by
    obtain ⟨entry, rfl⟩ := hlog effect he
    rfl
  have hcall : Effect.delay? player (.called player (.subtitleDelay delay) refusal) = some delay :=
    if_pos rfl
  rw [delaysOf, List.filterMap_cons_some hcall]
  exact congrArg _ hidle

theorem takesFile_callTrace {player p : AttachedPlayer} {delay : Int} {trace : List Effect}
    (h : CallTrace p (.subtitleDelay delay) trace) :
    ∀ effect ∈ trace, effect.takesFile player = false := by
  intro effect he
  rcases h.mem he with ⟨_, rfl⟩ | ⟨_, rfl⟩ <;> rfl

/-! ## In step with the offset -/

/-- What a player was told since it took a file, if it is in step with an offset: the offset last
of all, or nothing while the offset is zero. -/
def InStep (player : AttachedPlayer) (offset : Int) (since : List Effect) : Prop :=
  (∀ effect ∈ since, effect.takesFile player = false) ∧
    ((delaysOf player since).getLast? = some offset ∨ delaysOf player since = [] ∧ offset = 0)

theorem InStep.append_idle {player : AttachedPlayer} {offset : Int} {since rest : List Effect}
    (h : InStep player offset since) (hr : Idle player rest) :
    InStep player offset (since ++ rest) := by
  refine ⟨fun effect he => ?_, ?_⟩
  · rcases List.mem_append.1 he with he | he
    · exact h.1 effect he
    · exact (hr effect he).2
  · rw [delaysOf_append, hr.delaysOf_eq, List.append_nil]
    exact h.2

/-- A player is in step with an offset that it has just been told. -/
theorem InStep.append_delay {player : AttachedPlayer} {offset delay : Int}
    {since trace : List Effect} (h : InStep player offset since)
    (ht : CallTrace player (.subtitleDelay delay) trace) :
    InStep player delay (since ++ trace) := by
  refine ⟨fun effect he => ?_, Or.inl ?_⟩
  · rcases List.mem_append.1 he with he | he
    · exact h.1 effect he
    · exact takesFile_callTrace ht effect he
  · rw [delaysOf_append, delaysOf_callTrace ht, List.getLast?_append]
    rfl

/-- A player is in step with the offset that comes with its file. -/
theorem inStep_delays {player : AttachedPlayer} {offset : Int} {trace : List Effect}
    (h : Delays player offset trace) : InStep player offset trace := by
  unfold Delays at h
  split_ifs at h with ho
  · subst h
    exact ⟨by simp, Or.inr ⟨rfl, ho⟩⟩
  · exact ⟨takesFile_callTrace h, Or.inl (by rw [delaysOf_callTrace h]; rfl)⟩

/-- While a subtitle is rendered natively, the attached player is in step with the offset since it
took the file. -/
def Scene.InStep (s : Scene) : Prop :=
  s.rendering.native = true → ∃ p file before since, s.player = some p ∧
    s.effects = before ++ .called p (.subtitleFile file) none :: since ∧
    Subtitler.InStep p s.rendering.offset since

theorem Scene.inStep_step {stop : Bool} {s t : Scene} (h : s.Step stop t) (hs : s.InStep) :
    t.InStep := by
  intro hn
  cases h with
  | @aside trace h =>
    obtain ⟨p, file, before, since, hp, he, hstep⟩ := hs hn
    exact ⟨p, file, before, since ++ trace, hp, by simp [he], hstep.append_idle (idle_aside h p)⟩
  | resize size =>
    obtain ⟨p, file, before, since, hp, he, hstep⟩ := hs hn
    exact ⟨p, file, before, since ++ [.notified (.sizeChanged size)], hp, by simp [he],
      hstep.append_idle (idle_notified p _)⟩
  | @move offset trace h =>
    obtain ⟨p, file, before, since, hp, he, hstep⟩ := hs hn
    rcases h with ⟨hnone, -⟩ | ⟨q, hq, -, htrace⟩
    · -- There is a player, and the subtitle is on it.
      have hn : s.rendering.native = true := hn
      simp [hp, hn] at hnone
    · obtain rfl : p = q := Option.some.inj (hp.symm.trans hq)
      exact ⟨p, file, before, since ++ trace ++ [.notified (.offsetChanged offset)], hp,
        by simp [he], (hstep.append_delay htrace).append_idle (idle_notified p _)⟩
  | hide | close | overlay => cases hn
  | attach player h => exact absurd (h.symm.trans hn) (by decide)
  | @natively p subtitle withdrawn delays hw hp hd =>
    exact ⟨p, subtitle.file, s.effects ++ withdrawn,
      delays ++ [.notified (.nativeActivated subtitle.file)], rfl, by simp,
      (inStep_delays hd).append_idle (idle_notified p _)⟩

/-! ## The delay of the attached player -/

namespace Manager

variable (answers : Answers)

/-- **When the delay of a player is the offset.** While a subtitle is rendered natively, there is an
attached player. It has the delay that the manager has as offset if and only if it was given a
delay since it last took a file, or had none before. In the other case the offset is zero, and the
player has kept the delay that it had before. -/
theorem delay_eq_offset_iff (preference : Preference) (messages : List Message)
    (hn : (outcome answers preference messages).state.rendering.native = true) :
    let run := outcome answers preference messages
    ∃ p file before since, run.state.player = some p ∧
      run.effects = before ++ .called p (.subtitleFile file) none :: since ∧
      (∀ effect ∈ since, effect.takesFile p = false) ∧
      (delayOf p run.effects = run.state.rendering.offset ↔
        delaysOf p since ≠ [] ∨ delayOf p before = 0) ∧
      (delayOf p run.effects ≠ run.state.rendering.offset →
        run.state.rendering.offset = 0 ∧ delayOf p run.effects = delayOf p before) := by
  intro run
  have hinv : (scene run).InStep := scene_invariant answers (I := Scene.InStep)
    (fun hn => by cases hn) (fun _ h hs => Scene.inStep_step h hs) preference messages
  obtain ⟨p, file, before, since, hp, he, htaken, hstep⟩ := hinv hn
  have he : run.effects = before ++ .called p (.subtitleFile file) none :: since := he
  refine ⟨p, file, before, since, hp, he, htaken, ?_⟩
  rw [he]
  -- Taking the file is no delay, so that only what came after it counts.
  have htail : delaysOf p (.called p (.subtitleFile file) none :: since) = delaysOf p since := rfl
  rcases hstep with hlast | ⟨hnil, hzero⟩
  · have hdelay := delayOf_append_of_getLast (htail.symm ▸ hlast) before
    have hne : delaysOf p since ≠ [] := fun hnil => by simp [hnil] at hlast
    exact ⟨iff_of_true hdelay (Or.inl hne), fun hne => absurd hdelay hne⟩
  · have hdelay := delayOf_append_of_nil (htail.trans hnil) before
    have hzero : run.state.rendering.offset = 0 := hzero
    rw [hdelay, hzero, hnil]
    simp

/-- A subtitle is shown on a player and moved in time, hidden, moved back, and shown again. -/
def movedBackWhileHidden : List Message :=
  let track : Track := .language none "eng" []
  let subtitle : Subtitle := ⟨"/tmp/movie.srt", some track, []⟩
  [.call (.setPlayer (some ⟨"mpv", true⟩)),
    .call (.playbackStarted ⟨"movie.mkv", none, true, some track, []⟩),
    .completion (.fetched 1 (.ok subtitle)), .call (.setOffset 500), .call (.select .none),
    .call (.setOffset 0), .call (.select track), .completion (.fetched 2 (.ok subtitle))]

theorem delay_eq_offset_iff_moved_back :
    let run := outcome (fun _ _ _ => .ok ()) (.language "eng") movedBackWhileHidden
    run.state.rendering.native = true ∧
      ∃ p file before since, run.state.player = some p ∧
        run.effects = before ++ .called p (.subtitleFile file) none :: since ∧
        (∀ effect ∈ since, effect.takesFile p = false) ∧
        (delayOf p run.effects = run.state.rendering.offset ↔
          delaysOf p since ≠ [] ∨ delayOf p before = 0) ∧
        (delayOf p run.effects ≠ run.state.rendering.offset →
          run.state.rendering.offset = 0 ∧ delayOf p run.effects = delayOf p before) :=
  ⟨by decide, delay_eq_offset_iff _ _ movedBackWhileHidden (by decide)⟩

/-- **A delay that is not the offset**: after the subtitle has been moved back while it was hidden,
the offset is zero, but the player that renders it has a delay, although it took every call. -/
theorem delay_ne_offset :
    let run := outcome (fun _ _ _ => .ok ()) (.language "eng") movedBackWhileHidden
    run.state.rendering.native = true ∧ run.state.player = some ⟨"mpv", true⟩ ∧
      run.state.rendering.offset = 0 ∧ delayOf ⟨"mpv", true⟩ run.effects = 500 := by
  decide

end Manager

end Subtitler
