import Mathlib.Logic.Relation
import Mathlib.Tactic.Set
import Mathlib.Tactic.SplitIfs
import Subtitler.Proofs.Manager.State

/-!
# What is shown

Of all that belongs to the manager, only a part has to do with what is shown: the rendering, the
attached player, the size, and the effects. This part is a *scene*. `Scene.Step` lists all that can
happen to a scene, with the effects that it leaves behind.

**Theorem (`steps_handle`).** Whatever message the manager takes, the scene goes through a sequence
of such steps. One of them, `close`, hides a subtitle without a call of the player, which has gone:
it happens only when a playback stops.

What holds of the empty scene and is kept by every step therefore holds of every scene the manager
can reach (`scene_invariant`). The first such invariant is used by all others: a subtitle that is
rendered natively is the active one, and it is on an attached player that renders files
(`Scene.Grounded`).
-/

namespace Subtitler

open Relation
open Rendering (Delays NativeCall Refused)

/-! ## Scenes and their steps -/

/-- Whether an effect has nothing to do with what is shown. -/
def Effect.isAside : Effect → Bool
  | .notified (.downloading _) | .notified (.failed _) => true
  | .notified _ => false
  | .called _ .pause _ | .called _ .resume _ => true
  | .called _ _ _ => false
  | _ => true

/-- What is shown, and how it came about. -/
structure Scene where
  rendering : Rendering := {}
  player : Option AttachedPlayer := none
  size : UInt32 := 28
  effects : List Effect := []

namespace Scene

/-- What is left of taking the subtitle from a player that another one replaces. -/
def Withdrawn (s : Scene) (player : Option AttachedPlayer) (trace : List Effect) : Prop :=
  (player = s.player ∧ trace = []) ∨
    ∃ previous, s.player = some previous ∧ some previous ≠ player ∧ s.rendering.native = true ∧
      CallTrace previous .clearSubtitleFile trace

theorem Withdrawn.quiet {s : Scene} {player : Option AttachedPlayer} {trace : List Effect}
    (h : s.Withdrawn player trace) : ∀ effect ∈ trace, effect.isQuiet = true := by
  rcases h with ⟨-, rfl⟩ | ⟨_, -, -, -, h⟩
  · simp
  · exact h.quiet

/-- One thing that can happen to a scene. A player is replaced while nothing is rendered natively
(`attach`), or the active subtitle moves from it to the next one (`overlay`, `natively`). When a
playback stops, the subtitle is hidden without a call of the player (`close`). -/
inductive Step (stop : Bool) (s : Scene) : Scene → Prop
  | aside {trace : List Effect} (h : ∀ effect ∈ trace, effect.isAside = true) :
      Step stop s { s with effects := s.effects ++ trace }
  | resize (size : UInt32) :
      Step stop s { s with size, effects := s.effects ++ [.notified (.sizeChanged size)] }
  | move {offset : Int} {trace : List Effect}
      (h : NativeCall s.player s.rendering.native (.subtitleDelay offset) trace) :
      Step stop s { s with
        rendering := { s.rendering with offset }
        effects := s.effects ++ trace ++ [.notified (.offsetChanged offset)] }
  | hide {trace : List Effect}
      (h : NativeCall s.player s.rendering.native .clearSubtitleFile trace) :
      Step stop s { s with
        rendering := { s.rendering with active := none, native := false }
        effects := s.effects ++ trace ++ [.notified .disabled] }
  | close (h : stop = true) :
      Step stop s { s with
        rendering := { s.rendering with active := none, native := false }
        effects := s.effects ++ [.notified .disabled] }
  | attach (player : Option AttachedPlayer) (h : s.rendering.native = false) :
      Step stop s { s with player }
  | overlay {player : Option AttachedPlayer} (subtitle : Subtitle) {withdrawn refused : List Effect}
      (hw : s.Withdrawn player withdrawn)
      (hr : Refused player subtitle.file refused) :
      Step stop s { s with
        player
        rendering := { s.rendering with active := some subtitle, native := false }
        effects := s.effects ++ withdrawn ++ refused ++ [.notified (.activated subtitle)] }
  | natively {p : AttachedPlayer} (subtitle : Subtitle) {withdrawn delays : List Effect}
      (hw : s.Withdrawn (some p) withdrawn) (hp : p.rendersFiles = true)
      (hd : Delays p s.rendering.offset delays) :
      Step stop s { s with
        player := some p
        rendering := { s.rendering with active := some subtitle, native := true }
        effects := s.effects ++ withdrawn ++ .called p (.subtitleFile subtitle.file) none ::
          delays ++ [.notified (.nativeActivated subtitle.file)] }

/-- Things that happen to a scene one after the other. -/
abbrev Steps (stop : Bool) : Scene → Scene → Prop := ReflTransGen (Step stop)

variable {stop : Bool}

/-- Whatever can happen otherwise can also happen when a playback stops. -/
theorem Step.mono {s t : Scene} (h : Step stop s t) : Step true s t := by
  cases h with
  | aside h => exact .aside h
  | resize size => exact .resize size
  | move h => exact .move h
  | hide h => exact .hide h
  | close => exact .close rfl
  | attach player h => exact .attach player h
  | overlay subtitle hw hr => exact .overlay subtitle hw hr
  | natively subtitle hw hp hd => exact .natively subtitle hw hp hd

theorem Steps.mono {s t : Scene} (h : Steps stop s t) : Steps true s t :=
  ReflTransGen.mono (fun _ _ => Step.mono) _ _ h

/-- A subtitle is rendered natively only if it is active and its player is there. -/
def Grounded (s : Scene) : Prop :=
  s.rendering.native = true →
    s.rendering.active.isSome = true ∧ ∃ p, s.player = some p ∧ p.rendersFiles = true

theorem Step.grounded {s t : Scene} (h : Step stop s t) (hs : s.Grounded) : t.Grounded := by
  cases h with
  | aside | resize | move => exact hs
  | hide | close | overlay => intro hn; cases hn
  | attach player h => intro hn; exact absurd (h.symm.trans hn) (by decide)
  | @natively p _ _ _ _ hp _ => exact fun _ => ⟨rfl, p, rfl, hp⟩

theorem Steps.grounded {s t : Scene} (h : Steps stop s t) (hs : s.Grounded) : t.Grounded := by
  induction h with
  | refl => exact hs
  | tail _ h ih => exact h.grounded ih

theorem Steps.invariant {I : Scene → Prop}
    (hstep : ∀ {s t : Scene}, s.Grounded → Step stop s t → I s → I t) {s t : Scene}
    (h : Steps stop s t) (hg : s.Grounded) (hs : I s) : I t := by
  induction h with
  | refl => exact hs
  | tail hsteps h ih => exact hstep (Steps.grounded hsteps hg) h ih

end Scene

namespace Manager

open Scene

variable (answers : Answers) {stop : Bool}

/-- The scene of a run. -/
def scene (run : Run Manager) : Scene :=
  ⟨run.state.rendering, run.state.player, run.state.size, run.effects⟩

/-! ## Beside the scene -/

theorem steps_emit (run : Run Manager) (effect : Effect) (h : effect.isAside = true) :
    Steps stop (scene run) (scene (run.emit effect)) :=
  .single (.aside fun e he => by rw [List.mem_singleton.1 he]; exact h)

theorem steps_callOrWarn (run : Run Manager) (player : AttachedPlayer) {call : PlayerCall}
    (h : call = .pause ∨ call = .resume) (source : LogSource) (complaint : String → String) :
    Steps stop (scene run) (scene (run.callOrWarn answers player call source complaint)) := by
  obtain ⟨trace, htrace, heq⟩ := run.callOrWarn_eq answers player call source complaint
  rw [heq]
  refine .single (.aside fun effect he => ?_)
  rcases htrace.mem he with ⟨refusal, rfl⟩ | ⟨entry, rfl⟩
  · rcases h with rfl | rfl <;> rfl
  · rfl

theorem steps_pauseForPick (run : Run Manager) :
    Steps stop (scene run) (scene (pauseForPick answers run)) := by
  unfold pauseForPick
  cases run.state.player with
  | none => exact .refl
  | some player => exact steps_callOrWarn answers run player (Or.inl rfl) _ _

theorem steps_releasePause (run : Run Manager) :
    Steps stop (scene run) (scene (releasePause answers run)) := by
  unfold releasePause
  cases run.state.session.waiting with
  | none => exact .refl
  | some player => exact steps_callOrWarn answers (inSession _ run) player (Or.inr rfl) _ _

theorem steps_launch (operation : Operation) (run : Run Manager) :
    Steps stop (scene run) (scene (launch operation run)) := by
  refine steps_emit (run.modify ({ · with epoch := run.state.epoch + 1 })) _ ?_
  cases operation <;> rfl

theorem steps_startFetch (track : Track) (run : Run Manager) :
    Steps stop (scene run) (scene (startFetch track run)) :=
  (steps_launch _ run).trans (steps_emit _ _ rfl)

theorem steps_startPick (run : Run Manager) :
    Steps stop (scene run) (scene (startPick answers run)) :=
  (steps_pauseForPick answers run).trans (steps_launch .pick _)

theorem steps_cancelInFlight (run : Run Manager) :
    Steps stop (scene run) (scene (cancelInFlight answers run)) := by
  unfold cancelInFlight
  cases run.state.session.inFlight with
  | none => exact steps_releasePause answers run
  | some op =>
    refine ReflTransGen.trans ?_ (steps_releasePause answers _)
    exact steps_emit (inSession ({ · with inFlight := none }) run) (.cancelled op.epoch) rfl

/-! ## Showing and hiding -/

theorem render_eq {step : Run Rendering → Run Rendering} {run : Run Manager}
    {rendering : Rendering} {effects : List Effect}
    (h : step ⟨run.state.rendering, run.effects⟩ = ⟨rendering, effects⟩) :
    render step run = ⟨{ run.state with rendering }, effects⟩ := by
  unfold render Run.within
  rw [h]

theorem steps_activate (subtitle : Subtitle) (run : Run Manager) :
    Steps stop (scene run)
      (scene (render (Rendering.activate answers run.state.player subtitle) run)) := by
  rcases Rendering.activate_cases answers run.state.player subtitle
      ⟨run.state.rendering, run.effects⟩ with ⟨trace, hr, heq⟩ | ⟨p, trace, hp, hr, hd, heq⟩
  · rw [render_eq heq]
    have hstep : Step stop (scene run) _ := .overlay subtitle (Or.inl ⟨rfl, rfl⟩) hr
    simpa [scene] using ReflTransGen.single hstep
  · rw [render_eq heq]
    have hstep : Step stop (scene run) _ := .natively subtitle (Or.inl ⟨hp.symm, rfl⟩) hr hd
    simpa [scene, hp] using ReflTransGen.single hstep

theorem render_redispatch (player : Option AttachedPlayer) {run : Run Manager}
    {subtitle : Subtitle} (h : run.state.rendering.active = some subtitle) :
    render (Rendering.redispatch answers player) run =
      render (Rendering.activate answers player subtitle) run := by
  simp only [render, Run.within, Rendering.redispatch, h]

theorem steps_redispatch (run : Run Manager) :
    Steps stop (scene run)
      (scene (render (Rendering.redispatch answers run.state.player) run)) := by
  cases h : run.state.rendering.active with
  | none =>
    have heq : Rendering.redispatch answers run.state.player ⟨run.state.rendering, run.effects⟩ =
        ⟨run.state.rendering, run.effects⟩ := by simp only [Rendering.redispatch, h]
    rw [render_eq heq]
  | some subtitle =>
    rw [render_redispatch answers run.state.player h]
    exact steps_activate answers subtitle run

theorem steps_hide (run : Run Manager) : Steps stop (scene run) (scene (hide answers run)) := by
  obtain ⟨trace, htrace, heq⟩ := Rendering.deactivate_eq answers run.state.player
    ⟨run.state.rendering, run.effects⟩
  rw [hide, render_eq heq]
  exact .single (Step.hide (s := scene run) htrace)

/-- A subtitle that is hidden without its player, which has closed. -/
theorem steps_hide_none (run : Run Manager) :
    Steps true (scene run) (scene (render (Rendering.deactivate answers none) run)) := by
  obtain ⟨trace, htrace, heq⟩ := Rendering.deactivate_eq answers none
    ⟨run.state.rendering, run.effects⟩
  rw [render_eq heq]
  rcases htrace with ⟨-, rfl⟩ | ⟨p, hp, -⟩
  · simpa [scene] using ReflTransGen.single (Step.close (s := scene run) rfl)
  · cases hp

theorem steps_setOffset {player : Option AttachedPlayer} (offset : Int) {run : Run Manager}
    (h : player = run.state.player ∨ run.state.rendering.native = false) :
    Steps stop (scene run) (scene (render (Rendering.setOffset answers player offset) run)) := by
  by_cases ho : run.state.rendering.offset = offset
  · rw [render_eq (Rendering.setOffset_self answers player ⟨_, run.effects⟩ ho)]
  · obtain ⟨trace, htrace, heq⟩ := Rendering.setOffset_eq answers player
      ⟨run.state.rendering, run.effects⟩ ho
    rw [render_eq heq]
    refine .single (Step.move (s := scene run) ?_)
    rcases h with rfl | hn
    · exact htrace
    · have hnone : ∀ p : Option AttachedPlayer, p.filter (fun _ => false) = none := by simp
      rcases htrace with ⟨-, rfl⟩ | ⟨p, -, hn', -⟩
      · exact Or.inl ⟨by simp [scene, hn, hnone], rfl⟩
      · exact absurd (hn.symm.trans hn') (by decide)

/-! ## Handling messages -/

theorem steps_applySelection (track : Track) (run : Run Manager) :
    Steps stop (scene run) (scene (applySelection answers track run)) := by
  have hcancel : Steps stop _ _ := steps_cancelInFlight answers run
  unfold applySelection beginSelection
  split_ifs
  · exact hcancel.trans (steps_hide answers (inSession _ _))
  · exact hcancel.trans (steps_startPick answers (inSession _ _))
  · exact hcancel.trans (steps_startFetch track (inSession _ _))

theorem steps_playbackStarted (request : PlayRequest) (run : Run Manager) :
    Steps stop (scene run) (scene (playbackStarted answers request run)) := by
  have hreset : Steps stop (scene run) (scene (resetSession answers run.state.player run)) := by
    -- The reset hides the subtitle on the attached player, once the session has been cleared.
    set idle := inSession (fun _ => {})
      (cancelInFlight answers (inSession ({ · with waiting := none }) run))
    have hplayer : idle.state.player = run.state.player := by simp [idle]
    have hcancel : Steps stop (scene run) (scene idle) :=
      steps_cancelInFlight answers (inSession _ run)
    have hhide : Steps stop _ _ := steps_hide answers idle
    rw [hide, hplayer] at hhide
    exact hcancel.trans hhide
  unfold playbackStarted
  refine ReflTransGen.trans ?_ (steps_applySelection answers _ _)
  split_ifs
  · exact .refl
  · exact hreset

theorem steps_playbackStopped (run : Run Manager) :
    Steps true (scene run) (scene (playbackStopped answers run)) := by
  have hcancel : Steps true (scene run) (scene (inSession (fun _ => {})
      (cancelInFlight answers (inSession ({ · with waiting := none }) run)))) :=
    steps_cancelInFlight answers (inSession _ run)
  unfold playbackStopped
  split_ifs
  · exact .refl
  · exact (hcancel.trans (steps_hide_none answers _)).trans
      (steps_setOffset answers 0 (Or.inr (by simp [render, Run.within])))

theorem steps_attach (player : Option AttachedPlayer) {run : Run Manager}
    (h : run.state.player = player ∨ run.state.rendering.native = false) :
    Steps stop (scene run) (scene (run.modify ({ · with player }))) := by
  rcases h with rfl | hn
  · exact .refl
  · exact .single (.attach (s := scene run) player hn)

/-- A subtitle that was taken from the player that is replaced is shown on the next one. -/
theorem steps_swap {player : Option AttachedPlayer} {previous : AttachedPlayer} {run : Run Manager}
    {trace : List Effect} (hp : run.state.player = some previous) (hne : some previous ≠ player)
    (hn : run.state.rendering.native = true)
    (htrace : CallTrace previous .clearSubtitleFile trace) (subtitle : Subtitle) :
    Steps stop (scene run) (scene (render (Rendering.activate answers player subtitle)
      ⟨{ run.state with player, rendering := { run.state.rendering with native := false } },
        run.effects ++ trace⟩)) := by
  have hw : (scene run).Withdrawn player trace := Or.inr ⟨previous, hp, hne, hn, htrace⟩
  rcases Rendering.activate_cases answers player subtitle
      ⟨{ run.state.rendering with native := false }, run.effects ++ trace⟩ with
    ⟨trace, hr, heq⟩ | ⟨p, trace, rfl, hr, hd, heq⟩
  · rw [render_eq heq]
    exact .single (.overlay (s := scene run) subtitle hw hr)
  · rw [render_eq heq]
    exact .single (.natively (s := scene run) subtitle hw hr hd)

/-- The subtitle of a player that is replaced goes to the next one, or to the overlay. -/
theorem steps_setPlayer (player : Option AttachedPlayer) {run : Run Manager}
    (hg : (scene run).Grounded) :
    Steps stop (scene run) (scene (setPlayer answers player run)) := by
  have hredispatch : Steps stop _ _ := steps_redispatch answers (run.modify ({ · with player }))
  unfold setPlayer
  cases hr : run.state.player.filter fun previous => some previous != player with
  | none =>
    have hattach : Steps stop (scene run) (scene (run.modify ({ · with player }))) := by
      refine steps_attach player ?_
      cases hp : run.state.player with
      | none =>
        refine Or.inr (Bool.eq_false_iff.2 fun hn => ?_)
        obtain ⟨-, p, hp', -⟩ := hg hn
        exact absurd (hp.symm.trans hp') (by simp)
      | some p => exact Or.inl (by simpa [hp] using hr)
    dsimp only
    split_ifs
    · exact hattach.trans hredispatch
    · exact hattach
  | some previous =>
    obtain ⟨hp, hne⟩ := Option.filter_eq_some_iff.1 hr
    obtain ⟨trace, htrace, heq⟩ := Rendering.detach_eq answers previous
      ⟨run.state.rendering, run.effects⟩
    set withdrawn : Run Manager :=
      ⟨{ run.state with player, rendering := { run.state.rendering with native := false } },
        run.effects ++ trace⟩ with hwithdrawn
    have hdetach : render (Rendering.detach answers previous) (run.modify ({ · with player })) =
        withdrawn := render_eq heq
    simp only [hdetach]
    rcases htrace with ⟨hnone, rfl⟩ | ⟨p, hprevious, hn, htrace⟩
    · have hn : run.state.rendering.native = false := by simpa using hnone
      have hsame : withdrawn = run.modify ({ · with player }) := by
        simp [hwithdrawn, Run.modify, ← hn]
      rw [hsame]
      have hattach : Steps stop _ _ := steps_attach player (Or.inr hn)
      split_ifs
      · exact hattach.trans hredispatch
      · exact hattach
    · cases hprevious
      obtain ⟨hactive, -⟩ := hg hn
      obtain ⟨subtitle, hs⟩ := Option.isSome_iff_exists.1 hactive
      have hs : withdrawn.state.rendering.active = some subtitle := hs
      have hn : run.state.rendering.native = true := hn
      rw [if_pos (by simp [hs, hn]), render_redispatch answers player hs]
      exact steps_swap answers hp (by simpa using hne) hn htrace subtitle

theorem steps_setPreference (preference : Preference) (run : Run Manager) :
    Steps stop (scene run) (scene (setPreference answers preference run)) := by
  unfold setPreference
  dsimp only
  split_ifs
  · refine ReflTransGen.trans ?_ (steps_applySelection answers .none _)
    exact .refl
  · exact .refl

theorem steps_setSize (size : UInt32) (run : Run Manager) :
    Steps stop (scene run) (scene (setSize size run)) := by
  unfold setSize
  split_ifs
  · exact .refl
  · exact .single (Step.resize (s := scene run) size)

theorem steps_fetchCompleted (result : Except SubtitleError Subtitle) (run : Run Manager) :
    Steps stop (scene run) (scene (fetchCompleted answers result run)) := by
  unfold fetchCompleted
  cases result with
  | ok subtitle =>
    exact (steps_activate answers subtitle run).trans (steps_releasePause answers _)
  | error cause =>
    have hreport : Steps stop (scene run) (scene (((run.log .error .manager
        s!"Video subtitle failed, {cause.message}").emit (.published fetchFailedMessage)).notify
          (.failed cause.message))) :=
      ((steps_emit run _ rfl).trans (steps_emit _ _ rfl)).trans (steps_emit _ _ rfl)
    exact (hreport.trans (steps_hide answers (inSession _ _))).trans (steps_releasePause answers _)

theorem steps_pickCompleted (picked : Option Track) (run : Run Manager) :
    Steps stop (scene run) (scene (pickCompleted answers picked run)) := by
  unfold pickCompleted
  cases picked.filter fun track => !track.isNone && !track.needsPick with
  | some track => exact steps_startFetch track (inSession _ run)
  | none =>
    exact (steps_hide answers (inSession _ run)).trans (steps_releasePause answers _)

theorem steps_complete (completion : Completion) (run : Run Manager) :
    Steps stop (scene run) (scene (complete answers completion run)) := by
  unfold complete
  split_ifs
  · cases completion with
    | fetched epoch result => exact steps_fetchCompleted answers result (inSession _ run)
    | picked epoch track => exact steps_pickCompleted answers track (inSession _ run)
  · exact .refl

/-- **Every message is a sequence of steps of the scene.** -/
theorem steps_handle {run : Run Manager} (hg : (scene run).Grounded) (message : Message) :
    Steps message.isStop (scene run) (scene (handle answers run message)) := by
  cases message with
  | completion c => exact steps_complete answers c run
  | call c =>
    cases c with
    | playbackStarted request => exact steps_playbackStarted answers request run
    | playbackStopped => exact steps_playbackStopped answers run
    | select track => exact steps_applySelection answers track run
    | setPlayer player => exact steps_setPlayer answers player hg
    | setPreference preference => exact steps_setPreference answers preference run
    | setOffset offset => exact steps_setOffset answers offset (Or.inl rfl)
    | setSize size => exact steps_setSize size run
  | bus event =>
    cases event with
    | playbackStarted request => exact steps_playbackStarted answers request run
    | playbackStopped => exact steps_playbackStopped answers run
    | errorNotification message => exact .refl

/-! ## Invariants -/

theorem steps_handleAll {run : Run Manager} (hg : (scene run).Grounded) (messages : List Message) :
    Steps true (scene run) (scene (handleAll answers messages run)) := by
  induction messages generalizing run with
  | nil => exact .refl
  | cons message messages ih =>
    have hhandle := steps_handle answers hg message
    exact (Steps.mono hhandle).trans (ih (Steps.grounded hhandle hg))

theorem grounded_fresh (preference : Preference) : (scene (fresh preference)).Grounded :=
  fun hn => by cases hn

theorem steps_outcome (preference : Preference) (messages : List Message) :
    Steps true {} (scene (outcome answers preference messages)) :=
  steps_handleAll answers (grounded_fresh preference) messages

/-- **What every step keeps holds in every run.** -/
theorem scene_invariant {I : Scene → Prop} (hinit : I {})
    (hstep : ∀ {s t : Scene}, s.Grounded → Step true s t → I s → I t) (preference : Preference)
    (messages : List Message) : I (scene (outcome answers preference messages)) :=
  Steps.invariant hstep (steps_outcome answers preference messages) (grounded_fresh preference)
    hinit

theorem grounded_outcome (preference : Preference) (messages : List Message) :
    (scene (outcome answers preference messages)).Grounded :=
  Steps.grounded (steps_outcome answers preference messages) (grounded_fresh preference)

end Manager

end Subtitler
