import Mathlib.Data.List.Induction
import Mathlib.Tactic.SplitIfs
import Subtitler.Proofs.Manager.Ledger
import Subtitler.Proofs.Manager.State

/-!
# The operations of the manager

The effects of a run say which operations were started and cancelled, so that every run of the
manager has a ledger. Nothing that is shown, called or logged appears in it.

**Theorem (`entries_handle`).** A message first takes the operation that it ends out of flight, if
that one is in flight. All else that it does is entered in the ledger after that: it cancels the
operation in flight and launches others while none is.

So what the entries of a ledger keep holds in every run (`ordered_outcome`, `accounted_outcome`,
`past_handleAll`).
-/

namespace Subtitler

open Relation

/-! ## What effects enter -/

/-- The operation that an effect starts. -/
def Effect.started? : Effect → Option InFlight
  | .fetchStarted epoch track m => some ⟨epoch, .fetch track m⟩
  | .pickStarted epoch => some ⟨epoch, .pick⟩
  | _ => none

/-- The epoch of the operation that an effect cancels. -/
def Effect.cancelled? : Effect → Option Nat
  | .cancelled epoch => some epoch
  | _ => none

/-- Whether an effect is entered in the ledger. -/
def Effect.isEntered : Effect → Bool
  | .fetchStarted _ _ _ | .pickStarted _ | .cancelled _ => true
  | _ => false

theorem Effect.eq_none_of_not_isEntered {effect : Effect} (h : effect.isEntered = false) :
    effect.started? = none ∧ effect.cancelled? = none := by
  cases effect <;> first | exact ⟨rfl, rfl⟩ | cases h

theorem Effect.not_isEntered_of_isQuiet {effect : Effect} (h : effect.isQuiet = true) :
    effect.isEntered = false := by
  cases effect <;> first | rfl | cases h

namespace Manager

open Ledger

variable (answers : Answers)

/-- The ledger of a run. -/
def ledger (run : Run Manager) : Ledger :=
  { epoch := run.state.epoch
    inFlight := run.state.session.inFlight
    started := run.effects.filterMap Effect.started?
    cancelled := run.effects.filterMap Effect.cancelled? }

/-! ## What is not entered -/

theorem ledger_of_effects {run run' : Run Manager} {trace : List Effect}
    (heffects : run'.effects = run.effects ++ trace)
    (htrace : ∀ effect ∈ trace, effect.isEntered = false)
    (hepoch : run'.state.epoch = run.state.epoch)
    (hflight : run'.state.session.inFlight = run.state.session.inFlight) :
    ledger run' = ledger run := by
  have hstarted : trace.filterMap Effect.started? = [] :=
    List.filterMap_eq_nil_iff.2 fun effect he =>
      (Effect.eq_none_of_not_isEntered (htrace effect he)).1
  have hcancelled : trace.filterMap Effect.cancelled? = [] :=
    List.filterMap_eq_nil_iff.2 fun effect he =>
      (Effect.eq_none_of_not_isEntered (htrace effect he)).2
  simp only [ledger, heffects, List.filterMap_append, hstarted, hcancelled, List.append_nil,
    hepoch, hflight]

theorem ledger_emit (run : Run Manager) {effect : Effect} (h : effect.isEntered = false) :
    ledger (run.emit effect) = ledger run :=
  ledger_of_effects (run.effects_emit effect)
    (fun e he => by rw [List.mem_singleton.1 he]; exact h) rfl rfl

theorem ledger_callOrWarn (run : Run Manager) (player : AttachedPlayer) (call : PlayerCall)
    (source : LogSource) (complaint : String → String) :
    ledger (run.callOrWarn answers player call source complaint) = ledger run := by
  obtain ⟨trace, htrace, heq⟩ := run.callOrWarn_eq answers player call source complaint
  rw [heq]
  exact ledger_of_effects rfl
    (fun effect he => Effect.not_isEntered_of_isQuiet (htrace.quiet effect he)) rfl rfl

theorem ledger_render {step : Run Rendering → Run Rendering} (h : Rendering.Outward step)
    (run : Run Manager) : ledger (render step run) = ledger run := by
  obtain ⟨trace, heffects, htrace⟩ := h ⟨run.state.rendering, run.effects⟩
  refine ledger_of_effects heffects (fun effect he => ?_) rfl rfl
  rcases htrace effect he with hquiet | ⟨event, rfl⟩
  · exact Effect.not_isEntered_of_isQuiet hquiet
  · rfl

theorem ledger_hide (run : Run Manager) : ledger (hide answers run) = ledger run :=
  ledger_render (Rendering.outward_deactivate answers _) run

theorem ledger_pauseForPick (run : Run Manager) :
    ledger (pauseForPick answers run) = ledger run := by
  unfold pauseForPick
  cases run.state.player with
  | none => rfl
  | some player => exact ledger_callOrWarn answers run player _ _ _

theorem ledger_releasePause (run : Run Manager) :
    ledger (releasePause answers run) = ledger run := by
  unfold releasePause
  cases run.state.session.waiting with
  | none => rfl
  | some player => exact ledger_callOrWarn answers (inSession _ run) player _ _ _

/-! ## What is entered -/

theorem ledger_launch (operation : Operation) (run : Run Manager) :
    ledger (launch operation run) = (ledger run).launch operation := by
  cases operation <;>
    simp [ledger, launch, Ledger.launch, inSession, Run.modify, Run.emit, Effect.started?,
      Effect.cancelled?]

theorem ledger_startFetch (track : Track) (run : Run Manager) :
    ledger (startFetch track run) =
      (ledger run).launch (.fetch track run.state.session.matcher) :=
  (ledger_emit _ rfl).trans (ledger_launch _ run)

theorem ledger_startPick (run : Run Manager) :
    ledger (startPick answers run) = (ledger run).launch .pick := by
  rw [startPick, ledger_launch, ledger_pauseForPick]

theorem ledger_cancelInFlight (run : Run Manager) :
    ledger (cancelInFlight answers run) = (ledger run).cancel := by
  unfold cancelInFlight
  cases h : run.state.session.inFlight with
  | none =>
    rw [ledger_releasePause]
    simp [ledger, Ledger.cancel, h]
  | some op =>
    rw [ledger_releasePause]
    simp [ledger, Ledger.cancel, h, inSession, Run.modify, Run.emit, Effect.started?,
      Effect.cancelled?]

theorem ledger_resetSession (player : Option AttachedPlayer) (run : Run Manager) :
    ledger (resetSession answers player run) = (ledger run).cancel := by
  have hcancel := ledger_cancelInFlight answers (inSession ({ · with waiting := none }) run)
  have hidle : ledger (inSession (fun _ => {}) (cancelInFlight answers
      (inSession ({ · with waiting := none }) run))) = (ledger run).cancel := by
    rw [← show ledger (inSession ({ · with waiting := none }) run) = ledger run from rfl, ← hcancel]
    simp [ledger, inSession, Run.modify]
  rw [← hidle]
  exact ledger_render (Rendering.outward_deactivate answers player) _

/-! ## Handling messages -/

theorem entries_launch {run run' : Run Manager} {operation : Operation}
    (hlaunch : ledger run' = (ledger run).launch operation)
    (h : run.state.session.inFlight = none) : Entries (ledger run) (ledger run') := by
  rw [hlaunch]
  exact .single (.launch operation h)

theorem entries_beginSelection (track : Track) {run : Run Manager}
    (h : run.state.session.inFlight = none) :
    Entries (ledger run) (ledger (beginSelection answers track run)) := by
  unfold beginSelection
  split_ifs
  · rw [ledger_hide]
  · exact entries_launch (ledger_startPick answers run) h
  · exact entries_launch (ledger_startFetch track run) h

theorem entries_applySelection (track : Track) (run : Run Manager) :
    Entries (ledger run) (ledger (applySelection answers track run)) := by
  have hcancel : Entries (ledger run) (ledger (cancelInFlight answers run)) := by
    rw [ledger_cancelInFlight]
    exact .single .cancel
  have hnone : (inSession ({ · with selection := some track })
      (cancelInFlight answers run)).state.session.inFlight = none := by simp
  exact hcancel.trans (entries_beginSelection answers track hnone)

theorem entries_resetSession (player : Option AttachedPlayer) (run : Run Manager) :
    Entries (ledger run) (ledger (resetSession answers player run)) := by
  rw [ledger_resetSession]
  exact .single .cancel

theorem entries_playbackStarted (request : PlayRequest) (run : Run Manager) :
    Entries (ledger run) (ledger (playbackStarted answers request run)) := by
  unfold playbackStarted
  refine ReflTransGen.trans ?_ (entries_applySelection answers _ _)
  split_ifs
  · exact .refl
  · exact entries_resetSession answers _ run

theorem entries_playbackStopped (run : Run Manager) :
    Entries (ledger run) (ledger (playbackStopped answers run)) := by
  unfold playbackStopped
  split_ifs
  · exact .refl
  · rw [ledger_render (Rendering.outward_setOffset answers none 0)]
    exact entries_resetSession answers none run

theorem ledger_setPlayer (player : Option AttachedPlayer) (run : Run Manager) :
    ledger (setPlayer answers player run) = ledger run := by
  refine setPlayer_invariant answers run (I := fun r => ledger r = ledger run) player rfl ?_ ?_
  · exact fun r previous h => (ledger_render (Rendering.outward_detach answers previous) r).trans h
  · exact fun r h => (ledger_render (Rendering.outward_redispatch answers player) r).trans h

theorem entries_setPreference (preference : Preference) (run : Run Manager) :
    Entries (ledger run) (ledger (setPreference answers preference run)) := by
  unfold setPreference
  dsimp only
  split_ifs
  · exact entries_applySelection answers .none (run.modify ({ · with preference }))
  · exact .refl

theorem ledger_setSize (size : UInt32) (run : Run Manager) :
    ledger (setSize size run) = ledger run := by
  unfold setSize
  split_ifs
  · rfl
  · exact ledger_emit (run.modify ({ · with size })) rfl

theorem ledger_fetchCompleted (result : Except SubtitleError Subtitle) (run : Run Manager) :
    ledger (fetchCompleted answers result run) = ledger run := by
  unfold fetchCompleted
  cases result with
  | ok subtitle =>
    rw [ledger_releasePause]
    exact ledger_render (Rendering.outward_activate answers _ subtitle) run
  | error cause =>
    rw [ledger_releasePause, ledger_hide]
    exact ((ledger_emit _ rfl).trans (ledger_emit _ rfl)).trans (ledger_emit run rfl)

theorem entries_pickCompleted (picked : Option Track) (run : Run Manager)
    (h : run.state.session.inFlight = none) :
    Entries (ledger run) (ledger (pickCompleted answers picked run)) := by
  unfold pickCompleted
  cases picked.filter fun track => !track.isNone && !track.needsPick with
  | some track => exact entries_launch (ledger_startFetch track (inSession _ run)) h
  | none =>
    rw [ledger_releasePause, ledger_hide]
    exact .refl

/-- The end of an operation that is not in flight changes nothing at all. -/
theorem complete_of_not_isCurrent {completion : Completion} {run : Run Manager}
    (h : (ledger run).isCurrent completion = false) : complete answers completion run = run :=
  if_neg (Bool.eq_false_iff.1 h)

theorem entries_complete (completion : Completion) (run : Run Manager) :
    Entries ((ledger run).receive (.completion completion))
      (ledger (complete answers completion run)) := by
  cases h : (ledger run).isCurrent completion with
  | true =>
    have hany : run.state.session.inFlight.any completion.endsOperation = true := h
    rw [receive_of_isCurrent h, complete, if_pos hany]
    cases completion with
    | fetched epoch result =>
      dsimp only
      rw [ledger_fetchCompleted]
      exact .refl
    | picked epoch track =>
      have hpicked := entries_pickCompleted answers track
        (inSession ({ · with inFlight := none }) run) rfl
      exact hpicked
  | false => rw [receive_of_not_isCurrent h, complete_of_not_isCurrent answers h]

/-- **A message takes the operation that it ends out of flight**; all else that it does is entered
in the ledger after that. -/
theorem entries_handle (run : Run Manager) (message : Message) :
    Entries ((ledger run).receive message) (ledger (handle answers run message)) := by
  cases message with
  | completion c => exact entries_complete answers c run
  | call c =>
    cases c with
    | playbackStarted request => exact entries_playbackStarted answers request run
    | playbackStopped => exact entries_playbackStopped answers run
    | select track => exact entries_applySelection answers track run
    | setPlayer player => exact .of_eq (ledger_setPlayer answers player run).symm
    | setPreference preference => exact entries_setPreference answers preference run
    | setOffset offset =>
      exact .of_eq (ledger_render (Rendering.outward_setOffset answers _ offset) run).symm
    | setSize size => exact .of_eq (ledger_setSize size run).symm
  | bus event =>
    cases event with
    | playbackStarted request => exact entries_playbackStarted answers request run
    | playbackStopped => exact entries_playbackStopped answers run
    | errorNotification message => exact .refl

/-! ## Whole runs -/

theorem ordered_outcome (preference : Preference) (messages : List Message) :
    (ledger (outcome answers preference messages)).Ordered := by
  induction messages using List.reverseRecOn with
  | nil => exact ordered_empty
  | append_singleton messages message ih =>
    rw [outcome_concat]
    exact Entries.ordered (entries_handle answers _ message) (ih.receive message)

theorem accounted_outcome (preference : Preference) (messages : List Message) :
    (ledger (outcome answers preference messages)).Accounted fun op =>
      messages.any (·.ends op) = true := by
  induction messages using List.reverseRecOn with
  | nil => exact fun _ hop => by cases hop
  | append_singleton messages message ih =>
    rw [outcome_concat]
    have hreceived := Entries.accounted (entries_handle answers _ message) (ih.receive message)
    exact fun op hop => (hreceived op hop).imp_right (Or.imp_right fun h => by simpa using h)

/-- An operation that is out of flight is not cancelled by any message. -/
theorem past_handleAll {run : Run Manager} {epoch : Nat} (h : (ledger run).Past epoch)
    (messages : List Message) :
    (ledger (handleAll answers messages run)).Past epoch ∧
      (epoch ∈ (ledger (handleAll answers messages run)).cancelled ↔
        epoch ∈ (ledger run).cancelled) := by
  induction messages generalizing run with
  | nil => exact ⟨h, Iff.rfl⟩
  | cons message messages ih =>
    obtain ⟨hreceive, hcancelled⟩ := h.receive message
    obtain ⟨hhandle, hmem⟩ := Entries.past (entries_handle answers run message) hreceive
    obtain ⟨hpast, hiff⟩ := ih hhandle
    exact ⟨hpast, by rw [← hcancelled, ← hmem]; exact hiff⟩

end Manager

end Subtitler
