import Subtitler.Proofs.Manager.Operations
import Subtitler.Proofs.Manager.Scene

/-!
# The selection, the operation in flight, and what is shown

A session is in one of four phases (`Agreed`): nothing is selected and nothing happens, the user
picks a file, the selected track is fetched, or the subtitle that was fetched for it is shown.

**Theorem (`selection_agrees`).** After any messages, what is selected determines what is in flight
and what is active:

- without a selection, or with the track without subtitles, nothing is in flight or shown;
- with a custom track without a file, the user is picking;
- with any other track, the operation that was started last is a fetch of that track. It is in
  flight, or it has ended with the subtitle that is active.

Selecting a track brings the session into the phase of that track, whatever was before. The other
messages either keep the selection, the ledger and the active subtitle, or end the phase that they
belong to.
-/

namespace Subtitler.Manager

open Ledger

variable (answers : Answers)

/-! ## Phases -/

/-- A session in one of its phases. `ended` says which subtitle a fetch has ended with. -/
inductive Agreed (ended : InFlight → Subtitle → Prop) (run : Run Manager) : Prop
  | inert (hs : run.state.session.selection.all (·.isNone) = true)
      (hf : run.state.session.inFlight = none) (ha : run.state.rendering.active = none)
  | picking {epoch : Nat} (hs : run.state.session.selection = some (.custom []))
      (hf : run.state.session.inFlight = some ⟨epoch, .pick⟩)
  | fetching {epoch : Nat} {track : Track} {m : Matcher} (hn : track.isNone = false)
      (hp : track.needsPick = false) (hs : run.state.session.selection = some track)
      (hf : run.state.session.inFlight = some ⟨epoch, .fetch track m⟩)
  | shown {epoch : Nat} {track : Track} {m : Matcher} {subtitle : Subtitle}
      (hn : track.isNone = false) (hp : track.needsPick = false)
      (hs : run.state.session.selection = some track)
      (hf : run.state.session.inFlight = none)
      (hl : (ledger run).started.getLast? = some ⟨epoch, .fetch track m⟩)
      (he : ended ⟨epoch, .fetch track m⟩ subtitle)
      (ha : run.state.rendering.active = some subtitle)

variable {ended : InFlight → Subtitle → Prop}

/-- A phase depends on the selection, the ledger and the active subtitle only. -/
theorem Agreed.congr {run run' : Run Manager} (h : Agreed ended run)
    (hselection : run'.state.session.selection = run.state.session.selection)
    (hledger : ledger run' = ledger run)
    (hactive : run'.state.rendering.active = run.state.rendering.active) : Agreed ended run' := by
  have hflight : run'.state.session.inFlight = run.state.session.inFlight :=
    congrArg Ledger.inFlight hledger
  cases h with
  | inert hs hf ha =>
    exact .inert (hselection ▸ hs) (hflight.trans hf) (hactive.trans ha)
  | picking hs hf => exact .picking (hselection.trans hs) (hflight.trans hf)
  | fetching hn hp hs hf => exact .fetching hn hp (hselection.trans hs) (hflight.trans hf)
  | shown hn hp hs hf hl he ha =>
    exact .shown hn hp (hselection.trans hs) (hflight.trans hf) (by rw [hledger, hl]) he
      (hactive.trans ha)

theorem Agreed.mono {ended' : InFlight → Subtitle → Prop} {run : Run Manager}
    (h : Agreed ended run) (hsub : ∀ op subtitle, ended op subtitle → ended' op subtitle) :
    Agreed ended' run := by
  cases h with
  | inert hs hf ha => exact .inert hs hf ha
  | picking hs hf => exact .picking hs hf
  | fetching hn hp hs hf => exact .fetching hn hp hs hf
  | shown hn hp hs hf hl he ha => exact .shown hn hp hs hf hl (hsub _ _ he) ha

/-- While a track is fetched, it is the selected one. -/
theorem Agreed.selection_of_fetch {run : Run Manager} (h : Agreed ended run) {epoch : Nat}
    {track : Track} {m : Matcher}
    (hflight : run.state.session.inFlight = some ⟨epoch, .fetch track m⟩) :
    track.isNone = false ∧ track.needsPick = false ∧
      run.state.session.selection = some track := by
  cases h with
  | inert _ hf _ => simp [hf] at hflight
  | picking _ hf => simp [hf] at hflight
  | fetching hn hp hs hf =>
    rw [hf] at hflight
    cases hflight
    exact ⟨hn, hp, hs⟩
  | shown _ _ _ hf => simp [hf] at hflight

theorem Agreed.of_none {run : Run Manager} (h : Agreed ended run)
    (hnone : run.state.session.selection = none ∨ run.state.session.selection = some .none) :
    run.state.session.inFlight = none ∧ run.state.rendering.active = none := by
  cases h with
  | inert _ hf ha => exact ⟨hf, ha⟩
  | picking hs => simp [hs] at hnone
  | fetching hn _ hs | shown hn _ hs =>
    rcases hnone with hnone | hnone <;> rw [hs] at hnone <;> cases hnone
    cases hn

theorem Agreed.of_custom_nil {run : Run Manager} (h : Agreed ended run)
    (hcustom : run.state.session.selection = some (.custom [])) :
    ∃ epoch, run.state.session.inFlight = some ⟨epoch, .pick⟩ := by
  cases h with
  | inert hs => simp [hcustom, Track.isNone] at hs
  | picking _ hf => exact ⟨_, hf⟩
  | fetching _ hp hs | shown _ hp hs =>
    rw [hs] at hcustom
    cases hcustom
    cases hp

/-- If the selected track can be fetched, then a fetch of it was started last, and it is in flight
or has ended with the active subtitle. -/
theorem Agreed.of_fetch {run : Run Manager} (h : Agreed ended run) (hl : (ledger run).Ordered)
    {track : Track} (hs : run.state.session.selection = some track) (hnone : track ≠ .none)
    (hcustom : track ≠ .custom []) :
    ∃ epoch m, (ledger run).started.getLast? = some ⟨epoch, .fetch track m⟩ ∧
      (run.state.session.inFlight = some ⟨epoch, .fetch track m⟩ ∨
        run.state.session.inFlight = none ∧ ∃ subtitle, ended ⟨epoch, .fetch track m⟩ subtitle ∧
          run.state.rendering.active = some subtitle) := by
  cases h with
  | inert hi =>
    rw [hs] at hi
    exact absurd (Track.isNone_iff.1 hi) hnone
  | picking hp => exact absurd (Option.some.inj (hs.symm.trans hp)) hcustom
  | fetching _ _ hs' hf =>
    obtain rfl := Option.some.inj (hs.symm.trans hs')
    exact ⟨_, _, hl.last _ hf, Or.inl hf⟩
  | shown _ _ hs' hf hlast he ha =>
    obtain rfl := Option.some.inj (hs.symm.trans hs')
    exact ⟨_, _, hlast, Or.inr ⟨hf, _, he, ha⟩⟩

/-! ## Selecting -/

theorem agreed_startFetch {track : Track} {run : Run Manager} (hn : track.isNone = false)
    (hp : track.needsPick = false) (hs : run.state.session.selection = some track) :
    Agreed ended (startFetch track run) :=
  .fetching hn hp hs rfl

theorem agreed_hide {run : Run Manager}
    (hs : run.state.session.selection.all (·.isNone) = true)
    (hf : run.state.session.inFlight = none) : Agreed ended (hide answers run) :=
  .inert (by simpa using hs) (by simpa using hf) (by simp)

theorem agreed_beginSelection {track : Track} {run : Run Manager}
    (hs : run.state.session.selection = some track)
    (hf : run.state.session.inFlight = none) :
    Agreed ended (beginSelection answers track run) := by
  unfold beginSelection
  split_ifs with hn hp
  · exact agreed_hide answers (by simpa [hs] using hn) hf
  · obtain rfl := Track.needsPick_iff.1 hp
    have hflight : (startPick answers run).state.session.inFlight =
        some ⟨run.state.epoch + 1, .pick⟩ := by simp
    exact .picking (by simpa using hs) hflight
  · exact agreed_startFetch (Bool.eq_false_iff.2 hn) (Bool.eq_false_iff.2 hp) hs

/-- **Whatever was before, a selection brings the session into its phase.** -/
theorem agreed_applySelection (track : Track) (run : Run Manager) :
    Agreed ended (applySelection answers track run) :=
  agreed_beginSelection answers rfl (by simp)

/-! ## Other messages -/

theorem agreed_setOffset (player : Option AttachedPlayer) (offset : Int) {run : Run Manager}
    (h : Agreed ended run) :
    Agreed ended (render (Rendering.setOffset answers player offset) run) :=
  h.congr rfl (ledger_render (Rendering.outward_setOffset answers player offset) run)
    (by simp [render, Run.within])

theorem agreed_playbackStopped {run : Run Manager} (h : Agreed ended run) :
    Agreed ended (playbackStopped answers run) := by
  unfold playbackStopped
  split_ifs
  · exact h
  · have hreset : Agreed ended (resetSession answers none run) :=
      .inert (by simp) (by simp) (by simp)
    exact agreed_setOffset answers none 0 hreset

theorem agreed_setPlayer (player : Option AttachedPlayer) {run : Run Manager}
    (h : Agreed ended run) : Agreed ended (setPlayer answers player run) := by
  obtain ⟨hsession, hactive⟩ := state_setPlayer answers run player
  exact h.congr (by rw [hsession]) (ledger_setPlayer answers player run) hactive

theorem agreed_setPreference (preference : Preference) {run : Run Manager}
    (h : Agreed ended run) : Agreed ended (setPreference answers preference run) := by
  unfold setPreference
  dsimp only
  split_ifs
  · exact agreed_applySelection answers .none _
  · exact h.congr rfl rfl rfl

theorem agreed_setSize (size : UInt32) {run : Run Manager} (h : Agreed ended run) :
    Agreed ended (setSize size run) := by
  refine h.congr ?_ (ledger_setSize size run) ?_ <;>
    unfold setSize <;> split_ifs <;> rfl

/-! ## Ends of operations -/

/-- A fetch that has ended well has ended with the subtitle that is shown now. -/
theorem agreed_fetchCompleted_ok {run : Run Manager} {epoch : Nat} {track : Track} {m : Matcher}
    {subtitle : Subtitle} (hn : track.isNone = false) (hp : track.needsPick = false)
    (hs : run.state.session.selection = some track)
    (hf : run.state.session.inFlight = none)
    (hl : (ledger run).started.getLast? = some ⟨epoch, .fetch track m⟩)
    (he : ended ⟨epoch, .fetch track m⟩ subtitle) :
    Agreed ended (fetchCompleted answers (.ok subtitle) run) := by
  refine .shown hn hp ?_ ?_ (by rw [ledger_fetchCompleted, hl]) he ?_
  · simpa [fetchCompleted, render, Run.within] using hs
  · simpa [fetchCompleted, render, Run.within] using hf
  · simp [fetchCompleted, render, Run.within]

theorem agreed_fetchCompleted_error {run : Run Manager} (cause : SubtitleError)
    (hf : run.state.session.inFlight = none) :
    Agreed ended (fetchCompleted answers (.error cause) run) := by
  refine .inert ?_ ?_ ?_
  · simp [fetchCompleted, Track.isNone]
  · simpa [fetchCompleted, Run.notify, Run.log] using hf
  · simp [fetchCompleted]

theorem agreed_pickCompleted (picked : Option Track) {run : Run Manager}
    (hf : run.state.session.inFlight = none) :
    Agreed ended (pickCompleted answers picked run) := by
  unfold pickCompleted
  cases h : picked.filter fun track => !track.isNone && !track.needsPick with
  | some track =>
    obtain ⟨-, hpicked⟩ := Option.filter_eq_some_iff.1 h
    obtain ⟨hn, hp⟩ : track.isNone = false ∧ track.needsPick = false := by simpa using hpicked
    exact agreed_startFetch hn hp rfl
  | none =>
    have hhidden : Agreed ended
        (hide answers (inSession ({ · with selection := some .none }) run)) :=
      agreed_hide answers rfl hf
    exact hhidden.congr (by simp) (ledger_releasePause answers _) (by simp)

theorem agreed_complete {run : Run Manager} (hl : (ledger run).Ordered) (h : Agreed ended run)
    (completion : Completion)
    (he : ∀ op subtitle, run.state.session.inFlight = some op →
      completion = .fetched op.epoch (.ok subtitle) → ended op subtitle) :
    Agreed ended (complete answers completion run) := by
  cases hc : (ledger run).isCurrent completion with
  | false => rwa [complete_of_not_isCurrent answers hc]
  | true =>
    obtain ⟨⟨epoch, operation⟩, hop, hends⟩ := isCurrent_iff.1 hc
    have hany : run.state.session.inFlight.any completion.endsOperation = true := hc
    rw [complete, if_pos hany]
    cases completion with
    | picked _ picked => exact agreed_pickCompleted answers picked rfl
    | fetched _ result =>
      obtain rfl := Completion.epoch_eq hends
      cases result with
      | error cause => exact agreed_fetchCompleted_error answers cause rfl
      | ok subtitle =>
        cases operation with
        | pick => simp [Completion.endsOperation] at hends
        | fetch track m =>
          obtain ⟨hn, hp, hs⟩ := h.selection_of_fetch hop
          exact agreed_fetchCompleted_ok answers hn hp hs rfl (hl.last _ hop) (he _ _ hop rfl)

/-! ## Whole runs -/

theorem agreed_handle {run : Run Manager} (hl : (ledger run).Ordered) (h : Agreed ended run)
    (message : Message)
    (he : ∀ op subtitle, run.state.session.inFlight = some op →
      message = .completion (.fetched op.epoch (.ok subtitle)) → ended op subtitle) :
    Agreed ended (handle answers run message) := by
  cases message with
  | completion c =>
    exact agreed_complete answers hl h c fun op subtitle hop hc => he op subtitle hop (by rw [hc])
  | call c =>
    cases c with
    | playbackStarted request => exact agreed_applySelection answers _ _
    | playbackStopped => exact agreed_playbackStopped answers h
    | select track => exact agreed_applySelection answers track run
    | setPlayer player => exact agreed_setPlayer answers player h
    | setPreference preference => exact agreed_setPreference answers preference h
    | setOffset offset => exact agreed_setOffset answers _ offset h
    | setSize size => exact agreed_setSize size h
  | bus event =>
    cases event with
    | playbackStarted request => exact agreed_applySelection answers _ _
    | playbackStopped => exact agreed_playbackStopped answers h
    | errorNotification message => exact h

variable (preference : Preference)

/-- Among the messages is the end of a fetch with a subtitle, which came in while the fetch was in
flight. -/
def EndedWith (messages : List Message) (op : InFlight) (subtitle : Subtitle) : Prop :=
  ∃ before after, messages = before ++ .completion (.fetched op.epoch (.ok subtitle)) :: after ∧
    (outcome answers preference before).state.session.inFlight = some op

theorem agreed_outcome (messages : List Message) :
    Agreed (EndedWith answers preference messages) (outcome answers preference messages) := by
  induction messages using List.reverseRecOn with
  | nil => exact .inert rfl rfl rfl
  | append_singleton messages message ih =>
    have hkept : Agreed (EndedWith answers preference (messages ++ [message]))
        (outcome answers preference messages) := by
      refine ih.mono fun op subtitle ⟨before, after, hmessages, hop⟩ => ?_
      exact ⟨before, after ++ [message], by simp [hmessages], hop⟩
    rw [outcome_concat]
    refine agreed_handle answers (ordered_outcome answers preference messages) hkept message ?_
    rintro op subtitle hop rfl
    exact ⟨messages, [], rfl, hop⟩

/-- **Selection, operation in flight and rendering agree.** After any messages, nothing is in
flight, active or rendered natively if nothing is selected, or the track without subtitles. If a
custom track without a file is selected, a pick is in flight. If any other track is selected, then
the operation that was started last is a fetch of this very track. Either it is still in flight, or
nothing is, and the active subtitle is the one that the fetch ended with. -/
theorem selection_agrees (messages : List Message) :
    let run := outcome answers preference messages
    let session := run.state.session
    (session.selection = none ∨ session.selection = some .none →
      session.inFlight = none ∧ run.state.rendering.active = none ∧
        run.state.rendering.native = false) ∧
    (session.selection = some (.custom []) → ∃ epoch, session.inFlight = some ⟨epoch, .pick⟩) ∧
    ∀ track, session.selection = some track → track ≠ .none → track ≠ .custom [] →
      ∃ epoch m, (ledger run).started.getLast? = some ⟨epoch, .fetch track m⟩ ∧
        (session.inFlight = some ⟨epoch, .fetch track m⟩ ∨
          session.inFlight = none ∧ ∃ subtitle,
            EndedWith answers preference messages ⟨epoch, .fetch track m⟩ subtitle ∧
              run.state.rendering.active = some subtitle) := by
  intro run session
  have hagreed : Agreed (EndedWith answers preference messages) run :=
    agreed_outcome answers preference messages
  have hground := grounded_outcome answers preference messages
  refine ⟨fun hnone => ?_, hagreed.of_custom_nil, fun track hs hnone hcustom =>
    hagreed.of_fetch (ordered_outcome answers preference messages) hs hnone hcustom⟩
  obtain ⟨hflight, hactive⟩ := hagreed.of_none hnone
  refine ⟨hflight, hactive, Bool.eq_false_iff.2 fun hn => ?_⟩
  have hsome : run.state.rendering.active.isSome = true := (hground hn).1
  simp [hactive] at hsome

end Subtitler.Manager
