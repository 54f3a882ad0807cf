import Subtitler.Proofs.Manager.Operations

/-!
# How the manager responds to a message

What the manager does about fetches and picks are its *acts*: it pauses and resumes players, starts
and cancels operations, and reports that a fetch has begun or failed. No act comes from the
rendering, and none depends on how players answer.

**Theorem (`response_handle`).** The acts that follow from a message, and the session after it, are
those of one of the responses that `Response` lists. They depend on nothing but the session before,
the attached player, the preference, and the number of operations that were ever started.

The list is complete only for sessions that can be reached: the operation in flight is the newest
one, a player waits only while there is one, and what is not played has neither address nor quality
(`Session.Tidy`).
-/

namespace Subtitler

/-! ## Acts -/

/-- Something that the manager does about fetches and picks. -/
inductive Act
  | paused (player : AttachedPlayer)
  | resumed (player : AttachedPlayer)
  | fetchStarted (epoch : Nat) (track : Track) (m : Matcher)
  | pickStarted (epoch : Nat)
  | cancelled (epoch : Nat)
  | downloading (track : Track)
  | failed (reason : String)
  | published (message : String)
deriving DecidableEq, Repr

/-- The act that an effect is, however a player has answered. -/
def Effect.act? : Effect → Option Act
  | called player .pause _ => some (.paused player)
  | called player .resume _ => some (.resumed player)
  | fetchStarted epoch track m => some (.fetchStarted epoch track m)
  | pickStarted epoch => some (.pickStarted epoch)
  | cancelled epoch => some (.cancelled epoch)
  | notified (.downloading track) => some (.downloading track)
  | notified (.failed reason) => some (.failed reason)
  | published message => some (.published message)
  | _ => none

theorem Effect.act?_called {call : PlayerCall} (h : call ≠ .pause ∧ call ≠ .resume)
    (player : AttachedPlayer) (refusal : Option PlayerError) :
    (Effect.called player call refusal).act? = none := by
  cases call <;> first | rfl | simp at h

theorem CallTrace.acts {player : AttachedPlayer} {call : PlayerCall} {trace : List Effect}
    (h : CallTrace player call trace) :
    trace.filterMap Effect.act? = (Effect.called player call none).act?.toList := by
  obtain ⟨refusal, log, rfl, hlog⟩ := h
  have hnone : log.filterMap Effect.act? = [] := List.filterMap_eq_nil_iff.2 fun effect he => by
    obtain ⟨entry, rfl⟩ := hlog effect he
    rfl
  have hcall : (Effect.called player call refusal).act? =
      (Effect.called player call none).act? := by
    cases call <;> rfl
  rw [List.filterMap_cons, hcall, hnone]
  cases (Effect.called player call none).act? <;> rfl

/-! ## Rendering does not act -/

namespace Rendering

variable (answers : Answers)

theorem NativeCall.acts {player : Option AttachedPlayer} {native : Bool} {call : PlayerCall}
    {trace : List Effect} (h : NativeCall player native call trace)
    (hcall : call ≠ .pause ∧ call ≠ .resume) : trace.filterMap Effect.act? = [] := by
  rcases h with ⟨-, rfl⟩ | ⟨p, -, -, htrace⟩
  · rfl
  · rw [htrace.acts, Effect.act?_called hcall]
    rfl

theorem Delays.acts {player : AttachedPlayer} {offset : Int} {trace : List Effect}
    (h : Delays player offset trace) : trace.filterMap Effect.act? = [] := by
  unfold Delays at h
  split at h
  · rw [h]
    rfl
  · exact h.acts

theorem Refused.acts {player : Option AttachedPlayer} {file : String} {trace : List Effect}
    (h : Refused player file trace) : trace.filterMap Effect.act? = [] := by
  rcases h with ⟨-, rfl⟩ | ⟨_, _, _, -, -, rfl⟩ <;> rfl

theorem acts_notified {event : SubtitleEvent} (h : (Effect.notified event).act? = none)
    {effects trace : List Effect} (htrace : trace.filterMap Effect.act? = []) :
    (effects ++ trace ++ [Effect.notified event]).filterMap Effect.act? =
      effects.filterMap Effect.act? := by
  rw [List.filterMap_append, List.filterMap_append, htrace, List.filterMap_cons_none h,
    List.filterMap_nil, List.append_nil, List.append_nil]

/-- A part of a run among whose effects there are no acts. -/
def Inert (step : Run Rendering → Run Rendering) : Prop :=
  ∀ run, (step run).effects.filterMap Effect.act? = run.effects.filterMap Effect.act?

theorem inert_activate (player : Option AttachedPlayer) (subtitle : Subtitle) :
    Inert (activate answers player subtitle) := by
  intro run
  rcases activate_cases answers player subtitle run with
    ⟨trace, htrace, heq⟩ | ⟨p, trace, -, -, htrace, heq⟩
  · rw [heq]
    exact acts_notified rfl htrace.acts
  · have htaken : (.called p (.subtitleFile subtitle.file) none :: trace).filterMap Effect.act? =
        [] := (List.filterMap_cons_none rfl).trans htrace.acts
    rw [heq]
    exact acts_notified rfl htaken

theorem inert_redispatch (player : Option AttachedPlayer) :
    Inert (redispatch answers player) := by
  intro run
  unfold redispatch
  cases run.state.active with
  | none => rfl
  | some subtitle => exact inert_activate answers player subtitle run

theorem inert_deactivate (player : Option AttachedPlayer) :
    Inert (deactivate answers player) := by
  intro run
  obtain ⟨trace, htrace, heq⟩ := deactivate_eq answers player run
  rw [heq]
  exact acts_notified rfl (htrace.acts (by simp))

theorem inert_detach (player : AttachedPlayer) : Inert (detach answers player) := by
  intro run
  obtain ⟨trace, htrace, heq⟩ := detach_eq answers player run
  rw [heq, List.filterMap_append, htrace.acts (by simp), List.append_nil]

theorem inert_setOffset (player : Option AttachedPlayer) (offset : Int) :
    Inert (setOffset answers player offset) := by
  intro run
  by_cases h : run.state.offset = offset
  · rw [setOffset_self answers player run h]
  · obtain ⟨trace, htrace, heq⟩ := setOffset_eq answers player run h
    rw [heq]
    exact acts_notified rfl (htrace.acts (by simp))

end Rendering

/-! ## Sessions -/

namespace Session

/-- What is done to give up the operation in flight. -/
def givenUp (session : Session) : List Act :=
  (session.inFlight.map fun op => .cancelled op.epoch).toList

/-- What is done for the player that waits. -/
def released (session : Session) : List Act := (session.waiting.map .resumed).toList

theorem filterMap_givenUp {α : Type} {f : Act → Option α} (h : ∀ epoch, f (.cancelled epoch) = none)
    (session : Session) : session.givenUp.filterMap f = [] := by
  unfold givenUp
  cases session.inFlight with
  | none => rfl
  | some op => exact List.filterMap_cons_none (h op.epoch)

theorem filterMap_released {α : Type} {f : Act → Option α}
    (h : ∀ player, f (.resumed player) = none) (session : Session) :
    session.released.filterMap f = [] := by
  unfold released
  cases session.waiting with
  | none => rfl
  | some player => exact List.filterMap_cons_none (h player)

/-- A session that can be reached: the operation in flight is the newest one, a player waits only
for an operation in flight, and what is not played has neither address nor quality. -/
structure Tidy (epoch : Nat) (session : Session) : Prop where
  newest : ∀ op, session.inFlight = some op → op.epoch = epoch
  waiting : session.inFlight = none → session.waiting = none
  unplayed : session.id = none → session.url = none ∧ session.quality = none

theorem Tidy.eq_empty_of_isIdle {epoch : Nat} {session : Session} (h : session.Tidy epoch)
    (hidle : session.isIdle = true) : session = {} := by
  obtain ⟨⟨hid, hflight⟩, hselection⟩ : (session.id = none ∧ session.inFlight = none) ∧
      session.selection = none := by simpa [isIdle] using hidle
  obtain ⟨hurl, hquality⟩ := h.unplayed hid
  have hwaiting := h.waiting hflight
  cases session
  simp_all

end Session

/-- The request of the playback that a message says has started. -/
def Message.start? : Message → Option PlayRequest
  | .call (.playbackStarted request) | .bus (.playbackStarted request) => some request
  | _ => none

/-! ## Responses -/

/-- How a session in which nothing is in flight goes on with a track that is selected, while a
player is attached and `epoch` is the newest one: what is done, the session after it, and the newest
epoch then. -/
inductive Begin (player : Option AttachedPlayer) (epoch : Nat) (session : Session) :
    Track → List Act → Session → Nat → Prop
  | nothing : Begin player epoch session .none [] { session with selection := some .none } epoch
  | pick :
      Begin player epoch session (.custom [])
        ((player.map .paused).toList ++ [.pickStarted (epoch + 1)])
        { session with
          selection := some (.custom [])
          inFlight := some ⟨epoch + 1, .pick⟩
          waiting := player }
        (epoch + 1)
  | fetch {track : Track} (hn : track.isNone = false) (hp : track.needsPick = false) :
      Begin player epoch session track
        [.fetchStarted (epoch + 1) track session.matcher, .downloading track]
        { session with
          selection := some track
          inFlight := some ⟨epoch + 1, .fetch track session.matcher⟩ }
        (epoch + 1)

/-- How the manager responds to a message: what is done, the session after it, and the newest
epoch. -/
inductive Response (m : Manager) : Message → List Act → Session → Nat → Prop
  | rest (message : Message) (hstop : message.isStop = false) (hstart : message.start? = none) :
      Response m message [] m.session m.epoch
  | select {track : Track} {acts : List Act} {session : Session} {epoch : Nat}
      (h : Begin m.player m.epoch { m.session with inFlight := none, waiting := none } track acts
        session epoch) :
      Response m (.call (.select track)) (m.session.givenUp ++ m.session.released ++ acts) session
        epoch
  | disable :
      Response m (.call (.setPreference .disabled)) (m.session.givenUp ++ m.session.released)
        { m.session with selection := some .none, inFlight := none, waiting := none } m.epoch
  | start {message : Message} {request : PlayRequest} {acts : List Act} {session : Session}
      {epoch : Nat} (id : Nat) (hstart : message.start? = some request)
      (h : Begin m.player m.epoch
        { id := some id, url := some request.url, quality := request.quality }
        (m.preference.resolve request) acts session epoch) :
      Response m message (m.session.givenUp ++ acts) session epoch
  | stop {message : Message} (hstop : message.isStop = true) :
      Response m message m.session.givenUp {} m.epoch
  | answered {epoch : Nat} {track : Track} (hop : m.session.inFlight = some ⟨epoch, .pick⟩)
      (hn : track.isNone = false) (hp : track.needsPick = false) :
      Response m (.completion (.picked epoch (some track)))
        [.fetchStarted (m.epoch + 1) track m.session.matcher, .downloading track]
        { m.session with
          selection := some track
          inFlight := some ⟨m.epoch + 1, .fetch track m.session.matcher⟩ }
        (m.epoch + 1)
  | declined {epoch : Nat} {picked : Option Track}
      (hop : m.session.inFlight = some ⟨epoch, .pick⟩)
      (hnone : ∀ track, picked = some track → track = .none ∨ track = .custom []) :
      Response m (.completion (.picked epoch picked)) m.session.released
        { m.session with selection := some .none, inFlight := none, waiting := none } m.epoch
  | fetched {epoch : Nat} {track : Track} {matcher : Matcher} (subtitle : Subtitle)
      (hop : m.session.inFlight = some ⟨epoch, .fetch track matcher⟩) :
      Response m (.completion (.fetched epoch (.ok subtitle))) m.session.released
        { m.session with inFlight := none, waiting := none } m.epoch
  | failed {epoch : Nat} {track : Track} {matcher : Matcher} (cause : SubtitleError)
      (hop : m.session.inFlight = some ⟨epoch, .fetch track matcher⟩) :
      Response m (.completion (.fetched epoch (.error cause)))
        (.published Manager.fetchFailedMessage :: .failed cause.message :: m.session.released)
        { m.session with selection := some .none, inFlight := none, waiting := none } m.epoch

theorem Begin.tidy {player : Option AttachedPlayer} {epoch epoch' : Nat}
    {session session' : Session} {track : Track} {acts : List Act}
    (h : Begin player epoch session track acts session' epoch') (hs : session.Tidy epoch) :
    session'.Tidy epoch' := by
  cases h with
  | nothing => exact ⟨hs.newest, hs.waiting, hs.unplayed⟩
  | pick | fetch =>
    refine ⟨fun op hop => ?_, ?_, hs.unplayed⟩
    · rw [← Option.some.inj hop]
    · intro h
      cases h

theorem Begin.epoch_le {player : Option AttachedPlayer} {epoch epoch' : Nat}
    {session session' : Session} {track : Track} {acts : List Act}
    (h : Begin player epoch session track acts session' epoch') : epoch ≤ epoch' := by
  cases h with
  | nothing => exact Nat.le_refl _
  | pick | fetch => exact Nat.le_succ _

theorem Response.epoch_le {m : Manager} {message : Message} {acts : List Act} {session : Session}
    {epoch : Nat} (h : Response m message acts session epoch) : m.epoch ≤ epoch := by
  cases h with
  | select h | start _ _ h => exact h.epoch_le
  | answered => exact Nat.le_succ _
  | rest | disable | stop | declined | fetched | failed => exact Nat.le_refl _

theorem Response.tidy {m : Manager} {message : Message} {acts : List Act} {session : Session}
    {epoch : Nat} (h : Response m message acts session epoch) (hm : m.session.Tidy m.epoch) :
    session.Tidy epoch := by
  -- In most cases nothing is in flight, and nobody waits.
  have hnone : ∀ {s : Session}, s.inFlight = none → s.waiting = none →
      (s.id = none → s.url = none ∧ s.quality = none) → s.Tidy m.epoch := by
    intro s hf hw hu
    refine ⟨fun op hop => ?_, fun _ => hw, hu⟩
    rw [hf] at hop
    cases hop
  cases h with
  | rest => exact hm
  | select h => exact h.tidy (hnone rfl rfl hm.unplayed)
  | start id _ h => exact h.tidy (hnone rfl rfl fun hid => by cases hid)
  | stop => exact hnone rfl rfl fun _ => ⟨rfl, rfl⟩
  | disable | declined | fetched | failed => exact hnone rfl rfl hm.unplayed
  | answered =>
    refine ⟨fun op hop => ?_, ?_, hm.unplayed⟩
    · rw [← Option.some.inj hop]
    · intro h
      cases h

namespace Manager

variable (answers : Answers) (run : Run Manager)

/-! ## The acts of each part -/

/-- All acts of a run. -/
def acts (run : Run Manager) : List Act := run.effects.filterMap Effect.act?

/-- What can be read off the effects of a run one by one, if it does not depend on what is no
act. -/
theorem filterMap_effects {α : Type} {f : Effect → Option α} {g : Act → Option α}
    (h : ∀ effect, f effect = effect.act?.bind g) (run : Run Manager) :
    run.effects.filterMap f = (acts run).filterMap g := by
  simp only [acts, List.filterMap_filterMap, ← h]

theorem acts_emit (effect : Effect) : acts (run.emit effect) = acts run ++ effect.act?.toList := by
  cases h : effect.act? <;> simp [acts, h]

theorem acts_callOrWarn (player : AttachedPlayer) (call : PlayerCall) (source : LogSource)
    (complaint : String → String) :
    acts (run.callOrWarn answers player call source complaint) =
      acts run ++ (Effect.called player call none).act?.toList := by
  obtain ⟨trace, htrace, heq⟩ := run.callOrWarn_eq answers player call source complaint
  rw [heq, acts, List.filterMap_append, htrace.acts, acts]

theorem acts_render {step : Run Rendering → Run Rendering} (h : Rendering.Inert step) :
    acts (render step run) = acts run :=
  h ⟨run.state.rendering, run.effects⟩

theorem acts_hide : acts (hide answers run) = acts run :=
  acts_render run (Rendering.inert_deactivate answers _)

theorem acts_pauseForPick :
    acts (pauseForPick answers run) = acts run ++ (run.state.player.map .paused).toList := by
  unfold pauseForPick
  cases run.state.player with
  | none => exact (List.append_nil _).symm
  | some player => exact acts_callOrWarn answers run player .pause _ _

theorem acts_releasePause :
    acts (releasePause answers run) = acts run ++ run.state.session.released := by
  unfold releasePause Session.released
  cases run.state.session.waiting with
  | none => exact (List.append_nil _).symm
  | some player => exact acts_callOrWarn answers (inSession _ run) player .resume _ _

theorem acts_cancelInFlight :
    acts (cancelInFlight answers run) =
      acts run ++ run.state.session.givenUp ++ run.state.session.released := by
  unfold cancelInFlight Session.givenUp
  cases run.state.session.inFlight with
  | none => simpa using acts_releasePause answers run
  | some op =>
    rw [acts_releasePause, acts_emit]
    rfl

theorem acts_startPick :
    acts (startPick answers run) = acts run ++
      ((run.state.player.map .paused).toList ++ [.pickStarted (run.state.epoch + 1)]) := by
  have hlaunch : acts (startPick answers run) = acts (pauseForPick answers run) ++
      [.pickStarted ((pauseForPick answers run).state.epoch + 1)] :=
    acts_emit ((pauseForPick answers run).modify _) _
  rw [hlaunch, acts_pauseForPick, state_pauseForPick, List.append_assoc]

theorem acts_startFetch (track : Track) :
    acts (startFetch track run) = acts run ++
      [.fetchStarted (run.state.epoch + 1) track run.state.session.matcher,
        .downloading track] := by
  simp [startFetch, launch, inSession, acts, Run.notify, Effect.act?]

/-! ## The response to each message -/

theorem begin_beginSelection (session : Session) {track : Track}
    (h : run.state.session = { session with selection := some track }) :
    ∃ trace, acts (beginSelection answers track run) = acts run ++ trace ∧
      Begin run.state.player run.state.epoch session track trace
        (beginSelection answers track run).state.session
        (beginSelection answers track run).state.epoch := by
  unfold beginSelection
  split_ifs with hn hp
  · obtain rfl := Track.isNone_iff.1 hn
    refine ⟨[], by rw [acts_hide, List.append_nil], ?_⟩
    rw [state_hide, h]
    exact .nothing
  · obtain rfl := Track.needsPick_iff.1 hp
    refine ⟨_, acts_startPick answers run, ?_⟩
    rw [state_startPick, h]
    exact .pick
  · refine ⟨_, acts_startFetch run track, ?_⟩
    rw [state_startFetch, h]
    exact .fetch (by simpa using hn) (by simpa using hp)

/-- A selection first gives up what is in flight. -/
theorem begin_applySelection (track : Track) :
    ∃ trace, acts (applySelection answers track run) =
        acts run ++ (run.state.session.givenUp ++ run.state.session.released ++ trace) ∧
      Begin run.state.player run.state.epoch
        { run.state.session with inFlight := none, waiting := none } track trace
        (applySelection answers track run).state.session
        (applySelection answers track run).state.epoch := by
  set cancelled := cancelInFlight answers run with hcancelled
  set selected := inSession ({ · with selection := some track }) cancelled with hselected
  have hstate : selected.state = { run.state with
      session := { run.state.session with
        inFlight := none, waiting := none, selection := some track } } := by
    rw [hselected, state_inSession, hcancelled, state_cancelInFlight]
  obtain ⟨trace, hacts, hbegin⟩ := begin_beginSelection answers selected
    { run.state.session with inFlight := none, waiting := none } (by rw [hstate])
  have hselect : acts selected = acts cancelled := rfl
  refine ⟨trace, ?_, ?_⟩
  · rw [applySelection, hacts, hselect, hcancelled, acts_cancelInFlight]
    simp only [List.append_assoc]
  · rw [hstate] at hbegin
    exact hbegin

theorem acts_resetSession (player : Option AttachedPlayer) :
    acts (resetSession answers player run) = acts run ++ run.state.session.givenUp := by
  have hcancel := acts_cancelInFlight answers (inSession ({ · with waiting := none }) run)
  have hinert := Rendering.inert_deactivate answers player
  rw [resetSession, acts_render _ hinert]
  exact hcancel.trans (List.append_nil _)

/-- A response accounts for what handling a message makes of a run. -/
def Responds (message : Message) (run run' : Run Manager) : Prop :=
  ∃ trace, acts run' = acts run ++ trace ∧
    Response run.state message trace run'.state.session run'.state.epoch

variable {answers run}

theorem responds_rest {run' : Run Manager} {message : Message} (hstop : message.isStop = false)
    (hstart : message.start? = none) (hacts : acts run' = acts run)
    (hsession : run'.state.session = run.state.session)
    (hepoch : run'.state.epoch = run.state.epoch) : Responds message run run' := by
  refine ⟨[], by rw [hacts, List.append_nil], ?_⟩
  rw [hsession, hepoch]
  exact .rest message hstop hstart

theorem responds_select (track : Track) :
    Responds (.call (.select track)) run (applySelection answers track run) := by
  obtain ⟨trace, hacts, hbegin⟩ := begin_applySelection answers run track
  exact ⟨_, hacts, .select hbegin⟩

theorem responds_setPreference (preference : Preference) :
    Responds (.call (.setPreference preference)) run (setPreference answers preference run) := by
  unfold setPreference
  dsimp only
  split_ifs with h
  · obtain rfl : preference = .disabled := by
      simp only [Bool.and_eq_true, decide_eq_true_eq] at h
      exact h.1.1
    obtain ⟨trace, hacts, hbegin⟩ := begin_applySelection answers
      (run.modify ({ · with preference := .disabled })) .none
    generalize applySelection answers .none _ = run' at hacts hbegin
    refine ⟨_, hacts, ?_⟩
    generalize run'.state.session = session at hbegin
    generalize run'.state.epoch = epoch at hbegin
    cases hbegin with
    | nothing =>
      rw [List.append_nil]
      exact .disable
    | fetch hn => cases hn
  · exact responds_rest rfl rfl rfl rfl rfl

theorem responds_playbackStarted {message : Message} {request : PlayRequest}
    (hstart : message.start? = some request) (ht : run.state.session.Tidy run.state.epoch) :
    Responds message run (playbackStarted answers request run) := by
  set idle := if run.state.session.isIdle then run
    else resetSession answers run.state.player run with hidle
  obtain ⟨hacts, hsession⟩ : acts idle = acts run ++ run.state.session.givenUp ∧
      idle.state.session = {} := by
    rw [hidle]
    split_ifs with h
    · have hempty := ht.eq_empty_of_isIdle h
      exact ⟨by simp [hempty, Session.givenUp], hempty⟩
    · exact ⟨acts_resetSession answers run _, by simp⟩
  obtain ⟨hplayer, hpreference, hepoch⟩ : idle.state.player = run.state.player ∧
      idle.state.preference = run.state.preference ∧ idle.state.epoch = run.state.epoch := by
    rw [hidle]
    split_ifs <;> simp
  set played := idle.modify fun m =>
    { m with
      playbacks := m.playbacks + 1
      session := { m.session with
        id := some (m.playbacks + 1), url := some request.url, quality := request.quality } }
  have hstarted : playbackStarted answers request run =
      applySelection answers (idle.state.preference.resolve request) played := rfl
  obtain ⟨trace, htrace, hbegin⟩ := begin_applySelection answers played
    (idle.state.preference.resolve request)
  have hplayed : played.state.session =
      { id := some (idle.state.playbacks + 1), url := some request.url,
        quality := request.quality } := by
    simp [played, hsession]
  rw [← hstarted, hplayed] at htrace hbegin
  refine ⟨run.state.session.givenUp ++ trace, ?_, .start (idle.state.playbacks + 1) hstart ?_⟩
  · rw [← List.append_assoc, ← hacts]
    exact htrace
  · rw [← hplayer, ← hpreference, ← hepoch]
    exact hbegin

theorem responds_playbackStopped {message : Message} (hstop : message.isStop = true)
    (ht : run.state.session.Tidy run.state.epoch) :
    Responds message run (playbackStopped answers run) := by
  have hresponse : Response run.state message run.state.session.givenUp {} run.state.epoch :=
    .stop hstop
  unfold playbackStopped
  split_ifs with h
  · have hempty : run.state.session = {} := ht.eq_empty_of_isIdle (by simp_all)
    rw [hempty] at hresponse
    refine ⟨[], (List.append_nil _).symm, ?_⟩
    rw [hempty]
    exact hresponse
  · refine ⟨run.state.session.givenUp, ?_, ?_⟩
    · exact (acts_render _ (Rendering.inert_setOffset answers none 0)).trans
        (acts_resetSession answers run none)
    · simpa [render, Run.within] using hresponse

theorem responds_setPlayer (player : Option AttachedPlayer) :
    Responds (.call (.setPlayer player)) run (setPlayer answers player run) := by
  have hacts : acts (setPlayer answers player run) = acts run := by
    refine setPlayer_invariant answers run (I := fun r => acts r = acts run) player rfl ?_ ?_
    · exact fun r previous h => (acts_render r (Rendering.inert_detach answers previous)).trans h
    · exact fun r h => (acts_render r (Rendering.inert_redispatch answers player)).trans h
  exact responds_rest rfl rfl hacts (state_setPlayer answers run player).1
    (congrArg Ledger.epoch (ledger_setPlayer answers player run))

theorem responds_setSize (size : UInt32) :
    Responds (.call (.setSize size)) run (setSize size run) := by
  unfold setSize
  split_ifs
  · exact responds_rest rfl rfl rfl rfl rfl
  · exact responds_rest rfl rfl ((acts_emit _ _).trans (List.append_nil _)) rfl rfl

theorem responds_fetchCompleted {epoch : Nat} {track : Track} {m : Matcher}
    (hop : run.state.session.inFlight = some ⟨epoch, .fetch track m⟩)
    (result : Except SubtitleError Subtitle) :
    Responds (.completion (.fetched epoch result)) run
      (fetchCompleted answers result (inSession ({ · with inFlight := none }) run)) := by
  unfold fetchCompleted
  cases result with
  | ok subtitle =>
    refine ⟨run.state.session.released, ?_, ?_⟩
    · rw [acts_releasePause, acts_render _ (Rendering.inert_activate answers _ subtitle)]
      rfl
    · simpa [render, Run.within] using .fetched subtitle hop
  | error cause =>
    refine ⟨.published fetchFailedMessage :: .failed cause.message ::
      run.state.session.released, ?_, ?_⟩
    · rw [acts_releasePause, acts_hide]
      simp only [acts, Run.log, Run.notify, inSession, Run.effects_modify, Run.effects_emit,
        List.filterMap_append, List.append_assoc]
      rfl
    · simpa [Run.log, Run.notify] using .failed cause hop

theorem responds_pickCompleted {epoch : Nat}
    (hop : run.state.session.inFlight = some ⟨epoch, .pick⟩) (picked : Option Track) :
    Responds (.completion (.picked epoch picked)) run
      (pickCompleted answers picked (inSession ({ · with inFlight := none }) run)) := by
  unfold pickCompleted
  cases hpicked : picked.filter fun track => !track.isNone && !track.needsPick with
  | some track =>
    obtain ⟨rfl, htrack⟩ := Option.filter_eq_some_iff.1 hpicked
    obtain ⟨hn, hp⟩ : track.isNone = false ∧ track.needsPick = false := by simpa using htrack
    exact ⟨_, acts_startFetch _ track, .answered hop hn hp⟩
  | none =>
    refine ⟨run.state.session.released, ?_, ?_⟩
    · dsimp only
      rw [acts_releasePause, acts_hide, state_hide]
      rfl
    · have hnone : ∀ track, picked = some track → track = .none ∨ track = .custom [] := by
        rintro track rfl
        rw [← Track.isNone_iff, ← Track.needsPick_iff]
        simpa [or_iff_not_imp_left] using hpicked
      simpa using .declined hop hnone

theorem responds_complete (completion : Completion) :
    Responds (.completion completion) run (complete answers completion run) := by
  cases h : (ledger run).isCurrent completion with
  | false =>
    rw [complete_of_not_isCurrent answers h]
    exact responds_rest rfl rfl rfl rfl rfl
  | true =>
    obtain ⟨⟨epoch, operation⟩, hop, hends⟩ := Ledger.isCurrent_iff.1 h
    have hany : run.state.session.inFlight.any completion.endsOperation = true := h
    obtain rfl := Completion.epoch_eq hends
    rw [complete, if_pos hany]
    cases completion with
    | fetched epoch result =>
      cases operation with
      | fetch track m => exact responds_fetchCompleted hop result
      | pick => simp [Completion.endsOperation] at hends
    | picked epoch track =>
      cases operation with
      | fetch => simp [Completion.endsOperation] at hends
      | pick => exact responds_pickCompleted hop track

/-- **Every message is answered by one of the responses.** -/
theorem response_handle (ht : run.state.session.Tidy run.state.epoch) (message : Message) :
    Responds message run (handle answers run message) := by
  cases message with
  | completion c => exact responds_complete c
  | call c =>
    cases c with
    | playbackStarted request => exact responds_playbackStarted rfl ht
    | playbackStopped => exact responds_playbackStopped rfl ht
    | select track => exact responds_select track
    | setPlayer player => exact responds_setPlayer player
    | setPreference preference => exact responds_setPreference preference
    | setOffset offset =>
      exact responds_rest rfl rfl
        (acts_render run (Rendering.inert_setOffset answers _ offset)) rfl rfl
    | setSize size => exact responds_setSize size
  | bus event =>
    cases event with
    | playbackStarted request => exact responds_playbackStarted rfl ht
    | playbackStopped => exact responds_playbackStopped rfl ht
    | errorNotification message => exact responds_rest rfl rfl rfl rfl rfl

variable (answers) (preference : Preference)

theorem tidy_outcome (messages : List Message) :
    (outcome answers preference messages).state.session.Tidy
      (outcome answers preference messages).state.epoch := by
  induction messages using List.reverseRecOn with
  | nil => exact ⟨fun op hop => absurd hop (by simp [outcome, handleAll, fresh]), fun _ => rfl,
      fun _ => ⟨rfl, rfl⟩⟩
  | append_singleton messages message ih =>
    rw [outcome_concat]
    obtain ⟨trace, -, hresponse⟩ := response_handle ih message
    exact hresponse.tidy ih

/-- What the last message of a run is answered by. -/
theorem responds_outcome (messages : List Message) (message : Message) :
    Responds message (outcome answers preference messages)
      (outcome answers preference (messages ++ [message])) := by
  rw [outcome_concat]
  exact response_handle (tidy_outcome answers preference messages) message

end Manager

end Subtitler
