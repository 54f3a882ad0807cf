import Subtitler.Proofs.Manager.Response

/-!
# When a fetch fails

A fetch that fails while it is in flight leaves nothing to be shown and nothing selected. Listeners
are told the reason and that there is no subtitle any more; the user is told that there is none. All
else stays as it was.

**Theorem (`failures_accounted`).** In every run, what the user is told and the reasons that
listeners are told are those of the failures, one for each and in their order. Nothing else is told
as a failure: neither the end of an operation that is not in flight any more, nor a pick without an
answer, nor a call that a player refuses.
-/

namespace Subtitler

/-! ## What is told of failures -/

/-- The reason with which listeners are told that a fetch has failed. -/
def SubtitleEvent.reason? : SubtitleEvent → Option String
  | failed reason => some reason
  | _ => none

/-- The message that is published by an act. -/
def Act.message? : Act → Option String
  | published message => some message
  | _ => none

/-- The reason that an act tells listeners. -/
def Act.reason? : Act → Option String
  | failed reason => some reason
  | _ => none

theorem event?_of_isQuiet {trace : List Effect} (h : ∀ effect ∈ trace, effect.isQuiet = true) :
    trace.filterMap Effect.event? = [] := by
  refine List.filterMap_eq_nil_iff.2 fun effect he => ?_
  have hquiet := h effect he
  cases effect with
  | notified => cases hquiet
  | _ => rfl

theorem message?_of_isQuiet {trace : List Effect} (h : ∀ effect ∈ trace, effect.isQuiet = true) :
    trace.filterMap Effect.message? = [] := by
  refine List.filterMap_eq_nil_iff.2 fun effect he => ?_
  have hquiet := h effect he
  cases effect with
  | published => cases hquiet
  | _ => rfl

namespace Manager

theorem messages_eq (run : Run Manager) :
    run.effects.filterMap Effect.message? = (acts run).filterMap Act.message? := by
  refine filterMap_effects (fun effect => ?_) run
  cases effect with
  | called player call => cases call <;> rfl
  | notified event => cases event <;> rfl
  | _ => rfl

theorem reasons_eq (run : Run Manager) :
    run.events.filterMap SubtitleEvent.reason? = (acts run).filterMap Act.reason? := by
  rw [Run.events, List.filterMap_filterMap]
  refine filterMap_effects (fun effect => ?_) run
  cases effect with
  | called player call => cases call <;> rfl
  | notified event => cases event <;> rfl
  | _ => rfl

/-- The error of a fetch that fails: the one that is in flight ends with an error. -/
def failure? (m : Manager) : Message → Option SubtitleError
  | .completion (.fetched number (.error cause)) =>
    match m.session.inFlight with
    | some ⟨epoch, .fetch _ _⟩ => if number = epoch then some cause else none
    | _ => none
  | _ => none

variable (answers : Answers)

/-- The errors of the fetches that fail while messages are taken, in order. -/
def failures (run : Run Manager) : List Message → List SubtitleError
  | [] => []
  | message :: messages =>
    (run.state.failure? message).toList ++ failures (handle answers run message) messages

variable (run : Run Manager)

theorem failures_append (first rest : List Message) : failures answers run (first ++ rest) =
    failures answers run first ++ failures answers (handleAll answers first run) rest := by
  induction first generalizing run with
  | nil => rfl
  | cons message first ih =>
    rw [List.cons_append, failures, ih, ← List.append_assoc]
    rfl

/-! ## The end of a fetch -/

/-- What is done to resume the player that waits, if one does. -/
def Resumes (waiting : Option AttachedPlayer) (trace : List Effect) : Prop :=
  match waiting with
  | none => trace = []
  | some player => CallTrace player .resume trace

theorem Resumes.quiet {waiting : Option AttachedPlayer} {trace : List Effect}
    (h : Resumes waiting trace) : ∀ effect ∈ trace, effect.isQuiet = true := by
  cases waiting with
  | none =>
    rw [show trace = [] from h]
    simp
  | some player => exact CallTrace.quiet h

theorem effects_releasePause : ∃ resumed, Resumes run.state.session.waiting resumed ∧
    (releasePause answers run).effects = run.effects ++ resumed := by
  unfold releasePause
  cases run.state.session.waiting with
  | none => exact ⟨[], rfl, (List.append_nil _).symm⟩
  | some player =>
    obtain ⟨resumed, htrace, heq⟩ := Run.callOrWarn_eq answers
      (inSession ({ · with waiting := none }) run) player .resume .picking
      fun cause => s!"Failed to resume {player.name}, {cause}"
    exact ⟨resumed, htrace, congrArg Run.effects heq⟩

theorem effects_hide : ∃ cleared, (∀ effect ∈ cleared, effect.isQuiet = true) ∧
    (hide answers run).effects = run.effects ++ cleared ++ [.notified .disabled] := by
  obtain ⟨cleared, hcleared, heq⟩ := Rendering.deactivate_eq answers run.state.player
    ⟨run.state.rendering, run.effects⟩
  exact ⟨cleared, hcleared.quiet, congrArg Run.effects heq⟩

/-- What is logged, published and told when a fetch fails. -/
def failureReport (cause : SubtitleError) : List Effect :=
  [.logged ⟨.error, .manager, s!"Video subtitle failed, {cause.message}"⟩,
    .published fetchFailedMessage, .notified (.failed cause.message)]

/-- When a fetch has failed, that is told, what is shown is hidden, and then the player that waits
is resumed. -/
theorem effects_fetchCompleted_error (cause : SubtitleError) : ∃ cleared resumed,
    (∀ effect ∈ cleared, effect.isQuiet = true) ∧ Resumes run.state.session.waiting resumed ∧
    (fetchCompleted answers (.error cause) run).effects =
      run.effects ++ failureReport cause ++ cleared ++ [.notified .disabled] ++ resumed := by
  set told := inSession ({ · with selection := some .none })
    (((run.log .error .manager s!"Video subtitle failed, {cause.message}").emit
      (.published fetchFailedMessage)).notify (.failed cause.message)) with htold
  have hreport : told.effects = run.effects ++ failureReport cause := by
    simp [htold, failureReport, inSession, Run.log, Run.notify]
  obtain ⟨cleared, hcleared, hhide⟩ := effects_hide answers told
  obtain ⟨resumed, hresumed, hrelease⟩ := effects_releasePause answers (hide answers told)
  rw [state_hide] at hresumed
  refine ⟨cleared, resumed, hcleared, hresumed, ?_⟩
  rw [← hreport, ← hhide]
  exact hrelease

/-! ## What a failure changes -/

/-- What the failure of a fetch makes of a run. -/
structure Fails (cause : SubtitleError) (before after : Run Manager) : Prop where
  events : after.events = before.events ++ [.failed cause.message, .disabled]
  published : after.effects.filterMap Effect.message? =
    before.effects.filterMap Effect.message? ++ [fetchFailedMessage]
  state : after.state = { before.state with
    session := { before.state.session with
      selection := some .none, inFlight := none, waiting := none }
    rendering := { before.state.rendering with active := none, native := false } }

/-- Nothing is told as a failure between two moments. -/
structure NothingFails (before after : Run Manager) : Prop where
  reasons : after.events.filterMap SubtitleEvent.reason? =
    before.events.filterMap SubtitleEvent.reason?
  published : after.effects.filterMap Effect.message? = before.effects.filterMap Effect.message?

/-- What is told as a failure when a message is taken is exactly the failure, if there is one. -/
def Accounts (before : Run Manager) (message : Message) (after : Run Manager) : Prop :=
  match before.state.failure? message with
  | some cause => Fails cause before after
  | none => NothingFails before after

variable {answers run}

theorem failure?_eq_some_iff {m : Manager} {message : Message} {cause : SubtitleError} :
    m.failure? message = some cause ↔ ∃ epoch track matcher,
      message = .completion (.fetched epoch (.error cause)) ∧
        m.session.inFlight = some ⟨epoch, .fetch track matcher⟩ := by
  constructor
  · intro h
    unfold failure? at h
    split at h
    · split at h
      · split_ifs at h with hepoch
        obtain rfl := Option.some.inj h
        subst hepoch
        exact ⟨_, _, _, rfl, ‹_›⟩
      · cases h
    · cases h
  · rintro ⟨epoch, track, matcher, rfl, hop⟩
    simp [failure?, hop]

/-- A fetch that is in flight ends. -/
theorem handle_fetched {epoch : Nat} {track : Track} {matcher : Matcher}
    (hop : run.state.session.inFlight = some ⟨epoch, .fetch track matcher⟩)
    (result : Except SubtitleError Subtitle) :
    handle answers run (.completion (.fetched epoch result)) =
      fetchCompleted answers result (inSession ({ · with inFlight := none }) run) := by
  have hends : run.state.session.inFlight.any (Completion.fetched epoch result).endsOperation =
      true := by
    simp [hop, Completion.endsOperation, Completion.epoch]
  exact if_pos hends

theorem fails_handle {message : Message} {cause : SubtitleError}
    (h : run.state.failure? message = some cause) :
    Fails cause run (handle answers run message) := by
  obtain ⟨epoch, track, matcher, rfl, hop⟩ := failure?_eq_some_iff.1 h
  have hhandle : handle answers run (.completion (.fetched epoch (.error cause))) =
      fetchCompleted answers (.error cause) (inSession ({ · with inFlight := none }) run) :=
    handle_fetched hop (.error cause)
  obtain ⟨cleared, resumed, hcleared, hresumed, heq⟩ :=
    effects_fetchCompleted_error answers (inSession ({ · with inFlight := none }) run) cause
  rw [← hhandle] at heq
  refine ⟨?_, ?_, ?_⟩
  · simp only [Run.events, heq, List.filterMap_append, event?_of_isQuiet hcleared,
      event?_of_isQuiet hresumed.quiet, List.append_nil, List.append_assoc]
    rfl
  · simp only [heq, List.filterMap_append, message?_of_isQuiet hcleared,
      message?_of_isQuiet hresumed.quiet, List.append_nil, List.append_assoc]
    rfl
  · rw [hhandle]
    simp [fetchCompleted, Run.log, Run.notify]

/-- What is begun with a track is not told as a failure. -/
theorem untold_begin {player : Option AttachedPlayer} {epoch epoch' : Nat}
    {session session' : Session} {track : Track} {trace : List Act}
    (h : Begin player epoch session track trace session' epoch') :
    trace.filterMap Act.message? = [] ∧ trace.filterMap Act.reason? = [] := by
  cases h with
  | nothing | fetch => exact ⟨rfl, rfl⟩
  | pick => cases player <;> exact ⟨rfl, rfl⟩

/-- What is done to give up an operation is not told as a failure. -/
theorem untold_givenUp (session : Session) :
    session.givenUp.filterMap Act.message? = [] ∧ session.givenUp.filterMap Act.reason? = [] :=
  ⟨Session.filterMap_givenUp (fun _ => rfl) session,
    Session.filterMap_givenUp (fun _ => rfl) session⟩

/-- What is done for the player that waits is not told as a failure. -/
theorem untold_released (session : Session) :
    session.released.filterMap Act.message? = [] ∧
      session.released.filterMap Act.reason? = [] :=
  ⟨Session.filterMap_released (fun _ => rfl) session,
    Session.filterMap_released (fun _ => rfl) session⟩

theorem nothingFails_of_acts {before after : Run Manager} {trace : List Act}
    (hacts : acts after = acts before ++ trace)
    (htrace : trace.filterMap Act.message? = [] ∧ trace.filterMap Act.reason? = []) :
    NothingFails before after := by
  constructor
  · rw [reasons_eq, hacts, List.filterMap_append, htrace.2, List.append_nil, reasons_eq]
  · rw [messages_eq, hacts, List.filterMap_append, htrace.1, List.append_nil, messages_eq]

/-- Only the failure of a fetch is told as one. -/
theorem nothingFails_of_responds {message : Message} {run' : Run Manager}
    (hresponds : Responds message run run') (h : run.state.failure? message = none) :
    NothingFails run run' := by
  obtain ⟨trace, hacts, hresponse⟩ := hresponds
  refine nothingFails_of_acts hacts ?_
  generalize run'.state.session = session at hresponse
  generalize run'.state.epoch = epoch at hresponse
  cases hresponse with
  | failed cause hop =>
    rw [failure?_eq_some_iff.2 ⟨_, _, _, rfl, hop⟩] at h
    cases h
  | rest | answered => exact ⟨rfl, rfl⟩
  | select hbegin => simp [untold_givenUp, untold_released, untold_begin hbegin]
  | disable => simp [untold_givenUp, untold_released]
  | start _ _ hbegin => simp [untold_givenUp, untold_begin hbegin]
  | stop => exact untold_givenUp _
  | declined | fetched => exact untold_released _

theorem accounts_handle (ht : run.state.session.Tidy run.state.epoch) (message : Message) :
    Accounts run message (handle answers run message) := by
  unfold Accounts
  cases h : run.state.failure? message with
  | none => exact nothingFails_of_responds (response_handle ht message) h
  | some cause => exact fails_handle h

variable (answers) (preference : Preference) (messages : List Message)

theorem accounts_outcome (message : Message) : Accounts (outcome answers preference messages)
    message (outcome answers preference (messages ++ [message])) := by
  rw [outcome_concat]
  exact accounts_handle (tidy_outcome answers preference messages) message

theorem failures_concat (message : Message) :
    failures answers (fresh preference) (messages ++ [message]) =
      failures answers (fresh preference) messages ++
        ((outcome answers preference messages).state.failure? message).toList := by
  rw [failures_append, failures, failures, List.append_nil]
  rfl

theorem failures_told :
    (outcome answers preference messages).effects.filterMap Effect.message? =
        (failures answers (fresh preference) messages).map (fun _ => fetchFailedMessage) ∧
      (outcome answers preference messages).events.filterMap SubtitleEvent.reason? =
        (failures answers (fresh preference) messages).map (·.message) := by
  induction messages using List.reverseRecOn with
  | nil => exact ⟨rfl, rfl⟩
  | append_singleton messages message ih =>
    obtain ⟨hmessages, hreasons⟩ := ih
    have haccounts := accounts_outcome answers preference messages message
    rw [failures_concat, List.map_append, List.map_append, ← hmessages, ← hreasons]
    unfold Accounts at haccounts
    cases hcause : (outcome answers preference messages).state.failure? message with
    | none =>
      rw [hcause] at haccounts
      simpa using ⟨haccounts.published, haccounts.reasons⟩
    | some cause =>
      rw [hcause] at haccounts
      refine ⟨haccounts.published, ?_⟩
      rw [haccounts.events, List.filterMap_append]
      rfl

/-- **Exactly the failures are told.** The user and the listeners are told of every fetch that fails
while it is in flight, once and in order, and of nothing else as a failure: what the next message
adds is accounted for in the same way. A failure changes nothing but what is selected, in flight,
waiting and shown. Giving up what is in flight at the end tells of none. -/
theorem failures_accounted :
    (outcome answers preference messages).effects.filterMap Effect.message? =
        (failures answers (fresh preference) messages).map (fun _ => fetchFailedMessage) ∧
      (outcome answers preference messages).events.filterMap SubtitleEvent.reason? =
        (failures answers (fresh preference) messages).map (·.message) ∧
      (∀ message, Accounts (outcome answers preference messages) message
        (outcome answers preference (messages ++ [message]))) ∧
      NothingFails (outcome answers preference messages)
        (cancelInFlight answers (outcome answers preference messages)) := by
  obtain ⟨hmessages, hreasons⟩ := failures_told answers preference messages
  have hcancel := acts_cancelInFlight answers (outcome answers preference messages)
  rw [List.append_assoc] at hcancel
  refine ⟨hmessages, hreasons, accounts_outcome answers preference messages, ?_⟩
  exact nothingFails_of_acts hcancel (by simp [untold_givenUp, untold_released])

end Manager

end Subtitler
