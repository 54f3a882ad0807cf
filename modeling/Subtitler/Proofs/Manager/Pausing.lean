import Subtitler.Proofs.Manager.Failure
import Subtitler.Proofs.Manager.Picking

/-!
# Pausing for a pick

While the user picks a file, and while the picked file is fetched, the player that was attached when
the pick began is paused.

**Theorem (`pauses_balanced`).** All that players are asked to pause and to resume in a run follows
from its picks (`Chronicle`): one after the other, each pick pauses its player, and resumes the same
player at the moment when it ends, whichever player is attached then. It ends when the user picks
nothing, when the picked file is there or cannot be had, or when another selection supersedes it; it
also ends when a playback starts or stops, and only then nobody is resumed. The manager itself ends
like a pick: whoever waits then is resumed.
-/

namespace Subtitler

namespace Manager

variable {answers : Answers} {preference : Preference} {messages : List Message} {epoch : Nat}

/-! ## How a pick begins and ends -/

/-- What listeners are told when a fetch has ended: that the subtitle is shown, or that nothing
is. -/
def Settles (result : Except SubtitleError Subtitle) (event : SubtitleEvent) : Prop :=
  match result with
  | .ok subtitle => event = .activated subtitle ∨ event = .nativeActivated subtitle.file
  | .error _ => event = .disabled

/-- The ways in which a pick, or the fetch of what was picked, ends. -/
inductive EndsPick (m : Manager) (epoch : Nat) : Message → Prop
  | declined {picked : Option Track} (hop : m.session.inFlight = some ⟨epoch, .pick⟩)
      (hnone : ∀ track, picked = some track → track = .none ∨ track = .custom []) :
      EndsPick m epoch (.completion (.picked epoch picked))
  | fetched {number : Nat} {track : Track} {matcher : Matcher}
      (hop : m.session.inFlight = some ⟨number, .fetch track matcher⟩)
      (result : Except SubtitleError Subtitle) :
      EndsPick m epoch (.completion (.fetched number result))
  | selected (track : Track) : EndsPick m epoch (.call (.select track))
  | disabled : EndsPick m epoch (.call (.setPreference .disabled))
  | played {message : Message} (h : message.changesPlayback = true) : EndsPick m epoch message

variable (answers preference)

/-- A message that comes after others begins a pick: the player that is attached is paused. -/
structure Begins (earlier : List Message) (message : Message) (pick : Pick) : Prop where
  attached : (outcome answers preference earlier).state.player = pick.player
  inFlight : (outcome answers preference (earlier ++ [message])).state.session.inFlight =
    some ⟨pick.epoch, .pick⟩
  pauses : ∃ resumes, (outcome answers preference (earlier ++ [message])).pauses =
    (outcome answers preference earlier).pauses ++ resumes ++ pick.pauses

/-- A message that comes after others ends a pick: its player is resumed, unless the playback has
changed, and before any other call that pauses or resumes a player. If a fetch has ended, then only
after the listeners know what is shown. -/
structure Ends (earlier : List Message) (message : Message) (pick : Pick) : Prop where
  before : UnderWay answers preference earlier pick.epoch
  after : ¬ UnderWay answers preference (earlier ++ [message]) pick.epoch
  way : EndsPick (outcome answers preference earlier).state pick.epoch message
  resumes : ∃ pauses, (outcome answers preference (earlier ++ [message])).pauses =
    (outcome answers preference earlier).pauses ++ pick.resumes message ++ pauses
  shown : ∀ number result player, message = .completion (.fetched number result) →
    pick.player = some player → ∃ shown event resumed,
      (outcome answers preference (earlier ++ [message])).effects =
        (outcome answers preference earlier).effects ++ shown ++ [.notified event] ++ resumed ∧
      Settles result event ∧ CallTrace player .resume resumed

variable {answers preference} in
theorem Begins.of_ended {earlier : List Message} {message last : Message} {pick : Pick}
    (h : Begins answers preference earlier message pick) :
    Begins answers preference earlier message (pick.ended last) :=
  ⟨h.attached, h.inFlight, h.pauses⟩

/-- The picks of a run, in order: which they are, how each began and ended, and which player waits.
What players are asked to pause and to resume is what the picks ask them, one after the other. -/
structure Chronicle (messages : List Message) (picks : List Pick) : Prop where
  epochs : (outcome answers preference messages).effects.filterMap Effect.pickStarted? =
    picks.map (·.epoch)
  calls : (outcome answers preference messages).pauses = picks.flatMap Pick.calls
  begun : ∀ pick ∈ picks, ∃ earlier message later, messages = earlier ++ message :: later ∧
    Begins answers preference earlier message pick
  goesOn : ∀ pick ∈ picks, pick.ending = none ↔ UnderWay answers preference messages pick.epoch
  ended : ∀ pick ∈ picks, ∀ message, pick.ending = some message → ∃ earlier later,
    messages = earlier ++ message :: later ∧ Ends answers preference earlier message pick
  waiting : ∀ player, (outcome answers preference messages).state.session.waiting = some player ↔
    ∃ pick ∈ picks, pick.player = some player ∧ UnderWay answers preference messages pick.epoch

/-! ## Opening a pick -/

/-- Acts by which a session goes on, and the pick that they begin, if they do. -/
structure Opens (player : Option AttachedPlayer) (epoch : Nat) (trace : List Act)
    (session : Session) (next : Option Pick) : Prop where
  calls : trace.filterMap Act.call? = next.toList.flatMap Pick.pauses
  epochs : trace.filterMap Act.pickStarted? = next.toList.map (·.epoch)
  waiting : session.waiting = next.bind (·.player)
  inFlight : ∀ number, session.inFlight = some ⟨number, .pick⟩ ↔ next.map (·.epoch) = some number
  newer : ∀ op, session.inFlight = some op → op.epoch = epoch + 1
  pick : ∀ pick, next = some pick → pick = ⟨epoch + 1, player, none⟩

theorem opens_nothing (player : Option AttachedPlayer) (epoch : Nat) {session : Session}
    (hflight : session.inFlight = none) (hwaiting : session.waiting = none) :
    Opens player epoch [] session none where
  calls := rfl
  epochs := rfl
  waiting := hwaiting
  inFlight number := by simp [hflight]
  newer op hop := by simp [hflight] at hop
  pick _ h := by cases h

theorem opens_begin {player : Option AttachedPlayer} {epoch epoch' : Nat}
    {session session' : Session} {track : Track} {trace : List Act}
    (h : Begin player epoch session track trace session' epoch')
    (hflight : session.inFlight = none) (hwaiting : session.waiting = none) :
    ∃ next, Opens player epoch trace session' next := by
  cases h with
  | nothing => exact ⟨none, opens_nothing player epoch hflight hwaiting⟩
  | pick =>
    refine ⟨some ⟨epoch + 1, player, none⟩, ?_, ?_, rfl, ?_, ?_, ?_⟩
    · cases player <;> rfl
    · cases player <;> rfl
    · simp
    · simp
    · simp
  | fetch => exact ⟨none, rfl, rfl, hwaiting, by simp, by simp, by simp⟩

/-! ## Keeping the chronicle -/

/-- The picks of a run while it goes on: those that are over, and the one that goes on, if there is
one. -/
structure Kept (messages : List Message) (past : List Pick) (current : Option Pick) : Prop where
  epochs : (outcome answers preference messages).effects.filterMap Effect.pickStarted? =
    (past ++ current.toList).map (·.epoch)
  calls : (outcome answers preference messages).pauses =
    past.flatMap Pick.calls ++ current.toList.flatMap Pick.pauses
  begun : ∀ pick ∈ past ++ current.toList, ∃ earlier message later,
    messages = earlier ++ message :: later ∧ Begins answers preference earlier message pick
  ended : ∀ pick ∈ past, ∃ message earlier later, pick.ending = some message ∧
    messages = earlier ++ message :: later ∧ Ends answers preference earlier message pick
  goesOn : ∀ pick, current = some pick → pick.ending = none
  underWay : ∀ epoch, UnderWay answers preference messages epoch ↔
    current.map (·.epoch) = some epoch
  older : ∀ pick ∈ past, ∀ pick', current = some pick' → pick.epoch < pick'.epoch
  le : ∀ pick ∈ past ++ current.toList,
    pick.epoch ≤ (outcome answers preference messages).state.epoch
  waiting : (outcome answers preference messages).state.session.waiting =
    current.bind (·.player)

variable {answers preference} {past : List Pick} {current : Option Pick} {message : Message}

/-- What is known of how picks began holds on when another message is taken. -/
theorem Kept.begun_concat (h : Kept answers preference messages past current)
    (message : Message) : ∀ pick ∈ past ++ current.toList, ∃ earlier first later,
      messages ++ [message] = earlier ++ first :: later ∧
        Begins answers preference earlier first pick := by
  intro pick hpick
  obtain ⟨earlier, first, later, heq, hbegins⟩ := h.begun pick hpick
  exact ⟨earlier, first, later ++ [message], by simp [heq], hbegins⟩

/-- What is known of how picks ended holds on when another message is taken. -/
theorem Kept.ended_concat (h : Kept answers preference messages past current)
    (message : Message) : ∀ pick ∈ past, ∃ last earlier later, pick.ending = some last ∧
      messages ++ [message] = earlier ++ last :: later ∧
        Ends answers preference earlier last pick := by
  intro pick hpick
  obtain ⟨last, earlier, later, hlast, heq, hends⟩ := h.ended pick hpick
  exact ⟨last, earlier, later ++ [message], hlast, by simp [heq], hends⟩

/-- A message after which the same pick goes on, and nobody has been paused or resumed. -/
theorem Kept.goOn (h : Kept answers preference messages past current) {trace : List Act}
    (hacts : acts (outcome answers preference (messages ++ [message])) =
      acts (outcome answers preference messages) ++ trace)
    (hcalls : trace.filterMap Act.call? = []) (hepochs : trace.filterMap Act.pickStarted? = [])
    (hunder : ∀ epoch, UnderWay answers preference (messages ++ [message]) epoch ↔
      UnderWay answers preference messages epoch)
    (hwaiting : (outcome answers preference (messages ++ [message])).state.session.waiting =
      (outcome answers preference messages).state.session.waiting) :
    Kept answers preference (messages ++ [message]) past current where
  epochs := by
    rw [pickStarted_eq, hacts, List.filterMap_append, hepochs, List.append_nil, ← pickStarted_eq,
      h.epochs]
  calls := by
    rw [pauses_eq, hacts, List.filterMap_append, hcalls, List.append_nil, ← pauses_eq, h.calls]
  begun := h.begun_concat message
  ended := h.ended_concat message
  goesOn := h.goesOn
  underWay epoch := by rw [hunder, h.underWay]
  older := h.older
  le pick hpick := Nat.le_trans (h.le pick hpick)
    (epoch_le_outcome_append answers preference messages [message])
  waiting := by rw [hwaiting, h.waiting]

/-- When the answer to a pick is fetched, the pick goes on. -/
theorem Kept.answered (h : Kept answers preference messages past current) {number : Nat}
    {answer : Option Track} {track : Track} {matcher : Matcher}
    (hpick : (outcome answers preference messages).state.session.inFlight = some ⟨number, .pick⟩)
    (hacts : acts (outcome answers preference
        (messages ++ [.completion (.picked number answer)])) =
      acts (outcome answers preference messages) ++
        [.fetchStarted ((outcome answers preference messages).state.epoch + 1) track matcher,
          .downloading track])
    (hsession : (outcome answers preference
        (messages ++ [.completion (.picked number answer)])).state.session =
      { (outcome answers preference messages).state.session with
        selection := some track
        inFlight := some ⟨(outcome answers preference messages).state.epoch + 1,
          .fetch track matcher⟩ }) :
    Kept answers preference (messages ++ [.completion (.picked number answer)]) past current := by
  refine h.goOn hacts rfl rfl (fun epoch => ?_) (by rw [hsession])
  have hcurrent : current.map (·.epoch) = some number :=
    (h.underWay number).1 ⟨_, hpick, Or.inl rfl⟩
  rw [underWay_concat_of_answered hpick (congrArg Session.inFlight hsession) (by simp) rfl,
    h.underWay, hcurrent]
  exact ⟨fun heq => heq ▸ rfl, fun heq => (Option.some.inj heq).symm⟩

/-! ## From one pick to the next -/

variable (answers preference) in
/-- A message by which a run leaves the pick that goes on and begins the next, where there are such:
`closing` is done for the one, and `trace` for the other. -/
structure Passes (messages : List Message) (message : Message) (current next : Option Pick)
    (closing trace : List Act) : Prop where
  acts : acts (outcome answers preference (messages ++ [message])) =
    acts (outcome answers preference messages) ++ (closing ++ trace)
  calls : closing.filterMap Act.call? = current.toList.flatMap fun pick => pick.resumes message
  epochs : closing.filterMap Act.pickStarted? = []
  opens : Opens (outcome answers preference messages).state.player
    (outcome answers preference messages).state.epoch trace
    (outcome answers preference (messages ++ [message])).state.session next
  answer : ∀ epoch answer, message = .completion (.picked epoch answer) →
    (outcome answers preference (messages ++ [message])).state.session.inFlight = none
  way : ∀ pick, current = some pick →
    EndsPick (outcome answers preference messages).state pick.epoch message
  shown : ∀ number result player, message = .completion (.fetched number result) →
    (outcome answers preference messages).state.session.waiting = some player →
    ∃ shown event resumed, (outcome answers preference (messages ++ [message])).effects =
      (outcome answers preference messages).effects ++ shown ++ [.notified event] ++ resumed ∧
    Settles result event ∧ CallTrace player .resume resumed

section Passing

variable {next : Option Pick} {closing trace : List Act}
  (hp : Passes answers preference messages message current next closing trace)

include hp

theorem Passes.pauses : (outcome answers preference (messages ++ [message])).pauses =
    (outcome answers preference messages).pauses ++
      (current.toList.flatMap fun pick => pick.resumes message) ++
      next.toList.flatMap Pick.pauses := by
  rw [pauses_eq, hp.acts, List.filterMap_append, List.filterMap_append, hp.calls, hp.opens.calls,
    ← pauses_eq, List.append_assoc]

theorem Passes.underWay (epoch : Nat) :
    UnderWay answers preference (messages ++ [message]) epoch ↔
      next.map (·.epoch) = some epoch := by
  rw [underWay_concat_of_newer hp.opens.newer hp.answer, hp.opens.inFlight]

theorem Passes.begins {pick : Pick} (hnext : next = some pick) :
    Begins answers preference messages message pick := by
  subst hnext
  refine ⟨?_, (hp.opens.inFlight _).2 rfl, ⟨_, by simpa using hp.pauses⟩⟩
  rw [hp.opens.pick pick rfl]

variable (h : Kept answers preference messages past current)

include h

theorem Passes.ends {pick : Pick} (hcurrent : current = some pick) :
    Ends answers preference messages message (pick.ended message) := by
  subst hcurrent
  refine ⟨(h.underWay _).2 rfl, fun hafter => ?_, hp.way pick rfl,
    ⟨next.toList.flatMap Pick.pauses, by simpa using hp.pauses⟩, ?_⟩
  · obtain ⟨next, rfl, hepoch⟩ := Option.map_eq_some_iff.1 ((hp.underWay _).1 hafter)
    have hle := h.le pick (by simp)
    rw [← Pick.epoch_ended pick message, ← hepoch, hp.opens.pick next rfl] at hle
    exact absurd hle (Nat.not_succ_le_self _)
  · intro number result player hmessage hplayer
    exact hp.shown number result player hmessage (by rw [h.waiting]; exact hplayer)

/-- All picks but the next are older. -/
theorem Passes.le : ∀ pick ∈ past ++ (current.map (·.ended message)).toList,
    pick.epoch ≤ (outcome answers preference messages).state.epoch := by
  intro pick hpick
  rcases List.mem_append.1 hpick with hpast | hcurrent
  · exact h.le pick (List.mem_append_left _ hpast)
  · obtain ⟨pick, rfl, rfl⟩ := Option.map_eq_some_iff.1 (Option.mem_toList.1 hcurrent)
    exact h.le pick (by simp)

theorem Kept.pass : Kept answers preference (messages ++ [message])
    (past ++ (current.map (·.ended message)).toList) next where
  epochs := by
    rw [pickStarted_eq, hp.acts, List.filterMap_append, List.filterMap_append, hp.epochs,
      hp.opens.epochs, ← pickStarted_eq, h.epochs]
    cases current <;> simp
  calls := by
    rw [hp.pauses, h.calls]
    cases current <;> simp
  begun pick hpick := by
    simp only [List.mem_append, Option.mem_toList, Option.map_eq_some_iff, or_assoc] at hpick
    rcases hpick with hpast | ⟨pick, hcurrent, rfl⟩ | hnext
    · exact h.begun_concat message pick (List.mem_append_left _ hpast)
    · obtain ⟨earlier, first, later, heq, hbegins⟩ :=
        h.begun_concat message pick (by simp [hcurrent])
      exact ⟨earlier, first, later, heq, hbegins.of_ended⟩
    · exact ⟨messages, message, [], rfl, hp.begins hnext⟩
  ended pick hpick := by
    simp only [List.mem_append, Option.mem_toList, Option.map_eq_some_iff] at hpick
    rcases hpick with hpast | ⟨pick, hcurrent, rfl⟩
    · exact h.ended_concat message pick hpast
    · exact ⟨message, messages, [], rfl, rfl, hp.ends h hcurrent⟩
  goesOn pick hnext := by
    subst hnext
    rw [hp.opens.pick pick rfl]
  underWay := hp.underWay
  older pick hpick next hnext := by
    subst hnext
    rw [hp.opens.pick next rfl]
    exact Nat.lt_succ_of_le (hp.le h pick hpick)
  le pick hpick := by
    rcases List.mem_append.1 hpick with hover | hnext
    · exact Nat.le_trans (hp.le h pick hover)
        (epoch_le_outcome_append answers preference messages _)
    · have hflight := (hp.opens.inFlight pick.epoch).2 (by rw [Option.mem_toList.1 hnext]; rfl)
      exact Nat.le_of_eq ((tidy_outcome answers preference _).newest _ hflight)
  waiting := hp.opens.waiting

end Passing

/-- A message after which nothing is in flight. -/
theorem Kept.over (h : Kept answers preference messages past current) {closing : List Act}
    (hacts : acts (outcome answers preference (messages ++ [message])) =
      acts (outcome answers preference messages) ++ closing)
    (hflight : (outcome answers preference (messages ++ [message])).state.session.inFlight = none)
    (hwaiting : (outcome answers preference (messages ++ [message])).state.session.waiting = none)
    (hcalls : closing.filterMap Act.call? =
      current.toList.flatMap fun pick => pick.resumes message)
    (hepochs : closing.filterMap Act.pickStarted? = [])
    (hway : ∀ pick, current = some pick →
      EndsPick (outcome answers preference messages).state pick.epoch message)
    (hshown : ∀ number result player, message = .completion (.fetched number result) →
      (outcome answers preference messages).state.session.waiting = some player →
      ∃ shown event resumed, (outcome answers preference (messages ++ [message])).effects =
        (outcome answers preference messages).effects ++ shown ++ [.notified event] ++ resumed ∧
      Settles result event ∧ CallTrace player .resume resumed) :
    Kept answers preference (messages ++ [message])
      (past ++ (current.map (·.ended message)).toList) none := by
  rw [← List.append_nil closing] at hacts
  exact h.pass ⟨hacts, hcalls, hepochs, opens_nothing _ _ hflight hwaiting,
    fun _ _ _ => hflight, hway, hshown⟩

/-! ## The end of a fetch -/

section Fetched

variable {run : Run Manager} {player : AttachedPlayer}

/-- A player that waits is resumed after the listeners know what has come of the fetch. -/
theorem effects_fetchCompleted (hwaiting : run.state.session.waiting = some player)
    (result : Except SubtitleError Subtitle) :
    ∃ shown event resumed, (fetchCompleted answers result run).effects =
        run.effects ++ shown ++ [.notified event] ++ resumed ∧
      Settles result event ∧ CallTrace player .resume resumed := by
  cases result with
  | ok subtitle =>
    obtain ⟨resumed, hresumed, heq⟩ := effects_releasePause answers
      (render (Rendering.activate answers run.state.player subtitle) run)
    have htrace : CallTrace player .resume resumed := by
      change Resumes run.state.session.waiting resumed at hresumed
      rwa [hwaiting] at hresumed
    rcases Rendering.activate_cases answers run.state.player subtitle
      ⟨run.state.rendering, run.effects⟩ with ⟨shown, -, hactive⟩ | ⟨p, trace, -, -, -, hactive⟩
    · refine ⟨shown, .activated subtitle, resumed, heq.trans ?_, Or.inl rfl, htrace⟩
      rw [render, Run.within, hactive]
    · refine ⟨.called p (.subtitleFile subtitle.file) none :: trace,
        .nativeActivated subtitle.file, resumed, heq.trans ?_, Or.inr rfl, htrace⟩
      rw [render, Run.within, hactive]
  | error cause =>
    obtain ⟨cleared, resumed, -, hresumed, heq⟩ := effects_fetchCompleted_error answers run cause
    rw [hwaiting] at hresumed
    refine ⟨failureReport cause ++ cleared, .disabled, resumed, ?_, rfl, hresumed⟩
    rw [heq, List.append_assoc _ _ cleared]

theorem effects_handle_fetched {number : Nat} {track : Track} {m : Matcher}
    (hop : run.state.session.inFlight = some ⟨number, .fetch track m⟩)
    (hwaiting : run.state.session.waiting = some player) (result : Except SubtitleError Subtitle) :
    ∃ shown event resumed,
      (handle answers run (.completion (.fetched number result))).effects =
        run.effects ++ shown ++ [.notified event] ++ resumed ∧
      Settles result event ∧ CallTrace player .resume resumed := by
  rw [handle_fetched hop]
  exact effects_fetchCompleted (by exact hwaiting) result

end Fetched

/-! ## Whole runs -/

theorem Message.changesPlayback_of_start {request : PlayRequest}
    (h : message.start? = some request) : message.changesPlayback = true := by
  simp [Message.changesPlayback, h]

theorem Message.changesPlayback_of_stop (h : message.isStop = true) :
    message.changesPlayback = true := by
  simp [Message.changesPlayback, h]

/-- When a playback starts or stops, nobody is resumed. -/
theorem Pick.resumes_of_changesPlayback (hmessage : message.changesPlayback = true)
    (current : Option Pick) : (current.toList.flatMap fun pick => pick.resumes message) = [] := by
  cases current <;> simp [Pick.resumes, hmessage]

/-- Otherwise the player that waits is resumed, which is the one of the pick that goes on. -/
theorem Kept.released (h : Kept answers preference messages past current)
    (hmessage : message.changesPlayback = false) :
    (outcome answers preference messages).state.session.released.filterMap Act.call? =
      current.toList.flatMap fun pick => pick.resumes message := by
  rw [Session.call?_released, h.waiting]
  cases current <;> simp [Pick.resumes, hmessage]

/-- The pick that goes on and the one in flight are the same. -/
theorem Kept.epoch_eq (h : Kept answers preference messages past current) {number : Nat}
    (hop : (outcome answers preference messages).state.session.inFlight = some ⟨number, .pick⟩)
    {pick : Pick} (hpick : current = some pick) : pick.epoch = number := by
  have hcurrent := (h.underWay number).1 ⟨_, hop, Or.inl rfl⟩
  rw [hpick] at hcurrent
  exact Option.some.inj hcurrent

/-- What a message makes of a chronicle. -/
theorem Kept.step (h : Kept answers preference messages past current) (message : Message) :
    ∃ past' current', Kept answers preference (messages ++ [message]) past' current' := by
  obtain ⟨trace, hacts, hresponse⟩ := responds_outcome answers preference messages message
  generalize hsession : (outcome answers preference (messages ++ [message])).state.session =
    session at hresponse
  generalize hepoch : (outcome answers preference (messages ++ [message])).state.epoch =
    epoch at hresponse
  cases hresponse with
  | rest =>
    refine ⟨past, current, h.goOn hacts rfl rfl (fun epoch => ?_) (by rw [hsession])⟩
    exact underWay_concat_of_eq (congrArg Session.inFlight hsession)
  | answered hop => exact ⟨past, current, h.answered hop hacts hsession⟩
  | @select track _ _ _ hbegin =>
    obtain ⟨next, hopens⟩ := opens_begin hbegin rfl rfl
    rw [← hsession] at hopens
    refine ⟨_, next, h.pass ⟨hacts, ?_, by simp, hopens, ?_, fun _ _ => .selected track, ?_⟩⟩
    · rw [List.filterMap_append, Session.call?_givenUp, List.nil_append]
      exact h.released rfl
    · intro _ _ hmessage
      cases hmessage
    · intro _ _ _ hmessage
      cases hmessage
  | start id hstart hbegin =>
    obtain ⟨next, hopens⟩ := opens_begin hbegin rfl rfl
    rw [← hsession] at hopens
    have hchange := Message.changesPlayback_of_start hstart
    refine ⟨_, next, h.pass ⟨hacts, ?_, by simp, hopens, ?_, fun _ _ => .played hchange, ?_⟩⟩
    · rw [Session.call?_givenUp, Pick.resumes_of_changesPlayback hchange]
    · rintro _ _ rfl
      cases hchange
    · rintro _ _ _ rfl
      cases hchange
  | disable =>
    refine ⟨_, _, h.over hacts ?_ ?_ ?_ (by simp) (fun _ _ => .disabled) ?_⟩
    · rw [hsession]
    · rw [hsession]
    · rw [List.filterMap_append, Session.call?_givenUp, List.nil_append]
      exact h.released rfl
    · intro _ _ _ hmessage
      cases hmessage
  | stop hstop =>
    have hchange := Message.changesPlayback_of_stop hstop
    refine ⟨_, _, h.over hacts ?_ ?_ ?_ (by simp) (fun _ _ => .played hchange) ?_⟩
    · rw [hsession]
    · rw [hsession]
    · rw [Session.call?_givenUp, Pick.resumes_of_changesPlayback hchange]
    · rintro _ _ _ rfl
      cases hchange
  | declined hop hnone =>
    refine ⟨_, _, h.over hacts ?_ ?_ (h.released rfl) (by simp) (fun pick hpick => ?_) ?_⟩
    · rw [hsession]
    · rw [hsession]
    · rw [h.epoch_eq hop hpick]
      exact .declined hop hnone
    · intro _ _ _ hmessage
      cases hmessage
  | fetched subtitle hop =>
    refine ⟨_, _, h.over hacts ?_ ?_ (h.released rfl) (by simp) (fun _ _ => .fetched hop _) ?_⟩
    · rw [hsession]
    · rw [hsession]
    · intro _ _ player hmessage hplayer
      cases hmessage
      rw [outcome_concat]
      exact effects_handle_fetched hop hplayer _
  | failed cause hop =>
    refine ⟨_, _, h.over hacts ?_ ?_ (h.released rfl) ?_ (fun _ _ => .fetched hop _) ?_⟩
    · rw [hsession]
    · rw [hsession]
    · exact Session.pickStarted?_released _
    · intro _ _ player hmessage hplayer
      cases hmessage
      rw [outcome_concat]
      exact effects_handle_fetched hop hplayer _

variable (answers preference messages)

theorem kept_outcome : ∃ past current, Kept answers preference messages past current := by
  induction messages using List.reverseRecOn with
  | nil =>
    refine ⟨[], none, rfl, rfl, by simp, by simp, by simp, fun epoch => ?_, by simp, by simp, rfl⟩
    constructor
    · rintro ⟨op, hop, -⟩
      cases hop
    · intro h
      cases h
  | append_singleton messages message ih =>
    obtain ⟨past, current, h⟩ := ih
    exact h.step message

variable {answers preference messages}

/-- Nothing that is over goes on. -/
theorem Kept.not_underWay (h : Kept answers preference messages past current) {pick : Pick}
    (hpick : pick ∈ past) : ¬ UnderWay answers preference messages pick.epoch := by
  intro hunder
  obtain ⟨next, hnext, hepoch⟩ := Option.map_eq_some_iff.1 ((h.underWay _).1 hunder)
  exact absurd hepoch (Nat.ne_of_gt (h.older pick hpick next hnext))

theorem Kept.chronicle (h : Kept answers preference messages past current) :
    Chronicle answers preference messages (past ++ current.toList) where
  epochs := h.epochs
  calls := by
    rw [h.calls, List.flatMap_append]
    cases hcurrent : current with
    | none => rfl
    | some pick => simp [Pick.calls_of_goesOn (h.goesOn pick hcurrent)]
  begun := h.begun
  goesOn pick hpick := by
    rcases List.mem_append.1 hpick with hpast | hcurrent
    · obtain ⟨message, _, _, hending, -⟩ := h.ended pick hpast
      simp [hending, h.not_underWay hpast]
    · have hsome := Option.mem_toList.1 hcurrent
      simp [h.goesOn pick hsome, (h.underWay pick.epoch).2 (by rw [hsome]; rfl)]
  ended pick hpick message hending := by
    rcases List.mem_append.1 hpick with hpast | hcurrent
    · obtain ⟨last, earlier, later, hlast, heq, hends⟩ := h.ended pick hpast
      obtain rfl := Option.some.inj (hlast.symm.trans hending)
      exact ⟨earlier, later, heq, hends⟩
    · rw [h.goesOn pick (Option.mem_toList.1 hcurrent)] at hending
      cases hending
  waiting player := by
    rw [h.waiting]
    constructor
    · intro hwaiting
      obtain ⟨pick, rfl, hplayer⟩ := Option.bind_eq_some_iff.1 hwaiting
      exact ⟨pick, by simp, hplayer, (h.underWay _).2 rfl⟩
    · rintro ⟨pick, hpick, hplayer, hunder⟩
      rcases List.mem_append.1 hpick with hpast | hcurrent
      · exact absurd hunder (h.not_underWay hpast)
      · rw [Option.mem_toList.1 hcurrent]
        exact hplayer

variable (answers preference messages)

/-- **Pauses and resumes are balanced.** Whatever players are asked to pause and to resume in a run
follows from its picks. The player that still waits in the end is resumed when the manager gives up
what is in flight; up to then, only a player that has just been paused is resumed. -/
theorem pauses_balanced :
    (∃ picks, Chronicle answers preference messages picks) ∧
      (cancelInFlight answers (outcome answers preference messages)).pauses =
        (outcome answers preference messages).pauses ++
          ((outcome answers preference messages).state.session.waiting.map
            fun p => (p, PlayerCall.resume)).toList ∧
      ResumesPaused (cancelInFlight answers (outcome answers preference messages)).pauses := by
  obtain ⟨past, current, h⟩ := kept_outcome answers preference messages
  have hcancel : (cancelInFlight answers (outcome answers preference messages)).pauses =
      (outcome answers preference messages).pauses ++
        ((outcome answers preference messages).state.session.waiting.map
          fun p => (p, PlayerCall.resume)).toList := by
    rw [pauses_eq, acts_cancelInFlight, List.filterMap_append, List.filterMap_append,
      Session.call?_givenUp, Session.call?_released, List.append_nil, ← pauses_eq]
  refine ⟨⟨_, h.chronicle⟩, hcancel, ?_⟩
  -- Giving up resumes like a message that ends the pick.
  have hpicks : (cancelInFlight answers (outcome answers preference messages)).pauses =
      (past ++ (current.map (·.ended (.call (.select .none)))).toList).flatMap Pick.calls := by
    rw [hcancel, h.calls, h.waiting]
    cases current <;> simp [Pick.resumes, Message.changesPlayback, Message.isStop, Message.start?]
  rw [hpicks]
  exact resumesPaused_picks _

end Manager

end Subtitler
