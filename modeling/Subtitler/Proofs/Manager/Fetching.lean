import Subtitler.Proofs.Manager.Response

/-!
# What is fetched

Operations are started when a playback starts, when a track is selected, and when a pick is
answered. Whatever has happened before, they are about what is selected and played then.

**Theorem (`fetches_current`).** A fetch that is started is for the selected track, and its matcher
is made of the latest playback, if that has not stopped. A pick is started only for a custom track
without a file. Listeners are told of each fetch, in order.

What is played follows from the messages alone (`playing`), and the address and quality in the
session are those of what is played (`plays_outcome`).
-/

namespace Subtitler

/-! ## What is played -/

/-- What a message says about what is played: a request that is played from now on, or that nothing
is. -/
def Message.playback? (message : Message) : Option (Option PlayRequest) :=
  if message.isStop then some none else message.start?.map some

/-- The request that is played after some messages: the latest one, if it has not been stopped. -/
def playing (messages : List Message) : Option PlayRequest :=
  (messages.filterMap Message.playback?).getLast?.join

theorem playing_concat_of_none {messages : List Message} {message : Message}
    (h : message.playback? = none) : playing (messages ++ [message]) = playing messages := by
  simp [playing, h]

theorem playing_concat_of_some {messages : List Message} {message : Message}
    {request : Option PlayRequest} (h : message.playback? = some request) :
    playing (messages ++ [message]) = request := by
  simp [playing, h]

/-- A session is about what is played. -/
structure Session.Plays (request : Option PlayRequest) (session : Session) : Prop where
  url : session.url = request.map (·.url)
  quality : session.quality = request.bind (·.quality)

theorem Session.Plays.matcher {request : Option PlayRequest} {session : Session}
    (h : session.Plays request) :
    session.matcher = .ofPlayback (request.map (·.url)) (request.bind (·.quality)) := by
  rw [Session.matcher, h.url, h.quality]

/-! ## What operations are about -/

/-- An operation is about the selected track: a fetch for a track that has something to fetch, with
the given matcher, or a pick for a custom track without a file. -/
def Operation.Suits (selection : Option Track) (matcher : Matcher) : Operation → Prop
  | .fetch track m => selection = some track ∧ track ≠ .none ∧ track ≠ .custom [] ∧ m = matcher
  | .pick => selection = some (.custom [])

/-- The operation that an act starts. -/
def Act.started? : Act → Option InFlight
  | fetchStarted epoch track m => some ⟨epoch, .fetch track m⟩
  | pickStarted epoch => some ⟨epoch, .pick⟩
  | _ => none

/-- The track that listeners are told is being fetched. -/
def SubtitleEvent.downloading? : SubtitleEvent → Option Track
  | downloading track => some track
  | _ => none

/-- The track of which an act tells listeners that it is being fetched. -/
def Act.downloading? : Act → Option Track
  | downloading track => some track
  | _ => none

/-- The track that is fetched. -/
def InFlight.fetched? (op : InFlight) : Option Track :=
  match op.operation with
  | .fetch track _ => some track
  | .pick => none

/-- Acts and the session after them: at most one operation is started, it is in flight then, and it
is about the selected track. Listeners are told if it is a fetch. -/
structure Starts (trace : List Act) (session : Session) (op? : Option InFlight) : Prop where
  started : trace.filterMap Act.started? = op?.toList
  downloading : trace.filterMap Act.downloading? = (op?.bind InFlight.fetched?).toList
  inFlight : ∀ op, op? = some op → session.inFlight = some op
  suits : ∀ op, op? = some op → op.operation.Suits session.selection session.matcher

theorem starts_nothing {trace : List Act} (hstarted : trace.filterMap Act.started? = [])
    (hdownloading : trace.filterMap Act.downloading? = []) (session : Session) :
    Starts trace session none where
  started := hstarted
  downloading := hdownloading
  inFlight _ h := by cases h
  suits _ h := by cases h

/-- Giving up what is in flight and resuming a player start nothing. -/
theorem Starts.after {before trace : List Act} {session : Session} {op? : Option InFlight}
    (h : Starts trace session op?) (hstarted : before.filterMap Act.started? = [])
    (hdownloading : before.filterMap Act.downloading? = []) :
    Starts (before ++ trace) session op? where
  started := by rw [List.filterMap_append, hstarted, List.nil_append, h.started]
  downloading := by rw [List.filterMap_append, hdownloading, List.nil_append, h.downloading]
  inFlight := h.inFlight
  suits := h.suits

theorem starts_fetch {track : Track} (hn : track.isNone = false) (hp : track.needsPick = false)
    (epoch : Nat) (session : Session) :
    Starts [.fetchStarted epoch track session.matcher, .downloading track]
      { session with
        selection := some track
        inFlight := some ⟨epoch, .fetch track session.matcher⟩ }
      (some ⟨epoch, .fetch track session.matcher⟩) := by
  refine ⟨rfl, rfl, fun op h => h ▸ rfl, fun op h => ?_⟩
  obtain rfl := Option.some.inj h
  refine ⟨rfl, ?_, ?_, rfl⟩
  · rintro rfl
    cases hn
  · rintro rfl
    cases hp

theorem starts_begin {player : Option AttachedPlayer} {epoch epoch' : Nat}
    {session session' : Session} {track : Track} {trace : List Act}
    (h : Begin player epoch session track trace session' epoch') :
    ∃ op?, Starts trace session' op? := by
  cases h with
  | nothing => exact ⟨none, starts_nothing rfl rfl _⟩
  | pick =>
    refine ⟨some ⟨epoch + 1, .pick⟩, ?_, ?_, fun op h => h ▸ rfl, fun op h => ?_⟩
    · cases player <;> rfl
    · cases player <;> rfl
    · obtain rfl := Option.some.inj h
      rfl
  | fetch hn hp => exact ⟨_, starts_fetch hn hp (epoch + 1) session⟩

theorem Response.starts {m : Manager} {message : Message} {trace : List Act} {session : Session}
    {epoch : Nat} (h : Response m message trace session epoch) :
    ∃ op?, Starts trace session op? := by
  have hgivenUp : m.session.givenUp.filterMap Act.started? = [] ∧
      m.session.givenUp.filterMap Act.downloading? = [] :=
    ⟨Session.filterMap_givenUp (fun _ => rfl) _, Session.filterMap_givenUp (fun _ => rfl) _⟩
  have hreleased : m.session.released.filterMap Act.started? = [] ∧
      m.session.released.filterMap Act.downloading? = [] :=
    ⟨Session.filterMap_released (fun _ => rfl) _, Session.filterMap_released (fun _ => rfl) _⟩
  cases h with
  | rest => exact ⟨none, starts_nothing rfl rfl _⟩
  | select hbegin =>
    obtain ⟨op?, hstarts⟩ := starts_begin hbegin
    exact ⟨op?, hstarts.after (by simp [hgivenUp, hreleased]) (by simp [hgivenUp, hreleased])⟩
  | start _ _ hbegin =>
    obtain ⟨op?, hstarts⟩ := starts_begin hbegin
    exact ⟨op?, hstarts.after hgivenUp.1 hgivenUp.2⟩
  | disable =>
    exact ⟨none, starts_nothing (by simp [hgivenUp, hreleased]) (by simp [hgivenUp, hreleased]) _⟩
  | stop => exact ⟨none, starts_nothing hgivenUp.1 hgivenUp.2 _⟩
  | answered _ hn hp => exact ⟨_, starts_fetch hn hp _ m.session⟩
  | declined | fetched => exact ⟨none, starts_nothing hreleased.1 hreleased.2 _⟩
  | failed cause =>
    have hfailed : Starts ([.published Manager.fetchFailedMessage, .failed cause.message] ++
        m.session.released)
        { m.session with selection := some .none, inFlight := none, waiting := none } none :=
      (starts_nothing hreleased.1 hreleased.2 _).after rfl rfl
    exact ⟨none, hfailed⟩

/-! ## The session is about what is played -/

theorem Session.Plays.begin {player : Option AttachedPlayer} {epoch epoch' : Nat}
    {session session' : Session} {track : Track} {trace : List Act} {request : Option PlayRequest}
    (hplays : session.Plays request) (h : Begin player epoch session track trace session' epoch') :
    session'.Plays request := by
  cases h with
  | nothing | pick | fetch => exact ⟨hplays.url, hplays.quality⟩

theorem Response.plays {m : Manager} {message : Message} {trace : List Act} {session : Session}
    {epoch : Nat} (h : Response m message trace session epoch) {messages : List Message}
    (hm : m.session.Plays (playing messages)) :
    session.Plays (playing (messages ++ [message])) := by
  cases h with
  | rest _ hstop hstart =>
    rw [playing_concat_of_none (by simp [Message.playback?, hstop, hstart])]
    exact hm
  | select hbegin =>
    have hidle : ({ m.session with inFlight := none, waiting := none } : Session).Plays
      (playing messages) := ⟨hm.url, hm.quality⟩
    rw [playing_concat_of_none rfl]
    exact hidle.begin hbegin
  | @start _ request _ _ _ _ hstart hbegin =>
    have hstop : message.isStop = false := by
      cases message with
      | call c => cases c <;> first | rfl | cases hstart
      | bus e => cases e <;> first | rfl | cases hstart
      | completion => rfl
    have hplayback : message.playback? = some (some request) := by
      simp [Message.playback?, hstop, hstart]
    rw [playing_concat_of_some hplayback]
    exact Session.Plays.begin ⟨rfl, rfl⟩ hbegin
  | stop hstop =>
    have hplayback : message.playback? = some none := by simp [Message.playback?, hstop]
    rw [playing_concat_of_some hplayback]
    exact ⟨rfl, rfl⟩
  | disable | answered | declined | fetched | failed =>
    rw [playing_concat_of_none rfl]
    exact ⟨hm.url, hm.quality⟩

namespace Manager

variable (answers : Answers) (preference : Preference)

theorem plays_outcome (messages : List Message) :
    (outcome answers preference messages).state.session.Plays (playing messages) := by
  induction messages using List.reverseRecOn with
  | nil => exact ⟨rfl, rfl⟩
  | append_singleton messages message ih =>
    obtain ⟨trace, -, hresponse⟩ := responds_outcome answers preference messages message
    exact hresponse.plays ih

/-! ## Whole runs -/

theorem started_eq (run : Run Manager) :
    (ledger run).started = (acts run).filterMap Act.started? := by
  refine filterMap_effects (fun effect => ?_) run
  cases effect with
  | called player call => cases call <;> rfl
  | notified event => cases event <;> rfl
  | _ => rfl

theorem downloading_eq (run : Run Manager) :
    run.events.filterMap SubtitleEvent.downloading? =
      (acts run).filterMap Act.downloading? := by
  rw [Run.events, List.filterMap_filterMap]
  refine filterMap_effects (fun effect => ?_) run
  cases effect with
  | called player call => cases call <;> rfl
  | notified event => cases event <;> rfl
  | _ => rfl

/-- An operation is started by a message that comes after others. It is about what is selected
then, and a fetch is matched with what is played then. -/
structure StartedBy (earlier : List Message) (message : Message) (op : InFlight) : Prop where
  started : (ledger (outcome answers preference (earlier ++ [message]))).started =
    (ledger (outcome answers preference earlier)).started ++ [op]
  inFlight : (outcome answers preference (earlier ++ [message])).state.session.inFlight = some op
  suits : op.operation.Suits
    (outcome answers preference (earlier ++ [message])).state.session.selection
    (.ofPlayback ((playing (earlier ++ [message])).map (·.url))
      ((playing (earlier ++ [message])).bind (·.quality)))

/-- What the last message of a run starts. -/
theorem startedBy_cases (messages : List Message) (message : Message) : ∃ op?,
    (ledger (outcome answers preference (messages ++ [message]))).started =
      (ledger (outcome answers preference messages)).started ++ op?.toList ∧
    (outcome answers preference (messages ++ [message])).events.filterMap
        SubtitleEvent.downloading? =
      (outcome answers preference messages).events.filterMap SubtitleEvent.downloading? ++
        (op?.bind InFlight.fetched?).toList ∧
    ∀ op, op? = some op → StartedBy answers preference messages message op := by
  obtain ⟨trace, hacts, hresponse⟩ := responds_outcome answers preference messages message
  obtain ⟨op?, hstarts⟩ := hresponse.starts
  have hstarted : (ledger (outcome answers preference (messages ++ [message]))).started =
      (ledger (outcome answers preference messages)).started ++ op?.toList := by
    rw [started_eq, hacts, List.filterMap_append, hstarts.started, ← started_eq]
  refine ⟨op?, hstarted, ?_, fun op hop => ⟨?_, hstarts.inFlight op hop, ?_⟩⟩
  · rw [downloading_eq, hacts, List.filterMap_append, hstarts.downloading, ← downloading_eq]
  · rw [hstarted, hop]
    rfl
  · rw [← (plays_outcome answers preference (messages ++ [message])).matcher]
    exact hstarts.suits op hop

/-- **Every fetch is for what is selected and played.** Every operation that was ever started was
about what was selected and played when it was started, and listeners are told of the fetches, one
after the other. -/
theorem fetches_current (messages : List Message) :
    (∀ op ∈ (ledger (outcome answers preference messages)).started, ∃ earlier message later,
      messages = earlier ++ message :: later ∧
        StartedBy answers preference earlier message op) ∧
      (outcome answers preference messages).events.filterMap SubtitleEvent.downloading? =
        (ledger (outcome answers preference messages)).started.filterMap InFlight.fetched? := by
  induction messages using List.reverseRecOn with
  | nil =>
    refine ⟨fun op hop => ?_, rfl⟩
    cases hop
  | append_singleton messages message ih =>
    obtain ⟨hstartedBy, hdownloading⟩ := ih
    obtain ⟨op?, hstarted, htold, hlast⟩ := startedBy_cases answers preference messages message
    constructor
    · intro op hop
      rw [hstarted, List.mem_append, Option.mem_toList] at hop
      rcases hop with hbefore | hop
      · obtain ⟨earlier, first, later, heq, hfirst⟩ := hstartedBy op hbefore
        exact ⟨earlier, first, later ++ [message], by simp [heq], hfirst⟩
      · exact ⟨messages, message, [], rfl, hlast op hop⟩
    · rw [htold, hstarted, List.filterMap_append, hdownloading]
      cases op? with
      | none => rfl
      | some op => cases hfetched : op.fetched? <;> simp [hfetched]

end Manager

end Subtitler
