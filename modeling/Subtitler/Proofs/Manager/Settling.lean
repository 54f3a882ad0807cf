import Subtitler.Proofs.Manager.Failure
import Subtitler.Proofs.Manager.Fetching

/-!
# What becomes of a selected track

Between two calls nothing happens to the manager but that operations end (`Leads`). These ends do
not select another track, unless a fetch fails: then there are no subtitles any more. They start a
fetch at most, when the user has picked a file, and never a pick.

**Theorem (`chose_applySelection`, `lasting_chose`).** A track that is the first to be selected
determines what is started from then on (`Chose`), whatever operations end:

- without subtitles, nothing is started;
- for a custom track without a file, one pick, and after it no other pick;
- any other track stays selected, until fetching it fails.
-/

namespace Subtitler.Manager

variable {answers : Answers} {run run' : Run Manager}

/-! ## Calls with ends of operations between them -/

/-- Calls lead from a run to another one. They are made one after the other; before, between and
after them, operations may end, and the program may write. An end that comes too late, or of an
operation that was never started, is among the ends. -/
inductive Leads (answers : Answers) : List ManagerCall → Run Manager → Run Manager → Prop
  | done (run : Run Manager) : Leads answers [] run run
  | call {c : ManagerCall} {calls : List ManagerCall} {run run' : Run Manager}
      (h : Leads answers calls (call answers c run) run') : Leads answers (c :: calls) run run'
  | complete (completion : Completion) {calls : List ManagerCall} {run run' : Run Manager}
      (h : Leads answers calls (complete answers completion run) run') :
      Leads answers calls run run'
  | wrote (text : String) {calls : List ManagerCall} {run run' : Run Manager}
      (h : Leads answers calls (run.emit (.wrote text)) run') : Leads answers calls run run'
  | logged (entry : LogEntry) {calls : List ManagerCall} {run run' : Run Manager}
      (h : Leads answers calls (run.emit (.logged entry)) run') : Leads answers calls run run'

/-- What holds of a run still holds when operations end and when the program writes. -/
structure Lasting (answers : Answers) (I : Run Manager → Prop) : Prop where
  complete : ∀ run completion, I run → I (complete answers completion run)
  emit : ∀ run effect, effect.act? = none → I run → I (run.emit effect)

theorem Leads.keep {I : Run Manager → Prop} (hI : Lasting answers I)
    (h : Leads answers [] run run') (hrun : I run) : I run' := by
  generalize hcalls : ([] : List ManagerCall) = calls at h
  induction h with
  | done => exact hrun
  | call => cases hcalls
  | complete completion _ ih => exact ih (hI.complete _ completion hrun) hcalls
  | wrote text _ ih => exact ih (hI.emit _ _ rfl hrun) hcalls
  | logged entry _ ih => exact ih (hI.emit _ _ rfl hrun) hcalls

/-- What is kept until the next call holds when that call is made. -/
theorem Leads.next {I : Run Manager → Prop} (hI : Lasting answers I) {c : ManagerCall}
    {calls : List ManagerCall} (h : Leads answers (c :: calls) run run') (hrun : I run) :
    ∃ run₁, I run₁ ∧ Leads answers calls (Manager.call answers c run₁) run' := by
  generalize hcalls : c :: calls = all at h
  induction h with
  | done => cases hcalls
  | call h =>
    cases hcalls
    exact ⟨_, hrun, h⟩
  | complete completion _ ih => exact ih (hI.complete _ completion hrun) hcalls
  | wrote text _ ih => exact ih (hI.emit _ _ rfl hrun) hcalls
  | logged entry _ ih => exact ih (hI.emit _ _ rfl hrun) hcalls

theorem Leads.append {calls more : List ManagerCall} {run₁ : Run Manager}
    (h : Leads answers calls run run₁) (hmore : Leads answers more run₁ run') :
    Leads answers (calls ++ more) run run' := by
  induction h with
  | done => exact hmore
  | call _ ih => exact .call (ih hmore)
  | complete completion _ ih => exact .complete completion (ih hmore)
  | wrote text _ ih => exact .wrote text (ih hmore)
  | logged entry _ ih => exact .logged entry (ih hmore)

theorem leads_handleAll (calls : List ManagerCall) (run : Run Manager) :
    Leads answers calls run (handleAll answers (calls.map .call) run) := by
  induction calls generalizing run with
  | nil => exact .done run
  | cons c calls ih => exact .call (ih (handle answers run (.call c)))

theorem complete_of_idle (h : run.state.session.inFlight = none) (completion : Completion) :
    complete answers completion run = run := by
  simp [complete, h]

/-! ## Before the first selection -/

/-- Nothing has been selected or started yet. -/
structure Untouched (preference : Preference) (run : Run Manager) : Prop where
  preference : run.state.preference = preference
  session : run.state.session = {}
  acts : acts run = []

variable {preference : Preference}

theorem untouched_fresh : Untouched preference (fresh preference) := ⟨rfl, rfl, rfl⟩

theorem lasting_untouched : Lasting answers (Untouched preference) where
  complete run completion h := by
    rwa [complete_of_idle (by rw [h.session])]
  emit run effect he h := ⟨h.preference, h.session, by rw [acts_emit, he, h.acts]; rfl⟩

theorem Untouched.setSize (h : Untouched preference run) (size : UInt32) :
    Untouched preference (Manager.setSize size run) := by
  unfold Manager.setSize
  split_ifs
  · exact h
  · refine ⟨h.preference, h.session, ?_⟩
    rw [Run.notify, acts_emit]
    exact (List.append_nil _).trans h.acts

theorem Untouched.render {step : Run Rendering → Run Rendering} (hstep : Rendering.Inert step)
    (h : Untouched preference run) : Untouched preference (Manager.render step run) :=
  ⟨h.preference, h.session, (acts_render run hstep).trans h.acts⟩

theorem Untouched.setPlayer (h : Untouched preference run) (player : Option AttachedPlayer) :
    Untouched preference (Manager.setPlayer answers player run) := by
  refine setPlayer_invariant answers run player ⟨h.preference, h.session, h.acts⟩ ?_ ?_
  · exact fun run previous h => h.render (Rendering.inert_detach answers previous)
  · exact fun run h => h.render (Rendering.inert_redispatch answers player)

/-! ## After the first selection -/

/-- The reasons that listeners were told for fetches that have failed. -/
def reasons (run : Run Manager) : List String := run.events.filterMap SubtitleEvent.reason?

theorem started_append {trace : List Act} (h : acts run' = acts run ++ trace) :
    (ledger run').started = (ledger run).started ++ trace.filterMap Act.started? := by
  rw [started_eq, h, List.filterMap_append, ← started_eq]

theorem reasons_append {trace : List Act} (h : acts run' = acts run ++ trace) :
    reasons run' = reasons run ++ trace.filterMap Act.reason? := by
  rw [reasons, reasons_eq, h, List.filterMap_append, ← reasons_eq, ← reasons]

/-- What has become of a track that was the first to be selected: there are no subtitles; the user
was asked for a file, once; or the track is selected, unless fetching it has failed. -/
inductive Chose (run : Run Manager) : Track → Prop
  | off (hs : run.state.session.selection = some .none) (hf : run.state.session.inFlight = none)
      (hl : (ledger run).started = []) (hr : reasons run = []) : Chose run .none
  | own {pick : InFlight} {others : List InFlight} (hl : (ledger run).started = pick :: others)
      (hpick : pick.operation = .pick) (hothers : ∀ op ∈ others, op.operation ≠ .pick) :
      Chose run (.custom [])
  | found {track : Track} (hn : track.isNone = false) (hp : track.needsPick = false)
      (hs : run.state.session.selection = some track)
      (hf : ∀ op, run.state.session.inFlight = some op → ∃ m, op.operation = .fetch track m)
      (hr : reasons run = []) : Chose run track
  | lost {track : Track} (hn : track.isNone = false) (hp : track.needsPick = false)
      (hs : run.state.session.selection = some .none) (hf : run.state.session.inFlight = none)
      (hr : reasons run ≠ []) : Chose run track

variable {track : Track}

theorem Chose.congr (h : Chose run track) (hsession : run'.state.session = run.state.session)
    (hacts : acts run' = acts run) : Chose run' track := by
  have hstarted : (ledger run').started = (ledger run).started := by
    rw [started_eq, hacts, started_eq]
  have hreasons : reasons run' = reasons run := by
    rw [reasons, reasons_eq, hacts, ← reasons_eq, ← reasons]
  cases h with
  | off hs hf hl hr =>
    exact .off (hsession ▸ hs) (hsession ▸ hf) (hstarted ▸ hl) (hreasons ▸ hr)
  | own hl hpick hothers => exact .own (hstarted ▸ hl) hpick hothers
  | found hn hp hs hf hr => exact .found hn hp (hsession ▸ hs) (hsession ▸ hf) (hreasons ▸ hr)
  | lost hn hp hs hf hr => exact .lost hn hp (hsession ▸ hs) (hsession ▸ hf) (hreasons ▸ hr)

/-- Giving up what is in flight and resuming a player neither start nor fail anything. -/
theorem filterMap_superseded {α : Type} {f : Act → Option α}
    (hcancelled : ∀ epoch, f (.cancelled epoch) = none)
    (hresumed : ∀ player, f (.resumed player) = none) (session : Session) (trace : List Act) :
    (session.givenUp ++ session.released ++ trace).filterMap f = trace.filterMap f := by
  rw [List.filterMap_append, List.filterMap_append, Session.filterMap_givenUp hcancelled,
    Session.filterMap_released hresumed]
  rfl

/-- **What a first selection comes to.** -/
theorem chose_applySelection (track : Track) (hstarted : (ledger run).started = [])
    (hreasons : reasons run = []) : Chose (applySelection answers track run) track := by
  obtain ⟨trace, hacts, hbegin⟩ := begin_applySelection answers run track
  have hl := started_append hacts
  rw [filterMap_superseded (fun _ => rfl) (fun _ => rfl), hstarted, List.nil_append] at hl
  have hr := reasons_append hacts
  rw [filterMap_superseded (fun _ => rfl) (fun _ => rfl), hreasons, List.nil_append] at hr
  generalize applySelection answers track run = next at hl hr hbegin
  generalize hsession : next.state.session = session at hbegin
  generalize next.state.epoch = epoch at hbegin
  cases hbegin with
  | nothing => exact .off (by rw [hsession]) (by rw [hsession]) hl hr
  | pick =>
    have hpick : (ledger next).started = [⟨run.state.epoch + 1, .pick⟩] := by
      rw [hl]
      cases run.state.player <;> rfl
    exact .own hpick rfl (by simp)
  | fetch hn hp =>
    refine .found hn hp (by rw [hsession]) (fun op hop => ?_) hr
    rw [hsession] at hop
    obtain rfl := Option.some.inj hop
    exact ⟨_, rfl⟩

theorem Chose.select (h : Chose run .none) (track : Track) :
    Chose (applySelection answers track run) track := by
  cases h with
  | off _ _ hl hr => exact chose_applySelection track hl hr
  | found hn | lost hn => cases hn

theorem Untouched.playbackStarted (h : Untouched preference run) (request : PlayRequest) :
    Chose (Manager.playbackStarted answers request run) (preference.resolve request) := by
  have hidle : run.state.session.isIdle = true := by
    rw [h.session]
    rfl
  have hstarted : (ledger run).started = [] := by
    rw [started_eq, h.acts]
    rfl
  have hreasons : reasons run = [] := by
    rw [reasons, reasons_eq, h.acts]
    rfl
  unfold Manager.playbackStarted
  rw [if_pos hidle, ← h.preference]
  exact chose_applySelection _ hstarted hreasons

/-! ## When operations end -/

/-- The end of an operation starts no pick. -/
theorem not_pick_of_completion {m : Manager} {completion : Completion} {trace : List Act}
    {session : Session} {epoch : Nat}
    (h : Response m (.completion completion) trace session epoch) :
    ∀ op ∈ trace.filterMap Act.started?, op.operation ≠ .pick := by
  have hreleased : m.session.released.filterMap Act.started? = [] :=
    Session.filterMap_released (fun _ => rfl) _
  cases h with
  | rest => simp
  | start _ hstart => cases hstart
  | stop hstop => cases hstop
  | answered => simp [Act.started?]
  | declined | fetched => simp [hreleased]
  | failed =>
    rw [List.filterMap_cons_none rfl, List.filterMap_cons_none rfl, hreleased]
    simp

theorem Chose.complete (h : Chose run track) (completion : Completion) :
    Chose (Manager.complete answers completion run) track := by
  -- What is in flight tells which responses can come: a pick, or a fetch of the track itself.
  obtain ⟨trace, hacts, hresponse⟩ := @responds_complete answers run completion
  cases h with
  | off hs hf hl hr =>
    rw [complete_of_idle hf]
    exact .off hs hf hl hr
  | lost hn hp hs hf hr =>
    rw [complete_of_idle hf]
    exact .lost hn hp hs hf hr
  | own hl hpick hothers =>
    refine .own ((started_append hacts).trans (by rw [hl, List.cons_append])) hpick fun op hop => ?_
    rcases List.mem_append.1 hop with hop | hop
    · exact hothers op hop
    · exact not_pick_of_completion hresponse op hop
  | found hn hp hs hf hr =>
    have hreasons := reasons_append hacts
    rw [hr, List.nil_append] at hreasons
    have hreleased : run.state.session.released.filterMap Act.reason? = [] :=
      Session.filterMap_released (fun _ => rfl) _
    generalize Manager.complete answers completion run = next at hreasons hresponse
    generalize hsession : next.state.session = session at hresponse
    generalize next.state.epoch = epoch at hresponse
    cases hresponse with
    | rest => exact .found hn hp (hsession ▸ hs) (hsession ▸ hf) hreasons
    | start _ hstart => cases hstart
    | stop hstop => cases hstop
    | answered hop | declined hop =>
      obtain ⟨m, hfetch⟩ := hf _ hop
      cases hfetch
    | fetched =>
      exact .found hn hp (by rw [hsession, hs]) (by simp [hsession]) (hreasons.trans hreleased)
    | failed cause =>
      exact .lost hn hp (by rw [hsession]) (by rw [hsession]) (by simp [hreasons, Act.reason?])

theorem lasting_chose (track : Track) : Lasting answers (Chose · track) where
  complete _ completion h := h.complete completion
  emit run effect he h := by
    refine h.congr rfl ?_
    rw [acts_emit, he]
    exact List.append_nil _

theorem Chose.setOffset (h : Chose run track) (offset : Int) :
    Chose (Manager.call answers (.setOffset offset) run) track :=
  h.congr rfl (acts_render run (Rendering.inert_setOffset answers _ offset))

end Subtitler.Manager
