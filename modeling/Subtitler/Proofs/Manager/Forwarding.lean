import Subtitler.Proofs.Manager.Arrival
import Subtitler.Proofs.Manager.Settings

/-!
# From announcements to calls

The forwarder reads the announcements of a store and calls the manager. Here it reads one of them at
a time, so that others can have their turn between any two; a turn of its own is nothing but reading
one after the other (`runForwarder_eq_iterate`).

What a manager will hold when it has taken the calls that wait (`coming`) changes with what the
forwarder reads, and with nothing else, as long as nobody else asks for another preference or size.
-/

namespace Subtitler

/-! ## The forwarder -/

namespace Hub

/-- The announcement that the forwarder reads next. -/
def nextAnnouncement? (hub : Hub) : Option Announcement :=
  hub.forwarded.bind fun position => (hub.announcements.unread position).head?

/-- The forwarder reads one announcement. What has been dropped before it is logged. -/
def forwardOne (hub : Hub) : Hub :=
  match hub.forwarded with
  | none => hub
  | some position =>
    match hub.announcements.unread position with
    | [] => hub
    | a :: _ =>
      let missed := hub.announcements.missed position
      let run :=
        if missed = 0 then hub.run
        else hub.run.log .warn .manager s!"Missed {missed} subtitle setting events"
      a.call?.toList.foldl send
        { hub with run, forwarded := some (hub.announcements.resume position + 1) }

variable (hub : Hub)

@[simp] theorem run_send (call : ManagerCall) : (hub.send call).run = hub.run := by
  simp [send]

@[simp] theorem calls_send (call : ManagerCall) : (hub.send call).calls = hub.calls ++ [call] := by
  simp [send]

/-- Calls do not depend on how far the forwarder has come. -/
theorem foldl_send_forwarded (calls : List ManagerCall) (run : Run Manager)
    (forwarded : Option Nat) :
    calls.foldl send { hub with run, forwarded } =
      { calls.foldl send hub with run, forwarded } := by
  induction calls generalizing hub with
  | nil => rfl
  | cons call calls ih =>
    have hsend : ({ hub with run, forwarded } : Hub).send call =
        { hub.send call with run, forwarded } := by
      simp only [send, wake]
      split <;> rfl
    rw [List.foldl_cons, hsend, ih, List.foldl_cons]

end Hub

namespace Broadcast

variable {α : Type} {b : Broadcast α} {position : Nat}

/-- What is left when the next entry has been read. -/
theorem unread_tail {entry : α} {rest : List α} (h : b.unread position = entry :: rest) :
    b.unread (b.resume position + 1) = rest ∧ b.missed (b.resume position + 1) = 0 ∧
      b.resume position + 1 ≤ b.finish := by
  have hlt : b.resume position < b.finish := by
    refine Nat.lt_of_not_le fun hle => ?_
    rw [unread, List.drop_eq_nil_of_le hle] at h
    cases h
  have hresume : b.resume (b.resume position + 1) = b.resume position + 1 := by
    simp only [resume]
    omega
  refine ⟨?_, ?_, hlt⟩
  · rw [unread, hresume, ← List.tail_drop, ← unread, h, List.tail_cons]
  · rw [missed, hresume, Nat.sub_self]

/-- A reader to whom nothing is left has passed everything. -/
theorem finish_le_of_unread_nil (hcapacity : 0 < b.capacity) (h : b.unread position = []) :
    b.finish ≤ position := by
  have hle : b.finish ≤ b.resume position := List.drop_eq_nil_iff.1 h
  simp only [resume] at hle
  omega

end Broadcast

namespace Hub

@[simp] theorem announcements_foldl_send (calls : List ManagerCall) (hub : Hub) :
    (calls.foldl send hub).announcements = hub.announcements := by
  induction calls generalizing hub with
  | nil => rfl
  | cons call calls ih =>
    rw [List.foldl_cons, ih, send, wake]
    split <;> rfl

variable {hub : Hub} {position : Nat}

theorem runForwarder_of_forwarded (hforwarded : hub.forwarded = some position) :
    hub.runForwarder =
      { ((hub.announcements.unread position).filterMap Announcement.call?).foldl send hub with
        run := if hub.announcements.missed position = 0 then hub.run
          else hub.run.log .warn .manager
            s!"Missed {hub.announcements.missed position} subtitle setting events"
        forwarded := some hub.announcements.finish } := by
  simp only [runForwarder, hforwarded]
  exact foldl_send_forwarded _ _ _ _

theorem forwardOne_of_unread {a : Announcement} {rest : List Announcement}
    (hforwarded : hub.forwarded = some position)
    (hunread : hub.announcements.unread position = a :: rest) :
    ∃ run : Run Manager, run.state = hub.run.state ∧
      (run = if hub.announcements.missed position = 0 then hub.run
        else hub.run.log .warn .manager
          s!"Missed {hub.announcements.missed position} subtitle setting events") ∧
      hub.forwardOne = { a.call?.toList.foldl send hub with
        run, forwarded := some (hub.announcements.resume position + 1) } := by
  refine ⟨_, ?_, rfl, ?_⟩
  · split <;> rfl
  · simp only [forwardOne, hforwarded, hunread]
    exact foldl_send_forwarded _ _ _ _

/-- A turn of the forwarder is nothing but reading one announcement after the other. -/
theorem runForwarder_eq_iterate (hcapacity : 0 < hub.announcements.capacity)
    (hforwarded : hub.forwarded = some position) (hle : position ≤ hub.announcements.finish) :
    hub.runForwarder = forwardOne^[(hub.announcements.unread position).length] hub := by
  generalize hunread : hub.announcements.unread position = unread
  induction unread generalizing hub position with
  | nil =>
    have hposition : position = hub.announcements.finish :=
      Nat.le_antisymm hle (Broadcast.finish_le_of_unread_nil hcapacity hunread)
    have hmissed : hub.announcements.missed hub.announcements.finish = 0 := by
      simp [Broadcast.missed, Broadcast.resume]
    subst hposition
    simp only [runForwarder, hforwarded, hmissed, hunread, if_true, List.filterMap_nil,
      List.foldl_nil, List.length_nil, Function.iterate_zero_apply]
    rw [← hforwarded]
  | cons a rest ih =>
    obtain ⟨htail, hmissed, hnext⟩ := Broadcast.unread_tail hunread
    obtain ⟨run, -, hrun, hone⟩ := forwardOne_of_unread hforwarded hunread
    have hannouncements : hub.forwardOne.announcements = hub.announcements := by
      rw [hone]
      exact announcements_foldl_send _ _
    have hposition : hub.forwardOne.forwarded = some (hub.announcements.resume position + 1) := by
      rw [hone]
    have hcalls : (a :: rest).filterMap Announcement.call? =
        a.call?.toList ++ rest.filterMap Announcement.call? := by
      cases h : a.call? <;> simp [h]
    have hsend := foldl_send_forwarded (a.call?.toList.foldl send hub)
      (rest.filterMap Announcement.call?) run (some (hub.announcements.resume position + 1))
    have hturn : hub.runForwarder = hub.forwardOne.runForwarder := by
      rw [runForwarder_of_forwarded hforwarded, runForwarder_of_forwarded hposition,
        hannouncements, htail, if_pos hmissed, hunread, ← hrun, hone, hcalls, List.foldl_append,
        hsend]
    rw [hturn, List.length_cons, Function.iterate_succ_apply]
    rw [← hannouncements] at htail hnext hcapacity hposition
    exact ih hcapacity hposition hnext htail

end Hub

/-! ## What concerns the forwarder -/

namespace Hub

/-- The announcements and the forwarder's position among them. -/
def followed (hub : Hub) : Broadcast Announcement × Option Nat := (hub.announcements, hub.forwarded)

variable (hub : Hub)

theorem followed_wake (task : Task) : (hub.wake task).followed = hub.followed := by
  unfold wake
  split <;> rfl

theorem followed_announce (changes : List Announcement) : (hub.announce changes).followed =
    (changes.foldl .send hub.announcements, hub.forwarded) := by
  unfold announce
  dsimp only
  split
  · exact followed_wake _ _
  · rfl

theorem followed_receive (message : Message) : (hub.receive message).followed = hub.followed := by
  cases message <;> exact followed_wake _ _

/-- A forwarder that has missed nothing reads the next announcement, if there is one. -/
theorem followed_forwardOne {hub : Hub} {position : Nat}
    (hforwarded : hub.forwarded = some position)
    (hmissed : hub.announcements.missed position = 0) :
    hub.nextAnnouncement? = hub.announcements.sent[position]? ∧
      hub.forwardOne.followed =
        (hub.announcements, some (position + hub.nextAnnouncement?.toList.length)) := by
  have hunread := Broadcast.unread_of_missed hmissed
  have hnext : hub.nextAnnouncement? = hub.announcements.sent[position]? := by
    simp [nextAnnouncement?, hforwarded, hunread, List.head?_drop]
  refine ⟨hnext, ?_⟩
  cases hsent : hub.announcements.sent[position]? with
  | none =>
    have hnil : hub.announcements.unread position = [] := by
      rw [hunread, List.drop_eq_nil_iff]
      exact List.getElem?_eq_none_iff.1 hsent
    have hone : hub.forwardOne = hub := by simp only [forwardOne, hforwarded, hnil]
    rw [hone, hnext, hsent, followed, hforwarded]
    rfl
  | some a =>
    obtain ⟨hlt, rfl⟩ := List.getElem?_eq_some_iff.1 hsent
    obtain ⟨run, -, -, hone⟩ := forwardOne_of_unread hforwarded
      (hunread.trans (List.drop_eq_getElem_cons hlt))
    rw [hone, hnext, hsent, followed, announcements_foldl_send,
      Broadcast.resume_of_missed hmissed]
    rfl

theorem followed_react (effect : Effect) : (hub.react effect).followed = hub.followed := by
  cases effect with
  | fetchStarted | pickStarted | cancelled => exact followed_wake _ _
  | published | notified | called | logged | wrote => rfl

theorem followed_advance (step : Run Manager → Run Manager) :
    (hub.advance step).followed = hub.followed := by
  have hreact (effects : List Effect) (hub : Hub) :
      (effects.foldl react hub).followed = hub.followed := by
    induction effects generalizing hub with
    | nil => rfl
    | cons effect effects ih => exact (ih (hub.react effect)).trans (followed_react hub effect)
  exact hreact _ _

theorem followed_next? {rest : Hub} {message : Message} (h : hub.next? = some (message, rest)) :
    rest.followed = hub.followed := by
  unfold next? at h
  split at h <;> cases h <;> rfl

theorem followed_serve (answers : Answers) : (hub.serve answers 1).followed = hub.followed := by
  cases hnext : hub.next? with
  | none => simp only [serve, hnext]
  | some next =>
    simp only [serve, hnext]
    exact (followed_advance _ _).trans (followed_next? hub hnext)

end Hub

/-! ## What waits for the manager -/

/-- Looking for the next message does nothing but take it out of the calls, if it is a call. -/
theorem Hub.calls_of_next? {hub rest : Hub} {message : Message}
    (h : hub.next? = some (message, rest)) : rest.run.state = hub.run.state ∧
      ((∃ call, message = .call call ∧ hub.calls = call :: rest.calls) ∨
        (message.place ≠ 0 ∧ hub.calls = rest.calls)) := by
  unfold next? at h
  cases hcalls : hub.calls with
  | cons call calls =>
    rw [hcalls] at h
    obtain ⟨rfl, rfl⟩ := Prod.mk.inj (Option.some.inj h)
    exact ⟨rfl, Or.inl ⟨call, rfl, rfl⟩⟩
  | nil =>
    cases hcompletions : hub.completions with
    | cons completion completions =>
      rw [hcalls, hcompletions] at h
      obtain ⟨rfl, rfl⟩ := Prod.mk.inj (Option.some.inj h)
      exact ⟨rfl, Or.inr ⟨by simp [Message.place], rfl⟩⟩
    | nil =>
      cases hunread : hub.bus.unread hub.heard with
      | nil =>
        rw [hcalls, hcompletions, hunread] at h
        cases h
      | cons event events =>
        rw [hcalls, hcompletions, hunread] at h
        obtain ⟨rfl, rfl⟩ := Prod.mk.inj (Option.some.inj h)
        refine ⟨?_, Or.inr ⟨by simp [Message.place], rfl⟩⟩
        dsimp only
        split <;> rfl

namespace Followed

variable {α : Type} (w : Followed α)

theorem coming_of_eq {hub hub' : Hub} (hcalls : hub'.calls = hub.calls)
    (hsettings : hub'.run.state.settings = hub.run.state.settings) :
    w.coming hub' = w.coming hub := by
  rw [coming, coming, hcalls, w.keep hsettings]

theorem coming_send (hub : Hub) (call : ManagerCall) :
    w.coming (hub.send call) = (w.asked? call).getD (w.coming hub) := by
  simp [coming, List.foldl_append]

theorem coming_announce (hub : Hub) (changes : List Announcement) :
    w.coming (hub.announce changes) = w.coming hub := by
  unfold Hub.announce
  dsimp only
  split
  · exact w.coming_of_eq (Hub.calls_wake _ _) (by rw [Hub.run_wake])
  · rfl

/-- Messages that do not ask for it do not change what is to come. -/
theorem coming_receive (hub : Hub) {message : Message} (h : message.asksSettings = false) :
    w.coming (hub.receive message) = w.coming hub := by
  cases message with
  | call call =>
    rw [Hub.receive, coming_send, w.beside call h]
    rfl
  | completion => exact w.coming_of_eq (Hub.calls_wake _ _) (by simp [Hub.receive])
  | bus => exact w.coming_of_eq (Hub.calls_wake _ _) (by simp [Hub.receive, Hub.publish])

/-- Taking a message does not change what is to come. -/
theorem coming_serve (answers : Answers) (hub : Hub) :
    w.coming (hub.serve answers 1) = w.coming hub := by
  cases hnext : hub.next? with
  | none => rw [Hub.serve, hnext]
  | some next =>
    obtain ⟨message, rest⟩ := next
    obtain ⟨hstate, hcalls⟩ := Hub.calls_of_next? hnext
    obtain ⟨_, hadds⟩ := rest.adds_advance fun run => Manager.handle answers run message
    have hserve : hub.serve answers 1 =
        rest.advance fun run => Manager.handle answers run message := by
      simp only [Hub.serve, hnext]
    rw [hserve, coming, hadds.calls, hadds.run]
    rcases hcalls with ⟨call, rfl, hcalls⟩ | ⟨hplace, hcalls⟩
    · rw [Manager.handle, w.handle, coming, hcalls, List.foldl_cons, hstate]
    · have hkept : (Manager.handle answers rest.run message).state.settings =
          hub.run.state.settings := by
        rw [← hstate]
        cases message with
        | call => exact absurd rfl hplace
        | completion c => exact Manager.settings_complete answers rest.run c
        | bus event => exact Manager.settings_hear answers rest.run event
      rw [w.keep hkept, coming, hcalls]

/-- What the forwarder reads is to come. -/
theorem coming_forwardOne (hub : Hub) :
    w.coming hub.forwardOne = w.latest (w.coming hub) hub.nextAnnouncement?.toList := by
  cases hforwarded : hub.forwarded with
  | none =>
    simp only [Hub.forwardOne, Hub.nextAnnouncement?, hforwarded]
    rfl
  | some position =>
    cases hunread : hub.announcements.unread position with
    | nil =>
      simp only [Hub.forwardOne, Hub.nextAnnouncement?, hforwarded, hunread]
      simp [hunread, latest]
    | cons a rest =>
      obtain ⟨run, hrun, -, hone⟩ := Hub.forwardOne_of_unread hforwarded hunread
      have hnext : hub.nextAnnouncement? = some a := by
        simp [Hub.nextAnnouncement?, hforwarded, hunread]
      have htold : w.told? a = a.call?.bind w.asked? := (w.forward a).symm
      rw [hnext]
      cases hcall : a.call? with
      | none =>
        rw [hcall] at hone
        have hkept : w.coming hub.forwardOne = w.coming hub :=
          w.coming_of_eq (by rw [hone]; rfl) (by rw [hone, hrun])
        simp [hkept, latest, htold, hcall]
      | some call =>
        rw [hcall] at hone
        have hsent : w.coming hub.forwardOne = w.coming (hub.send call) :=
          w.coming_of_eq (by rw [hone]; rfl) (by rw [hone, hrun, Hub.run_send])
        simp [hsent, coming_send, latest, htold, hcall]

end Followed

end Subtitler
