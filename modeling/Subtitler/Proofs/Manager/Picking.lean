import Subtitler.Proofs.Manager.Response

/-!
# Picks

A *pick* begins when the manager lets the user pick a file. It goes on for as long as the operation
in flight is the pick itself or the one that its answer has put in flight (`UnderWay`). Since epochs
grow, such an operation cannot come back later.

What players are asked to pause and to resume in a run, and which picks have begun in it, follows
from the acts of the run (`pauses_eq`, `pickStarted_eq`).
-/

namespace Subtitler

/-! ## Picks -/

/-- Whether a message says that a playback has started or stopped. -/
def Message.changesPlayback (message : Message) : Bool := message.isStop || message.start?.isSome

/-- A pick of the user: the player that was attached when it began, and the message that ended it,
or the fetch of what was picked, if one has. -/
structure Pick where
  epoch : Nat
  player : Option AttachedPlayer
  ending : Option Message := none

namespace Pick

/-- How the player of a pick is paused. -/
def pauses (pick : Pick) : List (AttachedPlayer × PlayerCall) :=
  (pick.player.map fun p => (p, .pause)).toList

/-- How the player of a pick is resumed when a message ends the pick. -/
def resumes (pick : Pick) (message : Message) : List (AttachedPlayer × PlayerCall) :=
  if message.changesPlayback then [] else (pick.player.map fun p => (p, .resume)).toList

/-- How the player of a pick is paused and resumed. -/
def calls (pick : Pick) : List (AttachedPlayer × PlayerCall) :=
  pick.pauses ++ (pick.ending.map pick.resumes).getD []

/-- A pick that a message has ended. -/
def ended (pick : Pick) (message : Message) : Pick := { pick with ending := some message }

theorem calls_of_goesOn {pick : Pick} (h : pick.ending = none) : pick.calls = pick.pauses := by
  simp [calls, h]

@[simp] theorem calls_ended (pick : Pick) (message : Message) :
    (pick.ended message).calls = pick.pauses ++ pick.resumes message := rfl

@[simp] theorem epoch_ended (pick : Pick) (message : Message) :
    (pick.ended message).epoch = pick.epoch := rfl

theorem calls_cases (pick : Pick) : pick.calls = [] ∨ ∃ player,
    pick.calls = [(player, .pause)] ∨ pick.calls = [(player, .pause), (player, .resume)] := by
  cases hplayer : pick.player with
  | none => cases hending : pick.ending <;> simp [calls, pauses, resumes, hplayer, hending]
  | some player =>
    refine Or.inr ⟨player, ?_⟩
    cases hending : pick.ending with
    | none => simp [calls, pauses, hplayer, hending]
    | some message => cases h : message.changesPlayback <;>
        simp [calls, pauses, resumes, hplayer, hending, h]

@[simp] theorem resumes_ended (pick : Pick) (last message : Message) :
    (pick.ended last).resumes message = pick.resumes message := rfl

end Pick

/-- Whoever is resumed has been paused just before, by the last such call of any player. -/
def ResumesPaused (calls : List (AttachedPlayer × PlayerCall)) : Prop :=
  ∀ earlier player later, calls = earlier ++ (player, .resume) :: later →
    ∃ before, earlier = before ++ [(player, .pause)]

theorem ResumesPaused.append {first rest : List (AttachedPlayer × PlayerCall)}
    (hfirst : ResumesPaused first) (hrest : ResumesPaused rest) :
    ResumesPaused (first ++ rest) := by
  intro earlier player later h
  rcases List.append_eq_append_iff.1 h with ⟨between, rfl, heq⟩ | ⟨between, rfl, heq⟩
  · obtain ⟨before, rfl⟩ := hrest between player later heq
    exact ⟨first ++ before, by simp⟩
  · cases between with
    | nil =>
      obtain ⟨before, hnil⟩ := hrest [] player later heq.symm
      simp at hnil
    | cons call between =>
      obtain rfl := List.head_eq_of_cons_eq heq
      exact hfirst earlier player between rfl

theorem Pick.resumesPaused (pick : Pick) : ResumesPaused pick.calls := by
  intro earlier player later h
  rcases pick.calls_cases with hcalls | ⟨paused, hcalls | hcalls⟩
  · simp [hcalls] at h
  · rw [hcalls] at h
    rcases earlier with - | ⟨call, earlier⟩ <;> simp at h
  · rw [hcalls] at h
    rcases earlier with - | ⟨call, - | ⟨call', earlier⟩⟩
    · simp at h
    · obtain ⟨rfl, heq⟩ := List.cons.inj h
      obtain ⟨rfl, -⟩ := Prod.mk.inj (List.head_eq_of_cons_eq heq)
      exact ⟨[], rfl⟩
    · simp at h

theorem resumesPaused_picks (picks : List Pick) : ResumesPaused (picks.flatMap Pick.calls) := by
  induction picks with
  | nil => exact fun earlier player later h => by simp at h
  | cons pick picks ih => exact pick.resumesPaused.append ih

/-- Whether a call pauses or resumes a player. -/
def PlayerCall.isPauseOrResume : PlayerCall → Bool
  | pause | resume => true
  | _ => false

/-- All calls that pause or resume a player. -/
def Run.pauses {σ : Type} (run : Run σ) : List (AttachedPlayer × PlayerCall) :=
  run.calls.filter (·.2.isPauseOrResume)

/-- The epoch of the pick that an effect starts. -/
def Effect.pickStarted? : Effect → Option Nat
  | pickStarted epoch => some epoch
  | _ => none

/-- The call that an act is. -/
def Act.call? : Act → Option (AttachedPlayer × PlayerCall)
  | paused player => some (player, .pause)
  | resumed player => some (player, .resume)
  | _ => none

/-- The epoch of the pick that an act starts. -/
def Act.pickStarted? : Act → Option Nat
  | pickStarted epoch => some epoch
  | _ => none

/-! ## Acts that have to do with picks -/

namespace Manager

theorem pauses_eq (run : Run Manager) : run.pauses = (acts run).filterMap Act.call? := by
  rw [Run.pauses, Run.calls, List.filter_filterMap]
  refine filterMap_effects (fun effect => ?_) run
  cases effect with
  | called player call => cases call <;> rfl
  | notified event => cases event <;> rfl
  | _ => rfl

theorem pickStarted_eq (run : Run Manager) :
    run.effects.filterMap Effect.pickStarted? = (acts run).filterMap Act.pickStarted? := by
  refine filterMap_effects (fun effect => ?_) run
  cases effect with
  | called player call => cases call <;> rfl
  | notified event => cases event <;> rfl
  | _ => rfl

end Manager

namespace Session

variable (session : Session)

@[simp] theorem call?_givenUp : session.givenUp.filterMap Act.call? = [] :=
  filterMap_givenUp (fun _ => rfl) session

@[simp] theorem call?_released :
    session.released.filterMap Act.call? = (session.waiting.map fun p => (p, .resume)).toList := by
  unfold released
  cases session.waiting <;> rfl

@[simp] theorem pickStarted?_givenUp : session.givenUp.filterMap Act.pickStarted? = [] :=
  filterMap_givenUp (fun _ => rfl) session

@[simp] theorem pickStarted?_released : session.released.filterMap Act.pickStarted? = [] :=
  filterMap_released (fun _ => rfl) session

end Session

namespace Manager

variable (answers : Answers) (preference : Preference)

/-! ## While a pick goes on -/

/-- An operation was put in flight by the answer to a pick. -/
def FollowsPick (messages : List Message) (epoch : Nat) (op : InFlight) : Prop :=
  ∃ earlier answer later, messages = earlier ++ .completion (.picked epoch answer) :: later ∧
    (outcome answers preference earlier).state.session.inFlight = some ⟨epoch, .pick⟩ ∧
    (outcome answers preference
      (earlier ++ [.completion (.picked epoch answer)])).state.session.inFlight = some op

/-- A pick goes on: it is in flight itself, or the operation that its answer has put in flight. -/
def UnderWay (messages : List Message) (epoch : Nat) : Prop :=
  ∃ op, (outcome answers preference messages).state.session.inFlight = some op ∧
    (op = ⟨epoch, .pick⟩ ∨ FollowsPick answers preference messages epoch op)

theorem epoch_le_outcome_append (earlier later : List Message) :
    (outcome answers preference earlier).state.epoch ≤
      (outcome answers preference (earlier ++ later)).state.epoch := by
  induction later using List.reverseRecOn with
  | nil => exact Nat.le_of_eq (by rw [List.append_nil])
  | append_singleton later message ih =>
    obtain ⟨trace, -, hresponse⟩ := responds_outcome answers preference (earlier ++ later) message
    rw [← List.append_assoc]
    exact Nat.le_trans ih hresponse.epoch_le

variable {answers preference} {messages : List Message} {epoch : Nat} {op : InFlight}

theorem FollowsPick.append (h : FollowsPick answers preference messages epoch op)
    (later : List Message) : FollowsPick answers preference (messages ++ later) epoch op := by
  obtain ⟨earlier, answer, rest, rfl, hpick, hop⟩ := h
  exact ⟨earlier, answer, rest ++ later, by simp, hpick, hop⟩

/-- What follows a pick was put in flight earlier, or is put there by the last message. -/
theorem FollowsPick.of_concat {message : Message}
    (h : FollowsPick answers preference (messages ++ [message]) epoch op) :
    FollowsPick answers preference messages epoch op ∨
      ∃ answer, message = .completion (.picked epoch answer) ∧
        (outcome answers preference messages).state.session.inFlight = some ⟨epoch, .pick⟩ ∧
        (outcome answers preference (messages ++ [message])).state.session.inFlight = some op := by
  obtain ⟨earlier, answer, later, heq, hpick, hop⟩ := h
  cases later using List.reverseRecOn with
  | nil =>
    obtain ⟨rfl, hmessage⟩ := List.append_inj' heq rfl
    obtain rfl := List.head_eq_of_cons_eq hmessage
    exact Or.inr ⟨answer, rfl, hpick, hop⟩
  | append_singleton later last =>
    rw [← List.cons_append, ← List.append_assoc] at heq
    obtain ⟨rfl, -⟩ := List.append_inj' heq rfl
    exact Or.inl ⟨earlier, answer, later, rfl, hpick, hop⟩

theorem FollowsPick.epoch_le (h : FollowsPick answers preference messages epoch op) :
    op.epoch ≤ (outcome answers preference messages).state.epoch := by
  obtain ⟨earlier, answer, later, rfl, -, hop⟩ := h
  have hle := epoch_le_outcome_append answers preference
    (earlier ++ [.completion (.picked epoch answer)]) later
  rw [← List.append_cons] at hle
  rw [(tidy_outcome answers preference _).newest op hop]
  exact hle

/-- If the operation in flight is newer than all that was in flight before, it belongs to no pick
but itself. -/
theorem underWay_concat_of_newer {message : Message}
    (hnewer : ∀ op, (outcome answers preference (messages ++ [message])).state.session.inFlight =
      some op → op.epoch = (outcome answers preference messages).state.epoch + 1)
    (hanswer : ∀ epoch answer, message = .completion (.picked epoch answer) →
      (outcome answers preference (messages ++ [message])).state.session.inFlight = none) :
    UnderWay answers preference (messages ++ [message]) epoch ↔
      (outcome answers preference (messages ++ [message])).state.session.inFlight =
        some ⟨epoch, .pick⟩ := by
  constructor
  · rintro ⟨op, hop, rfl | hfollows⟩
    · exact hop
    · rcases hfollows.of_concat with hbefore | ⟨answer, hmessage, -, -⟩
      · have hle := hbefore.epoch_le
        rw [hnewer op hop] at hle
        exact absurd hle (Nat.not_succ_le_self _)
      · rw [hanswer epoch answer hmessage] at hop
        cases hop
  · exact fun hop => ⟨_, hop, Or.inl rfl⟩

/-- A pick goes on if the operation in flight stays the same. -/
theorem underWay_concat_of_eq {message : Message}
    (h : (outcome answers preference (messages ++ [message])).state.session.inFlight =
      (outcome answers preference messages).state.session.inFlight) :
    UnderWay answers preference (messages ++ [message]) epoch ↔
      UnderWay answers preference messages epoch := by
  constructor
  · rintro ⟨op, hop, rfl | hfollows⟩
    · exact ⟨_, h ▸ hop, Or.inl rfl⟩
    · rcases hfollows.of_concat with hbefore | ⟨answer, -, hpick, -⟩
      · exact ⟨op, h ▸ hop, Or.inr hbefore⟩
      · exact ⟨_, hpick, Or.inl rfl⟩
  · rintro ⟨op, hop, hpick | hfollows⟩
    · exact ⟨op, h.trans hop, Or.inl hpick⟩
    · exact ⟨op, h.trans hop, Or.inr (hfollows.append [message])⟩

/-- When an answer puts another operation in flight, the pick that was answered goes on. -/
theorem underWay_concat_of_answered {number : Nat} {answer : Option Track}
    (hpick : (outcome answers preference messages).state.session.inFlight = some ⟨number, .pick⟩)
    (hop : (outcome answers preference
      (messages ++ [.completion (.picked number answer)])).state.session.inFlight = some op)
    (hoperation : op.operation ≠ .pick)
    (hnewer : op.epoch = (outcome answers preference messages).state.epoch + 1) :
    UnderWay answers preference (messages ++ [.completion (.picked number answer)]) epoch ↔
      epoch = number := by
  constructor
  · rintro ⟨op', hop', hbelongs⟩
    obtain rfl : op = op' := Option.some.inj (hop.symm.trans hop')
    rcases hbelongs with rfl | hfollows
    · exact absurd rfl hoperation
    · rcases hfollows.of_concat with hbefore | ⟨_, hmessage, -, -⟩
      · have hle := hbefore.epoch_le
        rw [hnewer] at hle
        exact absurd hle (Nat.not_succ_le_self _)
      · cases hmessage
        rfl
  · rintro rfl
    exact ⟨op, hop, Or.inr ⟨messages, answer, [], rfl, hpick, hop⟩⟩

end Manager

end Subtitler
