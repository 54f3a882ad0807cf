import Mathlib.Data.List.Induction
import Mathlib.Data.List.Infix
import Subtitler.Manager.Hub
import Subtitler.Proofs.Manager.State

/-!
# Messages in the order of their arrival

Calls, ends of operations and what is published wait for the manager in three queues. Here a
*course* is a hub together with the messages that have arrived at it and those that its manager has
taken. At each *moment* a message arrives or the manager takes one, so that a list of moments is any
way in which the manager has its turns (`hub_serve`) among those who send messages, jobs included
(`runJob_of_completed`).

**Theorem (`taken_in_order_iff`).** As long as the manager falls so little behind that nothing is
dropped from the bus, it does exactly what its messages say, in the order in which it takes them,
and each queue is first in, first out. Calls, starts and stops together are taken in the order of
their arrival if and only if no call arrives while a start or stop that was published still waits:
such a call is taken first.

So a selection can be overridden by a playback that was started before it
(`overridden_by_earlier_start`).
-/

namespace Subtitler

/-! ## Kinds of messages -/

/-- Whether something that is published says that a playback has started or stopped. -/
def BusEvent.isPlayback : BusEvent → Bool
  | playbackStarted _ | playbackStopped => true
  | errorNotification _ => false

namespace Message

/-- The place of the queue in which a message waits: the manager looks at the calls first, and last
at what is published. -/
def place : Message → Nat
  | call _ => 0
  | completion _ => 1
  | bus _ => 2

/-- Whether a message was published and says that a playback has started or stopped. -/
def isPlayback : Message → Bool
  | bus event => event.isPlayback
  | _ => false

/-- Whether a message is a call, or says that a playback has started or stopped. -/
def isPublic : Message → Bool
  | call _ => true
  | completion _ => false
  | bus event => event.isPlayback

/-- Whether a message was published for the user, and is none for the manager. -/
def isNotice : Message → Bool
  | bus event => !event.isPlayback
  | _ => false

/-- Whether a message is for the manager and waits in the queue at a place. -/
def isIn (place : Nat) (message : Message) : Bool := message.place == place && !message.isNotice

theorem place_le (message : Message) : message.place ≤ 2 := by
  cases message <;> simp [place]

/-- Of what waits behind the calls, starts and stops are public. -/
theorem isPublic_of_place_pos {message : Message} (h : 0 < message.place) :
    message.isPublic = message.isPlayback := by
  cases message with
  | call => exact absurd h (Nat.lt_irrefl 0)
  | completion | bus => rfl

end Message

/-! ## What is not dropped -/

namespace Broadcast

variable {α : Type} {b : Broadcast α} {position : Nat}

/-- A reader that has missed nothing reads on where it is. -/
theorem resume_of_missed (h : b.missed position = 0) : b.resume position = position := by
  unfold missed resume at *
  omega

theorem unread_of_missed (h : b.missed position = 0) :
    b.unread position = b.sent.drop position := by
  rw [unread, resume_of_missed h]

/-- What is sent is read last, by a reader that misses nothing. -/
theorem unread_append {entries : List α} (hle : position ≤ b.finish)
    (h : missed { b with sent := b.sent ++ entries } position = 0) :
    unread { b with sent := b.sent ++ entries } position = b.unread position ++ entries := by
  have hbefore : b.missed position = 0 := by
    simp only [missed, resume, finish, List.length_append] at h ⊢
    omega
  rw [unread_of_missed h, unread_of_missed hbefore, List.drop_append_of_le_length hle]

end Broadcast

/-! ## The queues of a hub -/

namespace Hub

/-! ### Waking -/

variable (hub : Hub) (task : Task)

@[simp] theorem run_wake : (hub.wake task).run = hub.run := by
  unfold wake
  split <;> rfl

@[simp] theorem bus_wake : (hub.wake task).bus = hub.bus := by
  unfold wake
  split <;> rfl

@[simp] theorem heard_wake : (hub.wake task).heard = hub.heard := by
  unfold wake
  split <;> rfl

@[simp] theorem calls_wake : (hub.wake task).calls = hub.calls := by
  unfold wake
  split <;> rfl

@[simp] theorem completions_wake : (hub.wake task).completions = hub.completions := by
  unfold wake
  split <;> rfl

/-! ### Waiting -/

/-- Lets a message arrive where those of its kind wait. -/
def receive : Message → Hub
  | .call call => hub.send call
  | .completion completion =>
    { hub with completions := hub.completions ++ [completion] }.wake .manager
  | .bus event => hub.publish event

/-- All that waits for the manager, in the order in which it is taken if nothing else arrives. -/
def inbox : List Message :=
  hub.calls.map .call ++ hub.completions.map .completion ++ (hub.bus.unread hub.heard).map .bus

/-- How much of what was published the manager has missed. -/
def missed : Nat := hub.bus.missed hub.heard

/-- The end of a job arrives as the end of its operation. -/
theorem runJob_of_completed {hub : Hub} {epoch number : Nat} {job : Job} {completion : Completion}
    (hjob : hub.jobs.find? (·.epoch == epoch) = some job) (hgiven : job.givenUp = false)
    (hstage : job.stage = .ended number (.completed completion)) :
    hub.runJob epoch = (hub.forget job).receive (.completion completion) := by
  simp only [runJob, hjob, hgiven, hstage, Bool.false_eq_true, if_false]
  rfl

/-! ### Taking -/

/-- **What the manager takes next** is the first of all that waits. It has read the bus up to there,
and it does nothing yet, unless it has to log that it missed something. -/
theorem next?_cases :
    (hub.next? = none ∧ hub.inbox = []) ∨
    ∃ message rest, hub.next? = some (message, rest) ∧ hub.inbox = message :: rest.inbox ∧
      rest.bus = hub.bus ∧ (hub.heard ≤ hub.bus.finish → rest.heard ≤ rest.bus.finish) ∧
      (hub.missed = 0 → rest.run = hub.run) := by
  unfold next? inbox
  cases hub.calls with
  | cons call calls =>
    exact Or.inr ⟨_, _, rfl, rfl, rfl, id, fun _ => rfl⟩
  | nil =>
    cases hub.completions with
    | cons completion completions =>
      exact Or.inr ⟨_, _, rfl, rfl, rfl, id, fun _ => rfl⟩
    | nil =>
      cases hunread : hub.bus.unread hub.heard with
      | nil => exact Or.inl ⟨rfl, rfl⟩
      | cons event events =>
        have hlt : hub.bus.resume hub.heard < hub.bus.finish := by
          refine Nat.lt_of_not_le fun hle => ?_
          rw [Broadcast.unread, List.drop_eq_nil_of_le hle] at hunread
          cases hunread
        -- The reader has passed all that is no longer readable, so the next entry is the tail's.
        have hresume : hub.bus.resume (hub.bus.resume hub.heard + 1) =
            hub.bus.resume hub.heard + 1 := by
          simp only [Broadcast.resume]
          omega
        have htail : hub.bus.unread (hub.bus.resume hub.heard + 1) = events := by
          rw [Broadcast.unread, hresume, ← List.tail_drop, ← Broadcast.unread, hunread,
            List.tail_cons]
        refine Or.inr ⟨_, _, rfl, ?_, rfl, fun _ => hlt, fun hmissed => if_pos hmissed⟩
        simp [htail]

/-! ### Reacting -/

/-- A hub differs from another one, as far as the messages to the manager are concerned, in nothing
but what has been published since. -/
structure Adds (events : List BusEvent) (hub hub' : Hub) : Prop where
  run : hub'.run = hub.run
  calls : hub'.calls = hub.calls
  completions : hub'.completions = hub.completions
  heard : hub'.heard = hub.heard
  bus : hub'.bus = { hub.bus with sent := hub.bus.sent ++ events }

theorem Adds.refl : Adds [] hub hub where
  run := rfl
  calls := rfl
  completions := rfl
  heard := rfl
  bus := by rw [List.append_nil]

theorem Adds.trans {events events' : List BusEvent} {hub hub' hub'' : Hub}
    (h : Adds events hub hub') (h' : Adds events' hub' hub'') :
    Adds (events ++ events') hub hub'' where
  run := h'.run.trans h.run
  calls := h'.calls.trans h.calls
  completions := h'.completions.trans h.completions
  heard := h'.heard.trans h.heard
  bus := by rw [h'.bus, h.bus, List.append_assoc]

theorem Adds.wake {events : List BusEvent} {hub hub' : Hub} (h : Adds events hub hub')
    (task : Task) : Adds events hub (hub'.wake task) where
  run := by simp [h.run]
  calls := by simp [h.calls]
  completions := by simp [h.completions]
  heard := by simp [h.heard]
  bus := by simp [h.bus]

theorem adds_jobs (jobs : List Job) : Adds [] hub { hub with jobs } := { Adds.refl hub with }

/-- The manager's effects publish messages for the user and nothing else. -/
theorem adds_react (effect : Effect) :
    Adds (effect.message?.map .errorNotification).toList hub (hub.react effect) := by
  cases effect with
  | fetchStarted | pickStarted | cancelled => exact (adds_jobs hub _).wake _
  | published message => exact { Adds.refl hub with bus := rfl }
  | notified | called | logged | wrote => exact .refl hub

theorem adds_advance (step : Run Manager → Run Manager) :
    ∃ messages : List String,
      Adds (messages.map .errorNotification) { hub with run := step hub.run }
        (hub.advance step) := by
  unfold advance
  dsimp only
  generalize (step hub.run).effects.drop hub.run.effects.length = effects
  generalize ({ hub with run := step hub.run } : Hub) = hub
  induction effects generalizing hub with
  | nil => exact ⟨[], .refl hub⟩
  | cons effect effects ih =>
    obtain ⟨messages, h⟩ := ih (hub.react effect)
    refine ⟨effect.message?.toList ++ messages, ?_⟩
    have hreact := (adds_react hub effect).trans h
    rwa [Option.toList_map, ← List.map_append] at hreact

/-! ### Arriving -/

variable {hub}

/-- **A message that arrives** waits behind those of its own queue and of the queues before it, and
ahead of all others. -/
theorem inbox_receive {message : Message} (hle : hub.heard ≤ hub.bus.finish)
    (hmissed : (hub.receive message).missed = 0) :
    ∃ ahead behind, hub.inbox = ahead ++ behind ∧
      (hub.receive message).inbox = ahead ++ message :: behind ∧
      (∀ m ∈ ahead, m.place ≤ message.place) ∧ ∀ m ∈ behind, message.place < m.place := by
  cases message with
  | call call =>
    refine ⟨hub.calls.map .call, hub.completions.map .completion ++
      (hub.bus.unread hub.heard).map .bus, by simp [inbox], by simp [inbox, receive, send], ?_, ?_⟩
    · simp [Message.place]
    · simp [Message.place, or_imp, forall_and]
  | completion completion =>
    refine ⟨hub.calls.map .call ++ hub.completions.map .completion,
      (hub.bus.unread hub.heard).map .bus, by simp [inbox], by simp [inbox, receive], ?_, ?_⟩
    · simp [Message.place, or_imp, forall_and]
    · simp [Message.place]
  | bus event =>
    have hunread : (hub.bus.send event).unread hub.heard = hub.bus.unread hub.heard ++ [event] :=
      Broadcast.unread_append hle
        (by simpa [missed, receive, publish, Broadcast.send] using hmissed)
    refine ⟨hub.inbox, [], by simp, by simp [inbox, receive, publish, hunread], ?_, by simp⟩
    exact fun m _ => m.place_le

/-- Messages for the user wait behind all others. -/
theorem Adds.inbox_eq {hub' : Hub} {messages : List String}
    (h : Adds (messages.map .errorNotification) hub hub') (hle : hub.heard ≤ hub.bus.finish)
    (hmissed : hub'.missed = 0) :
    ∃ notices, hub'.inbox = hub.inbox ++ notices ∧ ∀ m ∈ notices, m.isNotice = true := by
  have hunread : hub'.bus.unread hub'.heard =
      hub.bus.unread hub.heard ++ messages.map .errorNotification := by
    rw [missed, h.bus, h.heard] at hmissed
    rw [h.bus, h.heard]
    exact Broadcast.unread_append hle hmissed
  refine ⟨messages.map fun text => .bus (.errorNotification text), ?_, ?_⟩
  · simp [inbox, h.calls, h.completions, hunread, Function.comp_def]
  · simp [Message.isNotice, BusEvent.isPlayback]

end Hub

/-! ## Courses -/

/-- What can happen at one moment: a message arrives, or the manager takes one. -/
inductive Moment
  | arrival (message : Message)
  | take

/-- A hub, the messages that have arrived at it, and those that its manager has taken. -/
structure Course where
  hub : Hub
  arrived : List Message := []
  taken : List Message := []

namespace Course

variable (answers : Answers)

/-- What happens at a moment. -/
def step (c : Course) : Moment → Course
  | .arrival message =>
    { c with hub := c.hub.receive message, arrived := c.arrived ++ [message] }
  | .take =>
    match c.hub.next? with
    | some (message, hub) =>
      { c with
        hub := hub.advance fun run => Manager.handle answers run message
        taken := c.taken ++ [message] }
    | none => c

/-- The messages that have arrived in the order in which the manager takes them, if nothing else
arrives. -/
def order (c : Course) : List Message := c.taken ++ c.hub.inbox

theorem foldl_take_of_next?_none {c : Course} (h : c.hub.next? = none) (fuel : Nat) :
    (List.replicate fuel .take).foldl (step answers) c = c := by
  induction fuel with
  | zero => rfl
  | succ fuel ih => simpa [List.replicate_succ, step, h] using ih

/-- A turn of the manager is nothing but moments at which it takes a message. -/
theorem hub_serve (fuel : Nat) (c : Course) :
    c.hub.serve answers fuel = ((List.replicate fuel .take).foldl (step answers) c).hub := by
  induction fuel generalizing c with
  | zero => rfl
  | succ fuel ih =>
    cases h : c.hub.next? with
    | none => rw [foldl_take_of_next?_none answers h, Hub.serve, h]
    | some next =>
      obtain ⟨message, hub⟩ := next
      simp only [Hub.serve, List.replicate_succ, List.foldl_cons, step, h]
      exact ih { c with
        hub := hub.advance fun run => Manager.handle answers run message
        taken := c.taken ++ [message] }

/-! ### One moment -/

/-- What it means for the manager to take a message. -/
theorem step_take_cases (c : Course) :
    step answers c .take = c ∨
    ∃ message rest, ∃ messages : List String,
      (step answers c .take).taken = c.taken ++ [message] ∧
      (step answers c .take).arrived = c.arrived ∧
      c.hub.inbox = message :: Hub.inbox rest ∧
      (c.hub.heard ≤ c.hub.bus.finish → rest.heard ≤ rest.bus.finish) ∧
      (c.hub.missed = 0 → rest.run = c.hub.run) ∧
      Hub.Adds (messages.map .errorNotification)
        { rest with run := Manager.handle answers rest.run message }
        (step answers c .take).hub := by
  rcases c.hub.next?_cases with ⟨hnext, -⟩ | ⟨message, rest, hnext, hinbox, -, hheard, hrun⟩
  · left
    simp only [step, hnext]
  · right
    obtain ⟨messages, hadds⟩ := rest.adds_advance fun run => Manager.handle answers run message
    refine ⟨message, rest, messages, ?_⟩
    simp only [step, hnext]
    exact ⟨trivial, trivial, hinbox, hheard, hrun, hadds⟩

theorem heard_le_step {c : Course} (h : c.hub.heard ≤ c.hub.bus.finish) (moment : Moment) :
    (step answers c moment).hub.heard ≤ (step answers c moment).hub.bus.finish := by
  cases moment with
  | arrival message =>
    cases message with
    | call | completion => simpa [step, Hub.receive, Hub.send] using h
    | bus event => simpa [step, Hub.receive, Hub.publish] using Nat.le_succ_of_le h
  | take =>
    rcases step_take_cases answers c with heq | ⟨_, _, _, -, -, -, hheard, -, hadds⟩
    · rwa [heq]
    · rw [hadds.heard, hadds.bus, Broadcast.finish, List.length_append]
      exact Nat.le_add_right_of_le (hheard h)

theorem arrived_take (c : Course) : (step answers c .take).arrived = c.arrived := by
  simp only [step]
  split <;> rfl

/-- A message that arrives finds its place in the order. Ahead of a call, no start or stop waits. -/
theorem order_arrival {c : Course} {message : Message} (hle : c.hub.heard ≤ c.hub.bus.finish)
    (hmissed : (step answers c (.arrival message)).hub.missed = 0) :
    ∃ ahead behind, c.order = ahead ++ behind ∧
      (step answers c (.arrival message)).order = ahead ++ message :: behind ∧
      (∀ m ∈ behind, message.place < m.place) ∧
      (message.place = 0 → c.hub.inbox.any (·.isPlayback) = behind.any (·.isPlayback)) := by
  obtain ⟨ahead, behind, hinbox, hreceive, hahead, hbehind⟩ := Hub.inbox_receive hle hmissed
  refine ⟨c.taken ++ ahead, behind, ?_, ?_, hbehind, fun hcall => ?_⟩
  · rw [order, hinbox, List.append_assoc]
  · rw [List.append_assoc, ← hreceive]
    rfl
  · have hnone : ahead.any (·.isPlayback) = false := List.any_eq_false.2 fun m hm => by
      have hplace : m.place ≤ 0 := hcall ▸ hahead m hm
      cases m with
      | call | completion => simp [Message.isPlayback]
      | bus => exact absurd hplace (Nat.not_succ_le_zero 1)
    rw [hinbox, List.any_append, hnone, Bool.false_or]

/-- Taking a message keeps the order. At most, messages for the user join it at the end. -/
theorem order_take {c : Course} (hle : c.hub.heard ≤ c.hub.bus.finish)
    (hmissed : (step answers c .take).hub.missed = 0) :
    ∃ notices, (step answers c .take).order = c.order ++ notices ∧
      ∀ m ∈ notices, m.isNotice = true := by
  rcases step_take_cases answers c with
    heq | ⟨message, rest, messages, htaken, -, hinbox, hheard, -, hadds⟩
  · exact ⟨[], by rw [heq, List.append_nil], by simp⟩
  · obtain ⟨notices, heq, hnotices⟩ := hadds.inbox_eq (hheard hle) hmissed
    refine ⟨notices, ?_, hnotices⟩
    have hrest : Hub.inbox { rest with run := Manager.handle answers rest.run message } =
        rest.inbox := rfl
    rw [order, order, htaken, heq, hinbox, hrest]
    simp

/-- The manager does what the messages that it takes say. -/
theorem run_step {preference : Preference} {c : Course} (hmissed : c.hub.missed = 0)
    (h : c.hub.run = Manager.outcome answers preference c.taken) (moment : Moment) :
    (step answers c moment).hub.run =
      Manager.outcome answers preference (step answers c moment).taken := by
  cases moment with
  | arrival message => cases message <;> simpa [step, Hub.receive, Hub.send, Hub.publish] using h
  | take =>
    rcases step_take_cases answers c with
      heq | ⟨message, rest, messages, htaken, -, -, -, hrun, hadds⟩
    · rwa [heq]
    · rw [hadds.run, htaken, Manager.outcome_concat, ← h, ← hrun hmissed]

/-- Each queue is first in, first out. -/
theorem fifo_step (place : Nat) {c : Course} (hle : c.hub.heard ≤ c.hub.bus.finish)
    {moment : Moment} (hmissed : (step answers c moment).hub.missed = 0)
    (h : c.order.filter (·.isIn place) = c.arrived.filter (·.isIn place)) :
    (step answers c moment).order.filter (·.isIn place) =
      (step answers c moment).arrived.filter (·.isIn place) := by
  cases moment with
  | arrival message =>
    obtain ⟨ahead, behind, hbefore, hafter, hbehind, -⟩ := order_arrival answers hle hmissed
    have harrived : (step answers c (.arrival message)).arrived = c.arrived ++ [message] := rfl
    rw [hafter, harrived, List.filter_append, List.filter_append, ← h, hbefore, List.filter_append]
    cases hin : message.isIn place with
    | true =>
      have hnone : behind.filter (·.isIn place) = [] :=
        List.filter_eq_nil_iff.2 fun m hm hin' => by
          have hlt := hbehind m hm
          simp only [Message.isIn, Bool.and_eq_true, beq_iff_eq] at hin hin'
          omega
      simp [hin, hnone]
    | false => simp [hin]
  | take =>
    obtain ⟨notices, heq, hnotices⟩ := order_take answers hle hmissed
    have hnone : notices.filter (·.isIn place) = [] :=
      List.filter_eq_nil_iff.2 fun m hm => by simp [Message.isIn, hnotices m hm]
    rw [heq, arrived_take, List.filter_append, hnone, List.append_nil, h]

/-- Whether calls, starts and stops are taken in the order in which they have arrived. -/
def InOrder (c : Course) : Prop := c.order.filter (·.isPublic) = c.arrived.filter (·.isPublic)

/-- What is added in front of others is at the end only if there are no others. -/
theorem append_cons_eq_concat_iff {α : Type} {x : α} {first last all : List α} (h : x ∉ last) :
    first ++ x :: last = all ++ [x] ↔ first ++ last = all ∧ last = [] := by
  induction last using List.reverseRecOn with
  | nil => simp
  | append_singleton last y =>
    have hne : y ≠ x := by
      rintro rfl
      exact h (by simp)
    refine iff_of_false (fun heq => hne ?_) (fun heq => ?_)
    · rw [← List.cons_append, ← List.append_assoc] at heq
      exact (List.append_singleton_inj.1 heq).2
    · simp at heq

/-- **A moment keeps the order of arrival**, unless a call arrives while a start or stop waits; and
an order that is wrong stays wrong. -/
theorem inOrder_step {c : Course} (hle : c.hub.heard ≤ c.hub.bus.finish) {moment : Moment}
    (hmissed : (step answers c moment).hub.missed = 0) :
    (step answers c moment).InOrder ↔ c.InOrder ∧
      ∀ call, moment = .arrival (.call call) → c.hub.inbox.any (·.isPlayback) = false := by
  unfold InOrder
  cases moment with
  | arrival message =>
    obtain ⟨ahead, behind, hbefore, hafter, hbehind, hwaits⟩ := order_arrival answers hle hmissed
    have harrived : (step answers c (.arrival message)).arrived = c.arrived ++ [message] := rfl
    rw [hafter, harrived, hbefore, List.filter_append, List.filter_append, List.filter_append]
    cases message with
    | call call =>
      have hplayback : behind.filter (·.isPublic) = behind.filter (·.isPlayback) :=
        List.filter_congr fun m hm => Message.isPublic_of_place_pos (hbehind m hm)
      have hnot : .call call ∉ behind.filter (·.isPublic) := by
        rw [hplayback]
        simp [Message.isPlayback]
      have hnone : behind.filter (·.isPublic) = [] ↔ behind.any (·.isPlayback) = false := by
        rw [hplayback, List.filter_eq_nil_iff, List.any_eq_false]
      rw [List.filter_cons_of_pos rfl, List.filter_cons_of_pos rfl, List.filter_nil,
        append_cons_eq_concat_iff hnot, hnone, hwaits rfl]
      simp
    | completion => simp [Message.isPublic]
    | bus event =>
      have hnone : behind = [] := List.eq_nil_iff_forall_not_mem.2 fun m hm =>
        absurd (hbehind m hm) (Nat.not_lt.2 m.place_le)
      simp [hnone]
  | take =>
    obtain ⟨notices, heq, hnotices⟩ := order_take answers hle hmissed
    have hnone : notices.filter (·.isPublic) = [] :=
      List.filter_eq_nil_iff.2 fun m hm => by
        have hnotice := hnotices m hm
        cases m <;> simp_all [Message.isNotice, Message.isPublic]
    rw [heq, arrived_take, List.filter_append, hnone, List.append_nil]
    simp

/-! ### Many moments -/

variable (preference : Preference) (capacity : Nat)

/-- What comes of moments one after the other, from a hub to which nothing has happened. -/
def after (moments : List Moment) : Course :=
  moments.foldl (step answers) { hub := .start preference capacity }

theorem inbox_start : (Hub.start preference capacity).inbox = [] := by
  simp [Hub.inbox, Hub.start, Broadcast.ofCapacity, Broadcast.unread]

theorem after_concat (moments : List Moment) (moment : Moment) :
    after answers preference capacity (moments ++ [moment]) =
      step answers (after answers preference capacity moments) moment :=
  List.foldl_concat ..

theorem heard_le_after (moments : List Moment) :
    (after answers preference capacity moments).hub.heard ≤
      (after answers preference capacity moments).hub.bus.finish := by
  induction moments using List.reverseRecOn with
  | nil => exact Nat.zero_le _
  | append_singleton moments moment ih =>
    rw [after_concat]
    exact heard_le_step answers ih moment

/-- At no moment has the manager missed anything that was published. -/
def NeverLags (moments : List Moment) : Prop :=
  ∀ before, before <+: moments → (after answers preference capacity before).hub.missed = 0

/-- No call arrives while a start or stop that was published waits for the manager. -/
def NoneOvertakes (moments : List Moment) : Prop :=
  ∀ before call, before ++ [.arrival (.call call)] <+: moments →
    (after answers preference capacity before).hub.inbox.any (·.isPlayback) = false

instance (moments : List Moment) :
    Decidable (NeverLags answers preference capacity moments) :=
  decidable_of_iff
    (∀ before ∈ moments.inits, (after answers preference capacity before).hub.missed = 0)
    (by simp [NeverLags])

theorem NeverLags.of_concat {moments : List Moment} {moment : Moment}
    (h : NeverLags answers preference capacity (moments ++ [moment])) :
    NeverLags answers preference capacity moments ∧
      (step answers (after answers preference capacity moments) moment).hub.missed = 0 := by
  refine ⟨fun before hb => h before (hb.trans (List.prefix_append _ _)), ?_⟩
  rw [← after_concat]
  exact h _ (List.prefix_refl _)

theorem noneOvertakes_concat {moments : List Moment} {moment : Moment} :
    NoneOvertakes answers preference capacity (moments ++ [moment]) ↔
      NoneOvertakes answers preference capacity moments ∧
        ∀ call, moment = .arrival (.call call) →
          (after answers preference capacity moments).hub.inbox.any (·.isPlayback) = false := by
  unfold NoneOvertakes
  simp only [List.prefix_concat_iff, or_imp, forall_and]
  rw [and_comm]
  refine and_congr_right fun _ => ⟨?_, ?_⟩
  · rintro h call rfl
    exact h moments call rfl
  · intro h before call heq
    obtain ⟨rfl, hmoment⟩ := List.append_singleton_inj.1 heq
    exact h call hmoment.symm

/-- **Calls, starts and stops are taken in the order of their arrival** if and only if no call
arrives while a start or stop waits. This is while the manager misses nothing that is published. In
any case it does what its messages say, in the order in which it takes them, and what arrives in one
queue is taken in this order. -/
theorem taken_in_order_iff (moments : List Moment)
    (h : NeverLags answers preference capacity moments) :
    let c := after answers preference capacity moments
    c.hub.run = Manager.outcome answers preference c.taken ∧
      (∀ place, c.order.filter (·.isIn place) = c.arrived.filter (·.isIn place)) ∧
      (c.order.filter (·.isPublic) = c.arrived.filter (·.isPublic) ↔
        NoneOvertakes answers preference capacity moments) := by
  intro c
  induction moments using List.reverseRecOn with
  | nil =>
    have hnone : c.order = [] := inbox_start preference capacity
    refine ⟨rfl, fun _ => by rw [hnone]; rfl, iff_of_true (by rw [hnone]; rfl) ?_⟩
    intro before call hprefix
    simp at hprefix
  | append_singleton moments moment ih =>
    obtain ⟨hbefore, hmissed⟩ := h.of_concat
    obtain ⟨hrun, hfifo, horder⟩ := ih hbefore
    have hle := heard_le_after answers preference capacity moments
    have hc : c = step answers (after answers preference capacity moments) moment :=
      after_concat ..
    rw [hc, noneOvertakes_concat, ← horder]
    exact ⟨run_step answers (hbefore _ (List.prefix_refl _)) hrun moment,
      fun place => fifo_step answers place hle hmissed (hfifo place),
      inOrder_step answers hle hmissed⟩

/-- A playback is started and its fetch fails, so that a message for the user waits on the bus while
the next call arrives. Then the playback stops. -/
def startedAndSelected : List Moment :=
  let track : Track := .language none "eng" []
  [.arrival (.call (.setPreference (.language "fre"))),
    .arrival (.bus (.playbackStarted ⟨"movie.mkv", none, true, some track, []⟩)), .take, .take,
    .arrival (.completion (.fetched 1 (.error .noFiles))), .take,
    .arrival (.call (.select track)), .take, .arrival (.bus .playbackStopped)]

theorem taken_in_order_startedAndSelected :
    let c := after (fun _ _ _ => .ok ()) (.language "eng") 64 startedAndSelected
    NeverLags (fun _ _ _ => .ok ()) (.language "eng") 64 startedAndSelected ∧
      c.hub.run = Manager.outcome (fun _ _ _ => .ok ()) (.language "eng") c.taken ∧
      (∀ place, c.order.filter (·.isIn place) = c.arrived.filter (·.isIn place)) ∧
      (c.order.filter (·.isPublic) = c.arrived.filter (·.isPublic) ↔
        NoneOvertakes (fun _ _ _ => .ok ()) (.language "eng") 64 startedAndSelected) := by
  have h : NeverLags (fun _ _ _ => .ok ()) (.language "eng") 64 startedAndSelected := by
    decide +kernel
  exact ⟨h, taken_in_order_iff _ _ _ startedAndSelected h⟩

/-- **A call that overtakes a start**: a playback is started, and then another language is selected,
before the manager has its turn. It takes the call first, so that the start, though it came earlier,
overrides the selection. -/
theorem overridden_by_earlier_start :
    let eng : Track := .language none "eng" []
    let fre : Track := .language none "fre" []
    let c := after (fun _ _ _ => .ok ()) (.language "eng") 64
      [.arrival (.bus (.playbackStarted ⟨"movie.mkv", none, true, none, [eng, fre]⟩)),
        .arrival (.call (.select fre)), .take, .take]
    c.arrived.map (·.place) = [2, 0] ∧ c.taken.map (·.place) = [0, 2] ∧
      c.hub.run.state.session.selection = some eng ∧
      (Manager.outcome (fun _ _ _ => .ok ()) (.language "eng") c.arrived).state.session.selection =
        some fre := by
  decide +kernel

end Course

end Subtitler
