import Subtitler.Proofs.Listener.Delivery

/-!
# Rounds of telling

Listeners may register others while they are told of an event, and may fail at any time. How they
react can depend on all that was delivered before; since every delivery makes that history longer,
any course that a run takes is the course of some behaviour.

**Theorem (`told_to_all_iff`).** Take any calls of a new registry, among which an event is told.

- *Complete and isolated*: the event is delivered once for each registration that was made before,
  in the order of the registrations, and nothing is thrown, exactly if every failure on the way can
  be cleared away. A failure is caught, but what it leaves behind is cleared away outside of what
  catches it.
- *Broken off*: the first failure that cannot be cleared away ends the round. Whoever comes after
  that listener is not told.
- *Later events*: what listeners register in the meantime comes after those who are registered, and
  each later event goes, in its own round, to an audience that begins with all of these.
-/

namespace Subtitler

variable {ι : Type}

/-- A call of a registry. -/
inductive RegistryCall (ι : Type)
  | add (listener : ι)
  | notify (event : SubtitleEvent)

/-- The event that a call tells. -/
def RegistryCall.event? : RegistryCall ι → Option SubtitleEvent
  | add _ => none
  | notify event => some event

/-- An event that is told, with all that was delivered and those who were registered when the
telling began. -/
structure Round (ι : Type) where
  event : SubtitleEvent
  told : List (Delivery ι)
  audience : List ι

/-- What is delivered in a round. -/
def Round.deliveries (behaviour : Behaviour ι) (round : Round ι) : List (Delivery ι) :=
  (behaviour.course round.event round.told round.audience).map (·.delivery)

namespace ListenerRegistry

variable (behaviour : Behaviour ι)

/-- Takes a call. -/
def perform (registry : ListenerRegistry ι) : RegistryCall ι → ListenerRegistry ι
  | .add listener => registry.add listener
  | .notify event => registry.notify behaviour event

/-- Takes calls one after the other. -/
def performAll (registry : ListenerRegistry ι) (calls : List (RegistryCall ι)) :
    ListenerRegistry ι :=
  calls.foldl (perform behaviour) registry

theorem performAll_append (registry : ListenerRegistry ι) (first second : List (RegistryCall ι)) :
    performAll behaviour registry (first ++ second) =
      performAll behaviour (performAll behaviour registry first) second :=
  List.foldl_append

/-- The rounds of calls. -/
def rounds : ListenerRegistry ι → List (RegistryCall ι) → List (Round ι)
  | _, [] => []
  | registry, .add listener :: calls => rounds (registry.add listener) calls
  | registry, .notify event :: calls =>
    ⟨event, registry.delivered, registry.listeners⟩ ::
      rounds (registry.notify behaviour event) calls

theorem listeners_perform (registry : ListenerRegistry ι) (call : RegistryCall ι) :
    registry.listeners <+: (perform behaviour registry call).listeners := by
  cases call with
  | add listener => exact List.prefix_append _ _
  | notify event => exact listeners_notify behaviour registry event

/-- Each event is told in one round. -/
theorem events_rounds (registry : ListenerRegistry ι) (calls : List (RegistryCall ι)) :
    (rounds behaviour registry calls).map (·.event) = calls.filterMap RegistryCall.event? := by
  induction calls generalizing registry with
  | nil => rfl
  | cons call calls ih =>
    cases call with
    | add listener => exact ih (registry.add listener)
    | notify event => exact congrArg (event :: ·) (ih (registry.notify behaviour event))

/-- Who is registered belongs to the audience of every round to come. -/
theorem audience_rounds {registry : ListenerRegistry ι} {calls : List (RegistryCall ι)}
    {round : Round ι} (h : round ∈ rounds behaviour registry calls) :
    registry.listeners <+: round.audience := by
  induction calls generalizing registry with
  | nil => cases h
  | cons call calls ih =>
    have hkept := listeners_perform behaviour registry call
    cases call with
    | add listener => exact hkept.trans (ih h)
    | notify event =>
      rcases List.mem_cons.1 h with rfl | hlater
      · exact List.prefix_rfl
      · exact hkept.trans (ih hlater)

/-- All deliveries of calls are those of their rounds. -/
theorem delivered_performAll (registry : ListenerRegistry ι) (calls : List (RegistryCall ι)) :
    (performAll behaviour registry calls).delivered =
      registry.delivered ++
        (rounds behaviour registry calls).flatMap (Round.deliveries behaviour) := by
  induction calls generalizing registry with
  | nil => exact (List.append_nil _).symm
  | cons call calls ih =>
    cases call with
    | add listener => exact ih (registry.add listener)
    | notify event =>
      have hround : (registry.notify behaviour event).delivered = registry.delivered ++
          (Round.mk event registry.delivered registry.listeners).deliveries behaviour := by
        rw [notify_eq, afterCourse, Round.deliveries]
      rw [rounds, List.flatMap_cons, ← List.append_assoc, ← hround]
      exact ih (registry.notify behaviour event)

/-- **Telling is complete, ordered and isolated exactly if all failures can be cleared away.** An
event that is told among any calls is delivered once for each registration that was made before, in
their order, and nothing is thrown, if and only if nobody who is told fails in a way that cannot be
cleared away. Otherwise the round ends with the first one who does, and what is left behind then is
thrown. In either case the failures are noted, and whom the listeners register meanwhile comes
after. Every later event goes, in a round of its own, to an audience that begins with all of
these. -/
theorem told_to_all_iff (before after : List (RegistryCall ι)) (event : SubtitleEvent) :
    let started := performAll behaviour {} before
    let ended := performAll behaviour {} (before ++ [.notify event])
    let final := performAll behaviour {} (before ++ .notify event :: after)
    let course := behaviour.course event started.delivered started.listeners
    let later := rounds behaviour ended after
    ((ended.delivered = started.delivered ++ started.listeners.map (⟨·, event⟩) ∧
        ended.thrown = started.thrown) ↔
      behaviour.Contained event started.delivered started.listeners) ∧
    (∀ first listener rest panic, started.listeners = first ++ listener :: rest →
      behaviour.Contained event started.delivered first →
      (behaviour (started.delivered ++ first.map (⟨·, event⟩)) listener event).thrown? =
        some panic →
      ended.delivered = started.delivered ++ (first ++ [listener]).map (⟨·, event⟩) ∧
        ended.thrown = started.thrown ++ [(event, panic)]) ∧
    (ended.listeners = started.listeners ++ course.flatMap (·.reaction.registers) ∧
      ended.failures = started.failures ++ course.filterMap Reception.note?) ∧
    final.delivered = ended.delivered ++ later.flatMap (Round.deliveries behaviour) ∧
      later.map (·.event) = after.filterMap RegistryCall.event? ∧
      ∀ round ∈ later, ended.listeners <+: round.audience := by
  intro started ended final course later
  have hended : ended = started.notify behaviour event :=
    performAll_append behaviour {} before [.notify event]
  have hfinal : final = performAll behaviour ended after := by
    rw [← performAll_append, List.append_assoc]
    rfl
  refine ⟨⟨fun h => ?_, fun h => ?_⟩, fun first listener rest panic hlisteners hfirst h => ?_,
    ⟨?_, ?_⟩, ?_, events_rounds behaviour ended after, fun round hround => ?_⟩
  · rw [hended] at h
    exact (thrown_notify_eq_iff behaviour).1 h.2
  · rw [hended]
    exact notify_of_contained behaviour h
  · rw [hended]
    exact notify_of_thrown behaviour hlisteners hfirst h
  · rw [hended, notify_eq, afterCourse]
  · rw [hended, notify_eq, afterCourse]
  · rw [hfinal, delivered_performAll]
  · exact audience_rounds behaviour hround

/-- Nobody is told after a listener whose failure leaves behind what fails once more when it is
cleared away, and this failure goes on to whoever told the event. -/
theorem broken_off_after_first :
    let behaviour : Behaviour Nat := fun _ listener _ =>
      ⟨[], if listener = 0 then some (.chained .other) else none⟩
    let registry := performAll behaviour {} [.add 0, .add 1, .notify .disabled]
    registry.listeners = [0, 1] ∧ registry.delivered = [⟨0, .disabled⟩] ∧
      registry.thrown = [(.disabled, .other)] := by
  decide

end ListenerRegistry

end Subtitler
