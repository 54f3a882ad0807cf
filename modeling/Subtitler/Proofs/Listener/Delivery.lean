import Subtitler.Listener

/-!
# What a listener is told

Telling an event has a closed form (`notify_eq`): those who are registered at that moment receive it
one after the other, up to the first one whose failure cannot be cleared away (`Behaviour.course`).
If there is none (`Behaviour.Contained`), all of them receive it and nothing is thrown
(`notify_of_contained`). Otherwise the round ends with that one, and what it leaves behind is thrown
(`notify_of_thrown`).

So as long as nothing is thrown, a listener is told of each event as often as it is registered
(`received_notify`); and since nobody is ever removed, one that was registered before hears of
everything (`mem_listeners_notify`).
-/

namespace Subtitler

variable {ι : Type}

/-- What a listener leaves behind when its failure has been cleared away. -/
def Reaction.thrown? (reaction : Reaction ι) : Option Panic := reaction.failure.bind Panic.next?

/-- A delivery with the reaction to it. -/
structure Reception (ι : Type) where
  delivery : Delivery ι
  reaction : Reaction ι

/-- The failure that is noted of a reception, if it ended in one. -/
def Reception.note? (reception : Reception ι) : Option (Delivery ι × String) :=
  reception.reaction.failure.map fun panic => (reception.delivery, panic.message)

namespace Behaviour

variable (behaviour : Behaviour ι)

/-! ## The course of a round -/

/-- How listeners who are told of an event one after the other receive it, given all deliveries
before. -/
def course (event : SubtitleEvent) : List (Delivery ι) → List ι → List (Reception ι)
  | _, [] => []
  | told, listener :: listeners =>
    let reaction := behaviour told listener event
    ⟨⟨listener, event⟩, reaction⟩ ::
      if reaction.thrown?.isSome then [] else course event (told ++ [⟨listener, event⟩]) listeners

/-- What is thrown while listeners are told of an event. -/
def thrown? (event : SubtitleEvent) (told : List (Delivery ι)) (listeners : List ι) :
    Option Panic :=
  (behaviour.course event told listeners).findSome? (·.reaction.thrown?)

/-- Whoever is told of an event, in the order of the listeners, either does not fail or leaves
nothing behind that fails in turn. -/
def Contained (event : SubtitleEvent) (told : List (Delivery ι)) (listeners : List ι) : Prop :=
  ∀ first listener rest, listeners = first ++ listener :: rest →
    (behaviour (told ++ first.map (⟨·, event⟩)) listener event).thrown? = none

variable {event : SubtitleEvent} {told : List (Delivery ι)} {listener : ι} {listeners : List ι}

theorem course_cons_of_none (h : (behaviour told listener event).thrown? = none) :
    behaviour.course event told (listener :: listeners) =
      ⟨⟨listener, event⟩, behaviour told listener event⟩ ::
        behaviour.course event (told ++ [⟨listener, event⟩]) listeners := by
  simp [course, h]

theorem course_cons_of_some {panic : Panic}
    (h : (behaviour told listener event).thrown? = some panic) :
    behaviour.course event told (listener :: listeners) =
      [⟨⟨listener, event⟩, behaviour told listener event⟩] := by
  simp [course, h]

theorem thrown?_cons_of_none (h : (behaviour told listener event).thrown? = none) :
    behaviour.thrown? event told (listener :: listeners) =
      behaviour.thrown? event (told ++ [⟨listener, event⟩]) listeners := by
  rw [thrown?, behaviour.course_cons_of_none h, List.findSome?_cons, h, thrown?]

theorem thrown?_cons_of_some {panic : Panic}
    (h : (behaviour told listener event).thrown? = some panic) :
    behaviour.thrown? event told (listener :: listeners) = some panic := by
  rw [thrown?, behaviour.course_cons_of_some h, List.findSome?_cons, h]

theorem contained_nil : behaviour.Contained event told [] := by
  intro first listener rest h
  simp at h

theorem contained_cons : behaviour.Contained event told (listener :: listeners) ↔
    (behaviour told listener event).thrown? = none ∧
      behaviour.Contained event (told ++ [⟨listener, event⟩]) listeners := by
  constructor
  · intro h
    refine ⟨by simpa using h [] listener listeners rfl, fun first next rest hlisteners => ?_⟩
    have hnext := h (listener :: first) next rest (by rw [hlisteners, List.cons_append])
    rwa [List.map_cons, List.append_cons] at hnext
  · rintro ⟨hhead, htail⟩ first next rest hlisteners
    cases first with
    | nil =>
      obtain ⟨rfl, -⟩ := List.cons.inj hlisteners
      simpa using hhead
    | cons _ first =>
      obtain ⟨rfl, hrest⟩ := List.cons.inj hlisteners
      have hnext := htail first next rest hrest
      rwa [List.append_assoc, List.singleton_append] at hnext

theorem course_of_contained (h : behaviour.Contained event told listeners) :
    (behaviour.course event told listeners).map (·.delivery) = listeners.map (⟨·, event⟩) ∧
      behaviour.thrown? event told listeners = none := by
  induction listeners generalizing told with
  | nil => exact ⟨rfl, rfl⟩
  | cons listener listeners ih =>
    obtain ⟨hhead, htail⟩ := behaviour.contained_cons.1 h
    obtain ⟨hdeliveries, hthrown⟩ := ih htail
    rw [behaviour.course_cons_of_none hhead, behaviour.thrown?_cons_of_none hhead, hthrown,
      List.map_cons, List.map_cons, hdeliveries]
    exact ⟨rfl, rfl⟩

/-- A round ends with the first one whose failure cannot be cleared away. -/
theorem course_of_thrown {first : List ι} {panic : Panic}
    (hfirst : behaviour.Contained event told first) (rest : List ι)
    (h : (behaviour (told ++ first.map (⟨·, event⟩)) listener event).thrown? = some panic) :
    (behaviour.course event told (first ++ listener :: rest)).map (·.delivery) =
        (first ++ [listener]).map (⟨·, event⟩) ∧
      behaviour.thrown? event told (first ++ listener :: rest) = some panic := by
  induction first generalizing told with
  | nil =>
    rw [List.map_nil, List.append_nil] at h
    rw [List.nil_append, behaviour.course_cons_of_some h, behaviour.thrown?_cons_of_some h]
    exact ⟨rfl, rfl⟩
  | cons before first ih =>
    obtain ⟨hhead, htail⟩ := behaviour.contained_cons.1 hfirst
    rw [List.map_cons, List.append_cons] at h
    obtain ⟨hdeliveries, hthrown⟩ := ih htail h
    rw [List.cons_append, behaviour.course_cons_of_none hhead,
      behaviour.thrown?_cons_of_none hhead, hthrown, List.map_cons, hdeliveries]
    exact ⟨rfl, rfl⟩

theorem exists_thrown (h : ¬behaviour.Contained event told listeners) :
    ∃ first listener rest panic, listeners = first ++ listener :: rest ∧
      behaviour.Contained event told first ∧
      (behaviour (told ++ first.map (⟨·, event⟩)) listener event).thrown? = some panic := by
  induction listeners generalizing told with
  | nil => exact absurd behaviour.contained_nil h
  | cons listener listeners ih =>
    cases hhead : (behaviour told listener event).thrown? with
    | some panic =>
      exact ⟨[], listener, listeners, panic, rfl, behaviour.contained_nil, by simpa using hhead⟩
    | none =>
      have htail := fun htail => h (behaviour.contained_cons.2 ⟨hhead, htail⟩)
      obtain ⟨first, next, rest, panic, rfl, hfirst, hthrown⟩ := ih htail
      refine ⟨listener :: first, next, rest, panic, rfl,
        behaviour.contained_cons.2 ⟨hhead, hfirst⟩, ?_⟩
      rwa [List.map_cons, List.append_cons]

end Behaviour

namespace ListenerRegistry

variable (behaviour : Behaviour ι)

/-! ## Telling everybody -/

/-- A registry after listeners have received an event. -/
def afterCourse (registry : ListenerRegistry ι) (course : List (Reception ι)) :
    ListenerRegistry ι :=
  { registry with
    listeners := registry.listeners ++ course.flatMap (·.reaction.registers)
    delivered := registry.delivered ++ course.map (·.delivery)
    failures := registry.failures ++ course.filterMap Reception.note? }

theorem afterCourse_nil (registry : ListenerRegistry ι) : registry.afterCourse [] = registry := by
  simp [afterCourse]

theorem afterCourse_cons (registry : ListenerRegistry ι) (reception : Reception ι)
    (course : List (Reception ι)) : registry.afterCourse (reception :: course) =
      (registry.afterCourse [reception]).afterCourse course := by
  cases hnote : reception.note? <;> simp [afterCourse, hnote]

theorem deliver_eq (event : SubtitleEvent) (registry : ListenerRegistry ι) (listener : ι) :
    registry.deliver behaviour event listener =
      (registry.afterCourse [⟨⟨listener, event⟩, behaviour registry.delivered listener event⟩],
        (behaviour registry.delivered listener event).thrown?.elim (.ok ()) .error) := by
  unfold deliver invoke afterCourse Reception.note? Reaction.thrown?
  cases hfailure : (behaviour registry.delivered listener event).failure with
  | none => simp [hfailure]
  | some panic => cases hnext : panic.next? <;> simp [hfailure, hnext]

theorem tell_eq (event : SubtitleEvent) (listeners : List ι) (registry : ListenerRegistry ι) :
    tell behaviour event listeners registry =
      (registry.afterCourse (behaviour.course event registry.delivered listeners),
        (behaviour.thrown? event registry.delivered listeners).elim (.ok ()) .error) := by
  induction listeners generalizing registry with
  | nil => exact Prod.ext registry.afterCourse_nil.symm rfl
  | cons listener listeners ih =>
    rw [tell, deliver_eq]
    cases hthrown : (behaviour registry.delivered listener event).thrown? with
    | some panic =>
      rw [behaviour.course_cons_of_some hthrown, behaviour.thrown?_cons_of_some hthrown]
      rfl
    | none =>
      rw [behaviour.course_cons_of_none hthrown, behaviour.thrown?_cons_of_none hthrown,
        registry.afterCourse_cons _ (behaviour.course event _ listeners)]
      exact ih _

/-- Telling an event in closed form. -/
theorem notify_eq (registry : ListenerRegistry ι) (event : SubtitleEvent) :
    registry.notify behaviour event =
      { registry.afterCourse (behaviour.course event registry.delivered registry.listeners) with
        thrown := registry.thrown ++
          (behaviour.thrown? event registry.delivered registry.listeners).toList.map
            (event, ·) } := by
  rw [notify, tell_eq]
  cases behaviour.thrown? event registry.delivered registry.listeners with
  | none => simp [afterCourse]
  | some panic => rfl

theorem notify_of_contained {registry : ListenerRegistry ι} {event : SubtitleEvent}
    (h : behaviour.Contained event registry.delivered registry.listeners) :
    (registry.notify behaviour event).delivered =
        registry.delivered ++ registry.listeners.map (⟨·, event⟩) ∧
      (registry.notify behaviour event).thrown = registry.thrown := by
  obtain ⟨hdeliveries, hthrown⟩ := behaviour.course_of_contained h
  rw [notify_eq, hthrown]
  exact ⟨congrArg (registry.delivered ++ ·) hdeliveries, List.append_nil _⟩

/-- A round ends with the first one whose failure cannot be cleared away, and what is left behind
then is thrown. -/
theorem notify_of_thrown {registry : ListenerRegistry ι} {event : SubtitleEvent}
    {first rest : List ι} {listener : ι} {panic : Panic}
    (hlisteners : registry.listeners = first ++ listener :: rest)
    (hfirst : behaviour.Contained event registry.delivered first)
    (hthrown : (behaviour (registry.delivered ++ first.map (⟨·, event⟩)) listener event).thrown? =
      some panic) :
    (registry.notify behaviour event).delivered =
        registry.delivered ++ (first ++ [listener]).map (⟨·, event⟩) ∧
      (registry.notify behaviour event).thrown = registry.thrown ++ [(event, panic)] := by
  obtain ⟨hdeliveries, hround⟩ := behaviour.course_of_thrown hfirst rest hthrown
  rw [notify_eq, hlisteners, hround]
  exact ⟨congrArg (registry.delivered ++ ·) hdeliveries, rfl⟩

/-- Nothing is thrown exactly if everybody's failure can be cleared away. -/
theorem thrown_notify_eq_iff {registry : ListenerRegistry ι} {event : SubtitleEvent} :
    (registry.notify behaviour event).thrown = registry.thrown ↔
      behaviour.Contained event registry.delivered registry.listeners := by
  refine ⟨fun h => Classical.byContradiction fun hnot => ?_,
    fun h => (notify_of_contained behaviour h).2⟩
  obtain ⟨first, listener, rest, panic, hlisteners, hfirst, hthrown⟩ := behaviour.exists_thrown hnot
  have hround := (notify_of_thrown behaviour hlisteners hfirst hthrown).2
  rw [h] at hround
  simp at hround

/-- Who is registered stays so, and others come after. -/
theorem listeners_notify (registry : ListenerRegistry ι) (event : SubtitleEvent) :
    registry.listeners <+: (registry.notify behaviour event).listeners := by
  rw [notify_eq]
  exact List.prefix_append _ _

theorem mem_listeners_notify {registry : ListenerRegistry ι} {listener : ι}
    (h : listener ∈ registry.listeners) (event : SubtitleEvent) :
    listener ∈ (registry.notify behaviour event).listeners :=
  (listeners_notify behaviour registry event).subset h

theorem thrown_notify (registry : ListenerRegistry ι) (event : SubtitleEvent) :
    registry.thrown <+: (registry.notify behaviour event).thrown := by
  rw [notify_eq]
  exact List.prefix_append _ _

/-! ## One listener -/

/-- Tells everybody of events, one after the other. -/
def notifyAll (registry : ListenerRegistry ι) (events : List SubtitleEvent) :
    ListenerRegistry ι :=
  events.foldl (notify behaviour) registry

theorem thrown_notifyAll (registry : ListenerRegistry ι) (events : List SubtitleEvent) :
    registry.thrown <+: (registry.notifyAll behaviour events).thrown := by
  induction events generalizing registry with
  | nil => exact List.prefix_rfl
  | cons event events ih => exact (thrown_notify behaviour registry event).trans (ih _)

/-- If nothing is thrown over all events, then nothing is thrown at the first one. -/
theorem thrown_notify_eq {registry : ListenerRegistry ι} {event : SubtitleEvent}
    {events : List SubtitleEvent}
    (h : (registry.notifyAll behaviour (event :: events)).thrown = registry.thrown) :
    (registry.notify behaviour event).thrown = registry.thrown := by
  have hnow := thrown_notify behaviour registry event
  have hlater := thrown_notifyAll behaviour (registry.notify behaviour event) events
  refine (hnow.eq_of_length (Nat.le_antisymm hnow.length_le ?_)).symm
  rw [← h]
  exact hlater.length_le

variable [DecidableEq ι]

/-- The events that a listener was told of, in order. -/
def received (registry : ListenerRegistry ι) (listener : ι) : List SubtitleEvent :=
  (registry.delivered.filter (·.listener = listener)).map (·.event)

theorem received_notify {registry : ListenerRegistry ι} {event : SubtitleEvent}
    (h : (registry.notify behaviour event).thrown = registry.thrown) (listener : ι) :
    (registry.notify behaviour event).received listener =
      registry.received listener ++
        List.replicate (registry.listeners.count listener) event := by
  have hcount : ∀ listeners : List ι,
      ((listeners.map fun l => (⟨l, event⟩ : Delivery ι)).filter (·.listener = listener)).map
        (·.event) = List.replicate (listeners.count listener) event := by
    intro listeners
    induction listeners with
    | nil => rfl
    | cons l listeners ih => by_cases h : l = listener <;> simp_all [List.replicate_succ]
  have hdelivered := (notify_of_contained behaviour ((thrown_notify_eq_iff behaviour).1 h)).1
  rw [received, hdelivered, List.filter_append, List.map_append, hcount, received]

end ListenerRegistry

end Subtitler
