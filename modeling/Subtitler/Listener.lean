import Subtitler.Subtitle.Cue

/-!
# Listeners

Listeners are told of events in the order in which they registered. A listener that fails is noted
and keeps nobody else from being told. One that registers others while it is told adds them for
the events to come.
-/

namespace Subtitler

/-- A change of what is shown. Offsets are in milliseconds. -/
inductive SubtitleEvent
  | downloading (track : Track)
  | activated (subtitle : Subtitle)
  | nativeActivated (file : String)
  | disabled
  | failed (reason : String)
  | sizeChanged (size : UInt32)
  | offsetChanged (offset : Int)
deriving DecidableEq, Repr

/-- What a listener that fails leaves behind: a text, something else, or something that cannot be
cleared away without another failure, which leaves `next` behind. -/
inductive Panic
  | text (message : String)
  | other
  | chained (next : Panic)
deriving DecidableEq, Repr

/-- The failure of a listener in words. -/
def Panic.message : Panic → String
  | text message => message
  | other | chained _ => "unknown panic"

/-- What is left behind when a failure has been cleared away. -/
def Panic.next? : Panic → Option Panic
  | chained next => some next
  | text _ | other => none

/-- An event that a listener was told of. -/
structure Delivery (ι : Type) where
  listener : ι
  event : SubtitleEvent
deriving DecidableEq, Repr

/-- What a listener does when it is told of an event: the listeners that it registers, be it only
while its failure is cleared away, and how it fails, if it does. -/
structure Reaction (ι : Type) where
  registers : List ι
  failure : Option Panic
deriving DecidableEq, Repr

/-- How listeners react, which may depend on all that was delivered before. -/
abbrev Behaviour (ι : Type) := List (Delivery ι) → ι → SubtitleEvent → Reaction ι

/-- The listeners in the order of their registration, what was delivered so far, which deliveries
ended in a failure, and what was thrown to those who told an event. -/
structure ListenerRegistry (ι : Type) where
  listeners : List ι := []
  delivered : List (Delivery ι) := []
  failures : List (Delivery ι × String) := []
  thrown : List (SubtitleEvent × Panic) := []
deriving DecidableEq, Repr

namespace ListenerRegistry

variable {ι : Type}

/-- Registers a listener. -/
def add (registry : ListenerRegistry ι) (listener : ι) : ListenerRegistry ι :=
  { registry with listeners := registry.listeners ++ [listener] }

/-- The number of listeners. -/
def size (registry : ListenerRegistry ι) : Nat := registry.listeners.length

/-- Whether nobody listens. -/
def isEmpty (registry : ListenerRegistry ι) : Bool := registry.listeners.isEmpty

/-- A registry in words. -/
def display (registry : ListenerRegistry ι) : String :=
  s!"ListenerRegistry \x7b listeners: {registry.size} \x7d"

/-- Runs a listener, which may fail. What it registered before stays registered. -/
def invoke (behaviour : Behaviour ι) (registry : ListenerRegistry ι) (delivery : Delivery ι) :
    ListenerRegistry ι × Except Panic Unit :=
  let reaction := behaviour registry.delivered delivery.listener delivery.event
  ({ registry with
      listeners := registry.listeners ++ reaction.registers
      delivered := registry.delivered ++ [delivery] },
    match reaction.failure with
    | some panic => .error panic
    | none => .ok ())

/-- Tells one listener of an event. Its failure is caught and noted, and then cleared away. -/
def deliver (behaviour : Behaviour ι) (event : SubtitleEvent) (registry : ListenerRegistry ι)
    (listener : ι) : ListenerRegistry ι × Except Panic Unit :=
  match registry.invoke behaviour ⟨listener, event⟩ with
  | (registry, .ok ()) => (registry, .ok ())
  | (registry, .error panic) =>
    ({ registry with failures := registry.failures ++ [(⟨listener, event⟩, panic.message)] },
      match panic.next? with
      | some next => .error next
      | none => .ok ())

/-- Tells listeners of an event one after the other, until something is thrown. -/
def tell (behaviour : Behaviour ι) (event : SubtitleEvent) :
    List ι → ListenerRegistry ι → ListenerRegistry ι × Except Panic Unit
  | [], registry => (registry, .ok ())
  | listener :: listeners, registry =>
    match registry.deliver behaviour event listener with
    | (registry, .ok ()) => tell behaviour event listeners registry
    | (registry, .error panic) => (registry, .error panic)

/-- Tells all listeners of an event that are registered now. -/
def notify (behaviour : Behaviour ι) (registry : ListenerRegistry ι) (event : SubtitleEvent) :
    ListenerRegistry ι :=
  match tell behaviour event registry.listeners registry with
  | (registry, .ok ()) => registry
  | (registry, .error panic) => { registry with thrown := registry.thrown ++ [(event, panic)] }

end ListenerRegistry

end Subtitler
