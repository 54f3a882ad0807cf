import Subtitler.Listener
import Subtitler.Log
import Subtitler.Player.Call
import Subtitler.Subtitle.Matcher

/-!
# Runs

A run is a state together with all that has been done on the way to it: who was told what, which
players were called and how they answered, which operations were started and given up. Players may
answer as they like, and differently every time.
-/

namespace Subtitler

/-- How a player is called. Numbers tell players of the same name apart. -/
structure PlayerName where
  text : String
  number : Nat := 0
deriving DecidableEq, Repr

instance : Coe String PlayerName := ⟨fun text => { text }⟩

instance : CoeOut PlayerName String := ⟨PlayerName.text⟩

instance : ToString PlayerName := ⟨PlayerName.text⟩

/-- A player that can be attached. -/
structure AttachedPlayer where
  name : PlayerName
  rendersFiles : Bool
deriving DecidableEq, Repr

/-- How players answer a call, given all calls made before. -/
abbrev Answers :=
  List (AttachedPlayer × PlayerCall) → AttachedPlayer → PlayerCall → Except PlayerError Unit

/-- Something that has been done. A fetch or pick is known by its epoch. -/
inductive Effect
  | notified (event : SubtitleEvent)
  | called (player : AttachedPlayer) (call : PlayerCall) (refusal : Option PlayerError)
  | fetchStarted (epoch : Nat) (track : Track) (matcher : Matcher)
  | pickStarted (epoch : Nat)
  | cancelled (epoch : Nat)
  | published (message : String)
  | logged (entry : LogEntry)
  | wrote (text : String)
deriving DecidableEq, Repr

namespace Effect

/-- The call that was made. -/
def call? : Effect → Option (AttachedPlayer × PlayerCall)
  | called player call _ => some (player, call)
  | _ => none

/-- The event that listeners were told of. -/
def event? : Effect → Option SubtitleEvent
  | notified event => some event
  | _ => none

/-- The message that was published for the user. -/
def message? : Effect → Option String
  | published message => some message
  | _ => none

end Effect

/-- A state and what has been done so far. -/
structure Run (σ : Type) where
  state : σ
  effects : List Effect := []
deriving DecidableEq, Repr

namespace Run

variable {σ τ : Type}

/-- The calls made so far. -/
def calls (run : Run σ) : List (AttachedPlayer × PlayerCall) := run.effects.filterMap Effect.call?

/-- The events so far. -/
def events (run : Run σ) : List SubtitleEvent := run.effects.filterMap Effect.event?

/-- Changes the state. -/
def modify (run : Run σ) (f : σ → σ) : Run σ := { run with state := f run.state }

/-- Does something. -/
def emit (run : Run σ) (effect : Effect) : Run σ := { run with effects := run.effects ++ [effect] }

/-- Tells the listeners of an event. -/
def notify (run : Run σ) (event : SubtitleEvent) : Run σ := run.emit (.notified event)

/-- Writes to the log. -/
def log (run : Run σ) (level : LogLevel) (source : LogSource) (message : String) : Run σ :=
  run.emit (.logged ⟨level, source, message⟩)

/-- Calls a player. -/
def call (answers : Answers) (run : Run σ) (player : AttachedPlayer) (call : PlayerCall) :
    Run σ × Except PlayerError Unit :=
  match answers run.calls player call with
  | .ok () => (run.emit (.called player call none), .ok ())
  | .error cause => (run.emit (.called player call (some cause)), .error cause)

/-- Calls a player and logs what `complaint` makes of a refusal. -/
def callOrWarn (answers : Answers) (run : Run σ) (player : AttachedPlayer) (call : PlayerCall)
    (source : LogSource) (complaint : String → String) : Run σ :=
  match run.call answers player call with
  | (run, .ok ()) => run
  | (run, .error cause) => run.log .warn source (complaint cause.message)

/-- Lets a part of the state run, which `get` finds and `set` puts back. -/
def within (get : σ → τ) (set : τ → σ → σ) (step : Run τ → Run τ) (run : Run σ) : Run σ :=
  let done := step ⟨get run.state, run.effects⟩
  ⟨set done.state run.state, done.effects⟩

/-! ## What an operation changes -/

@[simp] theorem effects_modify (run : Run σ) (f : σ → σ) :
    (run.modify f).effects = run.effects := rfl

@[simp] theorem state_modify (run : Run σ) (f : σ → σ) :
    (run.modify f).state = f run.state := rfl

@[simp] theorem state_emit (run : Run σ) (effect : Effect) :
    (run.emit effect).state = run.state := rfl

@[simp] theorem effects_emit (run : Run σ) (effect : Effect) :
    (run.emit effect).effects = run.effects ++ [effect] := rfl

@[simp] theorem events_emit (run : Run σ) (effect : Effect) :
    (run.emit effect).events = run.events ++ effect.event?.toList := by
  cases h : effect.event? <;> simp [events, h]

@[simp] theorem calls_emit (run : Run σ) (effect : Effect) :
    (run.emit effect).calls = run.calls ++ effect.call?.toList := by
  cases h : effect.call? <;> simp [calls, h]

/-- Calling a player changes no state, whatever it answers. -/
@[simp] theorem state_call (answers : Answers) (run : Run σ) (player : AttachedPlayer)
    (call : PlayerCall) : (run.call answers player call).1.state = run.state := by
  unfold Run.call
  split <;> rfl

/-- A call is made, whether or not it is refused. -/
@[simp] theorem calls_call (answers : Answers) (run : Run σ) (player : AttachedPlayer)
    (call : PlayerCall) :
    (run.call answers player call).1.calls = run.calls ++ [(player, call)] := by
  unfold Run.call
  split <;> simp [Effect.call?]

end Run

end Subtitler
