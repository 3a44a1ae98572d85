import HandleBridge.Foreign.Adapter
import HandleBridge.Foreign.Library
import HandleBridge.Session.Perform

/-!
Sessions against a native side. The native side is the heap itself, or a foreign library that keeps its objects in
such a heap; the same steps run against either.
-/

namespace HandleBridge.Session

/-- Which native side a session runs against. -/
inductive Boundary where
  | inMemory
  | foreign
  deriving DecidableEq

/-- What a session is set up with. -/
structure Setup where
  bridge : Bridge
  boundary : Boundary

/-- A session with its native side. -/
structure World where
  state : State := {}
  library : Foreign.Library := {}

namespace Setup

/-- Lets the foreign library answer what proxies ask for. -/
def answerForeign (s : Setup) : (e : Effect) → StateM Foreign.Library e.Answer
  | .call c =>
    (Foreign.Adapter.call s.bridge.package c).run
      (Foreign.Library.answer s.bridge.package s.bridge.config.heap)
  | .note e => Foreign.Library.onNative (Native.note e)

/-- Lets the native side answer what proxies ask for. -/
def answer (s : Setup) (e : Effect) : StateM Foreign.Library e.Answer :=
  match s.boundary with
  | .inMemory => Foreign.Library.onNative (s.bridge.answerInMemory e)
  | .foreign => s.answerForeign e

/-- Runs a routine against the native side. -/
def run {α : Type} (s : Setup) (r : Routine α) : StateM Foreign.Library α := Script.run s.answer r

/-- Runs work on the session against the native side. -/
def stage {α : Type} (s : Setup) (work : Stage α) : StateM World (Except Stop α) := fun world =>
  let ((result,state),library) := s.run (work.run.run world.state) world.library
  (result,{ state, library })

end Setup

/-- What the native side is told ahead, or asked aside. -/
inductive Aside where
  /-- Whether there is something behind a handle. -/
  | isLive (h : HandleRef)
  /-- Scripts the next calls of an entry to answer a status and a result. -/
  | script (entry : String) (status : Foreign.Status) (out : Option Foreign.Scripted) (times : Nat)
  /-- Scripts the next calls of an entry to answer a handle. -/
  | scriptHandle (entry : String) (status : Foreign.Status) (out : HandleRef) (times : Nat)

/-- One step of a session, or one word aside. -/
inductive Command where
  /-- Does a step; the handle that it answers may be saved under a name. -/
  | step (step : Step) (save : Option String)
  | aside (a : Aside)

/-- What there is to see after a command. -/
structure Tail where
  live : Nat
  created : Nat
  destroyed : Nat
  /-- Events since the command before. -/
  events : List Event
  /-- Entries that were entered since the command before. -/
  entered : List String
  /-- Numbers of texts that the library handed out and got back so far. -/
  handedOut : Nat
  freed : Nat

namespace World

def changeLibrary (change : Foreign.Library → Foreign.Library) : StateM World Unit :=
  modify fun world => { world with library := change world.library }

/-- Scripts results at the end of what is scripted already. -/
def schedule (fault : Foreign.Fault) : StateM World Unit :=
  if fault.times = 0 then pure ()
  else changeLibrary fun library => { library with faults := library.faults ++ [fault] }

/-- Does one word aside. -/
def performAside (s : Setup) : Aside → StateM World (Except Stop Result)
  | .isLive h => do
    match ← s.stage (Stage.resolve h) with
    | .ok h => return .ok (.flag ((← get).library.native.heap.isLive h))
    | .error stop => return .error stop
  | .script entry status out times => do
    schedule { entry, status, out, times }
    return .ok .nothing
  | .scriptHandle entry status h times => do
    match ← s.stage (Stage.resolve h) with
    | .ok h => do
      schedule { entry, status, out := some (.word h.id), times }
      return .ok .nothing
    | .error stop => return .error stop

def perform (s : Setup) : Command → StateM World (Except Stop Result)
  | .step step as => s.stage (step.performSaving s.bridge as)
  | .aside a => performAside s a

/-- Reads off what there is to see and starts new records. -/
def observe : StateM World Tail := do
  let library := (← get).library
  let heap := library.native.heap
  changeLibrary fun library =>
    { library with entered := #[], native := { library.native with journal := #[] } }
  return {
    live := heap.live, created := heap.created, destroyed := heap.destroyed
    events := library.native.journal.toList, entered := library.entered.toList
    handedOut := library.handedOut, freed := library.freed }

/-- Does a command and looks around. -/
def turn (s : Setup) (c : Command) : StateM World (Except Stop Result × Tail) := do
  let result ← perform s c
  return (result,← observe)

/-- Drops what the session still holds and looks around. -/
def finish (s : Setup) : StateM World Tail := do
  let _ ← s.stage (Stage.always ((← get).state.finish s.bridge))
  observe

end World

/-- Runs a session from the start: what each command answers and what is to see after it, and what is to see after
the end. -/
def run (s : Setup) (commands : List Command) : List (Except Stop Result × Tail) × Tail :=
  let work : StateM World (List (Except Stop Result × Tail) × Tail) := do
    let turns ← commands.mapM (World.turn s)
    return (turns,← World.finish s)
  (work.run {}).1

end HandleBridge.Session
