import HandleBridge.Heap.Respond

/-!
Proxies: a handle with its ownership. A proxy that owns its object destroys it once, when it is released or dropped,
and then holds nothing; a proxy that borrows it never does. Their work is a script over the boundary that makes calls and
reports events and depends on the answers alone, so that the heap in memory is but one way to run it.
-/

namespace HandleBridge

/-- What proxies ask for. -/
inductive Effect where
  /-- Makes a boundary call. -/
  | call (c : Call Value)
  /-- Reports an event. -/
  | note (e : Event)

/-- What proxies get to know. -/
abbrev Effect.Answer : Effect → Type
  | .call c => Except Error c.Reply
  | .note _ => Unit

/-- Work that always comes to an end with a result. -/
abbrev Routine (α : Type) := Script Effect Effect.Answer α

/-- Work that may fail. -/
abbrev Action (α : Type) := ExceptT Error (Script Effect Effect.Answer) α

namespace Routine

def ask (c : Call Value) : Routine (Except Error c.Reply) := Script.ask (.call c) .done

def note (e : Event) : Routine Unit := Script.ask (.note e) .done

end Routine

/-- What all proxies share: the classes of the native side and the settings. -/
structure Bridge where
  package : Package
  config : Config

namespace Bridge

/-- Makes one boundary call; it is announced if the settings want so, and a failure is reported. -/
def call (b : Bridge) (c : Call Value) : Action c.Reply := ExceptT.mk do
  if b.config.traceCalls then Routine.note (.calling c.name c.target)
  match ← Routine.ask c with
  | .ok reply => return .ok reply
  | .error e =>
    Routine.note (.callFailed c.name c.target e)
    return .error e

def describe (b : Bridge) : String :=
  s!"Bridge \x7b package: {Text.quoted b.package.name}, config: {b.config.describe} \x7d"

end Bridge

/-- Local stand-in for one native object or list. -/
structure Proxy where
  handle : Handle
  ownership : Ownership
  /-- Whether the handle was given away. -/
  isReleased : Bool
  deriving DecidableEq

namespace Proxy

/-- Proxy that only looks at the object. -/
def borrowing (h : Handle) : Proxy := ⟨h,.borrowed,false⟩

/-- Proxy that owns the object. -/
def owning (h : Handle) : Proxy := ⟨h,.owned,false⟩

/-- What is left of a proxy once its handle was given away. -/
def retired : Proxy := ⟨.null,.borrowed,true⟩

/-- Takes over ownership of a handle that no other proxy owns. -/
def adopt (h : Handle) : Routine Proxy := do
  Routine.note (.adopted h)
  return owning h

/-- Handle for a call, unless there is none. -/
def live (p : Proxy) : Except Error Handle :=
  if p.isReleased then .error .released
  else if p.handle.isNull then .error .nullHandle
  else .ok p.handle

/-- Destroys the object of an owning proxy, and answers whether it did. The proxy is retired afterwards, whatever
the answer. -/
def release (b : Bridge) (p : Proxy) : Action Bool :=
  if p.handle.isNull || !p.ownership.isOwned then return false
  else do
    Routine.note (.releasing p.handle)
    b.call (.destroy p.handle)
    return true

/-- Releases a proxy that goes away; a failure is only reported. -/
def drop (b : Bridge) (p : Proxy) : Routine Unit := do
  if let .error e ← (p.release b).run then Routine.note (.dropFailed e)

def describe (p : Proxy) : String :=
  s!"ProxyObject \x7b handle: {p.handle.describe}, ownership: {p.ownership.describe} \x7d"

end Proxy

end HandleBridge

namespace HandleBridge.Bridge

/-- Lets the heap answer what proxies ask for. -/
def answerInMemory (b : Bridge) : (e : Effect) → StateM Native e.Answer
  | .call c => Native.call b.package b.config.heap c
  | .note e => Native.note e

/-- Runs a routine on the heap. -/
def runInMemory {α : Type} (b : Bridge) (r : Routine α) : StateM Native α := Script.run b.answerInMemory r

end HandleBridge.Bridge
