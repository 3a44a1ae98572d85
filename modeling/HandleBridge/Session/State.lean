import HandleBridge.Proxy.Sequence

/-!
Steps of a session and its state. A step is an operation on proxies that go by names, and mentions handles as such,
by the proxy that holds them, or by a name under which they were saved. The state is the named proxies and the saved
handles, and what a step does to them stays done even if the step fails afterwards.
-/

namespace HandleBridge.Session

/-- What an iteration meets at one index. -/
abbrev Item := Except Error (Option ObjectProxy)

/-- What a step answers. -/
inductive Result where
  | nothing
  | flag (b : Bool)
  | number (n : Nat)
  | handle (h : Handle)
  | handles (hs : List Handle)
  | value (v : Value)
  /-- A value in a type of the host program. -/
  | unboxed (t : HostType) (x : t.Carrier)
  | object (o : ObjectProxy)
  | list (l : ListProxy)
  /-- A list with its description. -/
  | listInfo (l : ListProxy)
  /-- Number of elements at the start of an iteration, and what it met. -/
  | iteration (length : UInt64) (items : List Item)
  | items (items : List Item)
  /-- State of a proxy with a description. -/
  | proxyInfo (p : Proxy) (text : String)
  | bridge (b : Bridge)
  | classType (c : ClassType)
  | feature (f : Feature)
  | snapshot (rows : List (Feature × Bool × Value))
  | reference (o : ObjectProxy)
  | downcast (o : ObjectProxy) (v : Option Value)

namespace Result

/-- An object, or nothing. -/
def ofObject? : Option ObjectProxy → Result
  | some o => object o
  | none => nothing

/-- Reply to a boundary call. -/
def ofReply : (c : Call Value) → c.Reply → Result
  | .create _, h | .createList _, h | .upcast _, h | .copy _, h | .listAt _ _, h => handle h
  | .classOf _, c => number c.index.toNat
  | .get _ _ _, v => value v
  | .isSet _ _, b => flag b
  | .listSize _, n => number n.toNat
  | .destroy _, _ | .initialise _, _ | .set _ _ _, _ | .unset _ _, _ | .pushBack _ _, _ | .insertAt _ _ _, _
  | .insertAll _ _, _ | .clear _, _ => nothing

/-- Handle that a result is or carries. -/
def handle? : Result → Option Handle
  | handle h => some h
  | value v => v.handle?
  | _ => none

end Result

/-- How a step mentions a handle. -/
inductive HandleRef where
  | literal (h : Handle)
  /-- The handle that a named proxy holds at the time. -/
  | held (name : String)
  | saved (name : String)

/-- How a step mentions a value. -/
inductive Operand where
  | value (v : Value)
  | object (h : HandleRef)
  | list (h : HandleRef)
  /-- A reference in the host program; to nothing it is null. -/
  | reference (h : HandleRef)

/-- Operation on a list. -/
inductive ListStep where
  | size
  | isEmpty
  | element (index : UInt64)
  | handle (index : UInt64)
  /-- Appends a named object; the answer is the size afterwards, as with the other insertions. -/
  | pushBack (name : String)
  | insertAt (index : UInt64) (name : String)
  /-- Appends the elements of a named list. -/
  | insertAll (name : String)
  | clear
  | handles
  | iterate
  /-- Iterates, clearing the list after the first element. -/
  | iterateClearing
  | info

/-- What is done with the object that a downcast gives. -/
structure Use where
  feature : FeatureId
  /-- Value that is written before the feature is read. -/
  write : Option Operand

/-- Operation on proxies. `as` names the proxy that the operation makes. -/
inductive Step where
  /-- Creates an object of the class that a view is for. -/
  | create (view : TypedView) (as : String)
  /-- Creates an object of a named class. -/
  | createAs (view : TypedView) (cls : String) (as : String)
  /-- Borrows the object behind a handle. -/
  | wrap (handle : HandleRef) (view : TypedView) (as : String)
  /-- Takes over ownership of the object behind a handle. -/
  | adopt (handle : HandleRef) (view : TypedView) (as : String)
  /-- Makes a bare borrowing proxy. -/
  | borrowBare (handle : HandleRef) (as : String)
  /-- Makes a bare owning proxy. -/
  | adoptBare (handle : HandleRef) (as : String)
  /-- Uses up a bare proxy for an object proxy of the class that a view is for. -/
  | fromBare (name : String) (view : TypedView) (as : String)
  /-- Uses up a bare proxy for an object proxy of a named class, or of any. -/
  | fromBareOf (name : String) (cls : Option String) (as : String)
  /-- Turns an object proxy into a bare one. -/
  | toBare (name : String) (as : String)
  /-- Uses up a bare proxy for its handle. -/
  | toHandle (name : String)
  | info (name : String)
  | release (name : String)
  | drop (name : String)
  | handle (handle : HandleRef)
  /-- Describes the bridge. -/
  | bridge
  | get (name : String) (feature : FeatureId) (resolve : Bool)
  | set (name : String) (feature : FeatureId) (value : Operand)
  | isSet (name : String) (feature : FeatureId)
  | unset (name : String) (feature : FeatureId)
  | initialise (name : String)
  | getAs (name : String) (feature : FeatureId) (type : HostType)
  | getNamed (name : String) (feature : String)
  | setNamed (name : String) (feature : String) (value : Operand)
  | classType (name : String)
  | feature (name : String) (feature : FeatureId)
  | snapshot (name : String)
  | reference (name : String) (feature : FeatureId) (view : TypedView)
  | setReference (name : String) (feature : FeatureId) (target : Option String)
  | downcast (name : String) (view : TypedView) (use : Option Use)
  | duplicate (name : String) (view : TypedView) (as : String)
  /-- Operates on the list behind a feature. -/
  | onFeature (name : String) (feature : FeatureId) (element : TypedView) (step : ListStep)
  /-- Reads a feature by the name that the object's view gives it. -/
  | read (name : String) (accessor : String)
  /-- Writes a feature by the name that the object's view gives it. -/
  | write (name : String) (accessor : String) (v : Value)
  /-- Operates on the list behind a feature that the object's view names. -/
  | onSequence (name : String) (accessor : String) (step : ListStep)
  /-- Creates a list for elements of the class that a view is for. -/
  | createList (element : TypedView) (as : String)
  /-- Creates a list for elements of a named class. -/
  | createListOf (element : TypedView) (cls : String) (as : String)
  /-- Borrows the list behind a handle. -/
  | borrowList (handle : HandleRef) (elementClass : ClassId) (element : TypedView) (as : String)
  /-- Operates on a named list. -/
  | onList (name : String) (step : ListStep)
  /-- Makes a boundary call of its own, on the handles and the value that are mentioned. -/
  | native (call : Handle → Handle → Value → Call Value) (target second : HandleRef) (value : Operand)

/-- A proxy that a session holds. -/
inductive Held where
  | bare (p : Proxy)
  | object (o : ObjectProxy) (view : TypedView)
  | list (l : ListProxy)

namespace Held

def proxy : Held → Proxy
  | bare p => p
  | object o _ => o.proxy
  | list l => l.proxy

def withProxy (p : Proxy) : Held → Held
  | bare _ => bare p
  | object o view => object { o with proxy := p } view
  | list l => list { l with proxy := p }

def describe : Held → String
  | bare p => p.describe
  | object o view => o.describeAs view.toView
  | list l => l.describe

end Held

/-- The named proxies and the saved handles. -/
structure State where
  proxies : List (String × Held) := []
  saved : List (String × Handle) := []

/-- Why a step comes to nothing. -/
inductive Stop where
  | failed (e : Error)
  /-- The step mentions a name that stands for nothing, or for a proxy of another sort. -/
  | misuse

/-- Work on a session. -/
abbrev Stage (α : Type) := ExceptT Stop (StateT State (Script Effect Effect.Answer)) α

namespace Stage

/-- Does work that may fail. -/
def act {α : Type} (a : Action α) : Stage α := ExceptT.mk do
  return (← StateT.lift a.run).mapError .failed

/-- Does work that cannot fail. -/
def always {α : Type} (r : Routine α) : Stage α := ExceptT.lift (StateT.lift r)

/-- Goes on with a value that has to be there. -/
def need {α : Type} : Option α → Stage α
  | some a => pure a
  | none => throw .misuse

/-- Proxy under a name. -/
def find (name : String) : Stage Held := do need ((← get).proxies.lookup name)

def object (name : String) : Stage ObjectProxy := do
  match ← find name with
  | .object o _ => return o
  | _ => throw .misuse

/-- Object proxy under a name, with its view. -/
def viewed (name : String) : Stage (ObjectProxy × TypedView) := do
  match ← find name with
  | .object o view => return (o,view)
  | _ => throw .misuse

def list (name : String) : Stage ListProxy := do
  match ← find name with
  | .list l => return l
  | _ => throw .misuse

def forget (name : String) : Stage Unit :=
  modify fun state => { state with proxies := state.proxies.filter (·.1 ≠ name) }

/-- Takes a bare proxy out of the session. -/
def takeBare (name : String) : Stage Proxy := do
  match ← find name with
  | .bare p => do
    forget name
    return p
  | _ => throw .misuse

/-- Puts a proxy under a name. One that stood there before is dropped. -/
def keep (b : Bridge) (name : String) (held : Held) : Stage Unit := do
  if let some old := (← get).proxies.lookup name then always (old.proxy.drop b)
  forget name
  modify fun state => { state with proxies := (name,held) :: state.proxies }

/-- Puts another proxy in the place of one that is there. -/
def update (name : String) (held : Held) : Stage Unit := do
  forget name
  modify fun state => { state with proxies := (name,held) :: state.proxies }

def save (name : String) (h : Handle) : Stage Unit :=
  modify fun state => { state with saved := (name,h) :: state.saved }

/-- The handle that is mentioned. -/
def resolve : HandleRef → Stage Handle
  | .literal h => pure h
  | .held name => do return (← find name).proxy.handle
  | .saved name => do need ((← get).saved.lookup name)

/-- The value that is mentioned. -/
def evaluate : Operand → Stage Value
  | .value v => pure v
  | .object h => do return .object (← resolve h)
  | .list h => do return .list (← resolve h)
  | .reference h => do return HostType.reference.box (some (← resolve h))

end Stage

end HandleBridge.Session
