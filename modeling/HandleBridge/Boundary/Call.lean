import HandleBridge.Schema.Package

/-!
Calls on the boundary as data. Everything that proxies want of the native side is one of these calls, and the
native side is whatever answers them. The values in calls and replies have a type of their own, so that one
description serves a boundary of plain values and one of encoded values. Events tell what proxies and the heap report of
their work.

A script asks for answers before it is done. It fixes which requests it makes for which answers and knows nothing of who
answers, so one script runs against every responder.
-/

namespace HandleBridge

/-- A computation that is done, or asks a request and goes on with the answer. -/
inductive Script (Request : Type) (Answer : Request → Type) (α : Type) : Type where
  | done (result : α)
  | ask (request : Request) (next : Answer request → Script Request Answer α)

namespace Script

variable {Request : Type} {Answer : Request → Type} {α β γ σ : Type}

def bind : Script Request Answer α → (α → Script Request Answer β) → Script Request Answer β
  | done result, f => f result
  | ask request next, f => ask request fun answer => (next answer).bind f

instance : Monad (Script Request Answer) where
  pure := done
  bind := bind

/-- Asks one request for its answer. -/
def request (r : Request) : Script Request Answer (Answer r) := ask r done

/-- Runs the script against a responder whose state changes from answer to answer. -/
def run (respond : (r : Request) → StateM σ (Answer r)) : Script Request Answer α → StateM σ α
  | done result => pure result
  | ask r next => respond r >>= fun answer => (next answer).run respond

@[simp] theorem done_bind (a : α) (f : α → Script Request Answer β) : (done a).bind f = f a := rfl

@[simp] theorem ask_bind (r : Request) (next : Answer r → Script Request Answer α)
    (f : α → Script Request Answer β) : (ask r next).bind f = ask r fun answer => (next answer).bind f := rfl

theorem bind_done (s : Script Request Answer α) : s.bind done = s := by
  induction s with
  | done => rfl
  | ask r next ih => simp [ih]

theorem bind_assoc (s : Script Request Answer α) (f : α → Script Request Answer β)
    (g : β → Script Request Answer γ) : (s.bind f).bind g = s.bind fun a => (f a).bind g := by
  induction s with
  | done => rfl
  | ask r next ih => simp [ih]

instance : LawfulMonad (Script Request Answer) :=
  LawfulMonad.mk' (Script Request Answer) bind_done (fun _ _ => rfl) bind_assoc

/-- Running one script after another runs the second in the state that the first leaves. -/
theorem run_bind (respond : (r : Request) → StateM σ (Answer r)) (s : Script Request Answer α)
    (f : α → Script Request Answer β) :
    (s.bind f).run respond = s.run respond >>= fun a => (f a).run respond := by
  induction s with
  | done => simp [run]
  | ask r next ih => simp [run,ih]

end Script

/-- One call on the boundary with its arguments, over values of type `V`. -/
inductive Call (V : Type) where
  /-- Allocates an object of a class. -/
  | create (cls : ClassId)
  | destroy (handle : Handle)
  /-- Converts a handle to the one that reflective calls expect. -/
  | upcast (handle : Handle)
  /-- Runs the native initializer of an object. -/
  | initialise (handle : Handle)
  /-- Copies an object, which the caller then owns. -/
  | copy (handle : Handle)
  | classOf (handle : Handle)
  /-- Reads a feature; `resolve` asks the native side to resolve stubs of references. -/
  | get (handle : Handle) (feature : FeatureId) (resolve : Bool)
  /-- Writes a feature and marks it as set. -/
  | set (handle : Handle) (feature : FeatureId) (value : V)
  | isSet (handle : Handle) (feature : FeatureId)
  /-- Reverts a feature to its default. -/
  | unset (handle : Handle) (feature : FeatureId)
  /-- Allocates an empty list for elements of a class. -/
  | createList (elementClass : ClassId)
  | listSize (list : Handle)
  | listAt (list : Handle) (index : UInt64)
  | pushBack (list element : Handle)
  | insertAt (list : Handle) (position : UInt64) (element : Handle)
  /-- Appends the elements of another list. -/
  | insertAll (list other : Handle)
  | clear (list : Handle)
  deriving DecidableEq

namespace Call

variable {V W : Type}

/-- What a successful call answers. -/
abbrev Reply : Call V → Type
  | create _ | createList _ | upcast _ | copy _ | listAt _ _ => Handle
  | classOf _ => ClassId
  | get _ _ _ => V
  | isSet _ _ => Bool
  | listSize _ => UInt64
  | destroy _ | initialise _ | set _ _ _ | unset _ _ | pushBack _ _ | insertAt _ _ _ | insertAll _ _
  | clear _ => Unit

/-- Name of the call in logs and messages. -/
def name : Call V → String
  | create _ => "create"
  | destroy _ => "destroy"
  | upcast _ => "upcast"
  | initialise _ => "initialize"
  | copy _ => "copy"
  | classOf _ => "class_of"
  | get _ _ _ => "e_get"
  | set _ _ _ => "e_set"
  | isSet _ _ => "e_is_set"
  | unset _ _ => "e_unset"
  | createList _ => "create_list"
  | listSize _ => "list_size"
  | listAt _ _ => "list_at"
  | pushBack _ _ => "list_push_back"
  | insertAt _ _ _ => "list_insert_at"
  | insertAll _ _ => "list_insert_all"
  | clear _ => "list_clear"

/-- The object or list that the call is about; an allocation is about none. -/
def target : Call V → Handle
  | create _ | createList _ => .null
  | destroy h | upcast h | initialise h | copy h | classOf h | get h _ _ | set h _ _ | isSet h _ | unset h _
  | listSize h | listAt h _ | pushBack h _ | insertAt h _ _ | insertAll h _ | clear h => h

/-- The call with another form of the value that it writes. -/
def map (f : V → W) : Call V → Call W
  | create c => create c
  | destroy h => destroy h
  | upcast h => upcast h
  | initialise h => initialise h
  | copy h => copy h
  | classOf h => classOf h
  | get h f resolve => get h f resolve
  | set h feature v => set h feature (f v)
  | isSet h f => isSet h f
  | unset h f => unset h f
  | createList c => createList c
  | listSize h => listSize h
  | listAt h i => listAt h i
  | pushBack h e => pushBack h e
  | insertAt h i e => insertAt h i e
  | insertAll h o => insertAll h o
  | clear h => clear h

end Call

/-- How much an event matters. -/
inductive Level where
  | trace
  | debug
  | warn
  deriving DecidableEq

def Level.name : Level → String
  | trace => "TRACE"
  | debug => "DEBUG"
  | warn => "WARN"

/-- One report. -/
inductive Event where
  /-- A call is about to be made. -/
  | calling (call : String) (target : Handle)
  | callFailed (call : String) (target : Handle) (error : Error)
  /-- The heap made an object. -/
  | heapCreated (cls : String) (handle : Handle)
  | heapCreatedList (handle : Handle)
  | heapDestroyed (handle : Handle)
  /-- An object was made for a proxy. -/
  | created (cls : String) (handle : Handle)
  | adopted (handle : Handle)
  /-- An owning proxy is about to destroy its object. -/
  | releasing (handle : Handle)
  /-- An owning proxy went away and could not destroy its object. -/
  | dropFailed (error : Error)
  | duplicated (source copy : Handle)
  /-- A list was made for a proxy. -/
  | createdList (element : String) (handle : Handle)
  deriving DecidableEq

namespace Event

def level : Event → Level
  | calling _ _ => .trace
  | dropFailed _ => .warn
  | _ => .debug

/-- Message of an event, followed by its fields. -/
def message : Event → String
  | calling call target => s!"boundary call op={call} handle={target.display}"
  | callFailed call target error =>
    s!"boundary call failed op={call} handle={target.display} error={error.message}"
  | heapCreated cls handle => s!"heap: created object class={cls} handle={handle.display}"
  | heapCreatedList handle => s!"heap: created list handle={handle.display}"
  | heapDestroyed handle => s!"heap: destroyed handle={handle.display}"
  | created cls handle => s!"bridge: created object class={cls} handle={handle.display}"
  | adopted handle => s!"proxy: adopted handle handle={handle.display}"
  | releasing handle => s!"proxy: releasing owned object handle={handle.display}"
  | dropFailed error => s!"failed to release native object on drop error={error.message}"
  | duplicated source copy => s!"reflect: duplicated object from={source.display} to={copy.display}"
  | createdList element handle => s!"collection: created list element={element} handle={handle.display}"

def line (e : Event) : String := e.level.name ++ " " ++ e.message

end Event

end HandleBridge
