import HandleBridge.Proxy.Basic
import HandleBridge.Schema.View

/-!
Object proxies: proxies with the class of their object, found once when the proxy is made. Feature identifiers are
checked against that class before a call is made, then the kind of a value, then that there is a handle to call with.
-/

namespace HandleBridge

/-- Proxy of an object. -/
structure ObjectProxy where
  proxy : Proxy
  /-- Handle that reflective calls expect. -/
  base : Handle
  /-- Class of the object. -/
  cls : ClassType

namespace Bridge

/-- Finds the base handle and the class of an object, which has to be of the required class. -/
def inspect (b : Bridge) (p : Proxy) (required : Option String) : Action (Handle × ClassType) := do
  let handle ← p.live
  let base ← b.call (.upcast handle)
  let cls ← b.package.require (← b.call (.classOf base))
  if let some name := required then
    let expected ← b.package.requireNamed name
    unless cls.isSubtypeOf expected.id do throw (.classMismatch expected.name cls.name)
  return (base,cls)

/-- Makes an object proxy of a proxy. On failure the proxy is dropped, and with it the object that it owns. -/
def wrap (b : Bridge) (required : Option String) (p : Proxy) : Action ObjectProxy := ExceptT.mk do
  match ← (b.inspect p required).run with
  | .ok (base,cls) => return .ok ⟨p,base,cls⟩
  | .error e =>
    p.drop b
    return .error e

/-- Creates an object of a named class, seen through a view. -/
def createAs (b : Bridge) (view : View) (name : String) : Action ObjectProxy := do
  let cls ← b.package.requireNamed name
  let handle ← b.call (.create cls.id)
  Routine.note (.created name handle)
  b.wrap view.required (.owning handle)

/-- Name of the class that a view is for. -/
def classOfView (view : View) : Except Error String :=
  match view.required with
  | some name => .ok name
  | none => .error (.unknownClass "<unspecified>")

/-- Creates an object of the class that a view is for. -/
def create (b : Bridge) (view : View) : Action ObjectProxy := do
  b.createAs view (← classOfView view)

/-- Proxy that borrows the object behind a handle; none for null. -/
def wrapBorrowed (b : Bridge) (view : View) (h : Handle) : Action (Option ObjectProxy) :=
  match h.nonNull? with
  | some h => some <$> b.wrap view.required (.borrowing h)
  | none => pure none

/-- Proxy that takes over ownership of the object behind a handle; none for null. -/
def adopt (b : Bridge) (view : View) (h : Handle) : Action (Option ObjectProxy) :=
  match h.nonNull? with
  | some h => do some <$> b.wrap view.required (← Proxy.adopt h)
  | none => pure none

end Bridge

namespace ObjectProxy

/-- Handle for a reflective call, unless there is none. -/
def liveBase (o : ObjectProxy) : Except Error Handle := do
  let _ ← o.proxy.live
  return o.base

def get (b : Bridge) (o : ObjectProxy) (f : FeatureId) (resolve : Bool) : Action Value := do
  let _ ← o.cls.feature f
  b.call (.get (← o.liveBase) f resolve)

def set (b : Bridge) (o : ObjectProxy) (f : FeatureId) (v : Value) : Action Unit := do
  let kind := (← o.cls.feature f).kind.valueKind
  if b.config.validation.valueKinds && !v.fits kind then throw (.typeMismatch kind.name v.typeName)
  b.call (.set (← o.liveBase) f v)

def isSet (b : Bridge) (o : ObjectProxy) (f : FeatureId) : Action Bool := do
  let _ ← o.cls.feature f
  b.call (.isSet (← o.liveBase) f)

def unset (b : Bridge) (o : ObjectProxy) (f : FeatureId) : Action Unit := do
  let _ ← o.cls.feature f
  b.call (.unset (← o.liveBase) f)

def initialise (b : Bridge) (o : ObjectProxy) : Action Unit := do
  b.call (.initialise (← o.liveBase))

/-- Reads and unboxes a feature. -/
def getAs (b : Bridge) (o : ObjectProxy) (t : HostType) (f : FeatureId) : Action t.Carrier := do
  t.unbox (← o.get b f false)

/-- Reads a feature through a named access. -/
def read (b : Bridge) (o : ObjectProxy) (a : Accessor) : Action a.type.Carrier := o.getAs b a.type a.feature

/-- Writes a feature through a named access. -/
def write (b : Bridge) (o : ObjectProxy) (a : Accessor) (x : a.type.Carrier) : Action Unit :=
  o.set b a.feature (a.type.box x)

def getNamed (b : Bridge) (o : ObjectProxy) (name : String) : Action Value := do
  o.get b (← o.cls.featureId name) false

/-- Reads and unboxes a feature by its name. -/
def getNamedAs (b : Bridge) (o : ObjectProxy) (t : HostType) (name : String) : Action t.Carrier := do
  o.getAs b t (← o.cls.featureId name)

def setNamed (b : Bridge) (o : ObjectProxy) (name : String) (v : Value) : Action Unit := do
  o.set b (← o.cls.featureId name) v

/-- The object that a single reference points to, borrowed and seen through a view. -/
def reference (b : Bridge) (o : ObjectProxy) (f : FeatureId) (view : View) : Action (Option ObjectProxy) := do
  match ← o.get b f true with
  | .null => return none
  | .object h => b.wrapBorrowed view h
  | v => throw (.typeMismatch "object" v.typeName)

/-- Points a single reference to an object, or to none. -/
def setReference (b : Bridge) (o : ObjectProxy) (f : FeatureId) (target : Option ObjectProxy) : Action Unit := do
  match target with
  | some target => o.set b f (.object (← target.proxy.live))
  | none => o.set b f .null

/-- The same object, borrowed and seen through another view. -/
def downcast (b : Bridge) (o : ObjectProxy) (view : View) : Action ObjectProxy := do
  b.wrap view.required (.borrowing (← o.proxy.live))

/-- A native copy of the object, owned and seen through a view. -/
def duplicate (b : Bridge) (o : ObjectProxy) (view : View) : Action ObjectProxy := do
  let handle ← o.proxy.live
  let copy ← b.call (.copy handle)
  Routine.note (.duplicated handle copy)
  b.wrap view.required (.owning copy)

/-- Whether each feature is set and its value, feature by feature. -/
def snapshot (b : Bridge) (o : ObjectProxy) : Action (List (Feature × Bool × Value)) :=
  o.cls.features.mapM fun feature => do
    let isSet ← o.isSet b feature.id
    return (feature,isSet,← o.get b feature.id false)

def describe (o : ObjectProxy) : String :=
  s!"ReflectiveObject \x7b class: {Text.quoted o.cls.name}, proxy: {o.proxy.describe} \x7d"

/-- Description of an object proxy that is seen through a view. -/
def describeAs (o : ObjectProxy) (view : View) : String :=
  if view.required.isSome then s!"{view.label}({o.describe})" else o.describe

end ObjectProxy

end HandleBridge
