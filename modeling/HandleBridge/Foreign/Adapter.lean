import HandleBridge.Foreign.Request

/-!
The adapter makes a boundary of a foreign library. Each call enters its own entry once. Where the status says only
that a range or a type is wrong, the adapter looks up what the typed error needs with at most two further entries,
and falls back to an error that shows the status when it finds nothing.
-/

namespace HandleBridge.Foreign

/-- A computation over a foreign library. -/
abbrev Exchange (α : Type) := Script Request Answer α

def enterEntry (call : Call RawValue) : Exchange (Outcome call.Reply) := Script.ask (.enter call) .done

/-- Reads text where it lies. -/
def readText (buffer : Buffer) : Exchange (List UInt8) := Script.ask (.readText buffer) .done

def giveBack (buffer : Buffer) : Exchange Unit := Script.ask (.freeString buffer) .done

namespace Adapter

/-- Enters an entry and keeps the result if the status is zero. -/
def look (call : Call RawValue) : Exchange (Option call.Reply) := do
  let outcome ← enterEntry call
  return if outcome.status = Status.ok then some outcome.out else none

/-- Class of an object, as far as the library and the package know it. -/
def classOf (p : Package) (h : Handle) : Exchange (Option ClassType) := do
  return (← look (.classOf h)).bind p.class?

/-- Error that shows only the status. -/
def unexplained (c : Call Value) (status : Status) : Error :=
  .native status s!"{c.name} on {c.target.display} failed with status {status.toInt}"

/-- Error for a feature that the class of the object does not have. -/
def featureFailure (p : Package) (h : Handle) (f : FeatureId) : Exchange (Option Error) := do
  let some cls ← classOf p h | return none
  match cls.feature f with
  | .error e => return some e
  | .ok _ => return none

/-- Error for an index that is not in the list. -/
def indexFailure (list : Handle) (index : UInt64) : Exchange (Option Error) := do
  return (← look (.listSize list)).map fun length => .indexOutOfRange index length

/-- What is out of range in a call. -/
def rangeFailure (p : Package) : Call Value → Exchange (Option Error)
  | .listAt list index | .insertAt list index _ => indexFailure list index
  | .get h f _ | .set h f _ | .isSet h f | .unset h f => featureFailure p h f
  | _ => pure none

/-- Error for an element that the list does not take. -/
def elementFailure (p : Package) (list element : Handle) : Exchange (Option Error) := do
  return (← classOf p element).map fun cls =>
    .classMismatch s!"element class of list {list.display}" cls.name

/-- Error for a value that the feature does not take. -/
def valueFailure (p : Package) (h : Handle) (f : FeatureId) (v : Value) : Exchange (Option Error) := do
  let some cls ← classOf p h | return none
  match cls.feature f with
  | .error e => return some e
  | .ok feature =>
    let kind := feature.kind.valueKind
    match feature.kind, v.fits kind, v with
    | .reference target _, true, .object element =>
      return (← classOf p element).map fun cls => .classMismatch target cls.name
    | .reference target _, true, _ => return some (.classMismatch target s!"elements of {v.typeName}")
    | _, _, _ => return some (.typeMismatch kind.name v.typeName)

/-- What has the wrong type in a call. -/
def typeFailure (p : Package) : Call Value → Exchange (Option Error)
  | .set h f v => valueFailure p h f v
  | .pushBack list element | .insertAt list _ element => elementFailure p list element
  | .insertAll list other =>
    pure (some (.classMismatch s!"element class of list {list.display}" s!"element class of list {other.display}"))
  | _ => pure none

/-- Error for a status other than zero. -/
def diagnose (p : Package) (c : Call Value) (status : Status) : Exchange Error :=
  if status = Status.nullHandle then pure .nullHandle
  else if status = Status.staleHandle then pure (.staleHandle c.target)
  else if status = Status.outOfRange then do return (← rangeFailure p c).getD (unexplained c status)
  else if status = Status.typeMismatch then do return (← typeFailure p c).getD (unexplained c status)
  else pure (unexplained c status)

/-- Enters the entry of a call and turns a status other than zero into an error. -/
def enter (p : Package) (c : Call Value) : Exchange (Except Error (c.map RawValue.borrow).Reply) := do
  let outcome ← enterEntry (c.map RawValue.borrow)
  if outcome.status = Status.ok then return .ok outcome.out
  else return .error (← diagnose p c outcome.status)

def nonNull (h : Handle) : Except Error Handle := if h.isNull then .error .nullHandle else .ok h

/-- Takes over a value from the library. Text is read and then given back, be it well-formed or not. -/
def takeOver (raw : RawValue) : Exchange (Except Error Value) := do
  match raw.buffer? with
  | some buffer =>
    let bytes ← readText buffer
    let value := { raw with text := some { buffer with bytes } }.toValue
    giveBack buffer
    return value
  | none => return raw.toValue

/-- Makes a call through the library. -/
def call (p : Package) : (c : Call Value) → Exchange (Except Error c.Reply)
  | .create cls => do return (← enter p (.create cls)) >>= nonNull
  | .createList cls => do return (← enter p (.createList cls)) >>= nonNull
  | .upcast h => do return (← enter p (.upcast h)) >>= nonNull
  | .copy h => do return (← enter p (.copy h)) >>= nonNull
  | .get h f resolve => do
    match ← enter p (.get h f resolve) with
    | .ok raw => takeOver raw
    | .error e => return .error e
  | .destroy h => enter p (.destroy h)
  | .initialise h => enter p (.initialise h)
  | .classOf h => enter p (.classOf h)
  | .set h f v => enter p (.set h f v)
  | .isSet h f => enter p (.isSet h f)
  | .unset h f => enter p (.unset h f)
  | .listSize h => enter p (.listSize h)
  | .listAt h i => enter p (.listAt h i)
  | .pushBack h e => enter p (.pushBack h e)
  | .insertAt h i e => enter p (.insertAt h i e)
  | .insertAll h o => enter p (.insertAll h o)
  | .clear h => enter p (.clear h)

end Adapter

end HandleBridge.Foreign
