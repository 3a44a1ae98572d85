import HandleBridge.Proxy.Object

/-!
List proxies: list operations on a native list. A list proxy may own its list and never owns the elements, which it
hands out as borrowed proxies.
-/

namespace HandleBridge

/-- Proxy of a list. -/
structure ListProxy where
  proxy : Proxy
  /-- Class of the elements. -/
  elementClass : ClassId
  /-- View through which elements are handed out. -/
  element : View

namespace Bridge

/-- Checks that a view is good for every object of a class. -/
def checkView (b : Bridge) (elementClass : ClassId) (view : View) : Except Error Unit := do
  let _ ← b.package.require elementClass
  if let some name := view.required then
    let expected ← b.package.requireNamed name
    unless b.package.isA elementClass expected.id do
      throw (.classMismatch name (b.package.className elementClass))

/-- Creates an empty list for elements of a named class. -/
def createListOf (b : Bridge) (view : View) (name : String) : Action ListProxy := do
  let cls := (← b.package.requireNamed name).id
  b.checkView cls view
  let handle ← b.call (.createList cls)
  Routine.note (.createdList name handle)
  return ⟨.owning handle,cls,view⟩

/-- Creates an empty list for elements of the class that a view is for. -/
def createList (b : Bridge) (view : View) : Action ListProxy := do
  b.createListOf view (← classOfView view)

/-- Proxy that borrows the list behind a handle. -/
def borrowList (b : Bridge) (view : View) (h : Handle) (elementClass : ClassId) : Except Error ListProxy := do
  b.checkView elementClass view
  return ⟨.borrowing h,elementClass,view⟩

end Bridge

/-- The list behind a many-valued reference, borrowed. -/
def ObjectProxy.list (b : Bridge) (o : ObjectProxy) (f : FeatureId) (view : View) : Action ListProxy := do
  let feature ← o.cls.feature f
  match feature.kind with
  | .reference target true =>
    let cls ← b.package.requireNamed target
    match ← o.get b f false with
    | .list h => if h.isNull then throw (.notAList h) else b.borrowList view h cls.id
    | v => throw (.typeMismatch "list" v.typeName)
  | kind => throw (.typeMismatch "list" kind.valueKind.name)

/-- The list behind a many-valued reference, through a named access. -/
def ObjectProxy.sequence (b : Bridge) (o : ObjectProxy) (a : SequenceAccessor) : Action ListProxy :=
  o.list b a.feature a.element

namespace ListProxy

def size (b : Bridge) (l : ListProxy) : Action UInt64 := do
  b.call (.listSize (← l.proxy.live))

def isEmpty (b : Bridge) (l : ListProxy) : Action Bool := return (← l.size b) = 0

def handleAt (b : Bridge) (l : ListProxy) (index : UInt64) : Action Handle := do
  let list ← l.proxy.live
  let length ← l.size b
  unless index < length do throw (.indexOutOfRange index length)
  b.call (.listAt list index)

/-- Element at an index, borrowed; none for a null element. -/
def elementAt (b : Bridge) (l : ListProxy) (index : UInt64) : Action (Option ObjectProxy) := do
  b.wrapBorrowed l.element (← l.handleAt b index)

/-- Handle of an object that is about to become an element. -/
def checkedElement (b : Bridge) (l : ListProxy) (element : ObjectProxy) : Action Handle := do
  let handle ← element.proxy.live
  if b.config.validation.elementClasses then
    let cls ← b.call (.classOf handle)
    unless b.package.isA cls l.elementClass do
      throw (.classMismatch (b.package.className l.elementClass) (b.package.className cls))
  return handle

def pushBack (b : Bridge) (l : ListProxy) (element : ObjectProxy) : Action Unit := do
  let list ← l.proxy.live
  b.call (.pushBack list (← l.checkedElement b element))

def insertAt (b : Bridge) (l : ListProxy) (position : UInt64) (element : ObjectProxy) : Action Unit := do
  let list ← l.proxy.live
  let length ← l.size b
  if length < position then throw (.indexOutOfRange position length)
  b.call (.insertAt list position (← l.checkedElement b element))

/-- Appends the elements of another list. -/
def insertAll (b : Bridge) (l other : ListProxy) : Action Unit := do
  let list ← l.proxy.live
  let source ← other.proxy.live
  if b.config.validation.elementClasses && !b.package.isA other.elementClass l.elementClass then
    throw (.classMismatch (b.package.className l.elementClass) (b.package.className other.elementClass))
  b.call (.insertAll list source)

def clear (b : Bridge) (l : ListProxy) : Action Unit := do
  b.call (.clear (← l.proxy.live))

/-- Handles at the `count` indexes from `index` on. -/
def handlesFrom (b : Bridge) (l : ListProxy) (index : UInt64) : (count : Nat) → Action (List Handle)
  | 0 => return []
  | count + 1 => do
    let handle ← l.handleAt b index
    return handle :: (← l.handlesFrom b (index + 1) count)

def handles (b : Bridge) (l : ListProxy) : Action (List Handle) := do
  l.handlesFrom b 0 (← l.size b).toNat

/-- Elements at the `count` indexes from `index` on; one that cannot be read does not end the iteration. -/
def itemsFrom (b : Bridge) (l : ListProxy) (index : UInt64) :
    (count : Nat) → Routine (List (Except Error (Option ObjectProxy)))
  | 0 => return []
  | count + 1 => do
    let item ← (l.elementAt b index).run
    return item :: (← l.itemsFrom b (index + 1) count)

/-- Number of elements when the iteration starts, and the elements that it meets. -/
def iterate (b : Bridge) (l : ListProxy) : Action (UInt64 × List (Except Error (Option ObjectProxy))) := do
  let length ← l.size b
  return (length,← l.itemsFrom b 0 length.toNat)

/-- Elements that an iteration meets when the list is cleared after the first. -/
def iterateClearing (b : Bridge) (l : ListProxy) : Action (List (Except Error (Option ObjectProxy))) := do
  match (← l.size b).toNat with
  | 0 => return []
  | count + 1 =>
    let item ← ExceptT.lift (l.elementAt b 0).run
    l.clear b
    return item :: (← l.itemsFrom b 1 count)

def describe (l : ListProxy) : String :=
  s!"TypedCollection \x7b proxy: {l.proxy.describe}, element_class: ClassId({l.elementClass.display}) \x7d"

end ListProxy

end HandleBridge
