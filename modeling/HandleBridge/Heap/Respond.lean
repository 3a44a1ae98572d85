import HandleBridge.Boundary.Call
import HandleBridge.Heap.Lifetime

/-!
The heap as a boundary: how it answers each call and what it reports of it. Writing a many-valued feature replaces
the contents of the list behind it; the list itself stays the same for the life of the object. An element is null or a
live object of the element class when it comes into a list; it may be destroyed later, and the list keeps its handle.
-/

namespace HandleBridge.Heap

/-- Object behind a handle with the description of one of its features. -/
def objectFeature (p : Package) (heap : Heap) (h : Handle) (f : FeatureId) :
    Except Error (ObjectData × Feature) := do
  let o ← heap.object h
  let feature ← (← p.require o.cls).feature f
  return (o,feature)

def get (p : Package) (h : Handle) (f : FeatureId) (heap : Heap) : Except Error Value := do
  let (o,_) ← objectFeature p heap h f
  return (o.field f).value

/-- Whether a feature counts as set: it was set since its last unset, or its list holds elements. -/
def isSet (p : Package) (h : Handle) (f : FeatureId) (heap : Heap) : Except Error Bool := do
  let (o,_) ← objectFeature p heap h f
  if (o.field f).isSet then return true
  match (o.field f).value with
  | .list backing => return !(← heap.list backing).items.isEmpty
  | _ => return false

/-- Gives the list behind a feature the elements of another list, each of which has to fit. -/
def assignList (p : Package) (backing source : Handle) (heap : Heap) : Except Error Heap :=
  if source = backing then .ok heap
  else do
    let items := (← heap.list source).items
    let target ← heap.list backing
    items.forM (checkElement p heap target.elementClass)
    return heap.setItems backing target items

/-- Writes a feature and marks it as set. -/
def set (p : Package) (h : Handle) (f : FeatureId) (v : Value) (heap : Heap) : Except Error Heap := do
  let (o,feature) ← objectFeature p heap h f
  let kind := feature.kind.valueKind
  unless v.fits kind do throw (.typeMismatch kind.name v.typeName)
  match feature.kind with
  | .data _ => return heap.putObject h (o.setField f ⟨v,true⟩)
  | .reference target false =>
    if let .object referenced := v then
      checkElement p heap (← p.requireNamed target).id referenced
    return heap.putObject h (o.setField f ⟨v,true⟩)
  | .reference _ true =>
    match (o.field f).value with
    | .list backing =>
      let heap ← heap.assignList p backing (v.handle?.getD backing)
      return heap.putObject h (o.setField f { o.field f with isSet := true })
    | _ => throw (.notAList h)

/-- Reverts a feature to its default. A feature that holds a list keeps it and empties it; when that list is gone,
the feature still no longer counts as set. -/
def unset (p : Package) (h : Handle) (f : FeatureId) (heap : Heap) : Except Error Unit × Heap :=
  match objectFeature p heap h f with
  | .error e => (.error e,heap)
  | .ok (o,feature) =>
    match (o.field f).value with
    | .list held =>
      let heap := heap.putObject h (o.setField f { o.field f with isSet := false })
      match heap.list held with
      | .ok l => (.ok (),heap.setItems held l [])
      | .error e => (.error e,heap)
    | _ => (.ok (),heap.putObject h (o.setField f ⟨feature.default,false⟩))

def initialise (h : Handle) (heap : Heap) : Except Error Heap := do
  let o ← heap.object h
  return heap.putObject h { o with initialised := true }

def listSize (h : Handle) (heap : Heap) : Except Error UInt64 := do
  return UInt64.ofNat (← heap.list h).items.length

def listAt (h : Handle) (index : UInt64) (heap : Heap) : Except Error Handle := do
  let items := (← heap.list h).items
  match items[index.toNat]? with
  | some element => return element
  | none => throw (.indexOutOfRange index (UInt64.ofNat items.length))

def pushBack (p : Package) (h element : Handle) (heap : Heap) : Except Error Heap := do
  let l ← heap.list h
  checkElement p heap l.elementClass element
  return heap.setItems h l (l.items ++ [element])

/-- Inserts an element before the one at `position`, or at the end. -/
def insertAt (p : Package) (h : Handle) (position : UInt64) (element : Handle) (heap : Heap) :
    Except Error Heap := do
  let l ← heap.list h
  if l.items.length < position.toNat then
    throw (.indexOutOfRange position (UInt64.ofNat l.items.length))
  checkElement p heap l.elementClass element
  return heap.setItems h l (l.items.take position.toNat ++ element :: l.items.drop position.toNat)

/-- Appends the elements of another list, whose element class has to fit as a whole. -/
def insertAll (p : Package) (h other : Handle) (heap : Heap) : Except Error Heap := do
  let source ← heap.list other
  let target ← heap.list h
  unless p.isA source.elementClass target.elementClass do
    throw (.classMismatch (p.className target.elementClass) (p.className source.elementClass))
  return heap.setItems h target (target.items ++ source.items)

def clear (h : Handle) (heap : Heap) : Except Error Heap := do
  let l ← heap.list h
  return heap.setItems h l []

/-- Answers from the heap without changing it. -/
def observe {α : Type} (read : Heap → Except Error α) : StateM Heap (Except Error α) :=
  fun heap => (read heap,heap)

/-- Takes over the changed heap of an operation that succeeds. -/
def commit (operation : Heap → Except Error Heap) : StateM Heap (Except Error Unit) := fun heap =>
  match operation heap with
  | .ok heap => (.ok (),heap)
  | .error e => (.error e,heap)

/-- Takes over the changed heap of an allocation that succeeds. -/
def commitWith {α : Type} (operation : Heap → Except Error (α × Heap)) : StateM Heap (Except Error α) :=
  fun heap =>
    match operation heap with
    | .ok (a,heap) => (.ok a,heap)
    | .error e => (.error e,heap)

/-- Answer of the heap to a call. -/
def answer (p : Package) (settings : HeapSettings) : (c : Call Value) → StateM Heap (Except Error c.Reply)
  | .create cls => create p settings cls
  | .destroy h => commit (destroy h)
  | .upcast h => observe fun heap => (heap.object h).map fun _ => h
  | .initialise h => commit (initialise h)
  | .copy h => copy p settings h
  | .classOf h => observe fun heap => (heap.object h).map ObjectData.cls
  | .get h f _ => observe (get p h f)
  | .set h f v => commit (set p h f v)
  | .isSet h f => observe (isSet p h f)
  | .unset h f => unset p h f
  | .createList cls => commitWith (createList p settings cls)
  | .listSize h => observe (listSize h)
  | .listAt h i => observe (listAt h i)
  | .pushBack h e => commit (pushBack p h e)
  | .insertAt h i e => commit (insertAt p h i e)
  | .insertAll h o => commit (insertAll p h o)
  | .clear h => commit (clear h)

/-- Answer of the heap to a call, and the heap after it. -/
def respond (p : Package) (settings : HeapSettings) (heap : Heap) (c : Call Value) :
    Except Error c.Reply × Heap :=
  answer p settings c heap

/-- What the heap reports of a new object of a class. -/
def reportCreate (p : Package) (cls : ClassId) : Except Error Handle → List Event
  | .ok h => [.heapCreated (p.className cls) h]
  | .error _ => []

/-- What the heap reports of a call that it answered, given the heap before the call. A copy reports the new
object even when it cannot be filled afterwards. -/
def report (p : Package) (settings : HeapSettings) (before : Heap) :
    (c : Call Value) → Except Error c.Reply → List Event
  | .create cls, result => reportCreate p cls result
  | .copy h, _ =>
    match before.object h with
    | .ok o => reportCreate p o.cls (before.create p settings o.cls).1
    | .error _ => []
  | .createList _, .ok h => [.heapCreatedList h]
  | .destroy h, .ok () => [.heapDestroyed h]
  | _, _ => []

end HandleBridge.Heap

namespace HandleBridge

/-- A heap with the events since the journal was last read, in order. -/
structure Native where
  heap : Heap := .empty
  journal : Array Event := #[]

namespace Native

/-- Appends an event to the journal. -/
def note (e : Event) : StateM Native Unit :=
  modify fun native => { native with journal := native.journal.push e }

/-- Lets the heap answer a call and enters what it reports into the journal. -/
def call (p : Package) (settings : HeapSettings) (c : Call Value) : StateM Native (Except Error c.Reply) :=
  fun native =>
    let (result,heap) := native.heap.respond p settings c
    let reported := native.heap.report p settings c result
    (result,{ heap, journal := native.journal ++ reported })

end Native

end HandleBridge
