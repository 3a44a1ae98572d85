import HandleBridge.Heap.Arena
import HandleBridge.Schema.Package
import HandleBridge.Config

/-!
The heap: an arena of objects and lists. Every many-valued feature of an object is backed by a list that the
object owns; other lists stand for themselves. Lists refer to their elements and own none of them.
-/

namespace HandleBridge

/-- State of one feature of one object. -/
structure Field where
  value : Value
  /-- Whether the feature was set since it was last unset. -/
  isSet : Bool
  deriving DecidableEq

/-- State of an object. -/
structure ObjectData where
  cls : ClassId
  /-- Fields in the order of the feature table. -/
  fields : List Field
  initialised : Bool
  deriving DecidableEq

namespace ObjectData

/-- A new object, whose features have their defaults. -/
def fresh (c : ClassType) : ObjectData :=
  ⟨c.id,c.features.map fun feature => ⟨feature.default,false⟩,false⟩

/-- Field of a feature; the table has no others. -/
def field (o : ObjectData) (f : FeatureId) : Field := o.fields[f.index.toNat]?.getD ⟨.null,false⟩

def setField (o : ObjectData) (f : FeatureId) (field : Field) : ObjectData :=
  { o with fields := o.fields.set f.index.toNat field }

def setValue (o : ObjectData) (f : FeatureId) (value : Value) : ObjectData :=
  o.setField f { o.field f with value }

end ObjectData

/-- State of a list. -/
structure ListData where
  elementClass : ClassId
  items : List Handle
  /-- Object whose many-valued feature the list backs. -/
  owner : Option Handle
  deriving DecidableEq

/-- What a handle can refer to. -/
inductive Entry where
  | object (o : ObjectData)
  | list (l : ListData)
  deriving DecidableEq

/-- The in-memory heap. -/
abbrev Heap := Arena Entry

namespace Heap

/-- The heap before its first allocation. -/
def empty : Heap := {}

/-- Entry behind a handle. -/
def find (heap : Heap) (h : Handle) : Except Error Entry :=
  if h.isNull then .error .nullHandle
  else match heap.get? h with
    | some entry => .ok entry
    | none => .error (.staleHandle h)

def object (heap : Heap) (h : Handle) : Except Error ObjectData := do
  match ← heap.find h with
  | .object o => return o
  | .list _ => throw (.typeMismatch "object" "list")

def list (heap : Heap) (h : Handle) : Except Error ListData := do
  match ← heap.find h with
  | .list l => return l
  | .object _ => throw (.notAList h)

def put (heap : Heap) (h : Handle) (entry : Entry) : Heap := Arena.set heap h entry

def putObject (heap : Heap) (h : Handle) (o : ObjectData) : Heap := heap.put h (.object o)

def setItems (heap : Heap) (h : Handle) (l : ListData) (items : List Handle) : Heap :=
  heap.put h (.list { l with items })

/-- Takes out the entry behind a handle. -/
def take? (heap : Heap) (h : Handle) : Option (Entry × Heap) := Arena.erase? heap h

/-- Allocates an entry unless the heap is full. -/
def alloc (settings : HeapSettings) (entry : Entry) (heap : Heap) : Except Error (Handle × Heap) :=
  match settings.maxObjects with
  | some limit =>
    if limit.toNat ≤ heap.live then .error (.heapExhausted limit)
    else .ok (heap.insert settings.reuseSlots entry)
  | none => .ok (heap.insert settings.reuseSlots entry)

/-- Checks that a handle may be an element where objects of a class are expected: null may, and so may a live
object of the class or of one that derives from it. -/
def checkElement (p : Package) (heap : Heap) (expected : ClassId) (element : Handle) : Except Error Unit :=
  if element.isNull then .ok ()
  else do
    let o ← heap.object element
    unless p.isA o.cls expected do throw (.classMismatch (p.className expected) (p.className o.cls))

end Heap

end HandleBridge
