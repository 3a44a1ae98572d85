import HandleBridge.Heap.Entry

/-!
Creating, copying and destroying. Creating an object also makes the lists behind its many-valued features, and
destroying it frees exactly those with it. A creation that runs out of room frees what it made.
-/

namespace HandleBridge.Heap

/-- Frees a list if it backs a feature of the given object; other values are left alone. -/
def eraseBacking (owner : Handle) (heap : Heap) (value : Value) : Heap :=
  match value with
  | .list h =>
    match heap.get? h with
    | some (.list l) =>
      if l.owner = some owner then (heap.take? h).elim heap Prod.snd else heap
    | _ => heap
  | _ => heap

/-- Frees an object with the lists that back its features, or a list. -/
def discard (h : Handle) (heap : Heap) : Except Error Heap :=
  match heap.take? h with
  | none => .error (if h.isNull then .nullHandle else .staleHandle h)
  | some (.object o,heap) => .ok ((o.fields.map Field.value).foldl (eraseBacking h) heap)
  | some (.list _,heap) => .ok heap

/-- Makes the lists behind the many-valued features among `features` of the object `h`. When one cannot be made,
the object goes with those made before. -/
def backFeatures (p : Package) (settings : HeapSettings) (h : Handle) :
    List Feature → Heap → Except Error Unit × Heap
  | [], heap => (.ok (),heap)
  | feature :: rest, heap =>
    match feature.kind with
    | .reference target true =>
      match p.requireNamed target with
      | .error e => (.error e,heap)
      | .ok element =>
        match heap.alloc settings (.list ⟨element.id,[],some h⟩) with
        | .error e =>
          match heap.discard h with
          | .ok heap => (.error e,heap)
          | .error e => (.error e,heap)
        | .ok (list,heap) =>
          match heap.object h with
          | .error e => (.error e,heap)
          | .ok o =>
            backFeatures p settings h rest (heap.putObject h (o.setValue feature.id (.list list)))
    | _ => backFeatures p settings h rest heap

/-- Creates an object of a class, with a list behind each of its many-valued features. -/
def create (p : Package) (settings : HeapSettings) (c : ClassId) (heap : Heap) : Except Error Handle × Heap :=
  match p.require c with
  | .error e => (.error e,heap)
  | .ok cls =>
    if cls.isAbstract then (.error (.abstractClass cls.name),heap)
    else match heap.alloc settings (.object (.fresh cls)) with
      | .error e => (.error e,heap)
      | .ok (h,heap) =>
        match backFeatures p settings h cls.features heap with
        | (.ok (),heap) => (.ok h,heap)
        | (.error e,heap) => (.error e,heap)

/-- Creates an empty list that no object owns. -/
def createList (p : Package) (settings : HeapSettings) (c : ClassId) (heap : Heap) :
    Except Error (Handle × Heap) := do
  let _ ← p.require c
  heap.alloc settings (.list ⟨c,[],none⟩)

/-- Destroys an object or a list. A list that backs a feature goes with its object only. -/
def destroy (h : Handle) (heap : Heap) : Except Error Heap := do
  if let .list ⟨_,_,some owner⟩ ← heap.find h then
    throw (.native (-2) s!"list {h.display} is owned by object {owner.display}")
  heap.discard h

/-- Gives the object `h` a value of another object at one place. A many-valued feature keeps its own list, which
takes over the elements; any other feature that holds a list is left as it is. -/
def copyValue (h : Handle) (place : Value × Nat) (heap : Heap) : Except Error Heap := do
  let f : FeatureId := ⟨UInt32.ofNat place.2⟩
  match place.1 with
  | .list source =>
    let items := (← heap.list source).items
    match ((← heap.object h).field f).value with
    | .list target => return heap.setItems target (← heap.list target) items
    | _ => return heap
  | value => return heap.putObject h ((← heap.object h).setValue f value)

/-- Gives the object `h` values of another object, up to the first that cannot be copied. -/
def copyValues (h : Handle) : List (Value × Nat) → Heap → Except Error Unit × Heap
  | [], heap => (.ok (),heap)
  | place :: rest, heap =>
    match heap.copyValue h place with
    | .ok heap => copyValues h rest heap
    | .error e => (.error e,heap)

/-- Copies the state of an object into the object `h` of the same class. -/
def copyInto (h : Handle) (o : ObjectData) (heap : Heap) : Except Error Unit × Heap :=
  match copyValues h (o.fields.map Field.value).zipIdx heap with
  | (.error e,heap) => (.error e,heap)
  | (.ok (),heap) =>
    match heap.object h with
    | .error e => (.error e,heap)
    | .ok copied =>
      let fields := copied.fields.zipWith (fun field source => { field with isSet := source.isSet }) o.fields
      (.ok (),heap.putObject h { copied with fields, initialised := o.initialised })

/-- Copies an object. The elements of its lists are shared, the lists are not. -/
def copy (p : Package) (settings : HeapSettings) (h : Handle) (heap : Heap) : Except Error Handle × Heap :=
  match heap.object h with
  | .error e => (.error e,heap)
  | .ok o =>
    match heap.create p settings o.cls with
    | (.error e,heap) => (.error e,heap)
    | (.ok made,heap) =>
      match heap.copyInto made o with
      | (.ok (),heap) => (.ok made,heap)
      | (.error e,heap) => (.error e,heap)

end HandleBridge.Heap
