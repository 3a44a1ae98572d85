import HandleBridge.Foreign.Request
import HandleBridge.Heap.Respond

/-!
A foreign library that keeps its objects in the in-memory heap. Its entries answer with the status of what the heap
says, and text that it hands out is its own until it is given back. Results can be scripted ahead: the next call of
an entry then takes the script's result and does not reach the heap.
-/

namespace HandleBridge.Foreign

/-- Result that a script writes. -/
inductive Scripted where
  /-- A handle, a number or a flag, whichever the entry answers. -/
  | word (n : UInt64)
  /-- A value; its text is the library's own. -/
  | raw (tag : UInt8) (int : Int64) (float : Double) (text : Option (List UInt8))

/-- Result of the next calls of an entry. -/
structure Fault where
  entry : String
  status : Status
  /-- Written if the status is zero; without it the place for the result stays as it was. -/
  out : Option Scripted
  /-- Number of calls that take the result. -/
  times : Nat

/-- A library with its heap, its scripts and a record of its traffic. -/
structure Library where
  native : Native := {}
  faults : List Fault := []
  /-- Entries that were entered, with their arguments. -/
  entered : Array String := #[]
  /-- Number of texts that were handed out. -/
  handedOut : Nat := 0
  /-- Number of texts that were given back. -/
  freed : Nat := 0

namespace Library

/-- Text of an entry with its arguments. -/
def describe (c : Call RawValue) : String :=
  c.name ++ "(" ++ ", ".intercalate (arguments c) ++ ")"
where
  /-- Text of a number. -/
  number (n : Nat) : String := toString n
  /-- Texts of the arguments. -/
  arguments : Call RawValue → List String
    | .create cls | .createList cls => [cls.display]
    | .destroy h | .upcast h | .initialise h | .copy h | .classOf h | .listSize h | .clear h => [h.display]
    | .get h f resolve => [h.display,number f.index.toNat,if resolve then "true" else "false"]
    | .set h f raw => [h.display,number f.index.toNat,"tag " ++ number raw.tag.toNat]
    | .isSet h f | .unset h f => [h.display,number f.index.toNat]
    | .listAt h i => [h.display,number i.toNat]
    | .pushBack h e => [h.display,e.display]
    | .insertAt h i e => [h.display,number i.toNat,e.display]
    | .insertAll h o => [h.display,o.display]

/-- Allocates text for a caller. -/
def handOut (bytes : List UInt8) : StateM Library Buffer := fun library =>
  (⟨library.handedOut + 1,bytes⟩,{ library with handedOut := library.handedOut + 1 })

/-- Takes the script's result for an entry, if there is one; the first one scripted comes first. -/
def takeFault (entry : String) : List Fault → Option (Fault × List Fault)
  | [] => none
  | fault :: rest =>
    if fault.entry = entry then
      if fault.times ≤ 1 then some (fault,rest) else some (fault,{ fault with times := fault.times - 1 } :: rest)
    else (takeFault entry rest).map fun (taken,rest) => (taken,fault :: rest)

/-- What a script's result is as the result of a call. -/
def scriptedReply : (c : Call RawValue) → Scripted → StateM Library c.Reply
  | .create _, .word n | .createList _, .word n | .upcast _, .word n | .copy _, .word n | .listAt _ _, .word n =>
    pure ⟨n⟩
  | .classOf _, .word n => pure ⟨n.toUInt32⟩
  | .isSet _ _, .word n => pure (n ≠ 0)
  | .listSize _, .word n => pure n
  | .get _ _ _, .raw tag int float text => do
    match text with
    | some bytes => return { tag, int, float, text := some (← handOut bytes) }
    | none => return { tag, int, float }
  | c, _ => pure (blank c)

/-- Works on the heap behind the library. -/
def onNative {α : Type} (work : StateM Native α) : StateM Library α := fun library =>
  let (a,native) := work library.native
  (a,{ library with native })

/-- Lets the heap answer a call. -/
def ask (p : Package) (settings : HeapSettings) (c : Call Value) : StateM Library (Except Error c.Reply) :=
  onNative (Native.call p settings c)

/-- What an entry leaves behind after the heap answered. -/
def outcome (c : Call RawValue) : Except Error c.Reply → Outcome c.Reply
  | .ok reply => ⟨.ok,reply⟩
  | .error e => ⟨e.status,blank c⟩

/-- Value in its foreign form, with text copied for the caller. -/
def copyOut (v : Value) : StateM Library RawValue := do
  let raw := RawValue.borrow v
  match raw.buffer? with
  | some buffer => return { raw with text := some (← handOut buffer.bytes) }
  | none => return raw

/-- What an entry leaves behind when the heap answers its call. -/
def serve (p : Package) (settings : HeapSettings) : (c : Call RawValue) → StateM Library (Outcome c.Reply)
  | .get h f resolve => do
    match ← ask p settings (.get h f resolve) with
    | .ok v => return ⟨.ok,← copyOut v⟩
    | .error e => return ⟨e.status,{}⟩
  | .set h f raw => do
    match raw.toValue with
    | .ok v => return outcome (.set h f raw) (← ask p settings (.set h f v))
    | .error e => return ⟨e.status,()⟩
  | .create cls => outcome (.create cls) <$> ask p settings (.create cls)
  | .destroy h => outcome (.destroy h) <$> ask p settings (.destroy h)
  | .upcast h => outcome (.upcast h) <$> ask p settings (.upcast h)
  | .initialise h => outcome (.initialise h) <$> ask p settings (.initialise h)
  | .copy h => outcome (.copy h) <$> ask p settings (.copy h)
  | .classOf h => outcome (.classOf h) <$> ask p settings (.classOf h)
  | .isSet h f => outcome (.isSet h f) <$> ask p settings (.isSet h f)
  | .unset h f => outcome (.unset h f) <$> ask p settings (.unset h f)
  | .createList cls => outcome (.createList cls) <$> ask p settings (.createList cls)
  | .listSize h => outcome (.listSize h) <$> ask p settings (.listSize h)
  | .listAt h i => outcome (.listAt h i) <$> ask p settings (.listAt h i)
  | .pushBack h e => outcome (.pushBack h e) <$> ask p settings (.pushBack h e)
  | .insertAt h i e => outcome (.insertAt h i e) <$> ask p settings (.insertAt h i e)
  | .insertAll h o => outcome (.insertAll h o) <$> ask p settings (.insertAll h o)
  | .clear h => outcome (.clear h) <$> ask p settings (.clear h)

/-- What an entry leaves behind: the script's result if there is one, else what the heap answers. -/
def enter (p : Package) (settings : HeapSettings) (c : Call RawValue) : StateM Library (Outcome c.Reply) := do
  modify fun library => { library with entered := library.entered.push (describe c) }
  match takeFault c.name (← get).faults with
  | none => serve p settings c
  | some (fault,faults) =>
    modify fun library => { library with faults }
    match fault.out with
    | some out =>
      if fault.status = Status.ok then return ⟨.ok,← scriptedReply c out⟩ else return ⟨fault.status,blank c⟩
    | none => return ⟨fault.status,blank c⟩

/-- Answer of the library to a request. -/
def answer (p : Package) (settings : HeapSettings) : (r : Request) → StateM Library (Answer r)
  | .enter c => enter p settings c
  | .readText buffer => pure buffer.bytes
  | .freeString _ => modify fun library => { library with freed := library.freed + 1 }

end Library

end HandleBridge.Foreign
