import HandleBridge.Text.Utf8
import HandleBridge.Boundary.Call

/-!
What crosses to a foreign library. A status code is all that the library says of a failure: zero is success, four
positive codes stand for classes of errors, and any other code is its own. The tag of a raw value says which of three
payloads counts: integers, flags and handles share one signed word, doubles have a field of their own, and text lies in a
buffer.

Requests are the entries of the function table of the library with their arguments, and looks into text that it handed
out. Every entry but the one that takes back text answers a status and writes its result to a place that the caller
provides.
-/

namespace HandleBridge.Foreign

/-- Code that a foreign call returns. -/
abbrev Status := Int32

namespace Status

def ok : Status := 0

def nullHandle : Status := 1

def staleHandle : Status := 2

def outOfRange : Status := 3

def typeMismatch : Status := 4

def failure : Status := -1

end Status

end HandleBridge.Foreign

namespace HandleBridge

open Foreign

/-- Status that a foreign library reports for an error. -/
def Error.status : Error → Status
  | nullHandle => .nullHandle
  | staleHandle _ => .staleHandle
  | indexOutOfRange _ _ | featureOutOfRange _ _ _ => .outOfRange
  | typeMismatch _ _ | classMismatch _ _ => .typeMismatch
  | native code _ => code
  | _ => .failure

end HandleBridge

namespace HandleBridge.Foreign

/-- Bytes in memory, with the address that tells them from other bytes. -/
structure Buffer where
  address : Nat := 0
  bytes : List UInt8
  deriving DecidableEq

/-- A value in its foreign form. -/
structure RawValue where
  tag : UInt8 := 0
  int : Int64 := 0
  float : Double := .zero
  /-- Text; absent when the pointer to it is null. -/
  text : Option Buffer := none
  deriving DecidableEq

namespace RawValue

def stringTag : UInt8 := 5

/-- Foreign form of a value. Text is lent and stays with the host program. -/
def borrow : Value → RawValue
  | .null => {}
  | .bool b => { tag := 1, int := if b then 1 else 0 }
  | .int n => { tag := 2, int := n.toInt64 }
  | .long n => { tag := 3, int := n }
  | .double x => { tag := 4, float := x }
  | .string text => { tag := stringTag, text := some ⟨0,Text.Utf8.encode text⟩ }
  | .object h => { tag := 6, int := h.id.toInt64 }
  | .list h => { tag := 7, int := h.id.toInt64 }

/-- Integer that an int payload stands for; 64 bits have to fit into 32. -/
def toInt32 (n : Int64) : Except Error Value :=
  if n.toInt32.toInt64 = n then .ok (.int n.toInt32)
  else .error (.typeMismatch "int" ("integer " ++ toString n.toInt))

/-- Text in a buffer; without a buffer the text is empty. -/
def toText : Option Buffer → Except Error Value
  | none => .ok (.string "")
  | some buffer =>
    match Text.Utf8.decode buffer.bytes with
    | .ok text => .ok (.string text)
    | .error fault => .error (.native Status.typeMismatch ("string value is not UTF-8: " ++ fault.message))

/-- Value of which this is the foreign form. Payloads that the tag does not ask for are ignored. -/
def toValue (raw : RawValue) : Except Error Value :=
  match raw.tag with
  | 0 => .ok .null
  | 1 => .ok (.bool (raw.int ≠ 0))
  | 2 => toInt32 raw.int
  | 3 => .ok (.long raw.int)
  | 4 => .ok (.double raw.float)
  | 5 => toText raw.text
  | 6 => .ok (.object ⟨raw.int.toUInt64⟩)
  | 7 => .ok (.list ⟨raw.int.toUInt64⟩)
  | tag => .error (.native Status.typeMismatch ("unknown value tag " ++ toString tag.toNat))

theorem toValue_of_stringTag {raw : RawValue} (tagged : raw.tag = stringTag) : raw.toValue = toText raw.text := by
  rw [toValue,tagged]
  rfl

/-- Buffer that has to be given back to the library which answered with this value. -/
def buffer? (raw : RawValue) : Option Buffer := if raw.tag = stringTag then raw.text else none

theorem buffer?_eq_some_iff {raw : RawValue} {buffer : Buffer} :
    raw.buffer? = some buffer ↔ raw.tag = stringTag ∧ raw.text = some buffer := by
  unfold buffer?
  split <;> simp [*]

end RawValue

/-- One request to a foreign library. -/
inductive Request where
  /-- Enters the entry of a call. -/
  | enter (call : Call RawValue)
  /-- Reads text that the library handed out, where it lies in the memory of the library. -/
  | readText (buffer : Buffer)
  /-- Gives back text that the library handed out. -/
  | freeString (buffer : Buffer)
  deriving DecidableEq

/-- What an entry leaves behind. -/
structure Outcome (α : Type) where
  status : Status
  /-- What stands in the caller's place for the result afterwards. -/
  out : α

/-- What a library answers to a request. -/
abbrev Answer : Request → Type
  | .enter call => Outcome call.Reply
  | .readText _ => List UInt8
  | .freeString _ => Unit

/-- What a caller puts in the place for the result before the call. -/
def blank : (call : Call RawValue) → call.Reply
  | .create _ | .createList _ | .upcast _ | .copy _ | .listAt _ _ => .null
  | .classOf _ => ⟨0⟩
  | .get _ _ _ => {}
  | .isSet _ _ => false
  | .listSize _ => 0
  | .destroy _ | .initialise _ | .set _ _ _ | .unset _ _ | .pushBack _ _ | .insertAt _ _ _ | .insertAll _ _
  | .clear _ => ()

/-- Names of the entries of a function table, in its order. -/
def entryNames : List String := [
  "create","destroy","upcast","initialize","copy","class_of","e_get","e_set","e_is_set","e_unset",
  "create_list","list_size","list_at","list_push_back","list_insert_at","list_insert_all","list_clear",
  "free_string"]

/-- Entries that a table lacks, in the order of the table. -/
def missingEntries (isPresent : String → Bool) : List String := entryNames.filter fun name => !isPresent name

/-- Refuses a table that lacks entries. -/
def attach (isPresent : String → Bool) : Except Error Unit :=
  match missingEntries isPresent with
  | [] => .ok ()
  | missing => .error (.native Status.failure ("null vtable entries: " ++ ", ".intercalate missing))

end HandleBridge.Foreign
