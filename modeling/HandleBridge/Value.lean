import HandleBridge.Text.Quoted
import HandleBridge.Decimal.Double

/-!
Handles and values. A handle names an object of the native heap, and ownership says who destroys it. Every value of a
feature but null carries its kind, so nothing crosses the boundary untyped.
-/

namespace HandleBridge.Text

/-- Numeral of `n` in base sixteen. -/
def hex (n : Nat) : String :=
  String.ofList (Nat.toDigits 16 n)

end HandleBridge.Text

namespace HandleBridge

/-- Identifier of one native object or list. A handle is a plain value: copying it copies no object. -/
structure Handle where
  id : UInt64
  deriving DecidableEq

namespace Handle

def null : Handle := ⟨0⟩

def isNull (h : Handle) : Bool := h.id = 0

/-- The handle itself unless it is null. -/
def nonNull? (h : Handle) : Option Handle := if h.isNull then none else some h

/-- Hexadecimal text of the identifier. -/
def display (h : Handle) : String := "0x" ++ Text.hex h.id.toNat

/-- Text of the handle inside the description of a larger value. -/
def describe (h : Handle) : String :=
  if h.isNull then "NativeHandle(null)" else "NativeHandle(" ++ h.display ++ ")"

end Handle

/-- Whether the holder of a handle destroys the object once it is done with it. -/
inductive Ownership where
  /-- The holder is the single owner. -/
  | owned
  /-- The holder only looks at the object. -/
  | borrowed
  deriving DecidableEq

namespace Ownership

/-- Whether the holder is the owner. -/
def isOwned : Ownership → Bool
  | owned => true
  | borrowed => false

/-- Text of the ownership inside the description of a larger value. -/
def describe : Ownership → String
  | owned => "Owned"
  | borrowed => "Borrowed"

end Ownership

/-- Data type of a feature. -/
inductive Kind where
  | bool
  /-- 32-bit integers. -/
  | int
  /-- 64-bit integers. -/
  | long
  | double
  | string
  /-- Reference to one native object. -/
  | object
  /-- Native sequence of references. -/
  | list
  deriving DecidableEq

namespace Kind

def all : List Kind := [bool,int,long,double,string,object,list]

/-- Name of the kind in documents and messages. -/
def name : Kind → String
  | bool => "bool"
  | int => "int"
  | long => "long"
  | double => "double"
  | string => "string"
  | object => "object"
  | list => "list"

def ofName? (name : String) : Option Kind := all.find? (·.name = name)

/-- Whether values of the kind are handles. -/
def holdsHandle : Kind → Bool
  | object | list => true
  | _ => false

end Kind

/-- A value that a feature holds. Doubles are equal when their bits are. -/
inductive Value where
  /-- No value; a single reference that points nowhere. -/
  | null
  | bool (b : Bool)
  | int (n : Int32)
  | long (n : Int64)
  | double (x : Double)
  | string (text : String)
  | object (handle : Handle)
  | list (handle : Handle)
  deriving DecidableEq

namespace Value

/-- Kind of the value; null has none. -/
def kind? : Value → Option Kind
  | null => none
  | bool _ => some .bool
  | int _ => some .int
  | long _ => some .long
  | double _ => some .double
  | string _ => some .string
  | object _ => some .object
  | list _ => some .list

/-- Name of the value's type in messages. -/
def typeName (v : Value) : String := (v.kind?.map Kind.name).getD "null"

/-- Whether a feature of the kind may hold the value. Null fits single references only. -/
def fits (v : Value) (kind : Kind) : Bool :=
  match v.kind? with
  | some own => own = kind
  | none => kind = .object

/-- Value of a feature of the kind that was never set. -/
def default : Kind → Value
  | .bool => bool false
  | .int => int 0
  | .long => long 0
  | .double => double .zero
  | .string => string ""
  | .object | .list => null

def isNull : Value → Bool
  | null => true
  | _ => false

def handle? : Value → Option Handle
  | object h | list h => some h
  | _ => none

def text? : Value → Option String
  | string text => some text
  | _ => none

/-- Equality with doubles compared as numbers: a NaN equals nothing and the zeros equal each other. -/
def numericEq : Value → Value → Bool
  | double x, double y => x.numericEq y
  | v, w => v = w

/-- Text of the value. Strings are quoted, doubles are positional. -/
def display : Value → String
  | null => "null"
  | bool b => if b then "true" else "false"
  | int n => toString n.toInt
  | long n => toString n.toInt
  | double x => x.display
  | string text => Text.quoted text
  | object h => "object@" ++ h.display
  | list h => "list@" ++ h.display

end Value

end HandleBridge
