import HandleBridge.Schema.Package

/-!
Views: under which name a proxy shows an object, and which class it asks of it. Typed views add named access to
features by fixed identifiers.

Boxing puts a value of the host program into a `Value`, unboxing takes it out again and refuses a value of another kind.
Typed and untyped access to a feature agree because both go through these two.
-/

namespace HandleBridge

/-- Types in which the host program asks for a feature's value. -/
inductive HostType where
  /-- The value as it is. -/
  | any
  | bool
  | int
  | long
  | double
  | string
  /-- A single reference, absent when it points nowhere. -/
  | reference
  deriving DecidableEq

namespace HostType

def all : List HostType := [any,bool,int,long,double,string,reference]

/-- The host program's values of the type. -/
abbrev Carrier : HostType → Type
  | any => Value
  | bool => Bool
  | int => Int32
  | long => Int64
  | double => Double
  | string => String
  | reference => Option Handle

/-- Boxes a value of the host program. A reference to nothing is null. -/
def box : (t : HostType) → t.Carrier → Value
  | any, v => v
  | bool, b => .bool b
  | int, n => .int n
  | long, n => .long n
  | double, x => .double x
  | string, text => .string text
  | reference, h =>
    match h.bind Handle.nonNull? with
    | some h => .object h
    | none => .null

/-- Unboxes a value, failing with a type mismatch on a value of another kind. -/
def unbox : (t : HostType) → Value → Except Error t.Carrier
  | any, v => .ok v
  | bool, .bool b => .ok b
  | bool, v => .error (.typeMismatch "bool" v.typeName)
  | int, .int n => .ok n
  | int, v => .error (.typeMismatch "int" v.typeName)
  | long, .long n => .ok n
  | long, v => .error (.typeMismatch "long" v.typeName)
  | double, .double x => .ok x
  | double, v => .error (.typeMismatch "double" v.typeName)
  | string, .string text => .ok text
  | string, v => .error (.typeMismatch "string" v.typeName)
  | reference, .null => .ok none
  | reference, .object h => .ok h.nonNull?
  | reference, v => .error (.typeMismatch "object" v.typeName)

end HostType

/-- Host type of the values of a kind. A list is handed over as it is. -/
def Kind.hostType : Kind → HostType
  | .bool => .bool
  | .int => .int
  | .long => .long
  | .double => .double
  | .string => .string
  | .object => .reference
  | .list => .any

/-- What a proxy takes an object for. -/
structure View where
  /-- Name of the view in descriptions. -/
  label : String
  /-- Class that the object has to have or to derive from; without one every object will do. -/
  required : Option String
  deriving DecidableEq

/-- The view of any object by feature identifiers. -/
def View.reflective : View := ⟨"ReflectiveObject",none⟩

/-- Named access to one attribute. -/
structure Accessor where
  name : String
  feature : FeatureId
  type : HostType
  deriving DecidableEq

/-- Named access to one many-valued reference. -/
structure SequenceAccessor where
  name : String
  feature : FeatureId
  /-- View of the elements. -/
  element : View
  deriving DecidableEq

/-- A view with named access. -/
structure TypedView extends View where
  accessors : List Accessor
  sequences : List SequenceAccessor
  deriving DecidableEq

namespace TypedView

/-- The reflective view, which names no feature. -/
def reflective : TypedView := ⟨.reflective,[],[]⟩

def accessor? (v : TypedView) (name : String) : Option Accessor := v.accessors.find? (·.name = name)

def sequence? (v : TypedView) (name : String) : Option SequenceAccessor := v.sequences.find? (·.name = name)

/-- Feature identifiers that the view relies on, in order of declaration. -/
def features (v : TypedView) : List FeatureId :=
  v.accessors.map Accessor.feature ++ v.sequences.map SequenceAccessor.feature

end TypedView

end HandleBridge
