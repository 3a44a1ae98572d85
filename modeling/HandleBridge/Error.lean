import HandleBridge.Value

/-!
The causes of failure, their wording, and the few questions that callers ask of a failure.
-/

namespace HandleBridge

/-- What is wrong with a class schema. -/
inductive SchemaFault where
  | duplicateClass (cls package : String)
  | unknownParent (cls parent : String)
  | unknownTarget (cls feature target : String)
  /-- An attribute whose kind holds handles, which only references may. -/
  | handleAttribute (cls feature : String) (kind : Kind)
  /-- A default whose type is not the kind of its feature. -/
  | unfitDefault (cls feature got : String) (kind : Kind)
  | inheritanceCycle (cls : String)
  | duplicateFeature (feature cls : String)
  | manyWithoutReference (cls feature : String)
  /-- A feature of a document with both a kind and a target, or with neither. -/
  | typeOrReference (cls feature : String)
  /-- A default of a document that has no value of the kind. -/
  | invalidDefault (cls feature : String) (kind : Kind)
  /-- A document that does not decode. The reader's own wording is not part of any answer. -/
  | unreadable
  | other (text : String)
  deriving DecidableEq

def SchemaFault.message : SchemaFault → String
  | duplicateClass cls package => s!"duplicate class '{cls}' in package '{package}'"
  | unknownParent cls parent => s!"class '{cls}' extends unknown class '{parent}'"
  | unknownTarget cls feature target => s!"feature '{cls}.{feature}' references unknown class '{target}'"
  | handleAttribute cls feature kind =>
    s!"attribute '{cls}.{feature}' has type {kind.name}; declare it as a reference"
  | unfitDefault cls feature got kind => s!"default of '{cls}.{feature}' is {got}, expected {kind.name}"
  | inheritanceCycle cls => s!"inheritance cycle through class '{cls}'"
  | duplicateFeature feature cls => s!"duplicate feature '{feature}' in class '{cls}'"
  | manyWithoutReference cls feature => s!"feature '{cls}.{feature}' sets `many` without a `reference`"
  | typeOrReference cls feature => s!"feature '{cls}.{feature}' needs exactly one of `type` or `reference`"
  | invalidDefault cls feature kind => s!"default of '{cls}.{feature}' is not a valid {kind.name}"
  | unreadable => "<toml>"
  | other text => text

/-- What is wrong with a configuration. -/
inductive ConfigFault where
  /-- A heap that may hold no object at all. -/
  | zeroCapacity
  /-- A document that does not decode, or a setting that no document can hold. The wording of the document
  layer is not part of any answer. -/
  | unreadable
  | other (text : String)
  deriving DecidableEq

def ConfigFault.message : ConfigFault → String
  | zeroCapacity => "heap.max_objects must be at least 1"
  | unreadable => "<toml>"
  | other text => text

/-- Why a file could not be read as text. -/
inductive FileFault where
  /-- A path at which nothing stands. -/
  | missing
  | directory
  /-- A path that goes on after the name of a file. -/
  | notDirectory
  /-- A path that is too long, or a name in it. -/
  | nameTooLong
  | notText
  | other (text : String)
  deriving DecidableEq

def FileFault.message : FileFault → String
  | missing => "No such file or directory (os error 2)"
  | directory => "Is a directory (os error 21)"
  | notDirectory => "Not a directory (os error 20)"
  | nameTooLong => "File name too long (os error 36)"
  | notText => "stream did not contain valid UTF-8"
  | other text => text

/-- Why an operation on proxies or on the boundary failed. -/
inductive Error where
  /-- There is no object behind the handle. -/
  | nullHandle
  /-- The proxy gave its handle away. -/
  | released
  /-- The object behind the handle was destroyed. -/
  | staleHandle (handle : Handle)
  | indexOutOfRange (index length : UInt64)
  | featureOutOfRange (cls : String) (feature count : UInt32)
  | unknownFeature (cls feature : String)
  | unknownClass (name : String)
  | abstractClass (name : String)
  | typeMismatch (expected got : String)
  | classMismatch (expected got : String)
  /-- The handle refers to an object where a list was expected. -/
  | notAList (handle : Handle)
  | heapExhausted (limit : UInt64)
  /-- A failure in the native side's own terms. -/
  | native (code : Int32) (message : String)
  | schema (fault : SchemaFault)
  | config (fault : ConfigFault)
  | file (fault : FileFault)
  deriving DecidableEq

namespace Error

def message : Error → String
  | nullHandle => "Null handle"
  | released => "Proxy has been released"
  | staleHandle h => s!"Stale handle {h.display}: object was destroyed"
  | indexOutOfRange index length => s!"Index {index.toNat} out of range for sequence of length {length.toNat}"
  | featureOutOfRange cls feature count =>
    s!"Feature id {feature.toNat} out of range for class '{cls}' ({count.toNat} features)"
  | unknownFeature cls feature => s!"Feature '{feature}' not found in class '{cls}'"
  | unknownClass name => s!"Unknown class: {name}"
  | abstractClass name => s!"Class '{name}' is abstract"
  | typeMismatch expected got => s!"Type mismatch: expected {expected}, got {got}"
  | classMismatch expected got => s!"Class mismatch: expected {expected}, got {got}"
  | notAList h => s!"Handle {h.display} is not a list"
  | heapExhausted limit => s!"Native heap exhausted ({limit.toNat} objects)"
  | native code message => s!"Native call failed ({code.toInt}): {message}"
  | schema fault => s!"Invalid schema: {fault.message}"
  | config fault => s!"Invalid configuration: {fault.message}"
  | file fault => s!"I/O error: {fault.message}"

/-- Whether the wording of the error ends where that of the document layer would stand. -/
def endsOpen : Error → Bool
  | schema .unreadable | config .unreadable => true
  | _ => false

/-- Whether the error comes from a handle whose object is gone. -/
def isDangling : Error → Bool
  | staleHandle _ | released => true
  | _ => false

end Error

end HandleBridge
