import HandleBridge.Toml.Document

/-!
Configuration of a bridge: which checks proxies make before they call, and how the in-memory heap allocates. Written
as a document it has every setting but an absent limit; a document may have settings in any order, absent ones get their
defaults, and unknown ones are refused.
-/

namespace HandleBridge

/-- Checks on the side of the proxies. Checks of feature identifiers and of null handles are always made. -/
structure Validation where
  /-- Refuse values whose kind is not that of the feature. -/
  valueKinds : Bool := true
  /-- Refuse list elements whose class is not that of the list. -/
  elementClasses : Bool := true
  deriving DecidableEq

structure HeapSettings where
  /-- Most objects, lists included, that may be alive at once. -/
  maxObjects : Option UInt64 := none
  /-- Give freed slots to new objects. -/
  reuseSlots : Bool := true
  deriving DecidableEq

structure Config where
  /-- Report every boundary call before it is made. -/
  traceCalls : Bool := false
  validation : Validation := {}
  heap : HeapSettings := {}
  deriving DecidableEq

namespace Config

/-- Refuses settings under which nothing can be created. -/
def validate (c : Config) : Except ConfigFault Unit :=
  if c.heap.maxObjects = some 0 then .error .zeroCapacity else .ok ()

def flag (b : Bool) : String := if b then "true" else "false"

def describe (c : Config) : String :=
  let limit := match c.heap.maxObjects with
    | some limit => s!"Some({limit.toNat})"
    | none => "None"
  s!"BridgeConfig \x7b trace_calls: {flag c.traceCalls}, "
    ++ s!"validation: ValidationConfig \x7b value_kinds: {flag c.validation.valueKinds}, "
    ++ s!"element_classes: {flag c.validation.elementClasses} \x7d, "
    ++ s!"heap: HeapConfig \x7b max_objects: {limit}, reuse_slots: {flag c.heap.reuseSlots} \x7d \x7d"

end Config

def Validation.ofToml? (v : Toml.Value) : Option Validation := do
  let fields ← v.fields? ["value_kinds","element_classes"] true
  return {
    valueKinds := ← fields.withDefault "value_kinds" true Toml.Value.boolean?
    elementClasses := ← fields.withDefault "element_classes" true Toml.Value.boolean? }

def HeapSettings.ofToml? (v : Toml.Value) : Option HeapSettings := do
  let fields ← v.fields? ["max_objects","reuse_slots"] true
  return {
    maxObjects := ← fields.optional "max_objects" Toml.Value.natural?
    reuseSlots := ← fields.withDefault "reuse_slots" true Toml.Value.boolean? }

namespace Config

def ofToml? (v : Toml.Value) : Option Config := do
  let fields ← v.fields? ["trace_calls","validation","heap"] true
  return {
    traceCalls := ← fields.withDefault "trace_calls" false Toml.Value.boolean?
    validation := ← fields.withDefault "validation" {} Validation.ofToml?
    heap := ← fields.withDefault "heap" {} HeapSettings.ofToml? }

/-- Reads a configuration and checks it. -/
def read (text : String) : Except ConfigFault Config := do
  match Toml.document? text >>= ofToml? with
  | none => throw .unreadable
  | some c =>
    c.validate
    return c

/-- Configuration of the document that a source holds. -/
def load (source : Source) : Except Error Config := do
  read (← source.read.mapError .file) |>.mapError .config

/-- Greatest limit that a document can hold. -/
def greatestLimit : UInt64 := 0x7FFFFFFFFFFFFFFF

def render (c : Config) : String :=
  let limit := match c.heap.maxObjects with
    | some limit => s!"max_objects = {limit.toNat}\n"
    | none => ""
  s!"trace_calls = {flag c.traceCalls}\n"
    ++ s!"\n[validation]\nvalue_kinds = {flag c.validation.valueKinds}\n"
    ++ s!"element_classes = {flag c.validation.elementClasses}\n"
    ++ s!"\n[heap]\n{limit}reuse_slots = {flag c.heap.reuseSlots}\n"

/-- Writes a configuration; a limit that does not fit into a signed word cannot be written. -/
def write (c : Config) : Except ConfigFault String :=
  if c.heap.maxObjects.any (greatestLimit < ·) then .error .unreadable else .ok c.render

end Config

end HandleBridge
