import HandleBridge.Schema.Definition
import HandleBridge.Toml.Document

/-!
Packages as documents. Reading has two steps: the document is taken for class and feature tables as a whole, and
then each table becomes a definition, with the defaults of attributes converted to their kinds.
-/

namespace HandleBridge

/-- Table of one feature. -/
structure FeatureDoc where
  name : String
  kind : Option Kind := none
  /-- Class that the feature refers to. -/
  reference : Option String := none
  many : Bool := false
  default : Option Toml.Value := none

/-- Table of one class. -/
structure ClassDoc where
  name : String
  parent : Option String := none
  isAbstract : Bool := false
  features : List FeatureDoc := []

/-- A document of a package. -/
structure PackageDoc where
  name : String
  uri : String := ""
  classes : List ClassDoc := []

def FeatureDoc.ofToml? (v : Toml.Value) : Option FeatureDoc := do
  let fields ← v.fields? ["name","type","reference","many","default"] true
  return {
    name := ← fields.required "name" Toml.Value.string?
    kind := ← fields.optional "type" fun v => v.choice? >>= Kind.ofName?
    reference := ← fields.optional "reference" Toml.Value.string?
    many := ← fields.withDefault "many" false Toml.Value.boolean?
    default := ← fields.optional "default" Toml.Value.data? }

/-- Takes a value for a class table. Entries of other names are ignored. -/
def ClassDoc.ofToml? (v : Toml.Value) : Option ClassDoc := do
  let fields ← v.fields? ["name","extends","abstract","features"] false
  return {
    name := ← fields.required "name" Toml.Value.string?
    parent := ← fields.optional "extends" Toml.Value.string?
    isAbstract := ← fields.withDefault "abstract" false Toml.Value.boolean?
    features := ← fields.withDefault "features" [] fun v => v.items? >>= List.mapM FeatureDoc.ofToml? }

/-- Takes a value for the document of a package. Entries of other names are ignored. -/
def PackageDoc.ofToml? (v : Toml.Value) : Option PackageDoc := do
  let fields ← v.fields? ["name","ns_uri","class"] false
  return {
    name := ← fields.required "name" Toml.Value.string?
    uri := ← fields.withDefault "ns_uri" "" Toml.Value.string?
    classes := ← fields.withDefault "class" [] fun v => v.items? >>= List.mapM ClassDoc.ofToml? }

/-- Value of a kind that a document's value stands for. Integers also stand for doubles. -/
def Kind.convert? : Kind → Toml.Value → Option Value
  | .bool, .boolean b => some (.bool b)
  | .int, .integer n => if n.toInt32.toInt64 = n then some (.int n.toInt32) else none
  | .long, .integer n => some (.long n)
  | .double, .float x => some (.double x)
  | .double, .integer n => some (.double (Decimal.ofInt n.toInt))
  | .string, .string text => some (.string text)
  | _, _ => none

namespace FeatureDoc

/-- Definition of an attribute with the default of its table. -/
def toAttribute (cls : String) (f : FeatureDoc) (kind : Kind) : Except SchemaFault FeatureDef :=
  match f.default with
  | none => .ok ⟨f.name,.data kind,none⟩
  | some raw =>
    match kind.convert? raw with
    | some v => .ok ⟨f.name,.data kind,some v⟩
    | none => .error (.invalidDefault cls f.name kind)

/-- Definition that a feature table stands for. A table is for an attribute or for a reference, and only references
can be many. The default of a reference has no effect. -/
def toDef (cls : String) (f : FeatureDoc) : Except SchemaFault FeatureDef :=
  if f.many ∧ f.reference.isNone then .error (.manyWithoutReference cls f.name)
  else match f.kind, f.reference with
    | some kind, none => f.toAttribute cls kind
    | none, some target => .ok ⟨f.name,.reference target f.many,none⟩
    | _, _ => .error (.typeOrReference cls f.name)

end FeatureDoc

/-- Definition that a class table stands for. -/
def ClassDoc.toDef (c : ClassDoc) : Except SchemaFault ClassDef := do
  return { name := c.name, parent := c.parent, isAbstract := c.isAbstract
           features := ← c.features.mapM (FeatureDoc.toDef c.name) }

/-- Package that a document stands for. -/
def PackageDoc.toPackage (d : PackageDoc) : Except SchemaFault Package := do
  Package.build d.name d.uri (← d.classes.mapM ClassDoc.toDef)

/-- Reads the package of a document. -/
def Package.read (text : String) : Except SchemaFault Package :=
  match Toml.document? text >>= PackageDoc.ofToml? with
  | none => .error .unreadable
  | some d => d.toPackage

/-- Package of the document that a source holds. -/
def Package.load (source : Source) : Except Error Package := do
  Package.read (← source.read.mapError .file) |>.mapError .schema

end HandleBridge
