import HandleBridge.Schema.Package

/-!
Class definitions and the package they make. A definition lists only the features of its own; building the
package checks all definitions and resolves inheritance.
-/

namespace HandleBridge

structure FeatureDef where
  name : String
  kind : FeatureKind
  /-- Default that is not the usual one of the kind. -/
  default : Option Value := none
  deriving DecidableEq

structure ClassDef where
  name : String
  /-- Name of the class that this one extends. -/
  parent : Option String := none
  isAbstract : Bool := false
  /-- Features that the class adds to the inherited ones. -/
  features : List FeatureDef := []
  deriving DecidableEq

namespace ClassDef

/-- Checks a definition against the names of all classes: its parent and its targets are defined, only
references hold handles, and defaults have the kind of their feature. -/
def check (d : ClassDef) (names : List String) : Except SchemaFault Unit := do
  if let some parent := d.parent then
    unless names.contains parent do throw (.unknownParent d.name parent)
  d.features.forM checkFeature
where
  /-- Checks one feature of the definition. -/
  checkFeature (f : FeatureDef) : Except SchemaFault Unit := do
    match f.kind with
    | .reference target _ =>
      unless names.contains target do throw (.unknownTarget d.name f.name target)
    | .data kind =>
      if kind.holdsHandle then throw (.handleAttribute d.name f.name kind)
    if let some value := f.default then
      unless value.fits f.kind.valueKind do
        throw (.unfitDefault d.name f.name value.typeName f.kind.valueKind)

/-- Follows parents from the definition at `current`, at most `fuel` of them, and lists their places. Meeting the
starting class or a place listed before is a cycle. Places have no bound, while class identifiers have 32 bits; the two
agree for up to 2 ^ 32 definitions. -/
def chain (defs : List ClassDef) (start : Nat) :
    (fuel : Nat) → (current : ClassDef) → (seen : List Nat) → Except SchemaFault (List Nat)
  | 0, _, _ => .error (.inheritanceCycle (nameAt defs start))
  | fuel + 1, current, seen =>
    match current.parent with
    | none => .ok seen
    | some parent =>
      match defs.findIdx? (·.name = parent) with
      | none => .ok seen
      | some place =>
        if place = start ∨ seen.contains place then .error (.inheritanceCycle (nameAt defs start))
        else chain defs start fuel (defs[place]?.getD current) (seen ++ [place])
where
  /-- Name of the definition at a place. -/
  nameAt (defs : List ClassDef) (place : Nat) : String := (defs[place]?.map ClassDef.name).getD ""

/-- Places of the classes that the definition at `start` derives from, the nearest first. A chain without a cycle
is shorter than the list of definitions. -/
def ancestors (defs : List ClassDef) (start : Nat) (d : ClassDef) : Except SchemaFault (List Nat) :=
  chain defs start (defs.length + 1) d []

/-- Feature table from the definitions of its rows, in order. A name may occur once. -/
def featureTable (cls : String) (rows : List FeatureDef) : Except SchemaFault (List Feature) :=
  rows.foldlM addRow []
where
  /-- Appends one row, whose identifier is its place. -/
  addRow (table : List Feature) (row : FeatureDef) : Except SchemaFault (List Feature) :=
    if table.any (·.name = row.name) then .error (.duplicateFeature row.name cls)
    else
      let default := row.default.getD (Value.default row.kind.valueKind)
      .ok (table ++ [⟨⟨UInt32.ofNat table.length⟩,row.name,row.kind,default⟩])

/-- Class type of the definition at `place`: inherited features come first, those of the root class foremost. -/
def resolve (defs : List ClassDef) (place : Nat) (d : ClassDef) : Except SchemaFault ClassType := do
  let above ← ancestors defs place d
  let inherited := above.reverse.flatMap fun place => (defs[place]?.map ClassDef.features).getD []
  let features ← featureTable d.name (inherited ++ d.features)
  return {
    id := ⟨UInt32.ofNat place⟩
    name := d.name
    ancestors := above.map fun place => ⟨UInt32.ofNat place⟩
    isAbstract := d.isAbstract
    features }

end ClassDef

namespace Package

/-- Refuses the first definition whose class is defined before it. -/
def checkDistinct (package : String) : (before : List String) → List ClassDef → Except SchemaFault Unit
  | _, [] => .ok ()
  | before, d :: rest =>
    if before.contains d.name then .error (.duplicateClass d.name package)
    else checkDistinct package (before ++ [d.name]) rest

/-- Package of the defined classes; their identifiers follow the order of definition. -/
def build (name uri : String) (defs : List ClassDef) : Except SchemaFault Package := do
  checkDistinct name [] defs
  defs.forM (·.check (defs.map ClassDef.name))
  let classes ← defs.zipIdx.mapM fun (d,place) => ClassDef.resolve defs place d
  return ⟨name,uri,classes⟩

end Package

end HandleBridge
